/-
# Two runs side by side

Some observer sees only a part of the state.  Two programs are related if, from
states that look alike to the observer, they send statements that leave states
alike and go on related, until they answer alike.  A server whose jobs are related
one by one stays alike whatever is scheduled: what the observer sees does not tell
which of the two is running.
-/

import Mathlib.Data.List.Forall2
import Voxply.Math.Schedule

namespace Voxply.Math

universe u v w x y

/-! ## Programs -/

namespace Prog

variable {S : Type u} {E : Type v} {A B C D : Type w} {R : S → S → Prop} {V : A → B → Prop}
  {W : C → D → Prop}

/-- In alike states the programs do alike and go on related. -/
def Related (R : S → S → Prop) (V : A → B → Prop) : Prog S E A → Prog S E B → Prop
  | .ret a, .ret b => V a b
  | .fail e, .fail e' => e = e'
  | .step act next, .step act' next' =>
      ∀ s s', R s s' → R (act s) (act' s') ∧ (next s).Related R V (next' s')
  | _, _ => False

/-- The rule for sequencing. -/
theorem Related.bind {p : Prog S E A} {q : Prog S E B} {f : A → Prog S E C} {g : B → Prog S E D}
    (h : p.Related R V q) (hfg : ∀ a b, V a b → (f a).Related R W (g b)) :
    (p >>= f).Related R W (q >>= g) := by
  change (p.bind f).Related R W (q.bind g)
  induction p generalizing q with
  | ret a =>
      cases q with
      | ret b => exact hfg a b h
      | fail e => exact h.elim
      | step act next => exact h.elim
  | fail e =>
      cases q with
      | ret b => exact h.elim
      | fail e' => exact h
      | step act next => exact h.elim
  | step act next ih =>
      cases q with
      | ret b => exact h.elim
      | fail e => exact h.elim
      | step act' next' =>
          intro s s' hs
          exact ⟨(h s s' hs).1, ih s (h s s' hs).2⟩

theorem related_query {f : S → A} {g : S → B} (h : ∀ s s', R s s' → V (f s) (g s')) :
    Related R V (query f : Prog S E A) (query g) :=
  fun s s' hs => ⟨hs, h s s' hs⟩

theorem related_exec {f g : S → S} (h : ∀ s s', R s s' → R (f s) (g s')) :
    Related R (fun _ _ => True) (exec f : Prog S E PUnit) (exec g) :=
  fun s s' hs => ⟨h s s' hs, trivial⟩

/-- A write that both stores accept or both refuse for the same reason. -/
theorem related_attempt {f g : S → Except E S}
    (h : ∀ s s', R s s' → (∃ t t', f s = .ok t ∧ g s' = .ok t' ∧ R t t') ∨
      ∃ e, f s = .error e ∧ g s' = .error e) :
    Related R (fun _ _ => True) (attempt f) (attempt g) := by
  intro s s' hs
  rcases h s s' hs with ⟨t, t', hf, hg, ht⟩ | ⟨e, hf, hg⟩
  · simp only [hf, hg]
    exact ⟨ht, trivial⟩
  · simp only [hf, hg]
    exact ⟨hs, rfl⟩

theorem related_when {c : Prop} [Decidable c] {p q : Prog S E PUnit}
    (h : c → p.Related R (fun _ _ => True) q) :
    (when c p).Related R (fun _ _ => True) (when c q) := by
  unfold when
  split_ifs with hc
  · exact h hc
  · trivial

theorem related_each {K : Type w} {ks : List K} {f g : K → Prog S E PUnit}
    (h : ∀ k, (f k).Related R (fun _ _ => True) (g k)) :
    (each ks f).Related R (fun _ _ => True) (each ks g) := by
  induction ks with
  | nil => trivial
  | cons k rest ih => exact (h k).bind fun _ _ _ => ih

theorem Related.recover {p : Prog S E A} {q : Prog S E B} {f : E → Prog S E A} {g : E → Prog S E B}
    (h : p.Related R V q) (hfg : ∀ e, (f e).Related R V (g e)) :
    (p.recover f).Related R V (q.recover g) := by
  induction p generalizing q with
  | ret a =>
      cases q with
      | ret b => exact h
      | fail e => exact h.elim
      | step act next => exact h.elim
  | fail e =>
      cases q with
      | ret b => exact h.elim
      | fail e' =>
          cases h
          exact hfg e
      | step act next => exact h.elim
  | step act next ih =>
      cases q with
      | ret b => exact h.elim
      | fail e => exact h.elim
      | step act' next' =>
          intro s s' hs
          exact ⟨(h s s' hs).1, ih s (h s s' hs).2⟩

end Prog

/-! ## Servers -/

namespace Server

variable {Q : Type x} {S : Type u} {E : Type v} {A : Type w} {R : S → S → Prop}
  {V : A → A → Prop} {handler : Q → Prog S E A} {server server' : Server Q S E A}

/-- The states look alike, and so do the jobs. -/
structure Alike (R : S → S → Prop) (V : A → A → Prop) (server server' : Server Q S E A) : Prop where
  state : R server.state server'.state
  jobs : List.Forall₂ (fun job job' => job.2.Related R V job'.2) server.jobs server'.jobs

theorem alike_idle {s s' : S} (h : R s s') : Alike R V (idle s : Server Q S E A) (idle s') :=
  ⟨h, .nil⟩

theorem Alike.start (h : Alike R V server server') {request request' : Q}
    (hrequest : (handler request).Related R V (handler request')) :
    Alike R V (step handler (.start request) server) (step handler (.start request') server') :=
  ⟨h.state, List.rel_append h.jobs (.cons hrequest .nil)⟩

/-- The jobs under one index. -/
theorem Alike.job_cases (h : Alike R V server server') (job : ℕ) :
    (server.jobs[job]? = none ∧ server'.jobs[job]? = none) ∨
      ∃ request p request' q, server.jobs[job]? = some (request, p) ∧
        server'.jobs[job]? = some (request', q) ∧ p.Related R V q := by
  have hlength := h.jobs.length_eq
  by_cases hjob : job < server.jobs.length
  · have hjob' : job < server'.jobs.length := hlength ▸ hjob
    refine .inr ⟨_, _, _, _, List.getElem?_eq_getElem hjob, List.getElem?_eq_getElem hjob', ?_⟩
    exact List.forall₂_iff_get.mp h.jobs |>.2 job hjob hjob'
  · exact .inl ⟨List.getElem?_eq_none (by omega), List.getElem?_eq_none (by omega)⟩

/-- Replacing related jobs by related ones. -/
theorem forall₂_set {K L : Type*} {T : K → L → Prop} {ks : List K} {ls : List L}
    (h : List.Forall₂ T ks ls) (i : ℕ) {k : K} {l : L} (hkl : T k l) :
    List.Forall₂ T (ks.set i k) (ls.set i l) := by
  induction h generalizing i with
  | nil => exact .nil
  | cons hhead htail ih =>
      cases i with
      | zero => exact .cons hkl htail
      | succ i => exact .cons hhead (ih i)

theorem Alike.exec (h : Alike R V server server') (job : ℕ) :
    Alike R V (step handler (.exec job) server) (step handler (.exec job) server') := by
  rcases h.job_cases job with ⟨hnone, hnone'⟩ | ⟨request, p, request', q, hjob, hjob', hrelated⟩
  · simp only [step, hnone, hnone']
    exact h
  · cases p with
    | ret a =>
        cases q with
        | ret b =>
            simp only [step, hjob, hjob']
            exact h
        | fail e => exact hrelated.elim
        | step act next => exact hrelated.elim
    | fail e =>
        cases q with
        | ret b => exact hrelated.elim
        | fail e' =>
            simp only [step, hjob, hjob']
            exact h
        | step act next => exact hrelated.elim
    | step act next =>
        cases q with
        | ret b => exact hrelated.elim
        | fail e => exact hrelated.elim
        | step act' next' =>
            simp only [step, hjob, hjob']
            have hboth := hrelated server.state server'.state h.state
            exact ⟨hboth.1, forall₂_set h.jobs job hboth.2⟩

theorem Alike.withState (h : Alike R V server server') {s s' : S} (hs : R s s') :
    Alike R V { server with state := s } { server' with state := s' } :=
  ⟨hs, h.jobs⟩

end Server

end Voxply.Math
