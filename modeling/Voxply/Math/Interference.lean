/-
# What others ask goes unnoticed

Two runs follow the same schedule, but some requests of the second are not those of the
first.  If the statements of such requests never touch what the remaining ones look at,
nobody who has made one of the remaining ones can tell the runs apart.

A relation between states says which are not told apart.  The remaining requests are
served by programs that are related to themselves over it.  The others are served by
silent programs: whatever the other run does meanwhile, their statements stay within the
relation.  The relation may leave states out, so that a program need only be silent where
its own checks stop it.
-/

import Voxply.Math.Related

namespace Voxply.Math

universe u v w x

/-! ## Programs -/

namespace Prog

variable {S : Type u} {E : Type v} {A B : Type w} {R : S → S → Prop} {post : A → Prop}

theorem related_ofExcept (r : Except E A) :
    (ofExcept r : Prog S E A).Related R Eq (ofExcept r) := by
  cases r <;> rfl

theorem related_ensure (c : Prop) [Decidable c] (e : E) :
    (ensure c e : Prog S E PUnit).Related R Eq (ensure c e) := by
  unfold ensure
  split_ifs <;> rfl

theorem related_when_eq {c : Prop} [Decidable c] {p q : Prog S E PUnit}
    (h : c → p.Related R Eq q) : (when c p).Related R Eq (when c q) := by
  unfold when
  split_ifs with hc
  · exact h hc
  · rfl

theorem related_exec_eq {f : S → S} (h : ∀ s t, R s t → R (f s) (f t)) :
    (exec f : Prog S E PUnit).Related R Eq (exec f) :=
  fun s t hst => ⟨h s t hst, rfl⟩

/-- Sequencing programs that return the same. -/
theorem Related.bind_eq {p q : Prog S E A} {f g : A → Prog S E B} (h : p.Related R Eq q)
    (hfg : ∀ a, (f a).Related R Eq (g a)) : (p >>= f).Related R Eq (q >>= g) :=
  h.bind fun a _ hab => hab ▸ hfg a

theorem Related.answer?_eq {p q : Prog S E A} (h : p.Related R Eq q) : p.answer? = q.answer? := by
  cases p with
  | ret a =>
      cases q with
      | ret b => exact congrArg (fun a => some (Except.ok a)) h
      | fail e => exact h.elim
      | step act next => exact h.elim
  | fail e =>
      cases q with
      | ret b => exact h.elim
      | fail e' => exact congrArg (fun e => some (Except.error e)) h
      | step act next => exact h.elim
  | step act next =>
      cases q with
      | ret b => exact h.elim
      | fail e => exact h.elim
      | step act' next' => rfl

/-- No statement of the program leads out of the relation, wherever the other run is; a
returned value satisfies `post`. -/
def Silent (R : S → S → Prop) (post : A → Prop) : Prog S E A → Prop
  | .ret a => post a
  | .fail _ => True
  | .step act next => ∀ s t, R s t → R (act s) t ∧ (next s).Silent R post

/-- Sequencing after a silent part: what it establishes is known to the rest. -/
theorem Silent.bind {p : Prog S E A} {f : A → Prog S E B} {post' : B → Prop}
    (h : p.Silent R post) (hf : ∀ a, post a → (f a).Silent R post') :
    (p >>= f).Silent R post' := by
  change (p.bind f).Silent R post'
  induction p with
  | ret a => exact hf a h
  | fail e => trivial
  | step act next ih =>
      intro s t hst
      exact ⟨(h s t hst).1, ih s (h s t hst).2⟩

/-- What follows a part that never returns does not matter. -/
theorem Silent.bind_false {p : Prog S E A} {f : A → Prog S E B} {post' : B → Prop}
    (h : p.Silent R fun _ => False) : (p >>= f).Silent R post' :=
  h.bind fun _ hfalse => hfalse.elim

/-- Whatever is made of the returned value. -/
theorem Silent.map {p : Prog S E A} (h : p.Silent R fun _ => True) (g : A → B) :
    (p >>= fun a => pure (g a)).Silent R fun _ => True :=
  h.bind fun _ _ => trivial

/-- A query of which nothing needs to be known. -/
theorem silent_query_bind {f : S → A} {g : A → Prog S E B} {post' : B → Prop}
    (h : ∀ a, (g a).Silent R post') : (query f >>= g).Silent R post' :=
  fun s _ hst => ⟨hst, h (f s)⟩

theorem silent_query {f : S → A} (h : ∀ s t, R s t → post (f s)) :
    (query f : Prog S E A).Silent R post :=
  fun s t hst => ⟨hst, h s t hst⟩

theorem silent_exec {f : S → S} {post : PUnit → Prop} (h : ∀ s t, R s t → R (f s) t)
    (hpost : post ⟨⟩) : (exec f : Prog S E PUnit).Silent R post :=
  fun s t hst => ⟨h s t hst, hpost⟩

theorem silent_ofExcept {r : Except E A} (h : ∀ a, r = .ok a → post a) :
    (ofExcept r : Prog S E A).Silent R post := by
  cases r with
  | ok a => exact h a rfl
  | error e => trivial

theorem silent_ensure {c : Prop} [Decidable c] {e : E} {post : PUnit → Prop} (h : c → post ⟨⟩) :
    (ensure c e : Prog S E PUnit).Silent R post := by
  unfold ensure
  split_ifs with hc
  · exact h hc
  · trivial

theorem silent_when {c : Prop} [Decidable c] {p : Prog S E PUnit} {post : PUnit → Prop}
    (hp : c → p.Silent R post) (hskip : ¬ c → post ⟨⟩) : (when c p).Silent R post := by
  unfold when
  split_ifs with hc
  · exact hp hc
  · exact hskip hc

end Prog

/-! ## Two runs -/

/-- The moves are the same but for what is asked by the requests that are not seen. -/
inductive Move.Alike {Q : Type x} (seen : Q → Prop) : Move Q → Move Q → Prop
  | exec (job : ℕ) : Alike seen (.exec job) (.exec job)
  | start (request : Q) : Alike seen (.start request) (.start request)
  | other {request request' : Q} (h : ¬ seen request) (h' : ¬ seen request') :
      Alike seen (.start request) (.start request')

section Runs

variable {Q : Type x} {S : Type u} {E : Type v} {A : Type w}

/-- Two jobs that are served alike, or two that are not seen. -/
inductive JobsAlike (R : S → S → Prop) (seen : Q → Prop) : Q × Prog S E A → Q × Prog S E A → Prop
  | seen {request : Q} {p q : Prog S E A} (hseen : seen request) (h : p.Related R Eq q) :
      JobsAlike R seen (request, p) (request, q)
  | other {request request' : Q} {p q : Prog S E A} (hnot : ¬ seen request)
      (hnot' : ¬ seen request') (hp : p.Silent R fun _ => True) (hq : q.Silent R fun _ => True) :
      JobsAlike R seen (request, p) (request', q)

/-- The states are not told apart, and the jobs are served alike where they are seen. -/
structure Server.Unnoticed (R : S → S → Prop) (seen : Q → Prop) (server server' : Server Q S E A) :
    Prop where
  state : R server.state server'.state
  jobs : List.Forall₂ (JobsAlike R seen) server.jobs server'.jobs

variable {R : S → S → Prop} {seen : Q → Prop} {handler : Q → Prog S E A}

/-- Under every index there are two jobs that correspond, or none. -/
theorem forall₂_getElem? {K L : Type*} {T : K → L → Prop} {ks : List K} {ls : List L}
    (h : List.Forall₂ T ks ls) (i : ℕ) : Option.Rel T ks[i]? ls[i]? := by
  induction h generalizing i with
  | nil => exact .none
  | cons hhead htail ih =>
      cases i with
      | zero => exact .some hhead
      | succ i => exact ih i

/-- A job that is not seen makes a move. -/
theorem silent_exec_step {server : Server Q S E A} {job : ℕ} {request : Q} {p : Prog S E A}
    (hentry : server.jobs[job]? = some (request, p)) (hp : p.Silent R fun _ => True) {t : S}
    (ht : R server.state t) :
    R (server.step handler (.exec job)).state t ∧ ∃ q : Prog S E A, q.Silent R (fun _ => True) ∧
      (server.step handler (.exec job)).jobs = server.jobs.set job (request, q) := by
  have hself : server.jobs = server.jobs.set job (request, p) := by
    obtain ⟨hjob, heq⟩ := List.getElem?_eq_some_iff.mp hentry
    rw [← heq, List.set_getElem_self]
  cases p with
  | ret a =>
      simp only [Server.step, hentry]
      exact ⟨ht, _, hp, hself⟩
  | fail e =>
      simp only [Server.step, hentry]
      exact ⟨ht, _, hp, hself⟩
  | step act next =>
      simp only [Server.step, hentry]
      exact ⟨(hp _ _ ht).1, _, (hp _ _ ht).2, rfl⟩

namespace Server.Unnoticed

variable {server server' : Server Q S E A}

/-- Two jobs that are served alike make a move. -/
theorem exec_seen (h : server.Unnoticed R seen server') {job : ℕ} {request : Q}
    {p q : Prog S E A} (hseen : seen request) (hrelated : p.Related R Eq q)
    (hjob : server.jobs[job]? = some (request, p))
    (hjob' : server'.jobs[job]? = some (request, q)) :
    (server.step handler (.exec job)).Unnoticed R seen (server'.step handler (.exec job)) := by
  cases p with
  | ret a =>
      cases q with
      | ret b =>
          simp only [Server.step, hjob, hjob']
          exact h
      | fail e => exact hrelated.elim
      | step act next => exact hrelated.elim
  | fail e =>
      cases q with
      | ret b => exact hrelated.elim
      | fail e' =>
          simp only [Server.step, hjob, hjob']
          exact h
      | step act next => exact hrelated.elim
  | step act next =>
      cases q with
      | ret b => exact hrelated.elim
      | fail e => exact hrelated.elim
      | step act' next' =>
          have hnext := hrelated _ _ h.state
          simp only [Server.step, hjob, hjob']
          exact ⟨hnext.1, forall₂_set h.jobs job (.seen hseen hnext.2)⟩

/-- Both runs make a move. -/
theorem step (hsymm : ∀ s t, R s t → R t s)
    (hseen : ∀ request, seen request → (handler request).Related R Eq (handler request))
    (hother : ∀ request, ¬ seen request → (handler request).Silent R fun _ => True)
    (h : server.Unnoticed R seen server') {move move' : Move Q} (hmove : move.Alike seen move') :
    (server.step handler move).Unnoticed R seen (server'.step handler move') := by
  cases hmove with
  | start request =>
      refine ⟨h.state, List.rel_append h.jobs (.cons ?_ .nil)⟩
      by_cases hrequest : seen request
      · exact .seen hrequest (hseen request hrequest)
      · exact .other hrequest hrequest (hother request hrequest) (hother request hrequest)
  | other hnot hnot' =>
      exact ⟨h.state, List.rel_append h.jobs
        (.cons (.other hnot hnot' (hother _ hnot) (hother _ hnot')) .nil)⟩
  | exec job =>
      have hentries := forall₂_getElem? h.jobs job
      generalize hjob : server.jobs[job]? = entry at hentries
      generalize hjob' : server'.jobs[job]? = entry' at hentries
      cases hentries with
      | none =>
          simp only [Server.step, hjob, hjob']
          exact h
      | some hjobs =>
          cases hjobs with
          | seen hrequest hrelated => exact h.exec_seen hrequest hrelated hjob hjob'
          | other hnot hnot' hp hq =>
              obtain ⟨hstate, p, hp, hjobs⟩ := silent_exec_step hjob hp h.state
              obtain ⟨hstate', q, hq, hjobs'⟩ := silent_exec_step hjob' hq (hsymm _ _ hstate)
              refine ⟨hsymm _ _ hstate', ?_⟩
              rw [hjobs, hjobs']
              exact forall₂_set h.jobs job (.other hnot hnot' hp hq)

/-- A request that is seen is answered alike. -/
theorem answer?_eq (h : server.Unnoticed R seen server') {job : ℕ} {request : Q}
    (hrequest : server.request? job = some request) (hseen : seen request) :
    server'.request? job = some request ∧ server.answer? job = server'.answer? job := by
  have hentries := forall₂_getElem? h.jobs job
  rw [Server.request?] at hrequest ⊢
  rw [Server.answer?, Server.answer?]
  generalize server.jobs[job]? = entry at hrequest hentries ⊢
  generalize server'.jobs[job]? = entry' at hentries ⊢
  cases hentries with
  | none => cases hrequest
  | some hjobs =>
      cases hjobs with
      | seen _ hrelated => exact ⟨hrequest, hrelated.answer?_eq⟩
      | other hnot _ _ _ =>
          cases hrequest
          exact absurd hseen hnot

end Server.Unnoticed

/-- Two runs that differ only in what is not seen. -/
theorem serve_unnoticed (hsymm : ∀ s t, R s t → R t s)
    (hseen : ∀ request, seen request → (handler request).Related R Eq (handler request))
    (hother : ∀ request, ¬ seen request → (handler request).Silent R fun _ => True) {s s' : S}
    (hs : R s s') {moves moves' : List (Move Q)}
    (hmoves : List.Forall₂ (Move.Alike seen) moves moves') :
    (serve handler moves s).Unnoticed R seen (serve handler moves' s') := by
  have hrun : ∀ server server' : Server Q S E A, server.Unnoticed R seen server' →
      (runAll (Server.step handler) moves server).Unnoticed R seen
        (runAll (Server.step handler) moves' server') := by
    induction hmoves with
    | nil => exact fun _ _ h => h
    | cons hmove _ ih => exact fun _ _ h => ih _ _ (h.step hsymm hseen hother hmove)
  exact hrun _ _ ⟨hs, .nil⟩

end Runs

end Voxply.Math
