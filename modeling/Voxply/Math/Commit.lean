/-
# Programs that take effect at one statement

Some programs read what they need, decide, and then change what matters in a single
statement; what they send before and after leaves it alone.  Which statement that is
depends on what the program has sent before.  If that statement does what the request
asks for, whatever others have done since the program has read, an interleaving
amounts to the requests taking effect one after the other, in the order of those
statements.
-/

import Voxply.Math.Schedule

namespace Voxply.Math

universe u v w x y

variable {R : Type x} {S : Type u} {V : Type y} {commits : R → List (Sent S) → Prop}

/-- What a job has sent includes the statement at which its request takes effect. -/
def Committed (commits : R → List (Sent S) → Prop) (request : R) (past : List (Sent S)) : Prop :=
  ∃ before sent, before ++ [sent] <+: past ∧ commits request before

theorem not_committed_nil (request : R) : ¬ Committed commits request [] := by
  rintro ⟨before, sent, hprefix, -⟩
  simp at hprefix

theorem committed_snoc_iff {request : R} {past : List (Sent S)} {sent : Sent S} :
    Committed commits request (past ++ [sent]) ↔
      Committed commits request past ∨ commits request past := by
  constructor
  · rintro ⟨before, last, hprefix, hcommits⟩
    rcases List.prefix_concat_iff.mp hprefix with heq | hprefix
    · rw [List.append_inj_left' heq rfl] at hcommits
      exact .inr hcommits
    · exact .inl ⟨before, last, hprefix, hcommits⟩
  · rintro (⟨before, last, hprefix, hcommits⟩ | hcommits)
    · exact ⟨before, last, hprefix.trans (List.prefix_append ..), hcommits⟩
    · exact ⟨past, sent, List.prefix_refl _, hcommits⟩

/-- A request takes effect once. -/
def Once (commits : R → List (Sent S) → Prop) : Prop :=
  ∀ request past, commits request past → ¬ Committed commits request past

/-- The statement at which a request takes effect does what the request asks for, and
the others leave things as they are. -/
structure Effects (commits : R → List (Sent S) → Prop) (view : S → V) (apply : R → V → V)
    (history : List (Event R S)) : Prop where
  commit : ∀ pre e post, history = pre ++ e :: post → commits e.request (sentBy e.job pre) →
    view e.after = apply e.request (view e.before)
  aside : ∀ pre e post, history = pre ++ e :: post → ¬ commits e.request (sentBy e.job pre) →
    view e.after = view e.before

theorem Effects.init {view : S → V} {apply : R → V → V} {history : List (Event R S)}
    {last : Event R S} (h : Effects commits view apply (history ++ [last])) :
    Effects commits view apply history where
  commit pre e post hsplit := h.commit pre e (post ++ [last]) (by simp [hsplit])
  aside pre e post hsplit := h.aside pre e (post ++ [last]) (by simp [hsplit])

namespace Interleaving

variable {good : R → List (Sent S) → Sent S → Prop} {s t : S} {history : List (Event R S)}
  {view : S → V} {apply : R → V → V}

/-- The requests that have taken effect did so one after the other. -/
theorem serial (h : Interleaving good s history t) (honce : Once commits)
    (heffects : Effects commits view apply history) :
    ∃ order : List (ℕ × R), (order.map Prod.fst).Nodup ∧
      (∀ job request, (job, request) ∈ order ↔
        (∃ e ∈ history, e.job = job ∧ e.request = request) ∧
          Committed commits request (sentBy job history)) ∧
      view t = order.foldl (fun value entry => apply entry.2 value) (view s) := by
  induction h with
  | idle => exact ⟨[], List.nodup_nil, by simp, rfl⟩
  | @exec history t last hrun hbefore hown hgood ih =>
      subst hbefore
      rcases ih heffects.init with ⟨order, hnodup, hmem, hview⟩
      -- What the others have sent, and so whether they have taken effect, is as before.
      have hothers : ∀ job request, job ≠ last.job →
          ((∃ e ∈ history ++ [last], e.job = job ∧ e.request = request) ∧
              Committed commits request (sentBy job (history ++ [last])) ↔
            (∃ e ∈ history, e.job = job ∧ e.request = request) ∧
              Committed commits request (sentBy job history)) := by
        intro job request hjob
        have hlast : ¬ (last.job = job ∧ last.request = request) := fun hsame => hjob hsame.1.symm
        rw [sentBy_snoc_of_ne (Ne.symm hjob)]
        simp [or_and_right, exists_or, hlast]
      have hmine : ∀ request, (∃ e ∈ history ++ [last], e.job = last.job ∧ e.request = request) ↔
          last.request = request := by
        intro request
        constructor
        · rintro ⟨e, he, hjob, rfl⟩
          rcases List.mem_append.mp he with he | he
          · exact (hown e he hjob).symm
          · rw [List.mem_singleton.mp he]
        · exact fun hsame => ⟨last, by simp, rfl, hsame⟩
      by_cases hcommits : commits last.request (sentBy last.job history)
      · refine ⟨order ++ [(last.job, last.request)], ?_, ?_, ?_⟩
        · rw [List.map_append, List.map_singleton, List.nodup_append]
          refine ⟨hnodup, by simp, ?_⟩
          rintro job hjob _ hsame rfl
          rw [List.mem_singleton] at hsame
          rcases List.mem_map.mp hjob with ⟨⟨_, request⟩, hentry, rfl⟩
          obtain ⟨⟨e, he, hown', rfl⟩, hcommitted⟩ := (hmem _ _).mp hentry
          dsimp only at hsame
          subst hsame
          rw [hown e he hown'] at hcommitted
          exact honce _ _ hcommits hcommitted
        · intro job request
          by_cases hjob : job = last.job
          · subst hjob
            rw [hmine, sentBy_snoc_self, committed_snoc_iff, List.mem_append, hmem]
            constructor
            · rintro (⟨⟨e, he, hjob, rfl⟩, hcommitted⟩ | hlast)
              · exact ⟨(hown e he hjob).symm, .inl hcommitted⟩
              · cases List.mem_singleton.mp hlast
                exact ⟨rfl, .inr hcommits⟩
            · rintro ⟨rfl, -⟩
              exact .inr (List.mem_singleton.mpr rfl)
          · rw [hothers job request hjob, ← hmem, List.mem_append, List.mem_singleton]
            simp [hjob]
        · rw [List.foldl_append, ← hview]
          exact heffects.commit history last [] rfl hcommits
      · refine ⟨order, hnodup, ?_, ?_⟩
        · intro job request
          by_cases hjob : job = last.job
          · subst hjob
            rw [hmine, sentBy_snoc_self, committed_snoc_iff, hmem]
            constructor
            · rintro ⟨⟨e, he, hjob, rfl⟩, hcommitted⟩
              exact ⟨(hown e he hjob).symm, .inl hcommitted⟩
            · rintro ⟨rfl, hcommitted | hnow⟩
              · refine ⟨?_, hcommitted⟩
                rcases hcommitted with ⟨before, sent, hprefix, -⟩
                have hsent : sent ∈ sentBy last.job history := hprefix.subset (by simp)
                rcases mem_sentBy.mp hsent with ⟨e, he, hejob, -⟩
                exact ⟨e, he, hejob, hown e he hejob⟩
              · exact absurd hnow hcommits
          · rw [hothers job request hjob, hmem]
        · rw [← hview]
          exact heffects.aside history last [] rfl hcommits

/-- What is spent for good when it is used can be used once. -/
theorem same_of_spent (spent : S → Prop) (h : Interleaving good s history t)
    (hkeep : ∀ e ∈ history, spent e.before → spent e.after)
    {pre post pre' post' : List (Event R S)} {e e' : Event R S}
    (hsplit : history = pre ++ e :: post) (hsplit' : history = pre' ++ e' :: post')
    (hfresh : ¬ spent e.before) (hfresh' : ¬ spent e'.before) (hspent : spent e.after)
    (hspent' : spent e'.after) : pre = pre' ∧ e = e' := by
  -- Whichever comes second finds that the other has been there.
  have hlater : ∀ {first between : List (Event R S)} {a b : Event R S} {rest : List (Event R S)},
      history = (first ++ a :: between) ++ b :: rest → spent a.after → spent b.before := by
    intro first between a b rest hboth hafter
    refine (h.split hboth).1.kept_since spent rfl ?_ hafter
    intro later hmem
    apply hkeep later
    rw [hboth]
    simp [hmem]
  rcases split_order hsplit hsplit' with hsame | ⟨between, rfl⟩ | ⟨between, rfl⟩
  · exact hsame
  · exact absurd (hlater hsplit' hspent) hfresh'
  · exact absurd (hlater hsplit hspent') hfresh

end Interleaving

namespace Server

variable {E : Type v} {A : Type w} {handler : R → Prog S E A}
  {good : R → List (Sent S) → Sent S → Prop} {post : R → A → List (Sent S) → Prop} {s : S}
  {server : Server R S E A} {view : S → V} {apply : R → V → V}

/-- A schedule amounts to the requests that have taken effect, one after the other. -/
theorem Sound.serial (h : server.Sound handler good post s) (honce : Once commits)
    (heffects : Effects commits view apply server.history) :
    ∃ order : List (ℕ × R), (order.map Prod.fst).Nodup ∧
      (∀ job request, (job, request) ∈ order ↔ server.request? job = some request ∧
        Committed commits request (sentBy job server.history)) ∧
      view server.state = order.foldl (fun value entry => apply entry.2 value) (view s) := by
  rcases h.run.serial honce heffects with ⟨order, hnodup, hmem, hview⟩
  refine ⟨order, hnodup, fun job request => ?_, hview⟩
  rw [hmem, and_congr_left_iff]
  rintro ⟨before, sent, hprefix, -⟩
  constructor
  · rintro ⟨e, he, rfl, rfl⟩
    exact h.request?_eq he
  · intro hrequest
    have hsent : sent ∈ sentBy job server.history := hprefix.subset (by simp)
    rcases mem_sentBy.mp hsent with ⟨e, he, rfl, -⟩
    rw [h.request?_eq he] at hrequest
    exact ⟨e, he, rfl, Option.some.inj hrequest⟩

end Server

end Voxply.Math
