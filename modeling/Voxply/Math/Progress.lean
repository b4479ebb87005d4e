/-
# How far a program has got

What a program sends next depends on the states that it has found.  Given what it has
sent so far, `Prog.rest?` is what is left of it.  A long program is cut where something
happens that matters: it has come to that point when its first part, given what has been
sent, has just returned.  `Prog.returned?` says so, and what it returned.
-/

import Voxply.Math.Schedule

namespace Voxply.Math

universe u v w x

namespace Prog

variable {S : Type u} {E : Type v} {A B : Type w} {past : List (Sent S)}

/-- What is left of a program that has sent just this. -/
def rest? : Prog S E A → List (Sent S) → Option (Prog S E A)
  | p, [] => some p
  | .step _ next, sent :: past => (next sent.before).rest? past
  | .ret _, _ :: _ => none
  | .fail _, _ :: _ => none

/-- What a program has returned that has sent just this. -/
def returned? (p : Prog S E A) (past : List (Sent S)) : Option A :=
  match p.rest? past with
  | some (.ret a) => some a
  | _ => none

theorem rest?_nil (p : Prog S E A) : p.rest? [] = some p := by
  cases p <;> rfl

theorem rest?_step (act : S → S) (next : S → Prog S E A) (sent : Sent S) (past : List (Sent S)) :
    (step act next).rest? (sent :: past) = (next sent.before).rest? past := rfl

theorem rest?_append (p : Prog S E A) (past more : List (Sent S)) :
    p.rest? (past ++ more) = (p.rest? past).bind (·.rest? more) := by
  induction past generalizing p with
  | nil => rw [List.nil_append, rest?_nil, Option.bind_some]
  | cons sent past ih =>
      cases p with
      | ret a => rfl
      | fail e => rfl
      | step act next => exact ih (next sent.before)

theorem returned?_of_rest? {p q : Prog S E A} (h : p.rest? past = some q) (more : List (Sent S)) :
    p.returned? (past ++ more) = q.returned? more := by
  rw [returned?, rest?_append, h, Option.bind_some, returned?]

theorem rest?_of_returned? {p : Prog S E A} {a : A} (h : p.returned? past = some a) :
    p.rest? past = some (.ret a) := by
  rw [returned?] at h
  cases hrest : p.rest? past with
  | none => simp [hrest] at h
  | some q =>
      rw [hrest] at h
      cases q with
      | ret b =>
          cases h
          rfl
      | fail e => cases h
      | step act next => cases h

/-- A program that has returned sends nothing more. -/
theorem returned?_append_cons {p : Prog S E A} {a : A} (h : p.returned? past = some a)
    (sent : Sent S) (more : List (Sent S)) : p.returned? (past ++ sent :: more) = none := by
  rw [returned?_of_rest? (rest?_of_returned? h)]
  rfl

/-- As long as a program sends something it has not returned. -/
theorem follows_returned? (p : Prog S E A) :
    p.Follows (fun past _ => p.returned? past = none)
    (fun a past => p.returned? past = some a) [] := by
  suffices hgen : ∀ (q : Prog S E A) (past : List (Sent S)), p.rest? past = some q →
      q.Follows (fun past _ => p.returned? past = none) (fun a past => p.returned? past = some a)
        past from
    hgen p [] (rest?_nil p)
  intro q
  induction q with
  | ret a =>
      intro past hrest
      show p.returned? past = some a
      rw [returned?, hrest]
  | fail e => exact fun _ _ => trivial
  | step act next ih =>
      intro past hrest s
      refine ⟨?_, ih s (past ++ [⟨act, s⟩]) ?_⟩
      · show p.returned? past = none
        rw [returned?, hrest]
      · rw [rest?_append, hrest, Option.bind_some, rest?_step, rest?_nil]

/-- The rule for programs that are cut in two: until the first part has returned, its
statements are sent, and from then on those of the second. -/
theorem Follows.cut {good good' : List (Sent S) → Sent S → Prop} {post : A → List (Sent S) → Prop}
    {post' : B → List (Sent S) → Prop} {p : Prog S E A} {f : A → Prog S E B}
    (hp : p.Follows good post [])
    (hgood : ∀ past sent, p.returned? past = none → good past sent → good' past sent)
    (hf : ∀ a past, p.returned? past = some a → post a past → (f a).Follows good' post' past) :
    (p >>= f).Follows good' post' [] := by
  have hboth := ((follows_returned? p).and hp).mono
    (fun past sent _ h => hgood past sent h.1 h.2) (fun _ _ _ h => h)
  exact hboth.bind fun a past _ h => hf a past h.1 h.2

/-- What a first part has found to do before the next statement, if that is its last
word. -/
def found? {C : Type w} (p : Prog S E (A × Option C)) (past : List (Sent S)) : Option C :=
  (p.returned? past).bind (·.2)

theorem found?_of_running {C : Type w} {p : Prog S E (A × Option C)}
    (h : p.returned? past = none) : p.found? past = none := by
  rw [found?, h]
  rfl

/-- Nothing is left to do once it has been done. -/
theorem found?_of_returned {C : Type w} {p : Prog S E (A × Option C)} {found : A × Option C}
    (h : p.returned? past = some found) {later : List (Sent S)} (hlater : past <+: later)
    (hdone : found.2 = none ∨ later ≠ past) : p.found? later = none := by
  rcases hlater with ⟨more, rfl⟩
  cases more with
  | nil =>
      have hnone : found.2 = none := hdone.resolve_right (by simp)
      rw [List.append_nil, found?, h, Option.bind_some, hnone]
  | cons sent more => exact found?_of_running (returned?_append_cons h sent more)

/-- The rule for programs whose first part finds out whether one statement has to be sent
before the rest. -/
theorem Follows.cut_once {C : Type w} {good good' : List (Sent S) → Sent S → Prop}
    {post : A × Option C → List (Sent S) → Prop} {post' : B → List (Sent S) → Prop}
    {p : Prog S E (A × Option C)} {act : C → S → S} {rest : A → Prog S E B}
    (hp : p.Follows good post [])
    (hgood : ∀ past sent, p.found? past = none → good past sent → good' past sent)
    (hact : ∀ a c past s, p.found? past = some c → post (a, some c) past → good' past ⟨act c, s⟩)
    (hrest : ∀ a past, (rest a).Follows good post' past) :
    (p >>= fun found => whenSome found.2 (fun c => exec (act c)) >>= fun _ =>
      rest found.1).Follows good' post' [] := by
  apply hp.cut
  · exact fun past sent hrunning => hgood past sent (found?_of_running hrunning)
  rintro ⟨a, found⟩ past hreturned hfound
  -- From here on nothing is found any more.
  have hlater : ∀ later, past <+: later → found = none ∨ later ≠ past →
      (rest a).Follows good' post' later := by
    intro later hlater hdone
    refine (hrest a later).mono (fun past' sent hpast' => hgood past' sent ?_) fun _ _ _ h => h
    refine found?_of_returned hreturned (hlater.trans hpast')
      (hdone.imp_right fun hne hsame => hne ?_)
    subst hsame
    exact (List.IsPrefix.eq_of_length_le hlater hpast'.length_le).symm
  cases found with
  | none => exact hlater past (List.prefix_refl past) (.inl rfl)
  | some c =>
      apply follows_exec_bind
      · intro s
        refine hact a c past s ?_ hfound
        rw [found?, hreturned]
        rfl
      · exact fun s => hlater _ (List.prefix_append ..) (.inr (by simp))

end Prog

end Voxply.Math
