/-
# Runs of completed calls

A run is a list of calls executed one after the other.  Next to the state it
leads to, a run has a log: what the calls recorded when they were made.  The
rules below reduce a property of every run to a property of one call: an
invariant has to survive each call, and what a call records has to hold after
it and survive every later call.
-/

import Mathlib.Data.List.Basic
import Mathlib.Tactic.Common

namespace Voxply.Math

universe u v w

variable {C : Type u} {S : Type v} {L : Type w} {step : C → S → S} {ok : C → S → Prop}

/-- Execute calls one after the other. -/
def runAll (step : C → S → S) : List C → S → S
  | [], s => s
  | c :: rest, s => runAll step rest (step c s)

/-- Every call meets the condition in the state it finds. -/
def Along (step : C → S → S) (ok : C → S → Prop) : List C → S → Prop
  | [], _ => True
  | c :: rest, s => ok c s ∧ Along step ok rest (step c s)

/-- What the calls of a run record, each in the state it finds. -/
def logAll (step : C → S → S) (record : C → S → List L) : List C → S → List L
  | [], _ => []
  | c :: rest, s => record c s ++ logAll step record rest (step c s)

instance decidableAlong [∀ c s, Decidable (ok c s)] :
    ∀ (calls : List C) (s : S), Decidable (Along step ok calls s)
  | [], _ => inferInstanceAs (Decidable True)
  | c :: rest, s =>
      have := decidableAlong rest (step c s)
      inferInstanceAs (Decidable (ok c s ∧ Along step ok rest (step c s)))

theorem runAll_append (first second : List C) (s : S) :
    runAll step (first ++ second) s = runAll step second (runAll step first s) := by
  induction first generalizing s with
  | nil => rfl
  | cons c rest ih => exact ih (step c s)

theorem Along.append {first second : List C} {s : S} (h : Along step ok (first ++ second) s) :
    Along step ok first s ∧ Along step ok second (runAll step first s) := by
  induction first generalizing s with
  | nil => exact ⟨trivial, h⟩
  | cons c rest ih => exact ⟨⟨h.1, (ih h.2).1⟩, (ih h.2).2⟩

/-- A condition along a run, in terms of the runs that lead up to its calls. -/
theorem along_iff_split {calls : List C} {s : S} :
    Along step ok calls s ↔
      ∀ first c rest, calls = first ++ c :: rest → ok c (runAll step first s) := by
  constructor
  · rintro h first c rest rfl
    exact h.append.2.1
  · intro h
    induction calls generalizing s with
    | nil => trivial
    | cons c rest ih =>
        refine ⟨h [] c rest rfl, ih fun first c' rest' hrest => ?_⟩
        exact h (c :: first) c' rest' (by rw [hrest, List.cons_append])

theorem Along.and {ok' : C → S → Prop} {calls : List C} {s : S} (h : Along step ok calls s)
    (h' : Along step ok' calls s) : Along step (fun c s => ok c s ∧ ok' c s) calls s := by
  induction calls generalizing s with
  | nil => trivial
  | cons c rest ih => exact ⟨⟨h.1, h'.1⟩, ih h.2 h'.2⟩

/-- A record was made by some call of the run. -/
theorem exists_of_mem_logAll {record : C → S → List L} {calls : List C} {s : S} {x : L}
    (h : x ∈ logAll step record calls s) :
    ∃ first c rest, calls = first ++ c :: rest ∧ x ∈ record c (runAll step first s) := by
  induction calls generalizing s with
  | nil => cases h
  | cons c rest ih =>
      rcases List.mem_append.mp h with h | h
      · exact ⟨[], c, rest, rfl, h⟩
      · rcases ih h with ⟨first, c', rest', rfl, hx⟩
        exact ⟨c :: first, c', rest', rfl, hx⟩

/-- What holds of every call in a state it may find. -/
theorem Along.imp {ok' : C → S → Prop} (himp : ∀ c s, ok c s → ok' c s) {calls : List C} {s : S}
    (h : Along step ok calls s) : Along step ok' calls s := by
  induction calls generalizing s with
  | nil => trivial
  | cons c rest ih => exact ⟨himp c s h.1, ih h.2⟩

/-- The invariant rule. -/
theorem Along.invariant (inv : S → Prop) (hstep : ∀ c s, ok c s → inv s → inv (step c s))
    {calls : List C} {s : S} (h : Along step ok calls s) (hs : inv s) :
    inv (runAll step calls s) := by
  induction calls generalizing s with
  | nil => exact hs
  | cons c rest ih => exact ih h.2 (hstep c s h.1 hs)

/-- What every call keeps holds after every run. -/
theorem invariant_runAll (inv : S → Prop) (hstep : ∀ c s, inv s → inv (step c s)) (calls : List C)
    {s : S} (hs : inv s) : inv (runAll step calls s) := by
  induction calls generalizing s with
  | nil => exact hs
  | cons c rest ih => exact ih (hstep c s hs)

/-- Conditions that agree wherever the invariant holds agree along every run. -/
theorem along_congr {ok' : C → S → Prop} (inv : S → Prop)
    (hstep : ∀ c s, inv s → inv (step c s)) (h : ∀ c s, inv s → (ok c s ↔ ok' c s))
    {calls : List C} {s : S} (hs : inv s) :
    Along step ok calls s ↔ Along step ok' calls s := by
  induction calls generalizing s with
  | nil => exact Iff.rfl
  | cons c rest ih => exact and_congr (h c s hs) (ih (hstep c s hs))

/-- If a call keeps the invariant exactly under its condition, the states of a
run satisfy the invariant exactly if the calls meet their conditions. -/
theorem Along.invariant_iff (inv : S → Prop) (hstep : ∀ c s, inv s → (inv (step c s) ↔ ok c s))
    {calls : List C} {s : S} (hs : inv s) :
    (∀ first, first <+: calls → inv (runAll step first s)) ↔ Along step ok calls s := by
  induction calls generalizing s with
  | nil =>
      constructor
      · exact fun _ => trivial
      · intro _ first hfirst
        rwa [List.prefix_nil.mp hfirst]
  | cons c rest ih =>
      constructor
      · intro h
        have hnext : inv (step c s) := h [c] (by simp)
        refine ⟨(hstep c s hs).mp hnext, (ih hnext).mp fun first hfirst => ?_⟩
        exact h (c :: first) (List.cons_prefix_cons.mpr ⟨rfl, hfirst⟩)
      · rintro ⟨hok, hrest⟩ first hfirst
        rcases List.prefix_cons_iff.mp hfirst with rfl | ⟨tail, rfl, htail⟩
        · exact hs
        · exact (ih ((hstep c s hs).mpr hok)).mpr hrest tail htail

/-- The rule for logs: what a call records holds after the call, and no later
call breaks it. -/
theorem Along.logged {record : C → S → List L} (inv : S → Prop) (post : L → S → Prop)
    (hstep : ∀ c s, ok c s → inv s → inv (step c s))
    (hstable : ∀ c s x, ok c s → inv s → post x s → post x (step c s))
    (hrecord : ∀ c s, ok c s → inv s → ∀ x ∈ record c s, post x (step c s))
    {calls : List C} {s : S} (h : Along step ok calls s) (hs : inv s) {x : L}
    (hx : x ∈ logAll step record calls s) : post x (runAll step calls s) := by
  induction calls generalizing s with
  | nil => simp [logAll] at hx
  | cons c rest ih =>
      rw [logAll, List.mem_append] at hx
      have hnext := hstep c s h.1 hs
      rcases hx with hx | hx
      · -- A record of the first call has to survive the rest of the run.
        refine (h.2.invariant (fun s => inv s ∧ post x s) ?_ ⟨hnext, hrecord c s h.1 hs x hx⟩).2
        intro c s hok hboth
        exact ⟨hstep c s hok hboth.1, hstable c s x hok hboth.1 hboth.2⟩
      · exact ih h.2 hnext hx

/-- If what a call records holds after it exactly under the condition of the call, and
calls under their conditions do not break earlier records, the records of a run hold
wherever it is stopped exactly if all its calls meet their conditions. -/
theorem Along.logged_iff {record : C → S → List L} (inv : S → Prop) (post : L → S → Prop)
    (hstep : ∀ c s, ok c s → inv s → inv (step c s))
    (hstable : ∀ c s x, ok c s → inv s → post x s → post x (step c s))
    (hrecord : ∀ c s, inv s → ((∀ x ∈ record c s, post x (step c s)) ↔ ok c s))
    {calls : List C} {s : S} (hs : inv s) :
    (∀ first, first <+: calls → ∀ x ∈ logAll step record first s, post x (runAll step first s)) ↔
      Along step ok calls s := by
  constructor
  · intro h
    induction calls generalizing s with
    | nil => trivial
    | cons c rest ih =>
        have hok : ok c s := by
          refine (hrecord c s hs).mp fun x hx => ?_
          exact h [c] (by simp) x (by simpa [logAll] using hx)
        refine ⟨hok, ih (hstep c s hok hs) fun first hfirst x hx => ?_⟩
        exact h (c :: first) (List.cons_prefix_cons.mpr ⟨rfl, hfirst⟩) x
          (List.mem_append_right _ hx)
  · rintro h first ⟨rest, rfl⟩ x hx
    exact h.append.1.logged inv post hstep hstable
      (fun c s hok hs => (hrecord c s hs).mpr hok) hs hx

/-! ## Since the last cut -/

/-- Some call of the history is good, and no later one is a cut. -/
def Since (cut good : C → Prop) (history : List C) : Prop :=
  ∃ first c rest, history = first ++ c :: rest ∧ good c ∧ ∀ later ∈ rest, ¬ cut later

section Since

variable {cut good : C → Prop}

@[simp]
theorem not_since_nil : ¬ Since cut good [] := by
  rintro ⟨first, c, rest, hsplit, -⟩
  simp at hsplit

/-- What one more call makes of it. -/
theorem since_snoc {history : List C} {c : C} :
    Since cut good (history ++ [c]) ↔ good c ∨ ¬ cut c ∧ Since cut good history := by
  constructor
  · rintro ⟨first, found, rest, hsplit, hgood, hrest⟩
    rcases List.eq_nil_or_concat rest with rfl | ⟨init, last, rfl⟩
    · have hlast : c = found := by simpa using congrArg List.getLast? hsplit
      exact .inl (hlast ▸ hgood)
    · rw [List.concat_eq_append, ← List.cons_append, ← List.append_assoc] at hsplit
      obtain ⟨hinit, hlast⟩ := List.append_inj' hsplit rfl
      cases hlast
      refine .inr ⟨hrest c (by simp), first, found, init, hinit, hgood, fun later hlater => ?_⟩
      exact hrest later (by simp [hlater])
  · rintro (hgood | ⟨hcut, first, found, rest, rfl, hgood, hrest⟩)
    · exact ⟨history, c, [], rfl, hgood, by simp⟩
    · refine ⟨first, found, rest ++ [c], by simp, hgood, fun later hlater => ?_⟩
      rcases List.mem_append.mp hlater with hlater | hlater
      · exact hrest later hlater
      · exact List.mem_singleton.mp hlater ▸ hcut

/-- A call that is neither good nor a cut changes nothing. -/
theorem since_snoc_of_neither {history : List C} {c : C} (hcut : ¬ cut c) (hgood : ¬ good c) :
    Since cut good (history ++ [c]) ↔ Since cut good history := by
  rw [since_snoc, or_iff_right hgood, and_iff_right hcut]

end Since

end Voxply.Math
