/-
# All or nothing

A program of several statements has no rollback of its own: what it has written when a
statement fails stays written.  It is all or nothing in a state if a failure leaves a state
that counts as unchanged and a return leaves one with the effect the program is to have.
What only reads never breaks this, so that only the statements after the first write
have to be looked at.
-/

import Mathlib.Data.List.Induction
import Mathlib.Data.List.Nodup
import Voxply.Math.Statement

namespace Voxply.Math

universe u v w

namespace Prog

variable {S : Type u} {E : Type v} {A B : Type w}

/-- Run alone, the program fails in a state that counts as unchanged, or returns in one
with the effect it is to have. -/
structure AllOrNothing (same : S → Prop) (done : A → S → Prop) (p : Prog S E A) (s : S) : Prop where
  failed : ∀ e t, p.run s = (.error e, t) → same t
  returned : ∀ a t, p.run s = (.ok a, t) → done a t

section AllOrNothing

variable {same : S → Prop} {done : B → S → Prop} {s t : S}

theorem allOrNothing_iff_of_error {p : Prog S E B} {e : E} (h : p.run s = (.error e, t)) :
    p.AllOrNothing same done s ↔ same t := by
  constructor
  · exact fun hp => hp.failed e t h
  · intro hsame
    constructor
    · intro e' t' h'
      rw [h] at h'
      cases h'
      exact hsame
    · intro a t' h'
      rw [h] at h'
      cases h'

theorem allOrNothing_iff_of_ok {p : Prog S E B} {b : B} (h : p.run s = (.ok b, t)) :
    p.AllOrNothing same done s ↔ done b t := by
  constructor
  · exact fun hp => hp.returned b t h
  · intro hdone
    constructor
    · intro e t' h'
      rw [h] at h'
      cases h'
    · intro b' t' h'
      rw [h] at h'
      cases h'
      exact hdone

/-- Only how the program runs counts. -/
theorem allOrNothing_congr {p q : Prog S E B} (h : p.run s = q.run t) :
    p.AllOrNothing same done s ↔ q.AllOrNothing same done t := by
  constructor
  · intro hp
    exact ⟨fun e u hu => hp.failed e u (h.trans hu), fun b u hu => hp.returned b u (h.trans hu)⟩
  · intro hq
    exact ⟨fun e u hu => hq.failed e u (h.symm.trans hu),
      fun b u hu => hq.returned b u (h.symm.trans hu)⟩

/-- A first part that returns hands over to the rest. -/
theorem allOrNothing_bind_of_ok {p : Prog S E A} {f : A → Prog S E B} {a : A}
    (h : p.run s = (.ok a, t)) :
    (p >>= f).AllOrNothing same done s ↔ (f a).AllOrNothing same done t :=
  allOrNothing_congr (run_bind_of_ok h)

/-- A first part that fails is the end. -/
theorem allOrNothing_bind_of_error {p : Prog S E A} {f : A → Prog S E B} {e : E}
    (h : p.run s = (.error e, t)) : (p >>= f).AllOrNothing same done s ↔ same t :=
  allOrNothing_iff_of_error (run_bind_of_error h)

/-- A first part that only reads has to be looked at where it returns. -/
theorem Reads.allOrNothing_bind_iff {p : Prog S E A} {f : A → Prog S E B} (hp : p.Reads)
    (hs : same s) :
    (p >>= f).AllOrNothing same done s ↔
      ∀ a, p.run s = (.ok a, s) → (f a).AllOrNothing same done s := by
  have hread := hp s
  rcases hrun : p.run s with ⟨e | a, t⟩
  · rw [hrun] at hread
    cases hread
    rw [allOrNothing_bind_of_error hrun]
    refine iff_of_true hs ?_
    intro a ha
    cases ha
  · rw [hrun] at hread
    cases hread
    rw [allOrNothing_bind_of_ok hrun]
    simp

theorem allOrNothing_ensure_bind {c : Prop} [Decidable c] {e : E} {f : PUnit → Prog S E B}
    (hs : same s) :
    (ensure c e >>= f).AllOrNothing same done s ↔ (c → (f ⟨⟩).AllOrNothing same done s) := by
  by_cases hc : c
  · rw [allOrNothing_bind_of_ok (run_ensure_of_pos hc e s), imp_iff_right hc]
  · rw [allOrNothing_bind_of_error (run_ensure_of_neg hc e s)]
    exact iff_of_true hs fun h => absurd h hc

theorem allOrNothing_ofExcept_bind {x : Except E PUnit} {f : PUnit → Prog S E B} (hs : same s) :
    (ofExcept x >>= f).AllOrNothing same done s ↔
      (x = .ok ⟨⟩ → (f ⟨⟩).AllOrNothing same done s) := by
  rw [Reads.allOrNothing_bind_iff (reads_ofExcept x) hs]
  simp only [run_ofExcept, Prod.mk.injEq, and_true]
  exact ⟨fun h hx => h ⟨⟩ hx, fun h _ hx => h hx⟩

/-- What is made of the value does not matter. -/
theorem allOrNothing_map {C : Type w} {done : C → S → Prop} {p : Prog S E B} {f : B → C} :
    (p >>= fun b => (pure (f b) : Prog S E C)).AllOrNothing same done s ↔
      p.AllOrNothing same (fun b => done (f b)) s := by
  rcases hrun : p.run s with ⟨e | b, t⟩
  · rw [allOrNothing_bind_of_error hrun, allOrNothing_iff_of_error hrun]
  · rw [allOrNothing_bind_of_ok hrun, allOrNothing_iff_of_ok hrun,
      allOrNothing_iff_of_ok (run_pure (f b) t)]

end AllOrNothing

/-! ## Loops -/

theorem each_cons {C : Type w} (c : C) (rest : List C) (f : C → Prog S E PUnit) :
    each (c :: rest) f = f c >>= fun _ => each rest f := rfl

theorem each_append {C : Type w} (first rest : List C) (f : C → Prog S E PUnit) :
    each (first ++ rest) f = each first f >>= fun _ => each rest f := by
  induction first with
  | nil => rfl
  | cons c cs ih => rw [List.cons_append, each_cons, each_cons, ih, bind_assoc]

theorem each_map {C D : Type w} (cs : List C) (g : C → D) (f : D → Prog S E PUnit) :
    each (cs.map g) f = each cs fun c => f (g c) := by
  induction cs with
  | nil => rfl
  | cons c rest ih => rw [List.map_cons, each_cons, each_cons, ih]

/-- Loops inside a loop are one loop over all their elements. -/
theorem each_flatMap {C D : Type w} (cs : List C) (g : C → List D) (f : D → Prog S E PUnit) :
    each (cs.flatMap g) f = each cs fun c => each (g c) f := by
  induction cs with
  | nil => rfl
  | cons c rest ih => rw [List.flatMap_cons, each_append, each_cons, ih]

/-- A loop that gets past the first of its elements goes on with the others. -/
theorem run_each_append_of_ok {C : Type w} {first rest : List C} {f : C → Prog S E PUnit} {s t : S}
    (h : (each first f).run s = (.ok ⟨⟩, t)) :
    (each (first ++ rest) f).run s = (each rest f).run t := by
  induction first generalizing s with
  | nil =>
      cases h
      rfl
  | cons c cs ih =>
      rw [run_each_cons] at h
      rw [List.cons_append, run_each_cons]
      rcases run_bind_cases h with ⟨e, -, hr⟩ | ⟨_, u, hc, hrest⟩
      · cases hr
      · rw [run_bind_of_ok hc]
        exact ih hrest

/-- A loop ends with the first of its elements that fails. -/
theorem run_each_of_error {C : Type w} {first rest : List C} {c : C} {f : C → Prog S E PUnit}
    {s t u : S} {e : E} (h : (each first f).run s = (.ok ⟨⟩, t))
    (hc : (f c).run t = (.error e, u)) : (each (first ++ c :: rest) f).run s = (.error e, u) := by
  rw [run_each_append_of_ok h, run_each_cons, run_bind_of_error hc]

end Prog

/-! ## Lists with repetitions -/

section Repeated

variable {α : Type u}

/-- A list with repetitions has a first element that has come before. -/
theorem exists_first_repeated {as : List α} (h : ¬ as.Nodup) :
    ∃ first a rest, as = first ++ a :: rest ∧ first.Nodup ∧ a ∈ first := by
  induction as using List.reverseRecOn with
  | nil => exact absurd List.nodup_nil h
  | append_singleton as last ih =>
      by_cases hnodup : as.Nodup
      · have hlast : last ∈ as := by
          by_contra hnot
          apply h
          rw [List.nodup_append]
          refine ⟨hnodup, List.nodup_singleton last, ?_⟩
          intro a ha b hb heq
          rw [List.mem_singleton.mp hb] at heq
          exact hnot (heq ▸ ha)
        exact ⟨as, last, [], rfl, hnodup, hlast⟩
      · obtain ⟨first, a, rest, rfl, hfirst, ha⟩ := ih hnodup
        exact ⟨first, a, rest ++ [last], by simp, hfirst, ha⟩

variable [DecidableEq α]

/-- The elements up to the first that has come before, or is among the given ones. -/
def untilRepeated (seen : List α) : List α → List α
  | [] => []
  | a :: rest => if a ∈ seen then [] else a :: untilRepeated (a :: seen) rest

theorem untilRepeated_of_nodup {seen as : List α} (h : as.Nodup) (hnew : ∀ b ∈ as, b ∉ seen) :
    untilRepeated seen as = as := by
  induction as generalizing seen with
  | nil => rfl
  | cons b bs ih =>
      rw [List.nodup_cons] at h
      rw [untilRepeated, if_neg (hnew b List.mem_cons_self), List.cons_inj_right]
      apply ih h.2
      intro c hc hseen
      rcases List.mem_cons.mp hseen with rfl | hseen
      · exact h.1 hc
      · exact hnew c (List.mem_cons_of_mem b hc) hseen

theorem untilRepeated_append {seen first : List α} {a : α} {rest : List α} (hfirst : first.Nodup)
    (hnew : ∀ b ∈ first, b ∉ seen) (ha : a ∈ first ∨ a ∈ seen) :
    untilRepeated seen (first ++ a :: rest) = first := by
  induction first generalizing seen with
  | nil =>
      have hseen : a ∈ seen := by simpa using ha
      rw [List.nil_append, untilRepeated, if_pos hseen]
  | cons b bs ih =>
      rw [List.nodup_cons] at hfirst
      rw [List.cons_append, untilRepeated, if_neg (hnew b List.mem_cons_self), List.cons_inj_right]
      apply ih hfirst.2
      · intro c hc hseen
        rcases List.mem_cons.mp hseen with rfl | hseen
        · exact hfirst.1 hc
        · exact hnew c (List.mem_cons_of_mem b hc) hseen
      · simp only [List.mem_cons] at ha ⊢
        tauto

end Repeated

section Taken

variable {α : Type u} {κ : Type v} [DecidableEq κ] (key? : α → Option κ)

/-- The elements up to the first with a key that is taken, by what was there or by an element
before it.  An element without a key is never refused. -/
def untilTaken (taken : κ → Bool) : List α → List α
  | [] => []
  | a :: rest =>
      if (key? a).any taken then []
      else a :: untilTaken (fun k => taken k || decide (key? a = some k)) rest

variable {key?}

/-- Nothing is refused exactly if all keys are free and different. -/
theorem untilTaken_eq_self_iff {taken : κ → Bool} {as : List α} :
    untilTaken key? taken as = as ↔
      (as.filterMap key?).Nodup ∧ ∀ k ∈ as.filterMap key?, taken k = false := by
  induction as generalizing taken with
  | nil => simp [untilTaken]
  | cons a rest ih =>
      rw [untilTaken]
      cases hkey : key? a with
      | none =>
          rw [if_neg (by simp), List.cons_inj_right, ih, List.filterMap_cons_none hkey]
          simp
      | some k =>
          rw [List.filterMap_cons_some hkey]
          cases htaken : taken k with
          | true => simp [htaken]
          | false =>
              rw [if_neg (by simp [htaken]), List.cons_inj_right, ih, List.nodup_cons,
                List.forall_mem_cons]
              simp only [Bool.or_eq_false_iff, decide_eq_false_iff_not, Option.some.injEq]
              constructor
              · intro h
                refine ⟨⟨fun hmem => (h.2 k hmem).2 rfl, h.1⟩, htaken, fun k' hk' => (h.2 k' hk').1⟩
              · intro h
                refine ⟨h.1.2, fun k' hk' => ⟨h.2.2 k' hk', ?_⟩⟩
                rintro rfl
                exact h.1.1 hk'

/-- If something is refused though no key was taken, an element with a key comes before it. -/
theorem exists_key_of_untilTaken_ne {taken : κ → Bool} {as : List α}
    (htaken : ∀ k, taken k = false) (h : untilTaken key? taken as ≠ as) :
    ∃ a ∈ untilTaken key? taken as, (key? a).isSome = true := by
  induction as with
  | nil => exact absurd rfl h
  | cons a rest ih =>
      have hfree : (key? a).any taken = false := by
        cases key? a with
        | none => rfl
        | some k => exact htaken k
      rw [untilTaken, if_neg (by simp [hfree])] at h ⊢
      cases hkey : key? a with
      | some k => exact ⟨a, List.mem_cons_self, by rw [hkey]; rfl⟩
      | none =>
          have hsame : (fun k => taken k || decide (key? a = some k)) = taken := by
            funext k
            simp [hkey]
          rw [hkey] at hsame
          simp only [hkey, hsame] at h ⊢
          obtain ⟨b, hb, hsome⟩ := ih fun heq => h (congrArg _ heq)
          exact ⟨b, List.mem_cons_of_mem _ hb, hsome⟩

/-- What an element of a loop of inserts does: it is refused if its key is taken, and otherwise
appends its row, if it has one, and takes its key.  `ready` is what holds before an element and
those after it. -/
structure Inserts {S C R : Type w} {E : Type v} (key? : C → Option κ) (row? : C → Option R)
    (taken : S → κ → Bool) (rows : S → List R) (frame : S → S → Prop)
    (ready : List C → S → Prop) (f : C → Prog S E PUnit) : Prop where
  refl : ∀ s, frame s s
  trans : ∀ s t u, frame s t → frame t u → frame s u
  refused : ∀ c rest s, ready (c :: rest) s → (key? c).any (taken s) = true →
    ∃ e, (f c).run s = (.error e, s)
  inserted : ∀ c rest s, ready (c :: rest) s → (key? c).any (taken s) = false →
    ∃ t, (f c).run s = (.ok ⟨⟩, t) ∧ frame s t ∧ ready rest t ∧
      rows t = rows s ++ (row? c).toList ∧
      taken t = fun k => taken s k || decide (key? c = some k)

/-- The rows up to the first that is refused are stored. -/
theorem Inserts.run {S C R : Type w} {E : Type v} {key? : C → Option κ} {row? : C → Option R}
    {taken : S → κ → Bool} {rows : S → List R} {frame : S → S → Prop}
    {ready : List C → S → Prop} {f : C → Prog S E PUnit}
    (h : Inserts key? row? taken rows frame ready f) {cs : List C} {s : S} (hready : ready cs s) :
    ∃ result t, (Prog.each cs f).run s = (result, t) ∧ frame s t ∧
      rows t = rows s ++ (untilTaken key? (taken s) cs).filterMap row? ∧
      (result.isOk = true ↔ untilTaken key? (taken s) cs = cs) := by
  induction cs generalizing s with
  | nil =>
      refine ⟨.ok ⟨⟩, s, rfl, h.refl s, ?_, ?_⟩ <;> simp [untilTaken, Except.isOk, Except.toBool]
  | cons c rest ih =>
      rw [Prog.run_each_cons, untilTaken]
      cases htaken : (key? c).any (taken s) with
      | true =>
          obtain ⟨e, hrun⟩ := h.refused c rest s hready htaken
          rw [Prog.run_bind_of_error hrun, if_pos rfl]
          refine ⟨.error e, s, rfl, h.refl s, ?_, ?_⟩ <;> simp [Except.isOk, Except.toBool]
      | false =>
          obtain ⟨t, hrun, hframe, hnext, hrows, hkeys⟩ := h.inserted c rest s hready htaken
          obtain ⟨result, u, hrest, hframe', hall, hok⟩ := ih hnext
          rw [Prog.run_bind_of_ok hrun, hrest, if_neg Bool.false_ne_true, ← hkeys]
          refine ⟨result, u, rfl, h.trans s t u hframe hframe', ?_, ?_⟩
          · rw [hall, hrows, List.append_assoc]
            cases hrow : row? c with
            | none => rw [List.filterMap_cons_none hrow, Option.toList_none, List.nil_append]
            | some row => rw [List.filterMap_cons_some hrow, Option.toList_some,
                List.singleton_append]
          · rw [hok, List.cons_inj_right]

end Taken

section Sums

variable {α : Type u} {β : Type v}

/-- A list over two types is without repetitions if its parts in the two are. -/
theorem nodup_sum_iff {ks : List (α ⊕ β)} :
    ks.Nodup ↔ (ks.filterMap Sum.getLeft?).Nodup ∧ (ks.filterMap Sum.getRight?).Nodup := by
  induction ks with
  | nil => simp
  | cons k rest ih =>
      cases k with
      | inl a =>
          have hmem : a ∈ rest.filterMap Sum.getLeft? ↔ Sum.inl a ∈ rest := by
            simp [List.mem_filterMap, Sum.getLeft?_eq_some_iff]
          rw [List.nodup_cons, ih, List.filterMap_cons_some (Sum.getLeft?_inl),
            List.filterMap_cons_none (Sum.getRight?_inl), List.nodup_cons, hmem, and_assoc]
      | inr b =>
          have hmem : b ∈ rest.filterMap Sum.getRight? ↔ Sum.inr b ∈ rest := by
            simp [List.mem_filterMap, Sum.getRight?_eq_some_iff]
          rw [List.nodup_cons, ih, List.filterMap_cons_some (Sum.getRight?_inr),
            List.filterMap_cons_none (Sum.getLeft?_inr), List.nodup_cons, hmem, and_left_comm]

theorem forall_mem_sum_iff {ks : List (α ⊕ β)} {p : α ⊕ β → Prop} :
    (∀ k ∈ ks, p k) ↔
      (∀ a ∈ ks.filterMap Sum.getLeft?, p (.inl a)) ∧ ∀ b ∈ ks.filterMap Sum.getRight?,
      p (.inr b) := by
  simp only [List.mem_filterMap, Sum.getLeft?_eq_some_iff, Sum.getRight?_eq_some_iff,
    exists_eq_right, Sum.forall]

end Sums

end Voxply.Math
