/-
# Programs made of atomic statements

A request handler talks to a store that other requests use at the same time.
Each statement it sends is atomic, but between two of its statements any number
of statements of other requests may run.  `Prog` keeps exactly that structure:
a program returns, fails, or sends one statement and continues with what the
statement saw.  Nothing is rolled back when a program fails.

Two readings are given.  `Prog.run` executes a program alone, from start to
end.  `Pool` executes any number of programs with their statements interleaved
in any order; `Prog.Keeps` is the rely-guarantee condition under which a
relation between the first state and the current one survives every
interleaving.
-/

import Mathlib.Logic.Relation
import Mathlib.Tactic.Common

namespace Voxply.Math

universe u v w

/-- A program over a shared state `S` that fails with an `E` or returns an `A`.
The continuation of a statement is given the state the statement was executed
in, so a query and a write are the same thing. -/
inductive Prog (S : Type u) (E : Type v) (A : Type w) : Type (max u v w) where
  | ret (a : A)
  | fail (e : E)
  | step (act : S → S) (next : S → Prog S E A)

/-- Renaming its errors does not change what a computation returns. -/
theorem mapError_eq_ok_iff {F : Type*} {x : Except E A} {f : E → F} {a : A} :
    x.mapError f = .ok a ↔ x = .ok a := by
  cases x <;> simp [Except.mapError]

theorem toOption_eq_some_iff {x : Except E A} {a : A} : x.toOption = some a ↔ x = .ok a := by
  cases x <;> simp [Except.toOption]

/-- A computation in two parts returns what the second makes of the first. -/
theorem except_bind_eq_ok_iff {B : Type*} {x : Except E A} {f : A → Except E B} {b : B} :
    x.bind f = .ok b ↔ ∃ a, x = .ok a ∧ f a = .ok b := by
  cases x <;> simp [Except.bind]

/-- A list that is made element by element has its elements from the given
ones. -/
theorem exists_of_mem_mapM {B : Type*} {f : A → Except E B} {as : List A} {bs : List B}
    (h : as.mapM f = .ok bs) : ∀ b ∈ bs, ∃ a ∈ as, f a = .ok b := by
  induction as generalizing bs with
  | nil =>
      cases h
      simp
  | cons a rest ih =>
      rw [List.mapM_cons] at h
      cases ha : f a with
      | error e =>
          rw [ha] at h
          cases h
      | ok b =>
          cases hrest : rest.mapM f with
          | error e =>
              rw [ha, hrest] at h
              cases h
          | ok bs' =>
              rw [ha, hrest] at h
              cases h
              intro b' hb'
              rcases List.mem_cons.mp hb' with rfl | hb'
              · exact ⟨a, List.mem_cons_self, ha⟩
              · obtain ⟨a', ha', hf⟩ := ih hrest b' hb'
                exact ⟨a', List.mem_cons_of_mem a ha', hf⟩

namespace Prog

variable {S : Type u} {E : Type v} {A B : Type w}

/-- Continue with the returned value; a failure ends the whole program. -/
def bind : Prog S E A → (A → Prog S E B) → Prog S E B
  | .ret a, f => f a
  | .fail e, _ => .fail e
  | .step act next, f => .step act fun s => (next s).bind f

instance : Monad (Prog S E) where
  pure := .ret
  bind := .bind

/-- Read something off the state. -/
def query (f : S → A) : Prog S E A :=
  .step id fun s => .ret (f s)

/-- A write that always succeeds. -/
def exec (f : S → S) : Prog S E PUnit :=
  .step f fun _ => .ret ⟨⟩

/-- A write that the store may refuse; a refused write changes nothing. -/
def attempt (f : S → Except E S) : Prog S E PUnit :=
  .step (fun s => match f s with | .ok t => t | .error _ => s)
    fun s => match f s with | .ok _ => .ret ⟨⟩ | .error e => .fail e

/-- Lift a computation that does not touch the state. -/
def ofExcept : Except E A → Prog S E A
  | .ok a => .ret a
  | .error e => .fail e

/-- Stop with `e` unless the condition holds. -/
def ensure (c : Prop) [Decidable c] (e : E) : Prog S E PUnit :=
  if c then .ret ⟨⟩ else .fail e

/-- Run a block only if the condition holds. -/
def when (c : Prop) [Decidable c] (p : Prog S E PUnit) : Prog S E PUnit :=
  if c then p else .ret ⟨⟩

/-- Run a block only on a value that is present. -/
def whenSome {C : Type w} (o : Option C) (f : C → Prog S E PUnit) : Prog S E PUnit :=
  match o with
  | some c => f c
  | none => .ret ⟨⟩

/-- Run a block for every element of a list, in order. -/
def each {C : Type w} : List C → (C → Prog S E PUnit) → Prog S E PUnit
  | [], _ => .ret ⟨⟩
  | c :: rest, f => (f c).bind fun _ => each rest f

/-- Continue after a failure as well. -/
def recover : Prog S E A → (E → Prog S E A) → Prog S E A
  | .ret a, _ => .ret a
  | .fail e, handle => handle e
  | .step act next, handle => .step act fun s => (next s).recover handle

/-- Give a failure another form. -/
def mapFail {F : Type v} (f : E → F) : Prog S E A → Prog S F A
  | .ret a => .ret a
  | .fail e => .fail (f e)
  | .step act next => .step act fun s => (next s).mapFail f

/-! ## Programs in other words -/

theorem bind_assoc {C : Type w} (p : Prog S E A) (f : A → Prog S E B) (g : B → Prog S E C) :
    p >>= f >>= g = p >>= fun a => f a >>= g := by
  show (p.bind f).bind g = p.bind fun a => (f a).bind g
  induction p with
  | ret a => rfl
  | fail e => rfl
  | step act next ih => exact congrArg (step act) (funext ih)

/-! ## Running alone -/

/-- Execute a program with nothing else going on. The state is returned after a
failure as well. -/
def run : Prog S E A → S → Except E A × S
  | .ret a, s => (.ok a, s)
  | .fail e, s => (.error e, s)
  | .step act next, s => (next s).run (act s)

@[simp]
theorem run_ret (a : A) (s : S) : (ret a : Prog S E A).run s = (.ok a, s) := rfl

@[simp]
theorem run_fail (e : E) (s : S) : (fail e : Prog S E A).run s = (.error e, s) := rfl

@[simp]
theorem run_pure (a : A) (s : S) : (pure a : Prog S E A).run s = (.ok a, s) := rfl

@[simp]
theorem run_query (f : S → A) (s : S) : (query f : Prog S E A).run s = (.ok (f s), s) := rfl

@[simp]
theorem run_exec (f : S → S) (s : S) : (exec f : Prog S E PUnit).run s = (.ok ⟨⟩, f s) := rfl

theorem run_attempt (f : S → Except E S) (s : S) :
    (attempt f).run s = match f s with
      | .ok t => (.ok ⟨⟩, t)
      | .error e => (.error e, s) := by
  cases hf : f s <;> simp [attempt, run, hf]

@[simp]
theorem run_ofExcept (x : Except E A) (s : S) : (ofExcept x : Prog S E A).run s = (x, s) := by
  cases x <;> rfl

theorem run_ensure_of_pos {c : Prop} [Decidable c] (hc : c) (e : E) (s : S) :
    (ensure c e : Prog S E PUnit).run s = (.ok ⟨⟩, s) := by
  rw [ensure, if_pos hc, run_ret]

theorem run_ensure_of_neg {c : Prop} [Decidable c] (hc : ¬ c) (e : E) (s : S) :
    (ensure c e : Prog S E PUnit).run s = (.error e, s) := by
  rw [ensure, if_neg hc, run_fail]

theorem run_mapFail {F : Type v} (f : E → F) (p : Prog S E A) (s : S) :
    (p.mapFail f).run s = ((p.run s).1.mapError f, (p.run s).2) := by
  induction p generalizing s with
  | ret a => rfl
  | fail e => rfl
  | step act next ih => exact ih s (act s)

theorem run_mapFail_of_ok {F : Type v} {f : E → F} {p : Prog S E A} {s t : S} {a : A}
    (h : p.run s = (.ok a, t)) : (p.mapFail f).run s = (.ok a, t) := by
  rw [run_mapFail, h]
  rfl

theorem run_mapFail_of_error {F : Type v} {f : E → F} {p : Prog S E A} {s t : S} {e : E}
    (h : p.run s = (.error e, t)) : (p.mapFail f).run s = (.error (f e), t) := by
  rw [run_mapFail, h]
  rfl

theorem run_recover (p : Prog S E A) (handle : E → Prog S E A) (s : S) :
    (p.recover handle).run s = match p.run s with
      | (.ok a, t) => (.ok a, t)
      | (.error e, t) => (handle e).run t := by
  induction p generalizing s with
  | ret a => rfl
  | fail e => rfl
  | step act next ih => exact ih s (act s)

theorem run_recover_of_ok {p : Prog S E A} {handle : E → Prog S E A} {s t : S} {a : A}
    (h : p.run s = (.ok a, t)) : (p.recover handle).run s = (.ok a, t) := by
  rw [run_recover, h]

/-- Run the first part, then the rest on what it returned. -/
theorem run_bind (p : Prog S E A) (f : A → Prog S E B) (s : S) :
    (p.bind f).run s = match p.run s with
      | (.ok a, t) => (f a).run t
      | (.error e, t) => (.error e, t) := by
  induction p generalizing s with
  | ret a => rfl
  | fail e => rfl
  | step act next ih => exact ih s (act s)

theorem run_bind' (p : Prog S E A) (f : A → Prog S E B) (s : S) :
    (p >>= f).run s = match p.run s with
      | (.ok a, t) => (f a).run t
      | (.error e, t) => (.error e, t) :=
  run_bind p f s

theorem run_bind_of_ok {p : Prog S E A} {f : A → Prog S E B} {s t : S} {a : A}
    (h : p.run s = (.ok a, t)) : (p >>= f).run s = (f a).run t := by
  rw [run_bind', h]

theorem run_bind_of_error {p : Prog S E A} {f : A → Prog S E B} {s t : S} {e : E}
    (h : p.run s = (.error e, t)) : (p >>= f).run s = (.error e, t) := by
  rw [run_bind', h]

theorem run_each_cons {C : Type w} (c : C) (rest : List C) (f : C → Prog S E PUnit) (s : S) :
    (each (c :: rest) f).run s = (f c >>= fun _ => each rest f).run s := rfl

theorem run_each_of_ret {C : Type w} {cs : List C} {f : C → Prog S E PUnit}
    (h : ∀ c ∈ cs, f c = ret ⟨⟩) (s : S) : (each cs f).run s = (.ok ⟨⟩, s) := by
  induction cs with
  | nil => rfl
  | cons c rest ih =>
      rw [run_each_cons, h c List.mem_cons_self]
      exact ih fun c' hc' => h c' (List.mem_cons_of_mem c hc')

/-- A loop that does something for one of its elements only. -/
theorem run_each_once {C : Type w} [DecidableEq C] {cs : List C} {f : C → Prog S E PUnit} {c : C}
    (hnodup : cs.Nodup) (hothers : ∀ c', c' ≠ c → f c' = ret ⟨⟩) {s t : S}
    (hrun : (f c).run s = (.ok ⟨⟩, t)) :
    (each cs f).run s = (.ok ⟨⟩, if c ∈ cs then t else s) := by
  induction cs with
  | nil => rfl
  | cons first rest ih =>
      rw [List.nodup_cons] at hnodup
      rw [run_each_cons]
      by_cases heq : first = c
      · subst heq
        rw [run_bind_of_ok hrun, if_pos List.mem_cons_self]
        apply run_each_of_ret
        intro c' hc'
        apply hothers
        rintro rfl
        exact hnodup.1 hc'
      · rw [hothers first heq]
        show (each rest f).run s = _
        rw [ih hnodup.2]
        simp [Ne.symm heq]

/-- Either the first part stops the program, or the rest runs from where it
ended. -/
theorem run_bind_cases {p : Prog S E A} {f : A → Prog S E B} {s t : S} {r : Except E B}
    (h : (p >>= f).run s = (r, t)) :
    (∃ e, p.run s = (.error e, t) ∧ r = .error e) ∨
      ∃ a u, p.run s = (.ok a, u) ∧ (f a).run u = (r, t) := by
  rw [run_bind'] at h
  rcases hp : p.run s with ⟨e | a, u⟩
  · rw [hp] at h
    cases h
    exact .inl ⟨e, rfl, rfl⟩
  · rw [hp] at h
    exact .inr ⟨a, u, rfl, h⟩

/-! ## Success -/

/-- The program returns. -/
def Succeeds (p : Prog S E A) (s : S) : Prop :=
  ∃ a, (p.run s).1 = .ok a

theorem not_succeeds_iff {p : Prog S E A} {s : S} :
    ¬ p.Succeeds s ↔ ∃ e, (p.run s).1 = .error e := by
  unfold Succeeds
  cases (p.run s).1 with
  | error e => simp
  | ok a => simp

@[simp]
theorem succeeds_pure (a : A) (s : S) : (pure a : Prog S E A).Succeeds s :=
  ⟨a, rfl⟩

@[simp]
theorem not_succeeds_fail (e : E) (s : S) : ¬ (fail e : Prog S E A).Succeeds s :=
  fun ⟨_, h⟩ => by cases h

/-- A first part that returns hands over to the rest. -/
theorem succeeds_bind_of_ok {p : Prog S E A} {f : A → Prog S E B} {s t : S} {a : A}
    (h : p.run s = (.ok a, t)) : (p >>= f).Succeeds s ↔ (f a).Succeeds t := by
  rw [Succeeds, run_bind_of_ok h, Succeeds]

/-- A first part that fails ends everything. -/
theorem not_succeeds_bind_of_error {p : Prog S E A} {f : A → Prog S E B} {s t : S} {e : E}
    (h : p.run s = (.error e, t)) : ¬ (p >>= f).Succeeds s := by
  rw [Succeeds, run_bind_of_error h]
  rintro ⟨a, ha⟩
  cases ha

@[simp]
theorem succeeds_query_bind (f : S → A) (g : A → Prog S E B) (s : S) :
    (query f >>= g).Succeeds s ↔ (g (f s)).Succeeds s :=
  succeeds_bind_of_ok rfl

@[simp]
theorem succeeds_exec_bind (f : S → S) (g : PUnit → Prog S E A) (s : S) :
    (exec f >>= g).Succeeds s ↔ (g ⟨⟩).Succeeds (f s) :=
  succeeds_bind_of_ok rfl

@[simp]
theorem succeeds_ensure_bind {c : Prop} [Decidable c] {e : E} {f : PUnit → Prog S E A} {s : S} :
    (ensure c e >>= f).Succeeds s ↔ c ∧ (f ⟨⟩).Succeeds s := by
  by_cases hc : c
  · rw [succeeds_bind_of_ok (run_ensure_of_pos hc e s), and_iff_right hc]
  · have hfails := @not_succeeds_bind_of_error _ _ _ _ _ f _ _ _ (run_ensure_of_neg hc e s)
    exact iff_of_false hfails fun h => hc h.1

theorem succeeds_bind_iff {p : Prog S E A} {f : A → Prog S E B} {s : S} :
    (p >>= f).Succeeds s ↔ ∃ a, (p.run s).1 = .ok a ∧ (f a).Succeeds (p.run s).2 := by
  rcases hp : p.run s with ⟨e | a, t⟩
  · have hfails := @not_succeeds_bind_of_error _ _ _ _ _ f _ _ _ hp
    simp [hfails]
  · rw [succeeds_bind_of_ok hp]
    simp

/-! ## Frames -/

/-- However the program ends, it leaves a state related to the one it started
in. -/
def Changes (rel : S → S → Prop) (p : Prog S E A) : Prop :=
  ∀ s, rel s (p.run s).2

section Changes

variable {rel : S → S → Prop}

theorem Changes.bind (htrans : ∀ a b c, rel a b → rel b c → rel a c) {p : Prog S E A}
    {f : A → Prog S E B} (hp : p.Changes rel) (hf : ∀ a, (f a).Changes rel) :
    (p >>= f).Changes rel := by
  intro s
  have hfirst := hp s
  rw [run_bind']
  rcases hrun : p.run s with ⟨e | a, u⟩
  · rwa [hrun] at hfirst
  · rw [hrun] at hfirst
    exact htrans _ _ _ hfirst (hf a u)

/-- After a first part, the rest of a program moves the state as the rest
does. -/
theorem run_bind_changes (hrefl : ∀ a, rel a a) (p : Prog S E A) {f : A → Prog S E B}
    (hf : ∀ a, (f a).Changes rel) (s : S) : rel (p.run s).2 ((p >>= f).run s).2 := by
  rw [run_bind']
  rcases p.run s with ⟨e | a, t⟩
  · exact hrefl t
  · exact hf a t

theorem changes_ret (hrefl : ∀ a, rel a a) (a : A) : (ret a : Prog S E A).Changes rel :=
  hrefl

theorem changes_fail (hrefl : ∀ a, rel a a) (e : E) : (fail e : Prog S E A).Changes rel :=
  hrefl

theorem changes_query (hrefl : ∀ a, rel a a) (f : S → A) :
    (query f : Prog S E A).Changes rel :=
  hrefl

theorem changes_exec {f : S → S} (h : ∀ s, rel s (f s)) :
    (exec f : Prog S E PUnit).Changes rel :=
  h

theorem changes_ofExcept (hrefl : ∀ a, rel a a) (x : Except E A) :
    (ofExcept x : Prog S E A).Changes rel := by
  intro s
  rw [run_ofExcept]
  exact hrefl s

theorem changes_ensure (hrefl : ∀ a, rel a a) {c : Prop} [Decidable c] {e : E} :
    (ensure c e : Prog S E PUnit).Changes rel := by
  unfold ensure
  split_ifs
  · exact changes_ret hrefl _
  · exact changes_fail hrefl _

theorem changes_when (hrefl : ∀ a, rel a a) {c : Prop} [Decidable c] {p : Prog S E PUnit}
    (hp : p.Changes rel) : (when c p).Changes rel := by
  unfold when
  split_ifs
  · exact hp
  · exact changes_ret hrefl _

theorem changes_whenSome (hrefl : ∀ a, rel a a) {C : Type w} {o : Option C}
    {f : C → Prog S E PUnit} (hf : ∀ c, (f c).Changes rel) : (whenSome o f).Changes rel := by
  cases o with
  | none => exact changes_ret hrefl _
  | some c => exact hf c

theorem changes_each_mem (hrefl : ∀ a, rel a a) (htrans : ∀ a b c, rel a b → rel b c → rel a c)
    {C : Type w} {cs : List C} {f : C → Prog S E PUnit} (hf : ∀ c ∈ cs, (f c).Changes rel) :
    (each cs f).Changes rel := by
  induction cs with
  | nil => exact changes_ret hrefl _
  | cons c rest ih =>
      apply Changes.bind htrans (hf c List.mem_cons_self)
      exact fun _ => ih fun c' hc' => hf c' (List.mem_cons_of_mem c hc')

theorem changes_each (hrefl : ∀ a, rel a a) (htrans : ∀ a b c, rel a b → rel b c → rel a c)
    {C : Type w} {cs : List C} {f : C → Prog S E PUnit} (hf : ∀ c, (f c).Changes rel) :
    (each cs f).Changes rel :=
  changes_each_mem hrefl htrans fun c _ => hf c

/-- A program that leaves the state as it is. -/
abbrev Reads (p : Prog S E A) : Prop :=
  p.Changes fun s t => t = s

/-- What only reads stays within every frame. -/
theorem Reads.changes (hrefl : ∀ a, rel a a) {p : Prog S E A} (hp : p.Reads) : p.Changes rel := by
  intro s
  rw [hp s]
  exact hrefl s

/-- After a first part that only reads, either the program has stopped or the
rest runs from the same state. -/
theorem Reads.run_bind_cases {p : Prog S E A} {f : A → Prog S E B} (hp : p.Reads) {s t : S}
    {r : Except E B} (h : (p >>= f).run s = (r, t)) :
    t = s ∨ ∃ a, p.run s = (.ok a, s) ∧ (f a).run s = (r, t) := by
  rcases Prog.run_bind_cases h with ⟨e, hrun, -⟩ | ⟨a, u, hrun, hrest⟩
  · have hsame := hp s
    rw [hrun] at hsame
    exact .inl hsame
  · have hsame := hp s
    rw [hrun] at hsame
    change u = s at hsame
    subst hsame
    exact .inr ⟨a, hrun, hrest⟩

/-- A program that returns has passed its first part. -/
theorem Reads.run_bind_ok {p : Prog S E A} {f : A → Prog S E B} (hp : p.Reads) {s t : S} {b : B}
    (h : (p >>= f).run s = (.ok b, t)) :
    ∃ a, p.run s = (.ok a, s) ∧ (f a).run s = (.ok b, t) := by
  rcases Prog.run_bind_cases h with ⟨e, -, hr⟩ | ⟨a, u, hrun, hrest⟩
  · cases hr
  · have hsame := hp s
    rw [hrun] at hsame
    change u = s at hsame
    subst hsame
    exact ⟨a, hrun, hrest⟩

/-- What only reads returns in the state it was started in. -/
theorem Reads.succeeds_iff {p : Prog S E PUnit} (hp : p.Reads) {s : S} :
    p.Succeeds s ↔ p.run s = (.ok ⟨⟩, s) := by
  have hsame := hp s
  unfold Succeeds
  rcases hrun : p.run s with ⟨e | a, t⟩
  · simp
  · rw [hrun] at hsame
    cases hsame
    simp

theorem succeeds_whenSome_iff {C : Type w} {o : Option C} {f : C → Prog S E PUnit} {s : S} :
    (whenSome o f).Succeeds s ↔ ∀ c ∈ o, (f c).Succeeds s := by
  cases o with
  | none => exact iff_of_true ⟨⟨⟩, rfl⟩ fun c hc => by cases hc
  | some c => simp [whenSome]

theorem reads_query (f : S → A) : (query f : Prog S E A).Reads :=
  fun _ => rfl

theorem reads_ensure {c : Prop} [Decidable c] {e : E} : (ensure c e : Prog S E PUnit).Reads :=
  @changes_ensure S E (fun s t => t = s) (fun _ => rfl) c _ e

theorem reads_ofExcept (x : Except E A) : (ofExcept x : Prog S E A).Reads := by
  cases x <;> exact fun _ => rfl

theorem reads_when {c : Prop} [Decidable c] {p : Prog S E PUnit} (hp : p.Reads) :
    (when c p).Reads :=
  @changes_when S E (fun s t => t = s) (fun _ => rfl) c _ p hp

theorem reads_whenSome {C : Type w} {o : Option C} {f : C → Prog S E PUnit}
    (hf : ∀ c, (f c).Reads) : (whenSome o f).Reads :=
  @changes_whenSome S E (fun s t => t = s) (fun _ => rfl) C o f hf

theorem Reads.bind {p : Prog S E A} {f : A → Prog S E B} (hp : p.Reads) (hf : ∀ a, (f a).Reads) :
    (p >>= f).Reads :=
  Changes.bind (fun _ _ _ hab hbc => hbc.trans hab) hp hf

end Changes

/-! ## Postconditions -/

/-- Run alone, the program ends with an answer and in a state that satisfy the
condition. -/
def Ends (p : Prog S E A) (s : S) (post : Except E A → S → Prop) : Prop :=
  post (p.run s).1 (p.run s).2

section Ends

variable {s : S} {post : Except E B → S → Prop}

/-- A first part that returns hands over to the rest. -/
theorem ends_bind_of_ok {p : Prog S E A} {f : A → Prog S E B} {t : S} {a : A}
    (h : p.run s = (.ok a, t)) : (p >>= f).Ends s post ↔ (f a).Ends t post := by
  rw [Ends, run_bind_of_ok h, Ends]

/-- After a first part, its postcondition is what the rest starts from. -/
theorem Ends.bind {p : Prog S E A} {f : A → Prog S E B} {mid : Except E A → S → Prop}
    (hp : p.Ends s mid) (herror : ∀ e t, mid (.error e) t → post (.error e) t)
    (hok : ∀ a t, mid (.ok a) t → (f a).Ends t post) : (p >>= f).Ends s post := by
  unfold Ends at hp
  rcases hrun : p.run s with ⟨e | a, t⟩
  · rw [hrun] at hp
    rw [Ends, run_bind_of_error hrun]
    exact herror e t hp
  · rw [hrun] at hp
    rw [ends_bind_of_ok hrun]
    exact hok a t hp

/-- A first part that only reads fails, or hands over in the same state. -/
theorem Reads.ends_bind {p : Prog S E A} {f : A → Prog S E B} (hp : p.Reads)
    (herror : ∀ e, post (.error e) s)
    (hok : ∀ a, p.run s = (.ok a, s) → (f a).Ends s post) : (p >>= f).Ends s post := by
  have hsame := hp s
  rcases hrun : p.run s with ⟨e | a, t⟩
  · rw [hrun] at hsame
    cases hsame
    rw [Ends, run_bind_of_error hrun]
    exact herror e
  · rw [hrun] at hsame
    cases hsame
    rw [ends_bind_of_ok hrun]
    exact hok a hrun

theorem Ends.mono {p : Prog S E B} {post' : Except E B → S → Prop} (h : p.Ends s post)
    (himp : ∀ r t, post r t → post' r t) : p.Ends s post' :=
  himp _ _ h

end Ends

/-- Run alone, and however it ends, the program leaves a state with the property. -/
def Leaves (p : Prog S E A) (s : S) (inv : S → Prop) : Prop :=
  inv (p.run s).2

section Leaves

variable {s : S} {inv : S → Prop}

theorem leaves_bind_of_ok {p : Prog S E A} {f : A → Prog S E B} {t : S} {a : A}
    (h : p.run s = (.ok a, t)) : (p >>= f).Leaves s inv ↔ (f a).Leaves t inv := by
  rw [Leaves, run_bind_of_ok h, Leaves]

theorem Leaves.bind {p : Prog S E A} {f : A → Prog S E B} (hp : p.Leaves s inv)
    (hf : ∀ a t, inv t → (f a).Leaves t inv) : (p >>= f).Leaves s inv := by
  unfold Leaves at hp
  rcases hrun : p.run s with ⟨e | a, t⟩
  · rw [hrun] at hp
    rw [Leaves, run_bind_of_error hrun]
    exact hp
  · rw [hrun] at hp
    rw [leaves_bind_of_ok hrun]
    exact hf a t hp

/-- In a state with the property a first part that only reads has to be looked at
where it returns. -/
theorem Reads.leaves_bind_iff {p : Prog S E A} {f : A → Prog S E B} (hp : p.Reads) (hs : inv s) :
    (p >>= f).Leaves s inv ↔ ∀ a, (p.run s).1 = .ok a → (f a).Leaves s inv := by
  have hsame := hp s
  rcases hrun : p.run s with ⟨e | a, t⟩
  · rw [hrun] at hsame
    cases hsame
    rw [Leaves, run_bind_of_error hrun]
    refine iff_of_true hs ?_
    intro a ha
    cases ha
  · rw [hrun] at hsame
    cases hsame
    rw [leaves_bind_of_ok hrun]
    simp

theorem leaves_ensure_bind {c : Prop} [Decidable c] {e : E} {f : PUnit → Prog S E A} (hs : inv s) :
    (ensure c e >>= f).Leaves s inv ↔ (c → (f ⟨⟩).Leaves s inv) := by
  by_cases hc : c
  · rw [leaves_bind_of_ok (run_ensure_of_pos hc e s), imp_iff_right hc]
  · rw [Leaves, run_bind_of_error (run_ensure_of_neg hc e s)]
    exact iff_of_true hs fun h => absurd h hc

end Leaves

/-! ## How programs fail -/

/-- Wherever it is started alone, the program fails with one of these errors, if it
fails. -/
def FailsOnly (bad : E → Prop) (p : Prog S E A) : Prop :=
  ∀ s e, (p.run s).1 = .error e → bad e

section FailsOnly

variable {bad : E → Prop}

theorem FailsOnly.bind {p : Prog S E A} {f : A → Prog S E B} (hp : p.FailsOnly bad)
    (hf : ∀ a, (f a).FailsOnly bad) : (p >>= f).FailsOnly bad := by
  intro s e h
  rcases hrun : p.run s with ⟨e' | a, t⟩
  · rw [run_bind_of_error hrun] at h
    cases h
    exact hp s e (by rw [hrun])
  · rw [run_bind_of_ok hrun] at h
    exact hf a t e h

theorem failsOnly_ret (a : A) : (ret a : Prog S E A).FailsOnly bad :=
  fun _ _ h => nomatch h

theorem failsOnly_fail {e : E} (h : bad e) : (fail e : Prog S E A).FailsOnly bad := by
  intro s e' he
  cases he
  exact h

theorem failsOnly_query (f : S → A) : (query f : Prog S E A).FailsOnly bad :=
  fun _ _ h => nomatch h

theorem failsOnly_exec (f : S → S) : (exec f : Prog S E PUnit).FailsOnly bad :=
  fun _ _ h => nomatch h

theorem failsOnly_attempt {f : S → Except E S} (h : ∀ s e, f s = .error e → bad e) :
    (attempt f).FailsOnly bad := by
  intro s e he
  rw [run_attempt] at he
  cases hf : f s with
  | ok t => simp [hf] at he
  | error e' =>
      rw [hf] at he
      cases he
      exact h s e hf

theorem failsOnly_ofExcept {x : Except E A} (h : ∀ e, x = .error e → bad e) :
    (ofExcept x : Prog S E A).FailsOnly bad := by
  intro s e he
  rw [run_ofExcept] at he
  exact h e he

theorem failsOnly_ensure {c : Prop} [Decidable c] {e : E} (h : bad e) :
    (ensure c e : Prog S E PUnit).FailsOnly bad := by
  by_cases hc : c
  · rw [ensure, if_pos hc]
    exact failsOnly_ret _
  · rw [ensure, if_neg hc]
    exact failsOnly_fail h

theorem failsOnly_when {c : Prop} [Decidable c] {p : Prog S E PUnit} (hp : p.FailsOnly bad) :
    (when c p).FailsOnly bad := by
  by_cases hc : c
  · rwa [when, if_pos hc]
  · rw [when, if_neg hc]
    exact failsOnly_ret _

theorem failsOnly_whenSome {C : Type w} {o : Option C} {f : C → Prog S E PUnit}
    (hf : ∀ c, (f c).FailsOnly bad) : (whenSome o f).FailsOnly bad := by
  cases o with
  | none => exact failsOnly_ret _
  | some c => exact hf c

theorem failsOnly_each {C : Type w} {cs : List C} {f : C → Prog S E PUnit}
    (hf : ∀ c, (f c).FailsOnly bad) : (each cs f).FailsOnly bad := by
  induction cs with
  | nil => exact failsOnly_ret _
  | cons c rest ih => exact FailsOnly.bind (hf c) fun _ => ih

end FailsOnly

/-! ## Programs that return -/

/-- Run alone from a state with the property, the program returns and leaves one
with the property. -/
def Returns (inv : S → Prop) (p : Prog S E A) : Prop :=
  ∀ s, inv s → ∃ a t, p.run s = (.ok a, t) ∧ inv t

section Returns

variable {inv : S → Prop}

theorem Returns.bind {p : Prog S E A} {f : A → Prog S E B} (hp : p.Returns inv)
    (hf : ∀ a, (f a).Returns inv) : (p >>= f).Returns inv := by
  intro s hs
  obtain ⟨a, t, hrun, ht⟩ := hp s hs
  rw [run_bind_of_ok hrun]
  exact hf a t ht

theorem returns_ret (a : A) : (ret a : Prog S E A).Returns inv :=
  fun s hs => ⟨a, s, rfl, hs⟩

theorem returns_query (f : S → A) : (query f : Prog S E A).Returns inv :=
  fun s hs => ⟨f s, s, rfl, hs⟩

theorem returns_exec {f : S → S} (h : ∀ s, inv s → inv (f s)) :
    (exec f : Prog S E PUnit).Returns inv :=
  fun s hs => ⟨⟨⟩, f s, rfl, h s hs⟩

theorem returns_each {C : Type w} {cs : List C} {f : C → Prog S E PUnit}
    (hf : ∀ c, (f c).Returns inv) : (each cs f).Returns inv := by
  induction cs with
  | nil => exact returns_ret _
  | cons c rest ih => exact Returns.bind (hf c) fun _ => ih

end Returns

/-! ## Changes a program does not see -/

/-- The program answers the same after the change `f`, and the change is still
there when it ends. -/
def Ignores (f : S → S) (p : Prog S E A) : Prop :=
  ∀ s, p.run (f s) = ((p.run s).1, f (p.run s).2)

section Ignores

variable {f : S → S}

theorem Ignores.bind {p : Prog S E A} {g : A → Prog S E B} (hp : p.Ignores f)
    (hg : ∀ a, (g a).Ignores f) : (p >>= g).Ignores f := by
  intro s
  rw [run_bind', run_bind', hp s]
  rcases p.run s with ⟨e | a, t⟩
  · rfl
  · exact hg a t

theorem ignores_ret (a : A) : (ret a : Prog S E A).Ignores f :=
  fun _ => rfl

theorem ignores_fail (e : E) : (fail e : Prog S E A).Ignores f :=
  fun _ => rfl

theorem ignores_query {q : S → A} (h : ∀ s, q (f s) = q s) :
    (query q : Prog S E A).Ignores f := by
  intro s
  rw [run_query, run_query, h s]

theorem ignores_exec {act : S → S} (h : ∀ s, act (f s) = f (act s)) :
    (exec act : Prog S E PUnit).Ignores f := by
  intro s
  rw [run_exec, run_exec, h s]

theorem ignores_ofExcept (x : Except E A) : (ofExcept x : Prog S E A).Ignores f := by
  intro s
  rw [run_ofExcept, run_ofExcept]

theorem ignores_ensure {c : Prop} [Decidable c] {e : E} :
    (ensure c e : Prog S E PUnit).Ignores f := by
  unfold ensure
  split_ifs
  · exact ignores_ret _
  · exact ignores_fail _

theorem ignores_when {c : Prop} [Decidable c] {p : Prog S E PUnit} (hp : p.Ignores f) :
    (when c p).Ignores f := by
  unfold when
  split_ifs
  · exact hp
  · exact ignores_ret _

end Ignores

/-! ## Rely and guarantee -/

/-- From the state `s`, with other programs moving the state along `rel` before
every statement and before the end, each statement of the program keeps `rel`,
and a returned value satisfies `post`. -/
def Keeps (rel : S → S → Prop) (post : A → S → Prop) : Prog S E A → S → Prop
  | .ret a, s => ∀ t, rel s t → post a t
  | .fail _, _ => True
  | .step act next, s => ∀ t, rel s t → rel t (act t) ∧ (next t).Keeps rel post (act t)

section Keeps

variable {rel : S → S → Prop} {post : A → S → Prop} {s : S}

/-- Nothing the others do between two statements can break the condition. -/
theorem Keeps.stable (htrans : ∀ a b c, rel a b → rel b c → rel a c) {p : Prog S E A} {t : S}
    (h : p.Keeps rel post s) (hst : rel s t) : p.Keeps rel post t := by
  cases p with
  | ret a => exact fun t' htt' => h t' (htrans _ _ _ hst htt')
  | fail e => trivial
  | step act next => exact fun t' htt' => h t' (htrans _ _ _ hst htt')

/-- The rule for sequencing. -/
theorem Keeps.bind (hrefl : ∀ a, rel a a) {p : Prog S E A} {f : A → Prog S E B}
    {post' : B → S → Prop} (h : p.Keeps rel post s)
    (hf : ∀ a t, post a t → (f a).Keeps rel post' t) : (p >>= f).Keeps rel post' s := by
  change (p.bind f).Keeps rel post' s
  induction p generalizing s with
  | ret a => exact hf a s (h s (hrefl s))
  | fail e => trivial
  | step act next ih =>
      intro t hst
      exact ⟨(h t hst).1, ih t (h t hst).2⟩

/-- A query moves nothing; what it returns is known up to what the others do
afterwards. -/
theorem keeps_query (hrefl : ∀ a, rel a a) {f : S → A}
    (h : ∀ t t', rel s t → rel t t' → post (f t) t') :
    (query f : Prog S E A).Keeps rel post s :=
  fun t hst => ⟨hrefl t, fun t' htt' => h t t' hst htt'⟩

/-- A write has to keep the relation in whatever state it finds. -/
theorem keeps_attempt (hrefl : ∀ a, rel a a) {f : S → Except E S} {post : PUnit → S → Prop}
    (h : ∀ t t', rel s t → f t = .ok t' → rel t t' ∧ ∀ t'', rel t' t'' → post ⟨⟩ t'') :
    (attempt f).Keeps rel post s := by
  intro t hst
  dsimp only
  cases hf : f t with
  | ok t' => exact h t t' hst hf
  | error e => exact ⟨hrefl t, trivial⟩

theorem keeps_ofExcept {x : Except E A} (h : ∀ a, x = .ok a → ∀ t, rel s t → post a t) :
    (ofExcept x : Prog S E A).Keeps rel post s := by
  cases x with
  | ok a => exact h a rfl
  | error e => trivial

theorem keeps_ensure {c : Prop} [Decidable c] {e : E} {inv : S → Prop}
    (h : c → ∀ t, rel s t → inv t) :
    (ensure c e : Prog S E PUnit).Keeps rel (fun _ => inv) s := by
  unfold ensure
  split_ifs with hc
  · exact h hc
  · trivial

theorem keeps_when {c : Prop} [Decidable c] {p : Prog S E PUnit} {inv : S → Prop}
    (hp : c → p.Keeps rel (fun _ => inv) s) (hskip : ∀ t, rel s t → inv t) :
    (when c p).Keeps rel (fun _ => inv) s := by
  unfold when
  split_ifs with hc
  · exact hp hc
  · exact hskip

theorem keeps_whenSome {C : Type w} {o : Option C} {f : C → Prog S E PUnit} {inv : S → Prop}
    (hf : ∀ c, o = some c → (f c).Keeps rel (fun _ => inv) s)
    (hskip : ∀ t, rel s t → inv t) : (whenSome o f).Keeps rel (fun _ => inv) s := by
  cases o with
  | none => exact hskip
  | some c => exact hf c rfl

/-- The loop rule: an assertion that the others cannot break and that every
round re-establishes. -/
theorem keeps_each (hrefl : ∀ a, rel a a) {C : Type w} {cs : List C}
    {f : C → Prog S E PUnit} {inv : S → Prop}
    (hstable : ∀ {t t'}, inv t → rel t t' → inv t')
    (hf : ∀ c ∈ cs, ∀ t, inv t → (f c).Keeps rel (fun _ => inv) t) (hs : inv s) :
    (each cs f).Keeps rel (fun _ => inv) s := by
  induction cs generalizing s with
  | nil => exact fun t hst => hstable hs hst
  | cons c rest ih =>
      refine Keeps.bind hrefl (hf c List.mem_cons_self s hs) fun _ t ht => ?_
      exact ih (fun c' hc' => hf c' (List.mem_cons_of_mem c hc')) ht

end Keeps

end Prog

/-! ## Interleaved execution -/

/-- A shared state and the programs in progress over it. Programs that have
returned or failed stay in the list and do nothing. -/
structure Pool (S : Type u) (E : Type v) (A : Type w) where
  state : S
  running : List (Prog S E A)

namespace Pool

variable {S : Type u} {E : Type v} {A : Type w}

/-- One move: an allowed program starts, or any program in progress
executes its next statement. -/
inductive Step (allowed : Prog S E A → Prop) : Pool S E A → Pool S E A → Prop
  | start {state : S} {running : List (Prog S E A)} (p : Prog S E A) (h : allowed p) :
      Step allowed ⟨state, running⟩ ⟨state, p :: running⟩
  | exec {state : S} (before after : List (Prog S E A)) (act : S → S)
      (next : S → Prog S E A) :
      Step allowed ⟨state, before ++ .step act next :: after⟩
        ⟨act state, before ++ next state :: after⟩

/-- What some schedule of admitted programs leads to from a quiet state. -/
def Reachable (allowed : Prog S E A → Prop) (s : S) (pool : Pool S E A) : Prop :=
  Relation.ReflTransGen (Step allowed) ⟨s, []⟩ pool

variable {allowed : Prog S E A → Prop} {rel : S → S → Prop} {post : A → S → Prop} {s : S}

/-- One move keeps the relation to the first state and the condition of every
program in progress. -/
theorem Step.keeps (hrefl : ∀ a, rel a a) (htrans : ∀ a b c, rel a b → rel b c → rel a c)
    (hallowed : ∀ p, allowed p → ∀ t, rel s t → p.Keeps rel post t) {first second : Pool S E A}
    (hstep : Step allowed first second)
    (h : rel s first.state ∧ ∀ p ∈ first.running, p.Keeps rel post first.state) :
    rel s second.state ∧ ∀ p ∈ second.running, p.Keeps rel post second.state := by
  cases hstep with
  | start p hp =>
      refine ⟨h.1, fun q hq => ?_⟩
      rcases List.mem_cons.mp hq with rfl | hq
      · exact hallowed q hp _ h.1
      · exact h.2 q hq
  | @exec state before after act next =>
      have hthis := h.2 (.step act next) (by simp) state (hrefl state)
      have hother : ∀ q ∈ before ++ after, q.Keeps rel post (act state) := by
        intro q hq
        have hq' : q ∈ before ++ .step act next :: after := by
          rw [List.mem_append, List.mem_cons]
          exact (List.mem_append.mp hq).imp_right .inr
        exact (h.2 q hq').stable htrans hthis.1
      refine ⟨htrans _ _ _ h.1 hthis.1, fun q hq => ?_⟩
      rw [List.mem_append, List.mem_cons] at hq
      rcases hq with hq | rfl | hq
      · exact hother q (List.mem_append_left after hq)
      · exact hthis.2
      · exact hother q (List.mem_append_right before hq)

/-- Every interleaving of programs that keep a preorder stays inside it. -/
theorem Reachable.rel_state (hrefl : ∀ a, rel a a)
    (htrans : ∀ a b c, rel a b → rel b c → rel a c)
    (hallowed : ∀ p, allowed p → ∀ t, rel s t → p.Keeps rel post t) {pool : Pool S E A}
    (h : Reachable allowed s pool) : rel s pool.state := by
  have hall : rel s pool.state ∧ ∀ p ∈ pool.running, p.Keeps rel post pool.state := by
    induction h with
    | refl => exact ⟨hrefl s, by simp⟩
    | tail _ hstep ih => exact hstep.keeps hrefl htrans hallowed ih
  exact hall.1

/-- A program in progress can be executed to its end while the others wait. -/
theorem exec_run (p : Prog S E A) (t : S) (rest : List (Prog S E A)) :
    ∃ q, Relation.ReflTransGen (Step allowed) ⟨t, p :: rest⟩ ⟨(p.run t).2, q :: rest⟩ := by
  induction p generalizing t with
  | ret a => exact ⟨_, .refl⟩
  | fail e => exact ⟨_, .refl⟩
  | step act next ih =>
      obtain ⟨q, hq⟩ := ih t (act t)
      exact ⟨q, .head (.exec [] rest act next) hq⟩

/-- Running admitted programs one after the other is one of the schedules. -/
theorem Reachable.run {pool : Pool S E A} (h : Reachable allowed s pool) {p : Prog S E A}
    (hp : allowed p) :
    ∃ running, Reachable allowed s ⟨(p.run pool.state).2, running⟩ := by
  obtain ⟨q, hq⟩ := exec_run p pool.state pool.running
  exact ⟨_, (h.tail (.start p hp)).trans hq⟩

end Pool

end Voxply.Math
