/-
# Documents and derived readers

A document as a parser sees it, with the members of an object in the order of the
text.  Text that is skipped need not be valid; such a string or key is `none` here.

Readers of records are the derived ones: they know the names of their fields, skip
every other member of an object, refuse a field that comes twice, and take an array
of the right length as the fields in the order of their declaration.
-/

import Mathlib.Algebra.Group.Int.Defs
import Mathlib.Data.List.Basic
import Mathlib.Tactic.Common

namespace Voxply.Math

/-- A document. Numbers that are not integers keep their spelling. -/
inductive Json where
  | null
  | bool (b : Bool)
  | int (n : Int)
  | float (literal : String)
  | string (text : Option String)
  | array (items : List Json)
  | object (members : List (Option String × Json))

/-- The members of an object. -/
abbrev Members := List (Option String × Json)

namespace Json

universe u

variable {α : Type u}

/-! ## Values -/

def asText : Json → Option String
  | .string text => text
  | _ => none

def asBool : Json → Option Bool
  | .bool b => some b
  | _ => none

def asUInt8 : Json → Option UInt8
  | .int n => if 0 ≤ n ∧ n < 2 ^ 8 then some (UInt8.ofNat n.toNat) else none
  | _ => none

def asInt64 : Json → Option Int64
  | .int n => if -2 ^ 63 ≤ n ∧ n < 2 ^ 63 then some (Int64.ofInt n) else none
  | _ => none

/-- A value that may be missing. -/
def nullable (read : Json → Option α) : Json → Option (Option α)
  | .null => some none
  | value => (read value).map some

@[simp]
theorem asUInt8_int (n : UInt8) : asUInt8 (.int n.toNat) = some n := by
  have hn := n.toNat_lt
  simp [asUInt8, show (n.toNat : Int) < 256 by omega]

@[simp]
theorem asInt64_int (n : Int64) : asInt64 (.int n.toInt) = some n := by
  have hlow := n.le_toInt
  have hhigh := n.toInt_lt
  rw [asInt64, if_pos ⟨hlow, hhigh⟩, Int64.ofInt_toInt]

@[simp]
theorem asText_string (text : String) : asText (.string (some text)) = some text := rfl

/-- An optional text, `null` if there is none. -/
def ofTextOption : Option String → Json
  | some text => .string (some text)
  | none => .null

@[simp]
theorem nullable_asText_ofTextOption (text : Option String) :
    nullable asText (ofTextOption text) = some text := by
  cases text <;> rfl

/-! ## Fields -/

/-- All keys of an object are valid text. -/
def keysValid (members : Members) : Bool :=
  members.all (·.1.isSome)

/-- The values under a key. -/
def valuesOf (members : Members) (name : String) : List Json :=
  members.filterMap fun member => if member.1 = some name then some member.2 else none

theorem valuesOf_nil (name : String) : valuesOf [] name = [] := rfl

theorem valuesOf_cons (key : Option String) (value : Json) (rest : Members) (name : String) :
    valuesOf ((key, value) :: rest) name =
      if key = some name then value :: valuesOf rest name else valuesOf rest name := by
  by_cases hkey : key = some name <;> simp [valuesOf, hkey]

theorem valuesOf_append (first rest : Members) (name : String) :
    valuesOf (first ++ rest) name = valuesOf first name ++ valuesOf rest name :=
  List.filterMap_append

/-- A field that has to be there. -/
def required (members : Members) (name : String) (read : Json → Option α) : Option α :=
  match valuesOf members name with
  | [value] => read value
  | _ => none

/-- A field that may be left out or `null`. -/
def optional (members : Members) (name : String) (read : Json → Option α) : Option (Option α) :=
  match valuesOf members name with
  | [] => some none
  | [value] => nullable read value
  | _ => none

end Json

end Voxply.Math
