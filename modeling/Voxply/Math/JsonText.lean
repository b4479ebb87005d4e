/-
# Compact document texts

A document is written without white space.  Quotation marks, backslashes and control
characters are escaped in its texts, so that a text ends at the first quotation mark that is
not escaped, and every part of a document can be told from its text, whatever follows it.

Only texts, arrays and objects are written here; the members of an object come in the order
in which they are given.
-/

import Voxply.Math.Encoding

namespace Voxply.Math

universe u v

namespace SelfDelimiting

variable {A : Type u} {C : Type v}

/-- Items up to a stop symbol that no item starts with are read off item by item. -/
theorem terminated {domain : A → Prop} {encode : A → List C}
    (h : SelfDelimiting domain encode) (stop : C)
    (hstart : ∀ a, domain a → ∃ first rest, encode a = first :: rest ∧ first ≠ stop) :
    SelfDelimiting (fun xs : List A => ∀ x ∈ xs, domain x)
      (fun xs => xs.flatMap encode ++ [stop]) := by
  intro xs
  induction xs with
  | nil =>
      intro ys rest tail _ hys heq
      cases ys with
      | nil => exact ⟨rfl, by simpa using heq⟩
      | cons y ys =>
          obtain ⟨first, more, hfirst, hne⟩ := hstart y (hys y List.mem_cons_self)
          dsimp only at heq
          rw [List.flatMap_cons, hfirst] at heq
          exact absurd (List.cons.inj heq).1.symm hne
  | cons x xs ih =>
      intro ys rest tail hxs hys heq
      have hx := hxs x List.mem_cons_self
      cases ys with
      | nil =>
          obtain ⟨first, more, hfirst, hne⟩ := hstart x hx
          dsimp only at heq
          rw [List.flatMap_cons, hfirst] at heq
          exact absurd (List.cons.inj heq).1 hne
      | cons y ys =>
          simp only [List.flatMap_cons, List.append_assoc] at heq
          obtain ⟨rfl, hitems⟩ := h hx (hys y List.mem_cons_self) heq
          rw [← List.append_assoc, ← List.append_assoc] at hitems
          obtain ⟨rfl, hrest⟩ := ih (fun z hz => hxs z (List.mem_cons_of_mem _ hz))
            (fun z hz => hys z (List.mem_cons_of_mem _ hz)) hitems
          exact ⟨rfl, hrest⟩

end SelfDelimiting

namespace JsonText

/-! ## Texts -/

/-- The characters that are escaped with a letter of their own. -/
def shorthands : List (Char × Char) :=
  [('"', '"'), ('\\', '\\'), ('\x08', 'b'), ('\t', 't'), ('\n', 'n'), ('\x0c', 'f'), ('\r', 'r')]

def shorthand (c : Char) : Option Char :=
  (shorthands.find? fun entry => entry.1 = c).map (·.2)

/-- A character of a text. Other control characters are escaped by their number. -/
def escape (c : Char) : List Char :=
  match shorthand c with
  | some letter => ['\\', letter]
  | none =>
      if c.toNat < 32 then
        ['\\', 'u', '0', '0', Nat.digitChar (c.toNat / 16), Nat.digitChar (c.toNat % 16)]
      else [c]

def quote (text : String) : List Char :=
  '"' :: (text.toList.flatMap escape ++ ['"'])

theorem eq_of_shorthand {c d letter : Char} (hc : shorthand c = some letter)
    (hd : shorthand d = some letter) : c = d := by
  have hletters : ∀ p ∈ shorthands, ∀ q ∈ shorthands, p.2 = q.2 → p.1 = q.1 := by decide
  obtain ⟨p, hp, hletter⟩ := Option.map_eq_some_iff.mp hc
  obtain ⟨q, hq, hletter'⟩ := Option.map_eq_some_iff.mp hd
  have hsame := hletters p (List.mem_of_find?_eq_some hp) q (List.mem_of_find?_eq_some hq)
    (hletter.trans hletter'.symm)
  have hfirst : p.1 = c := by simpa using List.find?_some hp
  have hsecond : q.1 = d := by simpa using List.find?_some hq
  rw [← hfirst, hsame, hsecond]

theorem shorthand_ne {c : Char} : shorthand c ≠ some 'u' := by
  have hletters : ∀ p ∈ shorthands, p.2 ≠ 'u' := by decide
  intro h
  obtain ⟨p, hp, hletter⟩ := Option.map_eq_some_iff.mp h
  exact hletters p (List.mem_of_find?_eq_some hp) hletter

theorem ne_of_shorthand {c : Char} (h : shorthand c = none) : c ≠ '\\' ∧ c ≠ '"' := by
  constructor
  · rintro rfl
    cases h
  · rintro rfl
    cases h

theorem digitChar_inj : ∀ n < 16, ∀ m < 16, Nat.digitChar n = Nat.digitChar m → n = m := by
  decide

/-- The numbers of control characters have two digits. -/
theorem eq_of_digits {c d : Char} (hc : c.toNat < 32) (hd : d.toNat < 32)
    (hhigh : Nat.digitChar (c.toNat / 16) = Nat.digitChar (d.toNat / 16))
    (hlow : Nat.digitChar (c.toNat % 16) = Nat.digitChar (d.toNat % 16)) : c = d := by
  have hdiv := digitChar_inj _ (by omega) _ (by omega) hhigh
  have hmod := digitChar_inj _ (Nat.mod_lt _ (by decide)) _ (Nat.mod_lt _ (by decide)) hlow
  exact Char.toNat_inj.mp (by omega)

/-- An escaped character tells what it stands for. The cases are those of the escapes. -/
theorem escape_selfDelimiting : SelfDelimiting (fun _ => True) escape := by
  intro c d rest tail _ _ heq
  unfold escape at heq
  cases hc : shorthand c with
  | some letter =>
      cases hd : shorthand d with
      | some letter' =>
          rw [hc, hd] at heq
          simp only [List.cons_append, List.nil_append, List.cons.injEq, true_and] at heq
          obtain ⟨rfl, hrest⟩ := heq
          exact ⟨eq_of_shorthand hc hd, hrest⟩
      | none =>
          rw [hc, hd] at heq
          dsimp only at heq
          split_ifs at heq
          · simp only [List.cons_append, List.nil_append, List.cons.injEq, true_and] at heq
            exact absurd (heq.1 ▸ hc) shorthand_ne
          · exact absurd (List.cons.inj heq).1.symm (ne_of_shorthand hd).1
  | none =>
      cases hd : shorthand d with
      | some letter' =>
          rw [hc, hd] at heq
          dsimp only at heq
          split_ifs at heq
          · simp only [List.cons_append, List.nil_append, List.cons.injEq, true_and] at heq
            exact absurd (heq.1 ▸ hd) shorthand_ne
          · exact absurd (List.cons.inj heq).1 (ne_of_shorthand hc).1
      | none =>
          rw [hc, hd] at heq
          dsimp only at heq
          split_ifs at heq with hc32 hd32 hd32
          · simp only [List.cons_append, List.nil_append, List.cons.injEq, true_and] at heq
            exact ⟨eq_of_digits hc32 hd32 heq.1 heq.2.1, heq.2.2⟩
          · exact absurd (List.cons.inj heq).1.symm (ne_of_shorthand hd).1
          · exact absurd (List.cons.inj heq).1 (ne_of_shorthand hc).1
          · simpa using heq

theorem escape_start (c : Char) : ∃ first rest, escape c = first :: rest ∧ first ≠ '"' := by
  unfold escape
  cases hc : shorthand c with
  | some letter => exact ⟨'\\', [letter], rfl, by decide⟩
  | none =>
      dsimp only
      split_ifs
      · exact ⟨'\\', _, rfl, by decide⟩
      · exact ⟨c, [], rfl, (ne_of_shorthand hc).2⟩

theorem quote_inj {s t : String} {rest tail : List Char}
    (h : quote s ++ rest = quote t ++ tail) : s = t ∧ rest = tail := by
  obtain ⟨hchars, hrest⟩ := escape_selfDelimiting.terminated '"' (fun c _ => escape_start c)
    (fun _ _ => trivial) (fun _ _ => trivial) (List.cons.inj h).2
  exact ⟨String.toList_inj.mp hchars, hrest⟩

end JsonText

/-! ## Documents -/

inductive Document where
  | text (s : String)
  | array (items : List Document)
  | object (members : List (String × Document))

namespace Document

open JsonText

mutual

/-- The text of a document. -/
def write : Document → List Char
  | .text s => quote s
  | .array [] => ['[', ']']
  | .array (d :: ds) => '[' :: (write d ++ writeItems ds)
  | .object [] => ['{', '}']
  | .object ((k, d) :: ms) => '{' :: (quote k ++ ':' :: (write d ++ writeMembers ms))

/-- The items after the first, and the end of the array. -/
def writeItems : List Document → List Char
  | [] => [']']
  | d :: ds => ',' :: (write d ++ writeItems ds)

/-- The members after the first, and the end of the object. -/
def writeMembers : List (String × Document) → List Char
  | [] => ['}']
  | (k, d) :: ms => ',' :: (quote k ++ ':' :: (write d ++ writeMembers ms))

end

/-- The first character tells what a document is, and is no bracket that closes one. -/
def lead : Document → Char
  | .text _ => '"'
  | .array _ => '['
  | .object _ => '{'

theorem write_eq_cons (d : Document) : ∃ rest, write d = d.lead :: rest := by
  cases d with
  | text s => exact ⟨_, by rw [write, quote]; rfl⟩
  | array items => cases items <;> exact ⟨_, by rw [write]; rfl⟩
  | object members => cases members <;> exact ⟨_, by rw [write]; rfl⟩

theorem lead_ne (d : Document) : d.lead ≠ ']' := by
  cases d <;> simp [lead]

theorem lead_eq {a b : Document} {rest tail : List Char}
    (h : write a ++ rest = write b ++ tail) : a.lead = b.lead := by
  obtain ⟨first, ha⟩ := write_eq_cons a
  obtain ⟨first', hb⟩ := write_eq_cons b
  rw [ha, hb] at h
  exact (List.cons.inj h).1

mutual

/-- The text of a document, followed by anything, tells the document. -/
theorem write_inj : ∀ (a b : Document) (rest tail : List Char),
    write a ++ rest = write b ++ tail → a = b ∧ rest = tail
  | .text s, b, rest, tail, h => by
      have hlead := lead_eq h
      cases b with
      | text t =>
          rw [write, write] at h
          obtain ⟨rfl, hrest⟩ := quote_inj h
          exact ⟨rfl, hrest⟩
      | array items => simp [lead] at hlead
      | object members => simp [lead] at hlead
  | .array [], b, rest, tail, h => by
      have hlead := lead_eq h
      cases b with
      | text t => simp [lead] at hlead
      | array items =>
          cases items with
          | nil =>
              rw [write] at h
              exact ⟨rfl, by simpa using h⟩
          | cons d ds =>
              obtain ⟨more, hd⟩ := write_eq_cons d
              rw [write, write, hd] at h
              exact absurd (List.cons.inj (List.cons.inj h).2).1.symm (lead_ne d)
      | object members => simp [lead] at hlead
  | .array (a :: as), b, rest, tail, h => by
      have hlead := lead_eq h
      cases b with
      | text t => simp [lead] at hlead
      | array items =>
          cases items with
          | nil =>
              obtain ⟨more, ha⟩ := write_eq_cons a
              rw [write, write, ha] at h
              exact absurd (List.cons.inj (List.cons.inj h).2).1 (lead_ne a)
          | cons d ds =>
              rw [write, write, List.cons_append, List.cons_append, List.append_assoc,
                List.append_assoc] at h
              obtain ⟨rfl, hitems⟩ := write_inj a d _ _ (List.cons.inj h).2
              obtain ⟨rfl, hrest⟩ := writeItems_inj as ds _ _ hitems
              exact ⟨rfl, hrest⟩
      | object members => simp [lead] at hlead
  | .object [], b, rest, tail, h => by
      have hlead := lead_eq h
      cases b with
      | text t => simp [lead] at hlead
      | array items => simp [lead] at hlead
      | object members =>
          cases members with
          | nil =>
              rw [write] at h
              exact ⟨rfl, by simpa using h⟩
          | cons m ms =>
              rw [write, write, quote] at h
              exact absurd (List.cons.inj (List.cons.inj h).2).1 (by decide)
  | .object ((k, a) :: as), b, rest, tail, h => by
      have hlead := lead_eq h
      cases b with
      | text t => simp [lead] at hlead
      | array items => simp [lead] at hlead
      | object members =>
          cases members with
          | nil =>
              rw [write, write, quote] at h
              exact absurd (List.cons.inj (List.cons.inj h).2).1 (by decide)
          | cons m ms =>
              obtain ⟨k', d⟩ := m
              simp only [write, List.cons_append, List.append_assoc] at h
              obtain ⟨rfl, hvalue⟩ := quote_inj (List.cons.inj h).2
              obtain ⟨rfl, hmembers⟩ := write_inj a d _ _ (List.cons.inj hvalue).2
              obtain ⟨rfl, hrest⟩ := writeMembers_inj as ms _ _ hmembers
              exact ⟨rfl, hrest⟩

theorem writeItems_inj : ∀ (as bs : List Document) (rest tail : List Char),
    writeItems as ++ rest = writeItems bs ++ tail → as = bs ∧ rest = tail
  | [], [], rest, tail, h => by
      rw [writeItems] at h
      exact ⟨rfl, by simpa using h⟩
  | [], b :: bs, rest, tail, h => by
      rw [writeItems, writeItems] at h
      exact absurd (List.cons.inj h).1 (by decide)
  | a :: as, [], rest, tail, h => by
      rw [writeItems, writeItems] at h
      exact absurd (List.cons.inj h).1 (by decide)
  | a :: as, b :: bs, rest, tail, h => by
      simp only [writeItems, List.cons_append, List.append_assoc] at h
      obtain ⟨rfl, hitems⟩ := write_inj a b _ _ (List.cons.inj h).2
      obtain ⟨rfl, hrest⟩ := writeItems_inj as bs _ _ hitems
      exact ⟨rfl, hrest⟩

theorem writeMembers_inj : ∀ (as bs : List (String × Document)) (rest tail : List Char),
    writeMembers as ++ rest = writeMembers bs ++ tail → as = bs ∧ rest = tail
  | [], [], rest, tail, h => by
      rw [writeMembers] at h
      exact ⟨rfl, by simpa using h⟩
  | [], (k, b) :: bs, rest, tail, h => by
      rw [writeMembers, writeMembers] at h
      exact absurd (List.cons.inj h).1 (by decide)
  | (k, a) :: as, [], rest, tail, h => by
      rw [writeMembers, writeMembers] at h
      exact absurd (List.cons.inj h).1 (by decide)
  | (k, a) :: as, (k', b) :: bs, rest, tail, h => by
      simp only [writeMembers, List.cons_append, List.append_assoc] at h
      obtain ⟨rfl, hvalue⟩ := quote_inj (List.cons.inj h).2
      obtain ⟨rfl, hmembers⟩ := write_inj a b _ _ (List.cons.inj hvalue).2
      obtain ⟨rfl, hrest⟩ := writeMembers_inj as bs _ _ hmembers
      exact ⟨rfl, hrest⟩

end

/-- Every part of a document can be told from its text. -/
theorem write_selfDelimiting : SelfDelimiting (fun _ => True) write :=
  fun a b rest tail _ _ h => write_inj a b rest tail h

theorem write_injective : Function.Injective write :=
  fun _ _ h => write_selfDelimiting.eq_of_encode_eq trivial trivial h

end Document

end Voxply.Math
