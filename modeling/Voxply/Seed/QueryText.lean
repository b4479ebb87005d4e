/-
# Repeated parameters of a query

The directory takes its required tags out of the raw query itself: it splits the text at the
signs between pairs, compares the name as it is written and decodes the value.  Each byte that is
decoded becomes a character of its own, so a value comes back unchanged when it is ASCII; a name
is found when it is written as itself.
-/

import Voxply.Identity.Signature
import Voxply.Math.FormEncoding

namespace Voxply.Seed

open Voxply.Identity Voxply.Math

/-! ## Decoding -/

/-- `byte as char`. -/
def byteChar (b : UInt8) : Char := Char.ofNat b.toNat

/-- A byte that starts no escape. -/
def plainChar (b : UInt8) : Char := if b = 43 then ' ' else byteChar b

/-- The loop of `percent_decode`, on the bytes that are left. -/
def percentDecodeBytes : List UInt8 → List Char
  | [] => []
  | b :: high :: low :: rest =>
      if b = 37 then
        match hexVal high, hexVal low with
        | some h, some l => byteChar (h * 16 + l) :: percentDecodeBytes rest
        | _, _ => byteChar b :: percentDecodeBytes (high :: low :: rest)
      else plainChar b :: percentDecodeBytes (high :: low :: rest)
  | b :: rest => plainChar b :: percentDecodeBytes rest

def percentDecode (s : String) : String :=
  String.ofList (percentDecodeBytes (asBytes s))

/-- `str::split_once`. -/
def splitOnce (c : Char) (text : List Char) : Option (String × String) :=
  match text.dropWhile (· ≠ c) with
  | [] => none
  | _ :: rest => some (String.ofList (text.takeWhile (· ≠ c)), String.ofList rest)

def extractRepeatedParam (raw : Option String) (key : String) : List String :=
  match raw with
  | none => []
  | some raw =>
      (raw.toList.splitOn '&').filterMap fun pair => do
        let (k, v) ← splitOnce '=' pair
        if k = key then some (percentDecode v) else none

/-! ## What is to hold -/

/-- A text as it is written into a query. -/
def formEncode (plus : Bool) (s : String) : String :=
  String.ofList (FormEncoding.encodeBytes plus (asBytes s))

/-- A query of pairs. -/
def queryOf (plus : Bool) (pairs : List (String × String)) : String :=
  String.ofList (FormEncoding.encodePairs plus (pairs.map fun p => (asBytes p.1, asBytes p.2)))

/-- The values of the pairs with a name, and the name of each is read as it was written. -/
structure QueryRight (plus : Bool) (key : String) (pairs : List (String × String)) : Prop where
  extracted : extractRepeatedParam (some (queryOf plus pairs)) key =
    (pairs.filter (·.1 = key)).map (·.2)
  decoded : ∀ p ∈ pairs, p.1 = key → percentDecode (formEncode plus p.2) = p.2

def Ascii (s : String) : Prop := ∀ b ∈ asBytes s, b < 128

/-- A text with a character for each byte. -/
def bytewise (s : String) : String := String.ofList ((asBytes s).map byteChar)

/-- The values under the name, or under one that is written like it, are ASCII, and the name is
written as itself.  Under any other name the pairs with the name are missed, and those whose name
is written like it are taken for them, which may make no difference. -/
def Extractable (plus : Bool) (key : String) (pairs : List (String × String)) : Prop :=
  (∀ p ∈ pairs, p.1 = key ∨ formEncode plus p.1 = key → Ascii p.2) ∧
    (formEncode plus key = key ∨ (pairs.filter (·.1 = key)).map (·.2) =
      (pairs.filter (formEncode plus ·.1 = key)).map (·.2))

/-! ## Decoding what is encoded -/

section Bytes

variable {plus : Bool}

theorem toNat_byteChar : ∀ n : Fin 256, (byteChar (.ofNat n)).toNat = n := by
  decide +kernel

theorem byteChar_injective : Function.Injective byteChar := by
  intro a b h
  have ha := toNat_byteChar ⟨a.toNat, a.toNat_lt⟩
  have hb := toNat_byteChar ⟨b.toNat, b.toNat_lt⟩
  rw [UInt8.ofNat_toNat] at ha hb
  rw [h, hb] at ha
  exact UInt8.toNat_inj.mp ha.symm

theorem hexVal_hexDigit_upper : ∀ n : Fin 16,
    (String.utf8EncodeChar (FormEncoding.hexDigit n)).map hexVal = [some (UInt8.ofNat n)] := by
  decide

theorem utf8EncodeChar_byteChar : ∀ n : Fin 128,
    String.utf8EncodeChar (Char.ofNat n) = [UInt8.ofNat n] := by
  decide +kernel

theorem unreserved_facts : ∀ n : Fin 256, FormEncoding.unreserved (.ofNat n) = true →
    (UInt8.ofNat n : UInt8) < 128 ∧ (UInt8.ofNat n : UInt8) ≠ 37 ∧
    (UInt8.ofNat n : UInt8) ≠ 43 := by
  decide +kernel

theorem lt_of_unreserved {b : UInt8} (h : FormEncoding.unreserved b = true) :
    b < 128 ∧ b ≠ 37 ∧ b ≠ 43 := by
  have hfacts := unreserved_facts ⟨b.toNat, b.toNat_lt⟩
  rw [UInt8.ofNat_toNat] at hfacts
  exact hfacts h

theorem lt_of_utf8EncodeChar_byteChar (n : Fin 256)
    (h : ∀ b ∈ String.utf8EncodeChar (byteChar (.ofNat n)), b < 128) :
    (UInt8.ofNat n : UInt8) < 128 := by
  have hall : ∀ n : Fin 256,
      (String.utf8EncodeChar (byteChar (.ofNat n))).all (fun b => decide (b < 128)) = true →
        (UInt8.ofNat n : UInt8) < 128 := by
    decide +kernel
  exact hall n (List.all_eq_true.mpr fun b hb => decide_eq_true (h b hb))

theorem percentDecodeBytes_cons_of_ne {b : UInt8} (h : b ≠ 37) (rest : List UInt8) :
    percentDecodeBytes (b :: rest) = plainChar b :: percentDecodeBytes rest := by
  match rest with
  | [] => rfl
  | [_] => rfl
  | _ :: _ :: _ => rw [percentDecodeBytes, if_neg h]

/-- The bytes of an ASCII character. -/
theorem utf8EncodeChar_of_lt {b : UInt8} (h : b < 128) :
    String.utf8EncodeChar (byteChar b) = [b] := by
  have hbyte := utf8EncodeChar_byteChar ⟨b.toNat, h⟩
  rwa [UInt8.ofNat_toNat] at hbyte

/-- What is written for a byte is read as the character of the byte. -/
theorem percentDecodeBytes_encodeByte (plus : Bool) (b : UInt8) (rest : List UInt8) :
    percentDecodeBytes ((FormEncoding.encodeByte plus b).flatMap String.utf8EncodeChar ++ rest) =
      byteChar b :: percentDecodeBytes rest := by
  rcases FormEncoding.encodeByte_cases plus b with ⟨hkept, hbyte⟩ | ⟨rfl, hbyte⟩ | ⟨-, hbyte⟩
  · obtain ⟨hlt, hpercent, hplus⟩ := lt_of_unreserved hkept
    rw [hbyte, List.flatMap_singleton, show Char.ofNat b.toNat = byteChar b from rfl,
      utf8EncodeChar_of_lt hlt, List.singleton_append, percentDecodeBytes_cons_of_ne hpercent,
      plainChar, if_neg hplus]
  · rw [hbyte]
    exact percentDecodeBytes_cons_of_ne (by decide) rest
  · have hlt := b.toNat_lt
    have hhigh := hexVal_hexDigit_upper ⟨b.toNat / 16, by omega⟩
    have hlow := hexVal_hexDigit_upper ⟨b.toNat % 16, by omega⟩
    rw [List.map_eq_singleton_iff] at hhigh hlow
    obtain ⟨high, hhighBytes, hhighVal⟩ := hhigh
    obtain ⟨low, hlowBytes, hlowVal⟩ := hlow
    have hvalue : UInt8.ofNat (b.toNat / 16) * 16 + UInt8.ofNat (b.toNat % 16) = b := by
      apply UInt8.toNat_inj.mp
      simp only [UInt8.toNat_add, UInt8.toNat_mul, UInt8.toNat_ofNat', UInt8.reduceToNat]
      omega
    have hpercent : String.utf8EncodeChar '%' = [37] := by decide
    rw [hbyte]
    simp only [List.flatMap_cons, List.flatMap_nil, hpercent, hhighBytes, hlowBytes,
      List.nil_append, List.append_nil, List.cons_append]
    rw [percentDecodeBytes, if_pos rfl, hhighVal, hlowVal]
    dsimp only
    rw [hvalue]

theorem percentDecodeBytes_encodeBytes (plus : Bool) (bytes : List UInt8) :
    percentDecodeBytes ((FormEncoding.encodeBytes plus bytes).flatMap String.utf8EncodeChar) =
      bytes.map byteChar := by
  induction bytes with
  | nil => rfl
  | cons b rest ih =>
      rw [FormEncoding.encodeBytes, List.flatMap_cons, List.flatMap_append,
        percentDecodeBytes_encodeByte, List.map_cons]
      exact congrArg _ ih

end Bytes

/-! ## Texts -/

section Texts

variable {plus : Bool} {key : String} {pairs : List (String × String)}

theorem percentDecode_formEncode (plus : Bool) (s : String) :
    percentDecode (formEncode plus s) = bytewise s := by
  rw [percentDecode, formEncode, asBytes_ofList, percentDecodeBytes_encodeBytes, bytewise]

theorem asBytes_eq_flatMap (s : String) : asBytes s = s.toList.flatMap String.utf8EncodeChar := by
  rw [← asBytes_ofList, String.ofList_toList]

theorem lt_of_mem_utf8EncodeChar {c : Char} {b : UInt8} (h : c.utf8Size = 1)
    (hb : b ∈ String.utf8EncodeChar c) : b < 128 := by
  rw [String.utf8EncodeChar_eq_singleton h, List.mem_singleton] at hb
  have hval := Char.utf8Size_eq_one_iff.mp h
  have hnat : c.val.toNat ≤ 127 := hval
  show b.toNat < 128
  rw [hb]
  show c.val.toNat % 256 < 128
  omega

/-- A text with as many bytes as characters has one for each. -/
theorem utf8Size_eq_one_of_length {chars : List Char}
    (h : chars.length = (chars.flatMap String.utf8EncodeChar).length) :
    ∀ c ∈ chars, c.utf8Size = 1 := by
  have hle (chars : List Char) : chars.length ≤ (chars.flatMap String.utf8EncodeChar).length := by
    induction chars with
    | nil => exact Nat.le_refl _
    | cons c rest ih =>
        have hpos := c.utf8Size_pos
        rw [List.flatMap_cons, List.length_append, String.length_utf8EncodeChar, List.length_cons]
        omega
  induction chars with
  | nil =>
      intro c hc
      cases hc
  | cons c rest ih =>
      have hpos := c.utf8Size_pos
      have hrest := hle rest
      rw [List.flatMap_cons, List.length_append, String.length_utf8EncodeChar,
        List.length_cons] at h
      intro other hother
      rcases List.mem_cons.mp hother with rfl | hother
      · omega
      · exact ih (by omega) other hother

/-- A text is its bytes, one character each, exactly if it is ASCII. -/
theorem bytewise_eq_self_iff {s : String} : bytewise s = s ↔ Ascii s := by
  constructor
  · intro h
    -- A character with more bytes than one makes the text longer.
    have hlength : s.toList.length = (asBytes s).length := by
      have hchars := congrArg (fun t : String => t.toList.length) h
      simp only [bytewise, String.toList_ofList, List.length_map] at hchars
      exact hchars.symm
    rw [asBytes_eq_flatMap] at hlength
    intro b hb
    rw [asBytes_eq_flatMap] at hb
    obtain ⟨c, hc, hbc⟩ := List.mem_flatMap.mp hb
    exact lt_of_mem_utf8EncodeChar (utf8Size_eq_one_of_length hlength c hc) hbc
  · intro h
    have hback : asBytes (bytewise s) = asBytes s := by
      rw [bytewise, asBytes_ofList, List.flatMap_map]
      have hall : ∀ bytes : List UInt8, (∀ b ∈ bytes, b < 128) →
          bytes.flatMap (fun b => String.utf8EncodeChar (byteChar b)) = bytes := by
        intro bytes hbytes
        induction bytes with
        | nil => rfl
        | cons b rest ih =>
            rw [List.flatMap_cons, utf8EncodeChar_of_lt (hbytes b List.mem_cons_self),
              ih fun b hb => hbytes b (List.mem_cons_of_mem _ hb), List.singleton_append]
      exact hall _ h
    exact asBytes_injective hback

/-- A byte that is no ASCII is no character that is. -/
theorem ascii_of_bytewise {s : String} (h : Ascii (bytewise s)) : Ascii s := by
  intro b hb
  have hchar := lt_of_utf8EncodeChar_byteChar ⟨b.toNat, b.toNat_lt⟩
  rw [UInt8.ofNat_toNat] at hchar
  apply hchar
  intro c hc
  apply h c
  rw [bytewise, asBytes_ofList, List.flatMap_map, List.mem_flatMap]
  exact ⟨b, hb, hc⟩

/-- Texts that are written alike are the same. -/
theorem formEncode_injective (plus : Bool) : Function.Injective (formEncode plus) := by
  intro first second heq
  have hdecode := congrArg percentDecode heq
  rw [percentDecode_formEncode, percentDecode_formEncode, bytewise, bytewise,
    String.ofList_inj] at hdecode
  exact asBytes_injective (List.map_injective_iff.mpr byteChar_injective hdecode)

/-- A pair as it is written is split at its first sign. -/
theorem splitOnce_encoded (plus : Bool) (p : String × String) :
    splitOnce '=' (FormEncoding.encodeBytes plus (asBytes p.1) ++
        '=' :: FormEncoding.encodeBytes plus (asBytes p.2)) =
      some (formEncode plus p.1, formEncode plus p.2) := by
  rw [splitOnce, FormEncoding.dropWhile_encoded, FormEncoding.takeWhile_encoded]
  rfl

/-- What is extracted are the values of the pairs whose names are written like the key, with a
character for every byte. -/
theorem extractRepeatedParam_queryOf (plus : Bool) (key : String) (pairs : List (String × String)) :
    extractRepeatedParam (some (queryOf plus pairs)) key =
      (pairs.filter (formEncode plus ·.1 = key)).map (bytewise ·.2) := by
  by_cases hnone : pairs = []
  · subst hnone
    rfl
  rw [extractRepeatedParam]
  dsimp only
  rw [queryOf, String.toList_ofList, FormEncoding.splitOn_encodePairs plus (by simpa using hnone),
    List.map_map, List.filterMap_map]
  clear hnone
  induction pairs with
  | nil => rfl
  | cons p rest ih =>
      have hpair : splitOnce '=' (FormEncoding.encodeBytes plus (asBytes p.1) ++
          '=' :: FormEncoding.encodeBytes plus (asBytes p.2)) = _ := splitOnce_encoded plus p
      rw [List.filterMap_cons]
      simp only [Function.comp_apply, hpair, Option.bind_eq_bind, Option.bind_some]
      by_cases hkey : formEncode plus p.1 = key
      · rw [if_pos hkey, percentDecode_formEncode, List.filter_cons_of_pos (by simpa using hkey),
          List.map_cons]
        exact congrArg _ ih
      · rw [if_neg hkey, List.filter_cons_of_neg (by simpa using hkey)]
        exact ih

/-- The parameters of a query are extracted unchanged exactly if they can be. -/
theorem queryRight_iff (plus : Bool) (key : String) (pairs : List (String × String)) :
    QueryRight plus key pairs ↔ Extractable plus key pairs := by
  have hdecoded (p : String × String) :
      percentDecode (formEncode plus p.2) = p.2 ↔ Ascii p.2 := by
    rw [percentDecode_formEncode, bytewise_eq_self_iff]
  constructor
  · intro h
    have hnamed (p : String × String) (hp : p ∈ pairs) (hkey : p.1 = key) : Ascii p.2 :=
      (hdecoded p).mp (h.decoded p hp hkey)
    have hsame := h.extracted
    rw [extractRepeatedParam_queryOf] at hsame
    have htaken (p : String × String) (hp : p ∈ pairs) (hkey : formEncode plus p.1 = key) :
        Ascii p.2 := by
      have hmem : bytewise p.2 ∈ (pairs.filter (·.1 = key)).map (·.2) := by
        rw [← hsame, List.mem_map]
        exact ⟨p, List.mem_filter.mpr ⟨hp, by simpa using hkey⟩, rfl⟩
      obtain ⟨q, hq, hvalue⟩ := List.mem_map.mp hmem
      obtain ⟨hqpairs, hqkey⟩ := List.mem_filter.mp hq
      exact ascii_of_bytewise (hvalue ▸ hnamed q hqpairs (of_decide_eq_true hqkey))
    refine ⟨fun p hp hkey => hkey.elim (hnamed p hp) (htaken p hp), .inr ?_⟩
    rw [← hsame]
    apply List.map_congr_left
    intro p hp
    obtain ⟨hmem, hp⟩ := List.mem_filter.mp hp
    exact bytewise_eq_self_iff.mpr (htaken p hmem (of_decide_eq_true hp))
  · intro ⟨hascii, hkey⟩
    refine ⟨?_, fun p hp hname => (hdecoded p).mpr (hascii p hp (.inl hname))⟩
    have hplain : (pairs.filter (formEncode plus ·.1 = key)).map (bytewise ·.2) =
        (pairs.filter (formEncode plus ·.1 = key)).map (·.2) := by
      apply List.map_congr_left
      intro p hp
      obtain ⟨hmem, hp⟩ := List.mem_filter.mp hp
      exact bytewise_eq_self_iff.mpr (hascii p hmem (.inr (of_decide_eq_true hp)))
    rw [extractRepeatedParam_queryOf, hplain]
    rcases hkey with hself | hsame
    · -- Names that are written like the key are the key.
      have hname (p : String × String) : formEncode plus p.1 = key ↔ p.1 = key := by
        constructor
        · intro h
          exact formEncode_injective plus (h.trans hself.symm)
        · rintro rfl
          exact hself
      simp only [hname]
    · exact hsame.symm

end Texts

/-! ## A tag with an accent -/

/-- The value `é` comes back as two characters. -/
theorem accent_not_queryRight : ¬ QueryRight true "tag" [("tag", "é")] := by
  intro h
  have hdecoded := h.decoded ("tag", "é") (List.mem_singleton_self _) rfl
  rw [percentDecode_formEncode, bytewise_eq_self_iff] at hdecoded
  have hfirst : (195 : UInt8) ∈ asBytes "é" := by decide +kernel
  exact absurd (hdecoded 195 hfirst) (by decide)

end Voxply.Seed
