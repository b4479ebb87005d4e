/-
# Searching for proof of work

An identity's level is raised by trying one nonce after the other, from the one it has.  The
search keeps the best nonce so far and looks at the target only when a nonce is better, which
is no restriction: whatever reaches the target is better than all that do not.  So the search
ends at the first nonce that reaches it.

An identity starts with the nonce zero, which is never tried.
-/

import Voxply.Identity.Pow

namespace Voxply.Identity

set_option linter.dupNamespace false

/-! ## The search -/

/-- The loop of `compute_security_level`.  The nonce can be counted up `fuel` times, after which
it overflows. -/
def searchNonce (sha256 : List UInt8 → List UInt8) (publicKeyHex : String) (targetLevel : ℕ) :
    ℕ → UInt64 → UInt64 × ℕ → Option (UInt64 × ℕ)
  | 0, _, _ => none
  | fuel + 1, nonce, best =>
      let next := nonce + 1
      let level := hashLevel sha256 publicKeyHex next
      if best.2 < level then
        if targetLevel ≤ level then some (next, level)
        else searchNonce sha256 publicKeyHex targetLevel fuel next (next, level)
      else searchNonce sha256 publicKeyHex targetLevel fuel next best

/-- `compute_security_level`, unless the nonce overflows. -/
def computeSecurityLevel (sha256 : List UInt8 → List UInt8) (publicKeyHex : String)
    (startNonce : UInt64) (targetLevel : ℕ) : Option (UInt64 × ℕ) :=
  let remaining := 2 ^ 64 - 1 - startNonce.toNat
  if 0 < startNonce then
    let level := hashLevel sha256 publicKeyHex startNonce
    if targetLevel ≤ level then some (startNonce, level)
    else searchNonce sha256 publicKeyHex targetLevel remaining startNonce (startNonce, level)
  else searchNonce sha256 publicKeyHex targetLevel remaining startNonce (startNonce, 0)

/-- An identity, with what it has of proof of work. -/
structure Identity where
  publicKeyHex : String
  securityNonce : UInt64 := 0
  securityLevel : ℕ := 0

/-- `improve_security_level`, unless the nonce overflows. -/
def Identity.improveSecurityLevel (sha256 : List UInt8 → List UInt8) (identity : Identity)
    (targetLevel : ℕ) : Option (Identity × ℕ) := do
  let (nonce, level) ←
    computeSecurityLevel sha256 identity.publicKeyHex identity.securityNonce targetLevel
  pure ({ identity with securityNonce := nonce, securityLevel := level }, level)

/-- What a call leaves of the identity, which is not changed before the nonce is found. -/
def Identity.improved (sha256 : List UInt8 → List UInt8) (identity : Identity)
    (targetLevel : ℕ) : Identity :=
  ((identity.improveSecurityLevel sha256 targetLevel).map (·.1)).getD identity

/-- One call after the other. -/
def Identity.improvedAll (sha256 : List UInt8 → List UInt8) (identity : Identity)
    (targets : List ℕ) : Identity :=
  targets.foldl (·.improved sha256) identity

/-! ## What is to hold -/

section Spec

variable (sha256 : List UInt8 → List UInt8) (publicKeyHex : String)

/-- The nonce is one that the search may find from `startNonce` on. -/
structure Reaches (startNonce : UInt64) (targetLevel : ℕ) (nonce : UInt64) : Prop where
  from_start : startNonce ≤ nonce
  pos : 0 < nonce
  level : targetLevel ≤ hashLevel sha256 publicKeyHex nonce

/-- The first nonce that reaches the level is found if there is one, with the level that it has;
it is accepted for no level beyond; and whatever levels are asked for, an identity never loses
what it has, and its pair is accepted. -/
structure PowRight : Prop where
  finds : ∀ startNonce targetLevel, 1 ≤ targetLevel →
    (∃ nonce, Reaches sha256 publicKeyHex startNonce targetLevel nonce) →
    ∃ nonce, computeSecurityLevel sha256 publicKeyHex startNonce targetLevel =
        some (nonce, hashLevel sha256 publicKeyHex nonce) ∧
      Reaches sha256 publicKeyHex startNonce targetLevel nonce ∧
      ∀ other, Reaches sha256 publicKeyHex startNonce targetLevel other → nonce ≤ other
  verifies : ∀ nonce claimedLevel,
    verifySecurityLevel sha256 publicKeyHex nonce claimedLevel = true ↔
      claimedLevel ≤ hashLevel sha256 publicKeyHex nonce
  never_loses : ∀ earlier later : List ℕ,
    (Identity.improvedAll sha256 ⟨publicKeyHex, 0, 0⟩ earlier).securityLevel ≤
      (Identity.improvedAll sha256 ⟨publicKeyHex, 0, 0⟩ (earlier ++ later)).securityLevel
  accepted : ∀ targets : List ℕ,
    let identity := Identity.improvedAll sha256 ⟨publicKeyHex, 0, 0⟩ targets
    verifySecurityLevel sha256 publicKeyHex identity.securityNonce identity.securityLevel = true

end Spec

/-! ## The first nonce that reaches the target -/

section Search

variable {sha256 : List UInt8 → List UInt8} {publicKeyHex : String} {targetLevel : ℕ}

/-- The nonce of a number reaches the target and is better than `best`. -/
def Better (sha256 : List UInt8 → List UInt8) (publicKeyHex : String) (targetLevel best n : ℕ) :
    Prop :=
  targetLevel ≤ hashLevel sha256 publicKeyHex (.ofNat n) ∧
    best < hashLevel sha256 publicKeyHex (.ofNat n)

instance (best n : ℕ) : Decidable (Better sha256 publicKeyHex targetLevel best n) :=
  inferInstanceAs (Decidable (_ ∧ _))

/-- A level below the target is no obstacle to what reaches it. -/
theorem better_iff_of_lt {best level n : ℕ} (hbest : best < targetLevel)
    (hlevel : level < targetLevel) :
    Better sha256 publicKeyHex targetLevel best n ↔
      Better sha256 publicKeyHex targetLevel level n :=
  and_congr_right fun h =>
    iff_of_true (Nat.lt_of_lt_of_le hbest h) (Nat.lt_of_lt_of_le hlevel h)

theorem ofNat_toNat_succ (nonce : UInt64) : UInt64.ofNat (nonce.toNat + 1) = nonce + 1 := by
  rw [UInt64.ofNat_add, UInt64.ofNat_toNat]
  rfl

theorem toNat_ofNat_of_lt {n : ℕ} (h : n < 2 ^ 64) : (UInt64.ofNat n).toNat = n :=
  UInt64.toNat_ofNat_of_lt' h

theorem toNat_succ {nonce : UInt64} (h : nonce.toNat + 1 < 2 ^ 64) :
    (nonce + 1).toNat = nonce.toNat + 1 := by
  rw [← ofNat_toNat_succ, toNat_ofNat_of_lt h]

/-- The loop is a search for the first nonce that is good enough. -/
theorem searchNonce_eq_find? (fuel : ℕ) : ∀ (nonce : UInt64) (best : UInt64 × ℕ),
    nonce.toNat + fuel < 2 ^ 64 →
    searchNonce sha256 publicKeyHex targetLevel fuel nonce best =
      ((List.range' (nonce.toNat + 1) fuel).find? fun n =>
        Better sha256 publicKeyHex targetLevel best.2 n).map
          fun n => (.ofNat n, hashLevel sha256 publicKeyHex (.ofNat n)) := by
  induction fuel with
  | zero =>
      intro nonce best _
      rfl
  | succ fuel ih =>
      intro nonce best hfuel
      have hnext : (nonce + 1).toNat = nonce.toNat + 1 := toNat_succ (by omega)
      have hrest (best : UInt64 × ℕ) := ih (nonce + 1) best (by omega)
      rw [hnext] at hrest
      rw [searchNonce, List.range'_succ, List.find?_cons]
      by_cases hbetter : best.2 < hashLevel sha256 publicKeyHex (nonce + 1)
      · by_cases htarget : targetLevel ≤ hashLevel sha256 publicKeyHex (nonce + 1)
        · have hfound : Better sha256 publicKeyHex targetLevel best.2 (nonce.toNat + 1) := by
            rw [Better, ofNat_toNat_succ]
            exact ⟨htarget, hbetter⟩
          rw [if_pos hbetter, if_pos htarget, decide_eq_true hfound, Option.map_some,
            ofNat_toNat_succ]
        · have hnot : ¬ Better sha256 publicKeyHex targetLevel best.2 (nonce.toNat + 1) := by
            rw [Better, ofNat_toNat_succ]
            exact fun h => htarget h.1
          have hlow := Nat.not_le.mp htarget
          have hsame (n : ℕ) : Better sha256 publicKeyHex targetLevel best.2 n ↔
              Better sha256 publicKeyHex targetLevel
              (hashLevel sha256 publicKeyHex (nonce + 1)) n :=
            better_iff_of_lt (Nat.lt_trans hbetter hlow) hlow
          rw [if_pos hbetter, if_neg htarget, decide_eq_false hnot, hrest]
          simp only [hsame]
      · have hnot : ¬ Better sha256 publicKeyHex targetLevel best.2 (nonce.toNat + 1) := by
          rw [Better, ofNat_toNat_succ]
          exact fun h => hbetter h.2
        rw [if_neg hbetter, decide_eq_false hnot, hrest]

/-- What the loop finds comes after the nonce it started at and is better than the best. -/
theorem searchNonce_eq_some {fuel : ℕ} {nonce found : UInt64} {best : UInt64 × ℕ} {level : ℕ}
    (hfuel : nonce.toNat + fuel < 2 ^ 64)
    (h : searchNonce sha256 publicKeyHex targetLevel fuel nonce best = some (found, level)) :
    level = hashLevel sha256 publicKeyHex found ∧ nonce < found ∧ best.2 < level := by
  rw [searchNonce_eq_find? fuel nonce best hfuel, Option.map_eq_some_iff] at h
  obtain ⟨n, hn, hpair⟩ := h
  rw [List.find?_range'_eq_some, decide_eq_true_iff, List.mem_range'_1] at hn
  obtain ⟨hbetter, ⟨hlow, hhigh⟩, -⟩ := hn
  cases hpair
  refine ⟨rfl, ?_, hbetter.2⟩
  rw [UInt64.lt_iff_toNat_lt, toNat_ofNat_of_lt (by omega)]
  omega

/-- If a nonce within reach is good enough, the loop finds the first that is. -/
theorem searchNonce_first {fuel : ℕ} {nonce other : UInt64} (best : UInt64 × ℕ)
    (hfuel : nonce.toNat + fuel < 2 ^ 64) (hbest : best.2 < targetLevel) (hother : nonce < other)
    (hreach : other.toNat ≤ nonce.toNat + fuel)
    (hlevel : targetLevel ≤ hashLevel sha256 publicKeyHex other) :
    ∃ found, searchNonce sha256 publicKeyHex targetLevel fuel nonce best =
        some (found, hashLevel sha256 publicKeyHex found) ∧ nonce < found ∧
      targetLevel ≤ hashLevel sha256 publicKeyHex found ∧
      ∀ m, nonce < m → targetLevel ≤ hashLevel sha256 publicKeyHex m → found ≤ m := by
  have hbetter {m : UInt64} (hm : targetLevel ≤ hashLevel sha256 publicKeyHex m) :
      Better sha256 publicKeyHex targetLevel best.2 m.toNat := by
    rw [Better, UInt64.ofNat_toNat]
    exact ⟨hm, Nat.lt_of_lt_of_le hbest hm⟩
  rw [UInt64.lt_iff_toNat_lt] at hother
  have hsome : ((List.range' (nonce.toNat + 1) fuel).find? fun n =>
      Better sha256 publicKeyHex targetLevel best.2 n).isSome = true := by
    rw [List.find?_isSome]
    exact ⟨other.toNat, List.mem_range'_1.mpr (by omega), decide_eq_true (hbetter hlevel)⟩
  obtain ⟨n, hn⟩ := Option.isSome_iff_exists.mp hsome
  have hfound := hn
  rw [List.find?_range'_eq_some, decide_eq_true_iff, List.mem_range'_1] at hfound
  obtain ⟨hgood, ⟨hlow, hhigh⟩, hfirst⟩ := hfound
  have htoNat : (UInt64.ofNat n).toNat = n := toNat_ofNat_of_lt (by omega)
  refine ⟨.ofNat n, ?_, ?_, hgood.1, ?_⟩
  · rw [searchNonce_eq_find? fuel nonce best hfuel, hn, Option.map_some]
  · rw [UInt64.lt_iff_toNat_lt, htoNat]
    omega
  · intro m hm hmlevel
    rw [UInt64.lt_iff_toNat_lt] at hm
    rw [UInt64.le_iff_toNat_le, htoNat]
    by_contra hless
    have hskipped := hfirst m.toNat (by omega) (by omega)
    rw [decide_eq_true (hbetter hmlevel)] at hskipped
    cases hskipped

end Search

/-! ## An identity keeps what it has -/

section Improve

variable {sha256 : List UInt8 → List UInt8} {publicKeyHex : String} {targetLevel : ℕ}

theorem remaining_lt (nonce : UInt64) : nonce.toNat + (2 ^ 64 - 1 - nonce.toNat) < 2 ^ 64 := by
  have hlt := nonce.toNat_lt
  omega

/-- The nonce found is not zero and has the level returned, which is not below that of the nonce
the search started at. -/
theorem computeSecurityLevel_eq_some {start found : UInt64} {level : ℕ}
    (h : computeSecurityLevel sha256 publicKeyHex start targetLevel = some (found, level)) :
    level = hashLevel sha256 publicKeyHex found ∧ 0 < found ∧
      (0 < start → hashLevel sha256 publicKeyHex start ≤ level) := by
  rw [computeSecurityLevel] at h
  by_cases hstart : 0 < start
  · rw [if_pos hstart] at h
    by_cases htarget : targetLevel ≤ hashLevel sha256 publicKeyHex start
    · rw [if_pos htarget] at h
      cases h
      exact ⟨rfl, hstart, fun _ => Nat.le_refl _⟩
    · rw [if_neg htarget] at h
      obtain ⟨hlevel, hfound, hbest⟩ := searchNonce_eq_some (remaining_lt start) h
      exact ⟨hlevel, UInt64.lt_trans hstart hfound, fun _ => Nat.le_of_lt hbest⟩
  · rw [if_neg hstart] at h
    obtain ⟨hlevel, hfound, -⟩ := searchNonce_eq_some (remaining_lt start) h
    have hzero : start = 0 := UInt64.le_zero_iff.mp (UInt64.not_lt.mp hstart)
    exact ⟨hlevel, hzero ▸ hfound, fun h => absurd h hstart⟩

/-- The search finds the first nonce that reaches the target. -/
theorem computeSecurityLevel_first {start : UInt64} (htarget : 1 ≤ targetLevel)
    (h : ∃ nonce, Reaches sha256 publicKeyHex start targetLevel nonce) :
    ∃ nonce, computeSecurityLevel sha256 publicKeyHex start targetLevel =
        some (nonce, hashLevel sha256 publicKeyHex nonce) ∧
      Reaches sha256 publicKeyHex start targetLevel nonce ∧
      ∀ other, Reaches sha256 publicKeyHex start targetLevel other → nonce ≤ other := by
  obtain ⟨other, hother⟩ := h
  have hbound := other.toNat_lt
  rw [computeSecurityLevel]
  by_cases hstart : 0 < start
  · rw [if_pos hstart]
    by_cases hreached : targetLevel ≤ hashLevel sha256 publicKeyHex start
    · exact ⟨start, if_pos hreached, ⟨UInt64.le_refl _, hstart, hreached⟩, fun _ h => h.from_start⟩
    · -- Whatever reaches the target comes after the nonce the search starts at.
      have hlater {nonce : UInt64} (h : Reaches sha256 publicKeyHex start targetLevel nonce) :
          start < nonce := by
        rcases UInt64.lt_or_eq_of_le h.from_start with hlt | rfl
        · exact hlt
        · exact absurd h.level hreached
      rw [if_neg hreached]
      obtain ⟨nonce, hfound, hafter, hlevel, hfirst⟩ :=
        searchNonce_first (start, hashLevel sha256 publicKeyHex start)
          (remaining_lt start) (Nat.not_le.mp hreached) (hlater hother) (by omega) hother.level
      exact ⟨nonce, hfound, ⟨UInt64.le_of_lt hafter, UInt64.lt_trans hstart hafter, hlevel⟩,
        fun m hm => hfirst m (hlater hm) hm.level⟩
  · have hzero : start = 0 := UInt64.le_zero_iff.mp (UInt64.not_lt.mp hstart)
    subst hzero
    rw [if_neg hstart]
    obtain ⟨nonce, hfound, hafter, hlevel, hfirst⟩ :=
      searchNonce_first (0, 0) (remaining_lt 0) htarget hother.pos (by omega) hother.level
    exact ⟨nonce, hfound, ⟨UInt64.le_of_lt hafter, hafter, hlevel⟩,
      fun m hm => hfirst m hm.pos hm.level⟩

/-- The pair of an identity: nothing yet, or a nonce with the level that it has. -/
def Identity.Sound (sha256 : List UInt8 → List UInt8) (identity : Identity) : Prop :=
  identity.securityNonce = 0 ∧ identity.securityLevel = 0 ∨
    0 < identity.securityNonce ∧
      identity.securityLevel = hashLevel sha256 identity.publicKeyHex identity.securityNonce

/-- A call keeps the pair sound, and the level does not fall. -/
theorem sound_improved {identity : Identity} (h : identity.Sound sha256) (targetLevel : ℕ) :
    (identity.improved sha256 targetLevel).Sound sha256 ∧
      identity.securityLevel ≤ (identity.improved sha256 targetLevel).securityLevel := by
  rw [Identity.improved, Identity.improveSecurityLevel]
  cases hsearch : computeSecurityLevel sha256 identity.publicKeyHex identity.securityNonce
      targetLevel with
  | none => exact ⟨h, Nat.le_refl _⟩
  | some found =>
      obtain ⟨hlevel, hpos, hkept⟩ := computeSecurityLevel_eq_some hsearch
      refine ⟨.inr ⟨hpos, hlevel⟩, ?_⟩
      rcases h with ⟨-, hzero⟩ | ⟨hnonce, hstored⟩
      · rw [hzero]
        exact Nat.zero_le _
      · rw [hstored]
        exact hkept hnonce

theorem publicKeyHex_improved (identity : Identity) (targetLevel : ℕ) :
    (identity.improved sha256 targetLevel).publicKeyHex = identity.publicKeyHex := by
  rw [Identity.improved, Identity.improveSecurityLevel]
  cases computeSecurityLevel sha256 identity.publicKeyHex identity.securityNonce targetLevel <;> rfl

theorem sound_improvedAll {identity : Identity} (h : identity.Sound sha256) (targets : List ℕ) :
    (identity.improvedAll sha256 targets).Sound sha256 ∧
      identity.securityLevel ≤ (identity.improvedAll sha256 targets).securityLevel := by
  induction targets generalizing identity with
  | nil => exact ⟨h, Nat.le_refl _⟩
  | cons targetLevel rest ih =>
      obtain ⟨hsound, hle⟩ := sound_improved h targetLevel
      obtain ⟨hall, hrest⟩ := ih hsound
      exact ⟨hall, Nat.le_trans hle hrest⟩

theorem verifySecurityLevel_iff (publicKeyHex : String) (nonce : UInt64) (claimedLevel : ℕ) :
    verifySecurityLevel sha256 publicKeyHex nonce claimedLevel = true ↔
      claimedLevel ≤ hashLevel sha256 publicKeyHex nonce := by
  rw [verifySecurityLevel, Bool.or_eq_true, decide_eq_true_iff, decide_eq_true_iff]
  omega

theorem Identity.Sound.level_le {identity : Identity} (h : identity.Sound sha256) :
    identity.securityLevel ≤
      hashLevel sha256 identity.publicKeyHex identity.securityNonce := by
  rcases h with ⟨-, hzero⟩ | ⟨-, hlevel⟩
  · rw [hzero]
    exact Nat.zero_le _
  · exact Nat.le_of_eq hlevel

theorem publicKeyHex_improvedAll (identity : Identity) (targets : List ℕ) :
    (identity.improvedAll sha256 targets).publicKeyHex = identity.publicKeyHex := by
  induction targets generalizing identity with
  | nil => rfl
  | cons targetLevel rest ih => exact (ih _).trans (publicKeyHex_improved identity targetLevel)

/-- The search, the check and the identities agree. -/
theorem powRight (sha256 : List UInt8 → List UInt8) (publicKeyHex : String) :
    PowRight sha256 publicKeyHex where
  finds _ _ htarget h := computeSecurityLevel_first htarget h
  verifies := verifySecurityLevel_iff publicKeyHex
  never_loses earlier later := by
    have hstart : Identity.Sound sha256 ⟨publicKeyHex, 0, 0⟩ := .inl ⟨rfl, rfl⟩
    rw [Identity.improvedAll, Identity.improvedAll, List.foldl_append]
    exact (sound_improvedAll (sound_improvedAll hstart earlier).1 later).2
  accepted targets := by
    have hstart : Identity.Sound sha256 ⟨publicKeyHex, 0, 0⟩ := .inl ⟨rfl, rfl⟩
    have hlevel := (sound_improvedAll hstart targets).1.level_le
    rw [publicKeyHex_improvedAll] at hlevel
    exact (verifySecurityLevel_iff _ _ _).mpr hlevel

end Improve

end Voxply.Identity
