/-
# The rate limiter

Every address has a bucket of tokens.  A call samples the clock, waits for the lock on the map
of the buckets and only then refills the bucket of its address up to its sample; a bucket is
always said to have been refilled at the sample of the last call, also when an earlier call had
sampled a later time.  So calls that overtake each other on the way to the lock refill the same
stretch of time more than once.

While the samples of an address are in order, its bucket is a token bucket of its own.  The
cleanup of a crowded map forgets buckets, and a forgotten bucket is full again; nobody can tell
as long as it would have filled up meanwhile, which is the case when the samples after a cleanup
are not before it.
-/

import Voxply.Math.Table
import Voxply.Math.TokenBucket
import Mathlib.Algebra.Order.Ring.Rat
import Mathlib.Tactic.NormNum

namespace Voxply.Hub.RateLimit

open Voxply.Math

/-! ## The limiter -/

structure Config where
  burst : ℕ
  refillPerSec : ℚ
  deriving DecidableEq

def Config.auth : Config := ⟨10, 1⟩

def Config.write : Config := ⟨30, 10⟩

/-- An instant, which is counted in nanoseconds, in seconds. -/
def secs (n : ℕ) : ℚ := n / 1000000000

section Limiter

variable {IP : Type}

@[ext]
structure Bucket (IP : Type) where
  ip : IP
  tokens : ℚ
  lastRefill : ℕ

/-- The time since an instant that is yet to come counts as none. -/
def Bucket.refill (config : Config) (now : ℕ) (bucket : Bucket IP) : Bucket IP :=
  { bucket with
    tokens := min (bucket.tokens + secs (now - bucket.lastRefill) * config.refillPerSec)
      config.burst
    lastRefill := now }

def Bucket.fresh (now : ℕ) (bucket : Bucket IP) : Bool :=
  now - bucket.lastRefill < 600 * 1000000000

/-- A call that has the lock, with the time that it sampled before it asked for the lock. -/
structure Call (IP : Type) where
  ip : IP
  now : ℕ

variable [DecidableEq IP]

structure RateLimiter (IP : Type) [DecidableEq IP] where
  buckets : Table (Bucket IP) Bucket.ip
  config : Config

def RateLimiter.new (config : Config) : RateLimiter IP :=
  ⟨∅, config⟩

def RateLimiter.put (limiter : RateLimiter IP) (bucket : Bucket IP) : RateLimiter IP :=
  { limiter with buckets := limiter.buckets.replace bucket }

/-- The bucket of the caller, which is full when there was none. -/
def RateLimiter.refilled (limiter : RateLimiter IP) (call : Call IP) : Bucket IP :=
  let bucket := (limiter.buckets.find? call.ip).getD ⟨call.ip, limiter.config.burst, call.now⟩
  bucket.refill limiter.config call.now

/-- What a call does with the bucket of its address. -/
def RateLimiter.take (limiter : RateLimiter IP) (call : Call IP) : Bool × RateLimiter IP :=
  let bucket := limiter.refilled call
  if bucket.tokens ≥ 1 then (true, limiter.put { bucket with tokens := bucket.tokens - 1 })
  else (false, limiter.put bucket)

def RateLimiter.crowded (limiter : RateLimiter IP) : Bool :=
  limiter.buckets.rows.length > 10000

def RateLimiter.cleanup (limiter : RateLimiter IP) (now : ℕ) : RateLimiter IP :=
  if limiter.crowded then { limiter with buckets := limiter.buckets.keep (·.fresh now) }
  else limiter

def RateLimiter.check (limiter : RateLimiter IP) (call : Call IP) : Bool × RateLimiter IP :=
  let (allowed, taken) := limiter.take call
  if allowed then (true, taken.cleanup call.now) else (false, taken)

/-! ## Runs -/

/-- The calls in the order in which they get the lock, each with its verdict. -/
def served (check : RateLimiter IP → Call IP → Bool × RateLimiter IP) :
    RateLimiter IP → List (Call IP) → List (Call IP × Bool)
  | _, [] => []
  | limiter, call :: rest =>
      (call, (check limiter call).1) :: served check (check limiter call).2 rest

def RateLimiter.after (limiter : RateLimiter IP) (calls : List (Call IP)) : RateLimiter IP :=
  calls.foldl (fun limiter call => (limiter.check call).2) limiter

/-- The calls of an address that were let through and sampled a time from `s` to `t`. -/
def allowedIn (ip : IP) (s t : ℚ) (log : List (Call IP × Bool)) : List (Call IP × Bool) :=
  log.filter fun entry => entry.1.ip = ip ∧ entry.2 ∧ s ≤ secs entry.1.now ∧ secs entry.1.now ≤ t

/-- The burst and the rate bound what is let through in any window, the tokens are always
between none and the burst, and with the limits that are in use nobody can tell whether the map
is ever cleaned up. -/
structure LimiterRight (config : Config) (calls : List (Call IP)) : Prop where
  window : ∀ (ip : IP) (s t : ℚ), s ≤ t →
    ((allowedIn ip s t (served RateLimiter.check (.new config) calls)).length : ℚ) ≤
      config.burst + config.refillPerSec * (t - s)
  tokens : ∀ past, past <+: calls → ∀ bucket ∈ ((RateLimiter.new config).after past).buckets.rows,
    0 ≤ bucket.tokens ∧ bucket.tokens ≤ config.burst
  cleanup : config = .auth ∨ config = .write →
    served RateLimiter.check (.new config) calls = served RateLimiter.take (.new config) calls

/-! ## Calls in order -/

/-- The addresses whose buckets a call is going to forget. -/
def RateLimiter.stale (limiter : RateLimiter IP) (call : Call IP) : List IP :=
  let (allowed, taken) := limiter.take call
  if allowed && taken.crowded then
    (taken.buckets.rows.filter fun bucket => ¬ bucket.fresh call.now).map (·.ip)
  else []

/-- No later call of the same address, or of an address that is forgotten, has sampled an
earlier time, and buckets are only forgotten when they fill up before. -/
structure InOrder (limiter : RateLimiter IP) (call : Call IP) (rest : List (Call IP)) : Prop where
  samples : ∀ later ∈ rest, later.ip = call.ip ∨ later.ip ∈ limiter.stale call →
    call.now ≤ later.now
  fillsUp : limiter.stale call ≠ [] → (limiter.config.burst : ℚ) ≤ 600 * limiter.config.refillPerSec

/-- Every call of a run is in order. -/
def Orderly : RateLimiter IP → List (Call IP) → Prop
  | _, [] => True
  | limiter, call :: rest => InOrder limiter call rest ∧ Orderly (limiter.check call).2 rest

/-! ## One call -/

section Step

variable {limiter : RateLimiter IP} {call : Call IP} {rest : List (Call IP)}

/-- What is left of a bucket. -/
def Bucket.spent (bucket : Bucket IP) : Bucket IP :=
  if bucket.tokens ≥ 1 then { bucket with tokens := bucket.tokens - 1 } else bucket

omit [DecidableEq IP] in
theorem ip_spent (bucket : Bucket IP) : bucket.spent.ip = bucket.ip := by
  unfold Bucket.spent
  split_ifs <;> rfl

theorem ip_refilled (limiter : RateLimiter IP) (call : Call IP) :
    (limiter.refilled call).ip = call.ip := by
  show ((limiter.buckets.find? call.ip).getD _).ip = call.ip
  cases hfind : limiter.buckets.find? call.ip with
  | none => rfl
  | some bucket => exact (Table.find?_eq_some_iff.mp hfind).2

theorem take_eq (limiter : RateLimiter IP) (call : Call IP) :
    limiter.take call =
      (decide ((limiter.refilled call).tokens ≥ 1), limiter.put (limiter.refilled call).spent) := by
  unfold RateLimiter.take Bucket.spent
  dsimp only
  split_ifs with hone
  · rw [decide_eq_true hone]
  · rw [decide_eq_false hone]

theorem find?_take (limiter : RateLimiter IP) (call : Call IP) (ip : IP) :
    (limiter.take call).2.buckets.find? ip =
      if ip = call.ip then some (limiter.refilled call).spent else limiter.buckets.find? ip := by
  rw [take_eq, ← ip_refilled limiter call, ← ip_spent (limiter.refilled call)]
  exact Table.find?_replace limiter.buckets (limiter.refilled call).spent ip

theorem config_take (limiter : RateLimiter IP) (call : Call IP) :
    (limiter.take call).2.config = limiter.config := by
  rw [take_eq]
  rfl

theorem check_fst (limiter : RateLimiter IP) (call : Call IP) :
    (limiter.check call).1 = (limiter.take call).1 := by
  unfold RateLimiter.check
  dsimp only
  split_ifs with hallowed
  · exact hallowed.symm
  · exact (Bool.eq_false_iff.mpr hallowed).symm

theorem config_check (limiter : RateLimiter IP) (call : Call IP) :
    (limiter.check call).2.config = limiter.config := by
  rw [← config_take limiter call]
  unfold RateLimiter.check RateLimiter.cleanup
  dsimp only
  split_ifs <;> rfl

/-- A bucket that is not found after a call was forgotten by it. -/
theorem find?_check (limiter : RateLimiter IP) (call : Call IP) (ip : IP) :
    (limiter.check call).2.buckets.find? ip = (limiter.take call).2.buckets.find? ip ∨
      (limiter.check call).2.buckets.find? ip = none ∧ ip ∈ limiter.stale call ∧
        ∃ bucket ∈ (limiter.take call).2.buckets.find? ip, bucket.fresh call.now = false := by
  unfold RateLimiter.check RateLimiter.cleanup RateLimiter.stale
  dsimp only
  by_cases hallowed : (limiter.take call).1 = true
  · by_cases hcrowded : (limiter.take call).2.crowded = true
    · rw [if_pos hallowed, if_pos hcrowded, if_pos (by rw [hallowed, hcrowded]; rfl)]
      dsimp only
      rw [Table.find?_keep]
      cases hfind : (limiter.take call).2.buckets.find? ip with
      | none => exact .inl rfl
      | some bucket =>
          by_cases hfresh : bucket.fresh call.now = true
          · exact .inl (by rw [Option.filter_some, if_pos hfresh])
          · refine .inr ⟨by rw [Option.filter_some, if_neg hfresh], ?_, bucket, rfl,
              Bool.eq_false_iff.mpr hfresh⟩
            obtain ⟨hmem, hip⟩ := Table.find?_eq_some_iff.mp hfind
            rw [← hip]
            exact List.mem_map_of_mem (List.mem_filter.mpr ⟨hmem, decide_eq_true hfresh⟩)
    · rw [if_pos hallowed, if_neg hcrowded]
      exact .inl rfl
  · rw [if_neg hallowed]
    exact .inl rfl

/-! ## The tokens of a bucket -/

theorem secs_mono {m n : ℕ} (h : m ≤ n) : secs m ≤ secs n := by
  unfold secs
  have hcast : (m : ℚ) ≤ n := Nat.cast_le.mpr h
  linarith

/-- A saturating difference, in seconds. -/
theorem secs_sub (now earlier : ℕ) : secs (now - earlier) = max 0 (secs now - secs earlier) := by
  rcases Nat.le_total earlier now with hle | hle
  · rw [max_eq_right (sub_nonneg.mpr (secs_mono hle))]
    unfold secs
    rw [Nat.cast_sub hle, sub_div]
  · rw [max_eq_left (sub_nonpos.mpr (secs_mono hle)), Nat.sub_eq_zero_of_le hle]
    exact zero_div _

/-- The bucket of an address as a token bucket. -/
def Bucket.level (bucket : Bucket IP) : TokenBucket ℚ := ⟨bucket.tokens, secs bucket.lastRefill⟩

omit [DecidableEq IP] in
theorem tokens_refill (config : Config) (now : ℕ) (bucket : Bucket IP) :
    (bucket.refill config now).tokens =
      bucket.level.refill (config.burst : ℚ) config.refillPerSec (secs now) := by
  show min (bucket.tokens + secs (now - bucket.lastRefill) * config.refillPerSec) _ = _
  rw [secs_sub]
  rfl

omit [DecidableEq IP] in
/-- What a call leaves of a bucket is what is left of the token bucket. -/
theorem level_spent (config : Config) (now : ℕ) (bucket : Bucket IP) :
    (decide ((bucket.refill config now).tokens ≥ 1), (bucket.refill config now).spent.level) =
      bucket.level.take (config.burst : ℚ) config.refillPerSec (secs now) := by
  have htokens := tokens_refill config now bucket
  unfold Bucket.spent TokenBucket.take
  rw [← htokens]
  split_ifs with hone
  · exact congrArg₂ Prod.mk (decide_eq_true hone) rfl
  · exact congrArg₂ Prod.mk (decide_eq_false hone) rfl

/-- The bucket that a call finds, as a token bucket. -/
theorem level_taken (limiter : RateLimiter IP) (call : Call IP) :
    (decide ((limiter.refilled call).tokens ≥ 1), (limiter.refilled call).spent.level) =
      (TokenBucket.orFull (limiter.config.burst : ℚ) (secs call.now)
        ((limiter.buckets.find? call.ip).map Bucket.level)).take
          (limiter.config.burst : ℚ) limiter.config.refillPerSec (secs call.now) := by
  unfold RateLimiter.refilled
  dsimp only
  rw [level_spent]
  cases limiter.buckets.find? call.ip <;> rfl

/-- Every bucket holds between none and the burst. -/
def WithinBurst (limiter : RateLimiter IP) : Prop :=
  ∀ ip, ∀ bucket ∈ limiter.buckets.find? ip, bucket.level.Within (limiter.config.burst : ℚ)

theorem withinBurst_new (config : Config) :
    WithinBurst (RateLimiter.new config : RateLimiter IP) := by
  intro ip bucket hbucket
  cases hbucket

theorem WithinBurst.take (h : WithinBurst limiter) (hrate : 0 ≤ limiter.config.refillPerSec)
    (call : Call IP) : WithinBurst (limiter.take call).2 := by
  intro ip bucket hbucket
  rw [config_take]
  rw [find?_take] at hbucket
  split_ifs at hbucket with hip
  · cases hbucket
    rw [show (limiter.refilled call).spent.level = _ from
      congrArg Prod.snd (level_taken limiter call)]
    apply TokenBucket.Within.take _ hrate
    cases hfind : limiter.buckets.find? call.ip with
    | none => exact ⟨Nat.cast_nonneg _, le_refl _⟩
    | some bucket => exact h call.ip bucket hfind
  · exact h ip bucket hbucket

theorem WithinBurst.check (h : WithinBurst limiter) (hrate : 0 ≤ limiter.config.refillPerSec)
    (call : Call IP) : WithinBurst (limiter.check call).2 := by
  intro ip bucket hbucket
  rw [config_check, ← config_take limiter call]
  rcases find?_check limiter call ip with hsame | ⟨hnone, -⟩
  · exact h.take hrate call ip bucket (hsame ▸ hbucket)
  · rw [hnone] at hbucket
    cases hbucket

end Step

/-! ## Forgetting is not noticed -/

section Cleanup

variable {limiter kept : RateLimiter IP} {call : Call IP} {rest : List (Call IP)}

/-- The bucket is full whenever one of the calls that are left asks for it. -/
def FillsUp (config : Config) (rest : List (Call IP)) (bucket : Bucket IP) : Prop :=
  (config.burst : ℚ) ≤ 600 * config.refillPerSec ∧
    ∀ call ∈ rest, call.ip = bucket.ip → bucket.lastRefill + 600 * 1000000000 ≤ call.now

/-- A limiter has the buckets of one that never forgets any, but for some that fill up. -/
structure Matches (rest : List (Call IP)) (limiter kept : RateLimiter IP) : Prop where
  config : limiter.config = kept.config
  buckets : ∀ ip, limiter.buckets.find? ip = kept.buckets.find? ip ∨
    limiter.buckets.find? ip = none ∧
      ∃ bucket ∈ kept.buckets.find? ip, FillsUp kept.config rest bucket

omit [DecidableEq IP] in
/-- A bucket that has filled up is like a new one. -/
theorem FillsUp.refill_eq {config : Config} {bucket : Bucket IP}
    (h : FillsUp config (call :: rest) bucket) (hip : bucket.ip = call.ip)
    (hrate : 0 ≤ config.refillPerSec) (htokens : 0 ≤ bucket.tokens) :
    bucket.refill config call.now =
      (⟨call.ip, config.burst, call.now⟩ : Bucket IP).refill config call.now := by
  have hidle : bucket.lastRefill + 600 * 1000000000 ≤ call.now :=
    h.2 call List.mem_cons_self hip.symm
  have hsecs : 600 ≤ secs call.now - secs bucket.lastRefill := by
    have hmono := secs_mono hidle
    unfold secs at hmono ⊢
    push_cast at hmono
    linarith
  have hfull : (config.burst : ℚ) ≤
      (secs call.now - secs bucket.lastRefill) * config.refillPerSec :=
    h.1.trans (mul_le_mul_of_nonneg_right hsecs hrate)
  ext
  · exact hip
  · have hlevel : bucket.level.refill (config.burst : ℚ) config.refillPerSec (secs call.now) =
        config.burst := TokenBucket.refill_eq_burst hrate htokens hfull
    rw [tokens_refill, tokens_refill, hlevel]
    exact (TokenBucket.refill_full _ _ _).symm
  · rfl

/-- So a call finds the same bucket. -/
theorem Matches.refilled_eq (h : Matches (call :: rest) limiter kept) (hwithin : WithinBurst kept)
    (hrate : 0 ≤ kept.config.refillPerSec) : limiter.refilled call = kept.refilled call := by
  unfold RateLimiter.refilled
  rw [h.config]
  dsimp only
  rcases h.buckets call.ip with hsame | ⟨hnone, bucket, hbucket, hfills⟩
  · rw [hsame]
  · rw [hnone, Option.mem_def.mp hbucket]
    have hip := (Table.find?_eq_some_iff.mp hbucket).2
    exact (hfills.refill_eq hip hrate (hwithin call.ip bucket hbucket).1).symm

theorem Matches.take (h : Matches (call :: rest) limiter kept)
    (hrefilled : limiter.refilled call = kept.refilled call) :
    Matches rest (limiter.take call).2 (kept.take call).2 := by
  constructor
  · rw [config_take, config_take]
    exact h.config
  · intro ip
    rw [find?_take, find?_take, config_take, hrefilled]
    split_ifs
    · exact .inl rfl
    · rcases h.buckets ip with hsame | ⟨hnone, bucket, hbucket, hfills⟩
      · exact .inl hsame
      · exact .inr ⟨hnone, bucket, hbucket, hfills.1,
          fun later hlater => hfills.2 later (List.mem_cons_of_mem call hlater)⟩

/-- What a call in order forgets fills up. -/
theorem Matches.check (h : Matches (call :: rest) limiter kept)
    (hrefilled : limiter.refilled call = kept.refilled call) (horder : InOrder limiter call rest) :
    Matches rest (limiter.check call).2 (kept.take call).2 := by
  have htaken := h.take hrefilled
  constructor
  · rw [config_check, ← config_take limiter call]
    exact htaken.config
  · intro ip
    rcases find?_check limiter call ip with hsame | ⟨hnone, hstale, bucket, hbucket, hfresh⟩
    · rw [hsame]
      exact htaken.buckets ip
    · refine .inr ⟨hnone, bucket, ?_, ?_, ?_⟩
      · rcases htaken.buckets ip with hsame | ⟨hgone, -⟩
        · rwa [← hsame]
        · rw [hgone] at hbucket
          cases hbucket
      · rw [config_take, ← h.config]
        exact horder.fillsUp (List.ne_nil_of_mem hstale)
      · intro later hlater hip
        have hlate : call.now ≤ later.now := by
          apply horder.samples later hlater
          rw [hip, (Table.find?_eq_some_iff.mp hbucket).2]
          exact .inr hstale
        have hidle : 600 * 1000000000 ≤ call.now - bucket.lastRefill :=
          not_lt.mp (of_decide_eq_false hfresh)
        omega

/-- In a run in order every call has the verdict that it would have if nothing were ever
forgotten. -/
theorem served_check_eq_take {calls : List (Call IP)} (h : Matches calls limiter kept)
    (hwithin : WithinBurst kept) (hrate : 0 ≤ kept.config.refillPerSec)
    (horderly : Orderly limiter calls) :
    served RateLimiter.check limiter calls = served RateLimiter.take kept calls := by
  induction calls generalizing limiter kept with
  | nil => rfl
  | cons call rest ih =>
      obtain ⟨horder, hrest⟩ := horderly
      have hrefilled := h.refilled_eq hwithin hrate
      have hverdict : (limiter.check call).1 = (kept.take call).1 := by
        rw [check_fst, take_eq, take_eq, hrefilled]
      have hnext := ih (h.check hrefilled horder) (hwithin.take hrate call)
        (by rwa [config_take]) hrest
      rw [served, served, hverdict, hnext]

end Cleanup

/-! ## One address at a time -/

section Address

variable {limiter : RateLimiter IP} {ip : IP} {calls : List (Call IP)}

/-- The times that the calls of an address have sampled. -/
def samplesOf (ip : IP) (calls : List (Call IP)) : List ℚ :=
  (calls.filter (·.ip = ip)).map fun call => secs call.now

theorem samplesOf_cons_of_eq {call : Call IP} (hip : call.ip = ip) :
    samplesOf ip (call :: calls) = secs call.now :: samplesOf ip calls := by
  rw [samplesOf, List.filter_cons_of_pos (by simpa using hip)]
  rfl

theorem samplesOf_cons_of_ne {call : Call IP} (hip : call.ip ≠ ip) :
    samplesOf ip (call :: calls) = samplesOf ip calls := by
  rw [samplesOf, List.filter_cons_of_neg (by simpa using hip)]
  rfl

/-- The calls of an address that are let through. -/
def allowedOf (ip : IP) (log : List (Call IP × Bool)) : List (Call IP × Bool) :=
  log.filter fun entry => entry.1.ip = ip ∧ entry.2

/-- Without the cleanup the calls of an address are granted by a token bucket of its own. -/
theorem map_allowedOf_served (ip : IP) (limiter : RateLimiter IP) (calls : List (Call IP)) :
    (allowedOf ip (served RateLimiter.take limiter calls)).map (fun entry => secs entry.1.now) =
      TokenBucket.granted (limiter.config.burst : ℚ) limiter.config.refillPerSec
        (samplesOf ip calls) ((limiter.buckets.find? ip).map Bucket.level) := by
  induction calls generalizing limiter with
  | nil => rfl
  | cons call rest ih =>
      have hih := ih (limiter.take call).2
      rw [config_take, find?_take] at hih
      rw [served, allowedOf]
      by_cases hip : call.ip = ip
      · subst hip
        rw [if_pos rfl] at hih
        rw [samplesOf_cons_of_eq rfl, TokenBucket.granted, ← level_taken limiter call, take_eq]
        dsimp only
        rw [take_eq] at hih
        cases hone : decide ((limiter.refilled call).tokens ≥ 1) with
        | true =>
            rw [List.filter_cons_of_pos (by simp), List.map_cons, if_pos rfl]
            exact congrArg _ hih
        | false =>
            rw [List.filter_cons_of_neg (by simp), if_neg Bool.false_ne_true]
            exact hih
      · rw [if_neg (Ne.symm hip)] at hih
        rw [List.filter_cons_of_neg (by simp [hip]), samplesOf_cons_of_ne hip]
        exact hih

/-- In a run in order the samples of an address are sorted. -/
theorem Orderly.pairwise_samplesOf (h : Orderly limiter calls) (ip : IP) :
    (samplesOf ip calls).Pairwise (· ≤ ·) := by
  induction calls generalizing limiter with
  | nil => exact List.Pairwise.nil
  | cons call rest ih =>
      obtain ⟨horder, hrest⟩ := h
      by_cases hip : call.ip = ip
      · rw [samplesOf_cons_of_eq hip, List.pairwise_cons]
        refine ⟨?_, ih hrest⟩
        intro n hn
        obtain ⟨later, hlater, rfl⟩ := List.mem_map.mp hn
        obtain ⟨hmem, hsame⟩ := List.mem_filter.mp hlater
        exact secs_mono (horder.samples later hmem
          (.inl ((of_decide_eq_true hsame).trans hip.symm)))
      · rw [samplesOf_cons_of_ne hip]
        exact ih hrest

theorem length_allowedIn (ip : IP) (s t : ℚ) (log : List (Call IP × Bool)) :
    (allowedIn ip s t log).length =
      (TokenBucket.within s t ((allowedOf ip log).map fun entry => secs entry.1.now)).length := by
  rw [allowedIn, TokenBucket.within, List.filter_map, List.length_map, allowedOf,
    List.filter_filter]
  congr 1
  apply List.filter_congr
  intro entry _
  show _ = (decide (s ≤ secs entry.1.now ∧ secs entry.1.now ≤ t) && _)
  rw [← Bool.decide_and]
  apply decide_eq_decide.mpr
  tauto

end Address

/-! ## The limits -/

section Limits

variable {config : Config} {calls : List (Call IP)}

theorem withinBurst_after (hrate : 0 ≤ config.refillPerSec) (past : List (Call IP)) :
    WithinBurst ((RateLimiter.new config).after past) ∧
      ((RateLimiter.new config).after past).config = config := by
  induction past using List.reverseRecOn with
  | nil => exact ⟨withinBurst_new config, rfl⟩
  | append_singleton past call ih =>
      have hstep : (RateLimiter.new config).after (past ++ [call]) =
          (((RateLimiter.new config).after past).check call).2 := List.foldl_concat _ _ _ _
      rw [hstep, config_check]
      exact ⟨ih.1.check (by rwa [ih.2]) call, ih.2⟩

/-- A limiter does what it is for in every run in order, unless its rate is negative. -/
theorem limiterRight_of_orderly (hrate : 0 ≤ config.refillPerSec)
    (h : Orderly (RateLimiter.new config) calls) : LimiterRight config calls := by
  have hmatches : Matches calls (RateLimiter.new config) (RateLimiter.new config) :=
    ⟨rfl, fun ip => .inl rfl⟩
  have hkept := served_check_eq_take hmatches (withinBurst_new config) hrate h
  constructor
  · intro ip s t hst
    rw [length_allowedIn, hkept, map_allowedOf_served]
    exact TokenBucket.length_granted_le (Nat.cast_nonneg config.burst) hrate hst
      (h.pairwise_samplesOf ip)
  · intro past _ bucket hbucket
    obtain ⟨hwithin, hconfig⟩ := withinBurst_after hrate past
    have hfound := Table.find?_eq_some_iff.mpr ⟨hbucket, rfl⟩
    rw [← hconfig]
    exact hwithin bucket.ip bucket hfound
  · exact fun _ => hkept

/-- With a rate that fills the burst up within the ten minutes, samples that are in order among
all addresses are in order for each. -/
theorem orderly_of_pairwise {limiter : RateLimiter IP}
    (hfills : (limiter.config.burst : ℚ) ≤ 600 * limiter.config.refillPerSec)
    (h : calls.Pairwise (·.now ≤ ·.now)) : Orderly limiter calls := by
  induction calls generalizing limiter with
  | nil => trivial
  | cons call rest ih =>
      obtain ⟨hfirst, hrest⟩ := List.pairwise_cons.mp h
      refine ⟨⟨fun later hlater _ => hfirst later hlater, fun _ => hfills⟩, ih ?_ hrest⟩
      rwa [config_check]

end Limits

end Limiter

/-- Eleven calls of one address, calls of more addresses than are kept, and one that comes when
all buckets have been left alone for more than ten minutes. -/
def crowd (addresses : ℕ) : List (Call ℕ) :=
  List.replicate 11 ⟨0, 1⟩ ++ (List.range addresses).map (fun n => ⟨n, 2⟩) ++ [⟨0, 700000000000⟩]

theorem crowd_pairwise (addresses : ℕ) : (crowd addresses).Pairwise (·.now ≤ ·.now) := by
  rw [crowd, List.append_assoc, List.pairwise_append, List.pairwise_append]
  refine ⟨List.pairwise_replicate.mpr (.inr le_rfl), ⟨?_, List.pairwise_singleton _ _, ?_⟩, ?_⟩
  · rw [List.pairwise_map]
    exact List.pairwise_of_forall fun _ _ => le_rfl
  · intro a ha b hb
    obtain ⟨n, -, rfl⟩ := List.mem_map.mp ha
    rw [List.mem_singleton.mp hb]
    norm_num
  · intro a ha b hb
    rw [List.eq_of_mem_replicate ha]
    rcases List.mem_append.mp hb with hb | hb
    · obtain ⟨n, -, rfl⟩ := List.mem_map.mp hb
      exact Nat.le_succ 1
    · rw [List.mem_singleton.mp hb]
      norm_num

/-- The eleventh call is refused. -/
theorem crowd_limiterRight :
    LimiterRight Config.auth (crowd 10001) ∧
      (served RateLimiter.check (.new Config.auth) ((crowd 10001).take 11)).map (·.2) =
        List.replicate 10 true ++ [false] :=
  ⟨limiterRight_of_orderly (by decide)
    (orderly_of_pairwise (by decide +kernel) (crowd_pairwise 10001)), by decide +kernel⟩

/-! ## A call that is overtaken -/

/-- Ten calls that sample the time of ten seconds, one that has sampled that of nine seconds and
gets the lock after them, and one more at ten seconds. -/
def overtaken : List (Call String) :=
  List.replicate 10 ⟨"a", 10000000000⟩ ++ [⟨"a", 9000000000⟩, ⟨"a", 10000000000⟩]

/-- Eleven calls of the same time are let through. -/
theorem overtaken_not_limiterRight : ¬ LimiterRight Config.auth overtaken := by
  intro h
  have hwindow := h.window "a" 10 10 le_rfl
  have hcount : (allowedIn "a" 10 10
      (served RateLimiter.check (.new Config.auth) overtaken)).length = 11 := by decide +kernel
  rw [hcount] at hwindow
  norm_num [Config.auth] at hwindow

end Voxply.Hub.RateLimit
