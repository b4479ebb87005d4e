/-
# Reported quotas

`me_hub_quota` reports how many more hubs may be created, and `create_hub` decides.  Both
read the same limits.  To the report 0 stands for no limit, to the decision 0 and
everything below, and nothing keeps the admin from setting a negative limit.
-/

import Voxply.Farm.HubQuotas
import Voxply.Farm.Admin

namespace Voxply.Farm

open Voxply.Math Voxply.Identity
open Voxply.Hub (SqlError StatusCode)

/-! ## What is to hold -/

def userQuotaExceeded : ApiError :=
  jsonError .forbidden "user_quota_exceeded"

def farmQuotaExceeded : ApiError :=
  jsonError .forbidden "farm_quota_exceeded"

/-- A creation is refused because of a quota. -/
def RejectedForQuota {A : Type} (answer : Except ApiError A) : Prop :=
  answer = .error userQuotaExceeded ∨ answer = .error farmQuotaExceeded

/-- That many further creations pass, or all of them if no number is reported. -/
def FurtherCreations (reported : Option Int64) (passes : ℕ → Prop) : Prop :=
  match reported with
  | none => ∀ k, passes k
  | some n => ∀ k, passes k ↔ (k : Int) < n.toInt

/-- A report agrees with what becomes of a creation, for a user with so many hubs on a
farm with so many. After `k` further creations the check meets as many more hubs. -/
structure ReportRight (policy : FarmRow) (owned total : ℕ) (rejected : Prop)
    (report : HubQuotaResponse) : Prop where
  rejects : rejected ↔ report.quotaRemaining = some 0 ∨ report.farmQuotaRemaining = some 0
  user : ¬ rejected → FurtherCreations report.quotaRemaining fun k =>
    quotaError? policy (owned + k) total ≠ some userQuotaExceeded
  farm : ¬ rejected → FurtherCreations report.farmQuotaRemaining fun k =>
    quotaError? policy owned (total + k) ≠ some farmQuotaExceeded

/-! ## One limit -/

section Limit

variable {limit : Int64} {count : ℕ}

/-- A positive limit leaves what it leaves. -/
theorem quotaRemaining_of_pos (hlimit : 0 < limit) (hcount : count < 2 ^ 63) :
    ∃ n, quotaRemaining limit (Int64.ofNat count) = some n ∧
    n.toInt = max (limit.toInt - count) 0 := by
  have hpositive : 0 < limit.toInt := Int64.lt_iff_toInt_lt.mp hlimit
  have hne : limit ≠ 0 := by
    rintro rfl
    exact absurd hpositive (by decide)
  have hbound := limit.toInt_lt
  have hsub : (limit - Int64.ofNat count).toInt = limit.toInt - count := by
    rw [Int64.toInt_sub, Int64.toInt_ofNat_of_lt hcount, Int.bmod_eq_of_le]
    · omega
    · omega
  refine ⟨max (limit - Int64.ofNat count) 0, if_neg hne, ?_⟩
  show (if limit - Int64.ofNat count ≤ 0 then (0 : Int64) else limit - Int64.ofNat count).toInt = _
  have hzero : (0 : Int64).toInt = 0 := by decide
  split_ifs with hle
  · rw [Int64.le_iff_toInt_le, hsub, hzero] at hle
    rw [hzero]
    omega
  · rw [Int64.le_iff_toInt_le, hsub, hzero] at hle
    rw [hsub]
    omega

theorem quotaRemaining_eq_zero_iff (hlimit : 0 < limit) (hcount : count < 2 ^ 63) :
    quotaRemaining limit (Int64.ofNat count) = some 0 ↔ limit.toInt ≤ count := by
  obtain ⟨n, hn, hvalue⟩ := quotaRemaining_of_pos hlimit hcount
  have hzero : (0 : Int64).toInt = 0 := by decide
  rw [hn, Option.some.injEq, ← Int64.toInt_inj, hzero, hvalue]
  omega

/-- For a limit that is not negative the reported number is right, as long as there is
something left. -/
theorem furtherCreations_of_nonneg (hlimit : 0 ≤ limit) (hcount : count < 2 ^ 63)
    (hleft : ¬ (0 < limit ∧ limit.toInt ≤ count)) :
    FurtherCreations (quotaRemaining limit (Int64.ofNat count)) fun k =>
      ¬ (0 < limit ∧ limit.toInt ≤ (count + k : ℕ)) := by
  by_cases hpositive : 0 < limit
  · obtain ⟨n, hn, hvalue⟩ := quotaRemaining_of_pos hpositive hcount
    rw [hn]
    intro k
    have hroom : ¬ limit.toInt ≤ count := fun hle => hleft ⟨hpositive, hle⟩
    rw [hvalue]
    show ¬ (0 < limit ∧ limit.toInt ≤ ((count + k : ℕ) : Int)) ↔ _
    rw [and_iff_right hpositive]
    push_cast
    omega
  · have hzero : limit = 0 := Int64.le_antisymm (Int64.not_lt.mp hpositive) hlimit
    rw [quotaRemaining, if_pos hzero]
    exact fun k h => hpositive h.1

/-- What is left of a limit that is not negative is reported as 0 exactly if it is
reached. -/
theorem quotaRemaining_eq_zero_of_nonneg (hlimit : 0 ≤ limit) (hcount : count < 2 ^ 63) :
    quotaRemaining limit (Int64.ofNat count) = some 0 ↔ 0 < limit ∧ limit.toInt ≤ count := by
  by_cases hpositive : 0 < limit
  · rw [quotaRemaining_eq_zero_iff hpositive hcount, and_iff_right hpositive]
  · have hzero : limit = 0 := Int64.le_antisymm (Int64.not_lt.mp hpositive) hlimit
    rw [quotaRemaining, if_pos hzero]
    exact iff_of_false (by simp) fun h => hpositive h.1

/-- A negative limit is no limit, but a number is reported. -/
theorem not_furtherCreations_of_neg {reported : Int64} (hlimit : limit < 0) {passes : ℕ → Prop}
    (hpasses : ∀ k, passes k) : ¬ FurtherCreations (quotaRemaining limit reported) passes := by
  have hne : limit ≠ 0 := by
    rintro rfl
    exact absurd hlimit (by decide)
  rw [quotaRemaining, if_neg hne]
  intro h
  have hlast := (h (max (limit - reported) 0).toInt.toNat).mp (hpasses _)
  omega

end Limit

/-! ## The decision -/

section Decision

variable {farm : FarmConfig} {policy : FarmRow} {s : FarmState} {payload : FarmTokenPayload}

/-- No other error is taken for one about a quota. -/
def NotQuota (e : ApiError) : Prop :=
  e ≠ userQuotaExceeded ∧ e ≠ farmQuotaExceeded

theorem notQuota_of_status {e : ApiError} (h : e.status ≠ .forbidden) : NotQuota e := by
  constructor
  · rintro rfl
    exact h rfl
  · rintro rfl
    exact h rfl

theorem generateHubId_notQuota (draws : List (List UInt8)) :
    (generateHubId draws).FailsOnly NotQuota := by
  induction draws with
  | nil => exact Prog.failsOnly_fail (notQuota_of_status (by decide))
  | cons bytes rest ih =>
      refine Prog.FailsOnly.bind (Prog.failsOnly_query _) fun exists? => ?_
      split_ifs
      · exact ih
      · exact Prog.failsOnly_ret _

theorem checkHubName_notQuota {name : String} {e : ApiError}
    (h : checkHubName farm name = .error e) : NotQuota e := by
  unfold checkHubName at h
  dsimp only at h
  split_ifs at h
  · cases h
    exact notQuota_of_status (by decide)
  · cases h
    exact notQuota_of_status (by decide)

theorem allocatePort_notQuota : (allocatePort farm).FailsOnly NotQuota := by
  refine Prog.FailsOnly.bind (Prog.failsOnly_query _) fun occupied => ?_
  cases firstGap occupied (occupied.length + 1) farm.basePort with
  | some port => exact Prog.failsOnly_ret _
  | none => exact Prog.failsOnly_fail (notQuota_of_status (by decide))

theorem execute_notQuota {f : Db → Except SqlError Db} :
    (execute jsonDbError f).FailsOnly NotQuota := by
  apply Prog.failsOnly_attempt
  intro s e h
  cases hf : f s.db with
  | ok db => simp [hf] at h
  | error sqlError =>
      rw [hf] at h
      cases h
      exact notQuota_of_status (by simp [jsonDbError, jsonError])

theorem spawnHub_notQuota {pid : Option ℕ} {hubId dbPath : String} {port : UInt16} :
    (spawnHub farm pid hubId dbPath port).FailsOnly NotQuota := by
  refine Prog.FailsOnly.bind (fun _ _ h => nomatch h) fun spawned => ?_
  cases spawned with
  | none => exact Prog.failsOnly_ret _
  | some pid => exact Prog.failsOnly_exec _

/-- A creation is refused because of a quota exactly if the check of the quotas fails. -/
theorem rejectedForQuota_iff (env : CreateHubEnv) (bearer : Bearer) (req : CreateHubRequest)
    (hauth : (requireAuth farm bearer).run s = (.ok payload, s))
    (hpolicy : s.db.farms = some policy) (hopen : policy.creationPolicy = "open") :
    RejectedForQuota ((createHub farm env bearer req).run s).1 ↔
      (quotaError? policy (s.db.ownedHubs payload.sub) s.db.totalHubs).isSome = true := by
  have hcheck := run_checkCreation_open hpolicy hopen payload.sub
  cases hquota : quotaError? policy (s.db.ownedHubs payload.sub) s.db.totalHubs with
  | some e =>
      rw [hquota] at hcheck
      have hprepare : (prepareHub farm env bearer req).run s = (.error e, s) := by
        rw [prepareHub, Prog.run_bind_of_ok hauth, Prog.run_bind_of_error hcheck]
      have hplace : (placeHub farm env bearer req).run s = (.error e, s) := by
        rw [placeHub, Prog.run_bind_of_error hprepare]
      rw [createHub, Prog.run_bind_of_error hplace]
      refine iff_of_true ?_ rfl
      rw [quotaError?] at hquota
      split_ifs at hquota
      · cases hquota
        exact .inl rfl
      · cases hquota
        exact .inr rfl
  | none =>
      rw [hquota] at hcheck
      have hprepare : ∀ e, ((prepareHub farm env bearer req).run s).1 = .error e → NotQuota e := by
        intro e h
        rw [prepareHub, Prog.run_bind_of_ok hauth, Prog.run_bind_of_ok hcheck] at h
        refine Prog.FailsOnly.bind (Prog.failsOnly_ofExcept fun e => checkHubName_notQuota)
          (fun name => ?_) s e h
        refine Prog.FailsOnly.bind (generateHubId_notQuota env.draws) fun hubId => ?_
        refine Prog.FailsOnly.bind (Prog.failsOnly_query _) fun now => ?_
        refine Prog.FailsOnly.bind (Prog.failsOnly_ofExcept ?_) fun _ => Prog.failsOnly_ret _
        intro e' he'
        cases hdir : env.dirError with
        | none => simp [hdir] at he'
        | some text =>
            rw [hdir] at he'
            cases he'
            exact notQuota_of_status (by simp [jsonError])
      have hplace : ∀ e, ((placeHub farm env bearer req).run s).1 = .error e → NotQuota e := by
        intro e h
        rcases hrun : (prepareHub farm env bearer req).run s with ⟨e' | row, t⟩
        · rw [placeHub, Prog.run_bind_of_error hrun] at h
          cases h
          exact hprepare e (by rw [hrun])
        · rw [placeHub, Prog.run_bind_of_ok hrun] at h
          refine Prog.FailsOnly.bind execute_notQuota (fun _ => ?_) t e h
          exact Prog.FailsOnly.bind allocatePort_notQuota fun _ => Prog.failsOnly_ret _
      refine iff_of_false ?_ (by simp)
      have hcreate : ∀ e, ((createHub farm env bearer req).run s).1 = .error e → NotQuota e := by
        intro e h
        rcases hrun : (placeHub farm env bearer req).run s with ⟨e' | placed, t⟩
        · rw [createHub, Prog.run_bind_of_error hrun] at h
          cases h
          exact hplace e (by rw [hrun])
        · rw [createHub, Prog.run_bind_of_ok hrun] at h
          refine Prog.FailsOnly.bind (Prog.failsOnly_exec _) (fun _ => ?_) t e h
          exact Prog.FailsOnly.bind spawnHub_notQuota fun _ => Prog.failsOnly_ret _
      rintro (h | h)
      · exact (hcreate _ h).1 rfl
      · exact (hcreate _ h).2 rfl

theorem run_fetchFarmRow (hpolicy : s.db.farms = some policy) :
    fetchFarmRow.run s = (.ok policy, s) := by
  rw [fetchFarmRow, fetch, Prog.run_bind_of_ok (Prog.run_query _ s), hpolicy]
  rfl

/-- A token that verifies at this time names its user. -/
theorem requireAuth_of_verified {token : String}
    (hverified : farm.verifyToken s.clock token = .ok payload) :
    (requireAuth farm (some token)).run s = (.ok payload, s) := by
  have htoken : (Prog.ofExcept (Option.elim (some token)
      (.error (jsonError .unauthorized "missing_token")) .ok) : Handler String).run s =
        (.ok token, s) := rfl
  have hclock : unixNow.run s = (.ok s.clock, s) := rfl
  rw [requireAuth, Prog.run_bind_of_ok htoken, Prog.run_bind_of_ok hclock, Prog.run_ofExcept,
    hverified]
  rfl

/-- What the user is told. -/
theorem run_meHubQuota {bearer : Bearer}
    (hauth : (requireAuth farm bearer).run s = (.ok payload, s))
    (hpolicy : s.db.farms = some policy) :
    (meHubQuota farm bearer).run s =
      (.ok
        { creationPolicy := policy.creationPolicy
          hubsOwned := Int64.ofNat (s.db.ownedHubs payload.sub)
          maxHubsPerUser := policy.maxHubsPerUser
          quotaRemaining :=
            quotaRemaining policy.maxHubsPerUser (Int64.ofNat (s.db.ownedHubs payload.sub))
          farmHubsTotal := Int64.ofNat s.db.totalHubs
          maxHubsTotal := policy.maxHubsTotal
          farmQuotaRemaining := quotaRemaining policy.maxHubsTotal (Int64.ofNat s.db.totalHubs) },
        s) := by
  rw [meHubQuota, Prog.run_bind_of_ok hauth, Prog.run_bind_of_ok (run_fetchFarmRow hpolicy)]
  rfl

theorem isSome_quotaError? {owned total : ℕ} :
    (quotaError? policy owned total).isSome = true ↔
      (0 < policy.maxHubsPerUser ∧ policy.maxHubsPerUser.toInt ≤ owned) ∨
        (0 < policy.maxHubsTotal ∧ policy.maxHubsTotal.toInt ≤ total) := by
  rw [quotaError?]
  split_ifs with huser hfarm
  · exact iff_of_true rfl (.inl huser)
  · exact iff_of_true rfl (.inr hfarm)
  · simp [huser, hfarm]

theorem quotaError?_user_iff {owned total : ℕ} :
    quotaError? policy owned total = some userQuotaExceeded ↔
      0 < policy.maxHubsPerUser ∧ policy.maxHubsPerUser.toInt ≤ owned := by
  rw [quotaError?]
  split_ifs with huser hfarm
  · exact iff_of_true rfl huser
  · exact iff_of_false (by decide) huser
  · exact iff_of_false (by simp) huser

theorem quotaError?_farm_iff {owned total : ℕ}
    (huser : ¬ (0 < policy.maxHubsPerUser ∧ policy.maxHubsPerUser.toInt ≤ owned)) :
    quotaError? policy owned total = some farmQuotaExceeded ↔
      0 < policy.maxHubsTotal ∧ policy.maxHubsTotal.toInt ≤ total := by
  rw [quotaError?, if_neg huser]
  split_ifs with hfarm
  · exact iff_of_true rfl hfarm
  · exact iff_of_false (by simp) hfarm

end Decision

/-- On an open farm the report agrees with the decision exactly if neither limit is
negative, or the creation is refused whatever the negative one. -/
theorem quotaReport_iff (farm : FarmConfig) (env : CreateHubEnv) (bearer : Bearer)
    (req : CreateHubRequest) (s : FarmState) (policy : FarmRow) (payload : FarmTokenPayload)
    (hauth : (requireAuth farm bearer).run s = (.ok payload, s))
    (hpolicy : s.db.farms = some policy) (hopen : policy.creationPolicy = "open")
    (hrows : s.db.hubs.rows.length < 2 ^ 63) :
    (∃ report, (meHubQuota farm bearer).run s = (.ok report, s) ∧
        ReportRight policy (s.db.ownedHubs payload.sub) s.db.totalHubs
          (RejectedForQuota ((createHub farm env bearer req).run s).1) report) ↔
      (0 ≤ policy.maxHubsPerUser ∧ 0 ≤ policy.maxHubsTotal) ∨
        (0 < policy.maxHubsPerUser ∧ policy.maxHubsPerUser.toInt ≤ s.db.ownedHubs payload.sub) ∨
        (0 < policy.maxHubsTotal ∧ policy.maxHubsTotal.toInt ≤ s.db.totalHubs) := by
  have hrejected := rejectedForQuota_iff env bearer req hauth hpolicy hopen
  rw [isSome_quotaError?] at hrejected
  have howned : s.db.ownedHubs payload.sub < 2 ^ 63 := lt_of_le_of_lt List.countP_le_length hrows
  have htotal : s.db.totalHubs < 2 ^ 63 := lt_of_le_of_lt List.countP_le_length hrows
  constructor
  · rintro ⟨report, hrun, hright⟩
    rw [run_meHubQuota hauth hpolicy] at hrun
    cases hrun
    by_contra hnot
    rw [← hrejected, not_or] at hnot
    obtain ⟨hnegative, hpasses⟩ := hnot
    have hneither := hpasses
    rw [hrejected, not_or] at hneither
    rcases not_and_or.mp hnegative with hneg | hneg
    · have hlimit : policy.maxHubsPerUser < 0 := Int64.not_le.mp hneg
      refine not_furtherCreations_of_neg hlimit ?_ (hright.user hpasses)
      intro k hfull
      exact absurd (quotaError?_user_iff.mp hfull).1 (Int64.lt_asymm hlimit)
    · have hlimit : policy.maxHubsTotal < 0 := Int64.not_le.mp hneg
      refine not_furtherCreations_of_neg hlimit ?_ (hright.farm hpasses)
      intro k hfull
      exact absurd ((quotaError?_farm_iff hneither.1).mp hfull).1 (Int64.lt_asymm hlimit)
  · intro hcondition
    refine ⟨_, run_meHubQuota hauth hpolicy, ?_, ?_, ?_⟩
    · rw [hrejected]
      dsimp only
      constructor
      · rintro (⟨hpositive, hfull⟩ | ⟨hpositive, hfull⟩)
        · exact .inl ((quotaRemaining_eq_zero_iff hpositive howned).mpr hfull)
        · exact .inr ((quotaRemaining_eq_zero_iff hpositive htotal).mpr hfull)
      · rcases hcondition with ⟨huser, hfarm⟩ | hfull
        · rw [quotaRemaining_eq_zero_of_nonneg huser howned,
            quotaRemaining_eq_zero_of_nonneg hfarm htotal]
          exact id
        · exact fun _ => hfull
    · intro hpasses
      rw [hrejected, not_or] at hpasses
      have hlimit := (hcondition.resolve_right fun h => h.elim hpasses.1 hpasses.2).1
      have hcheck : (fun k => quotaError? policy (s.db.ownedHubs payload.sub + k) s.db.totalHubs ≠
          some userQuotaExceeded) = fun k => ¬ (0 < policy.maxHubsPerUser ∧
            policy.maxHubsPerUser.toInt ≤ (s.db.ownedHubs payload.sub + k : ℕ)) :=
        funext fun k => propext (not_congr quotaError?_user_iff)
      rw [hcheck]
      exact furtherCreations_of_nonneg hlimit howned hpasses.1
    · intro hpasses
      rw [hrejected, not_or] at hpasses
      have hlimit := (hcondition.resolve_right fun h => h.elim hpasses.1 hpasses.2).2
      have hcheck : (fun k => quotaError? policy (s.db.ownedHubs payload.sub) (s.db.totalHubs + k) ≠
          some farmQuotaExceeded) = fun k => ¬ (0 < policy.maxHubsTotal ∧
            policy.maxHubsTotal.toInt ≤ (s.db.totalHubs + k : ℕ)) :=
        funext fun k => propext (not_congr (quotaError?_farm_iff hpasses.1))
      rw [hcheck]
      exact furtherCreations_of_nonneg hlimit htotal hpasses.2

/-! ## Two farms -/

theorem requireAuth_admin {s : FarmState} (hclock : s.clock = 1000) :
    (requireAuth sampleFarm adminBearer).run s = (.ok adminPayload, s) :=
  requireAuth_of_verified (hclock ▸ verifyToken_adminBearer)

def sampleRequest : CreateHubRequest :=
  ⟨"My Hub", none, none⟩

def sampleEnv : CreateHubEnv :=
  ⟨[[222, 173, 190, 239]], none, some 1⟩

/-- One hub may be created, and the user is told so. -/
theorem quotaReport_oneHubFarm :
    ∃ report, (meHubQuota sampleFarm adminBearer).run oneHubFarm = (.ok report, oneHubFarm) ∧
      ReportRight oneHubPolicy (oneHubFarm.db.ownedHubs adminPayload.sub) oneHubFarm.db.totalHubs
        (RejectedForQuota ((createHub sampleFarm sampleEnv adminBearer sampleRequest).run
          oneHubFarm).1)
        report :=
  (quotaReport_iff sampleFarm sampleEnv adminBearer sampleRequest oneHubFarm oneHubPolicy
    adminPayload (requireAuth_admin rfl) rfl rfl (by decide)).mpr (.inl (by decide))

/-- The admin has set a limit of -1. -/
def negativePolicy : FarmRow :=
  { oneHubPolicy with maxHubsPerUser := -1 }

def negativeFarm : FarmState :=
  { db := { farms := some negativePolicy }, clock := 1000 }

/-- The user is told that no hub is left, and may create them without a limit. -/
theorem negativeFarm_not_reportRight :
    ¬ ∃ report, (meHubQuota sampleFarm adminBearer).run negativeFarm = (.ok report, negativeFarm) ∧
      ReportRight negativePolicy (negativeFarm.db.ownedHubs adminPayload.sub)
        negativeFarm.db.totalHubs
        (RejectedForQuota
          ((createHub sampleFarm sampleEnv adminBearer sampleRequest).run negativeFarm).1)
        report := by
  rintro ⟨report, hrun, hright⟩
  have hauth : (requireAuth sampleFarm adminBearer).run negativeFarm =
      (.ok adminPayload, negativeFarm) :=
    requireAuth_admin rfl
  have hpolicy : negativeFarm.db.farms = some negativePolicy := rfl
  rw [run_meHubQuota hauth hpolicy] at hrun
  cases hrun
  have hrejected := hright.rejects.mpr (.inl (by decide))
  rw [rejectedForQuota_iff sampleEnv adminBearer sampleRequest hauth hpolicy rfl] at hrejected
  exact absurd hrejected (by decide)

end Voxply.Farm
