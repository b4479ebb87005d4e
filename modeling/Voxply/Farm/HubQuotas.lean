/-
# Quotas for hubs

A hub is counted before it is inserted, with other statements in between.  One creation
after the other keeps to the limits; side by side they keep to them exactly if there is
still room whenever a row is inserted.
-/

import Voxply.Farm.HubRuns

namespace Voxply.Farm

open Voxply.Math Voxply.Identity
open Voxply.Hub (SqlError StatusCode)

/-! ## What is to hold -/

/-- Neither a user nor the farm has more hubs than the policy says. -/
structure WithinQuota (policy : FarmRow) (db : Db) : Prop where
  user : ∀ owner, (db.ownedHubs owner : Int) ≤ policy.maxHubsPerUser.toInt
  total : (db.totalHubs : Int) ≤ policy.maxHubsTotal.toInt

/-- A user may have one more. -/
structure HasRoom (policy : FarmRow) (db : Db) (owner : String) : Prop where
  user : (db.ownedHubs owner : Int) < policy.maxHubsPerUser.toInt
  total : (db.totalHubs : Int) < policy.maxHubsTotal.toInt

/-- If the next statement inserts a hub, there is room for it. -/
def InsertsRight (farm : FarmConfig) (policy : FarmRow) (move : FarmMove) (server : FarmServer) :
    Prop :=
  ∀ turn ∈ turn? server move, ∀ row ∈ inserts? farm turn.1 turn.2,
    server.state.db.hubs.has row.id = false → HasRoom policy server.state.db row.ownerPubkey

theorem hasRoom_iff {policy : FarmRow} {db : Db} {owner : String} :
    HasRoom policy db owner ↔ (db.ownedHubs owner : Int) < policy.maxHubsPerUser.toInt ∧
      (db.totalHubs : Int) < policy.maxHubsTotal.toInt :=
  ⟨fun h => ⟨h.user, h.total⟩, fun h => ⟨h.1, h.2⟩⟩

instance decidableHasRoom (policy : FarmRow) (db : Db) (owner : String) :
    Decidable (HasRoom policy db owner) :=
  decidable_of_iff' _ hasRoom_iff

instance decidableInsertsRight (farm : FarmConfig) (policy : FarmRow) (move : FarmMove)
    (server : FarmServer) : Decidable (InsertsRight farm policy move server) := by
  unfold InsertsRight
  infer_instance

/-! ## Counting -/

section Counting

variable {policy : FarmRow} {db : Db}

/-- An update that brings no hub back and gives none away adds to no count. -/
theorem WithinQuota.update (h : WithinQuota policy db) {hubId : String} {f : HubRow → HubRow}
    {hid : ∀ row, (f row).id = row.id} (hkept : ∀ row, (f row).isKept = true → row.isKept = true)
    (howner : ∀ row, (f row).ownerPubkey = row.ownerPubkey) :
    WithinQuota policy (updateHub hubId f hid db) := by
  have hcount : ∀ p : HubRow → Bool, (∀ row, p (f row) = true → p row = true) →
      (updateHub hubId f hid db).hubs.rows.countP p ≤ db.hubs.rows.countP p := by
    intro p hp
    rw [updateHub, Table.rows_update, List.countP_map]
    apply List.countP_mono_left
    intro row _ hrow
    by_cases hsame : row.id = hubId
    · exact hp row (by simpa [hsame] using hrow)
    · simpa [hsame] using hrow
  constructor
  · intro owner
    have howned : (updateHub hubId f hid db).ownedHubs owner ≤ db.ownedHubs owner := by
      apply hcount
      intro row hrow
      rw [howner, Bool.and_eq_true] at hrow
      rw [Bool.and_eq_true]
      exact ⟨hrow.1, hkept row hrow.2⟩
    have := h.user owner
    omega
  · have htotal : (updateHub hubId f hid db).totalHubs ≤ db.totalHubs := hcount _ hkept
    have := h.total
    omega

/-- One more hub is within the limits exactly if there was room. -/
theorem withinQuota_append_iff {db' : Db} {row : HubRow} (h : WithinQuota policy db)
    (hrows : db'.hubs.rows = db.hubs.rows ++ [row]) (hkept : row.isKept = true) :
    WithinQuota policy db' ↔ HasRoom policy db row.ownerPubkey := by
  have howned : ∀ owner, db'.ownedHubs owner =
      db.ownedHubs owner + if row.ownerPubkey = owner then 1 else 0 := by
    intro owner
    rw [Db.ownedHubs, hrows, List.countP_append, List.countP_singleton, Db.ownedHubs]
    simp [hkept]
  have htotal : db'.totalHubs = db.totalHubs + 1 := by
    rw [Db.totalHubs, hrows, List.countP_append, List.countP_singleton, if_pos hkept, Db.totalHubs]
  constructor
  · intro hafter
    have huser := hafter.user row.ownerPubkey
    rw [howned, if_pos rfl] at huser
    have hsum := hafter.total
    rw [htotal] at hsum
    exact ⟨by omega, by omega⟩
  · intro hroom
    constructor
    · intro owner
      rw [howned]
      split_ifs with hsame
      · rw [← hsame]
        have := hroom.user
        omega
      · have := h.user owner
        omega
    · rw [htotal]
      have := hroom.total
      omega

end Counting

/-! ## One creation alone -/

/-- The quota that a user with so many hubs runs into, on a farm with so many. -/
def quotaError? (policy : FarmRow) (owned total : ℕ) : Option ApiError :=
  if 0 < policy.maxHubsPerUser ∧ policy.maxHubsPerUser.toInt ≤ owned then
    some (jsonError .forbidden "user_quota_exceeded")
  else if 0 < policy.maxHubsTotal ∧ policy.maxHubsTotal.toInt ≤ total then
    some (jsonError .forbidden "farm_quota_exceeded")
  else none

/-- One of the two checks. -/
theorem run_quotaCheck {limit : Int64} {count : Db → ℕ} {e : ApiError} (s : FarmState) :
    (Prog.when (limit > 0) (fetch count >>= fun n => .ensure ((n : Int) < limit.toInt) e) :
        Handler Unit).run s =
      (if 0 < limit ∧ limit.toInt ≤ count s.db then .error e else .ok (), s) := by
  rw [Prog.when]
  by_cases hlimit : 0 < limit
  · rw [if_pos hlimit, fetch, Prog.run_bind_of_ok (Prog.run_query _ s)]
    by_cases hcount : (count s.db : Int) < limit.toInt
    · rw [Prog.run_ensure_of_pos hcount, if_neg fun h => absurd hcount (not_lt.mpr h.2)]
    · rw [Prog.run_ensure_of_neg hcount, if_pos ⟨hlimit, not_lt.mp hcount⟩]
  · rw [if_neg hlimit, if_neg fun h => hlimit h.1]
    rfl

theorem run_checkCreation_open {policy : FarmRow} {s : FarmState}
    (hpolicy : s.db.farms = some policy) (hopen : policy.creationPolicy = "open") (sub : String) :
    (checkCreation sub).run s =
      ((quotaError? policy (s.db.ownedHubs sub) s.db.totalHubs).elim (.ok ()) .error, s) := by
  have hdisabled : ¬ policy.creationPolicy = "disabled" := by
    rw [hopen]
    decide
  rw [checkCreation, fetch, Prog.run_bind_of_ok (Prog.run_query _ s), hpolicy, Prog.whenSome,
    getAdminPubkey, fetch, Prog.run_bind_of_ok (Prog.run_query _ s), if_neg hdisabled, if_pos hopen,
    quotaError?]
  split_ifs with huser htotal
  · rw [Prog.run_bind_of_error ((run_quotaCheck s).trans (by rw [if_pos huser]))]
    rfl
  · rw [Prog.run_bind_of_ok ((run_quotaCheck s).trans (by rw [if_neg huser])), run_quotaCheck,
      if_pos htotal]
    rfl
  · rw [Prog.run_bind_of_ok ((run_quotaCheck s).trans (by rw [if_neg huser])), run_quotaCheck,
      if_neg htotal]
    rfl

/-! ## Steps -/

section Steps

variable {farm : FarmConfig} {policy : FarmRow} {server : FarmServer} {request : HubRequest}
  {past : List (Sent FarmState)} {sent : Sent FarmState}

theorem HubSent.withinQuota_iff (h : HubSent farm request past sent)
    (hwithin : WithinQuota policy sent.before.db) :
    WithinQuota policy sent.after.db ↔ ∀ row ∈ inserts? farm request past,
      sent.before.db.hubs.has row.id = false → HasRoom policy sent.before.db row.ownerPubkey := by
  cases h with
  | aside hinserts hassigns hdb => simp [hinserts, hdb, hwithin]
  | insert row hinserts hassigns hactive hport hpath h =>
      rw [Sent.after, h, hinserts]
      rcases insertHub_cases row sent.before with ⟨htaken, hsame⟩ | ⟨hfree, hrows⟩
      · simp [hsame, hwithin, htaken]
      · rw [withinQuota_append_iff hwithin hrows (Bool.and_eq_true_iff.mp hactive).1]
        simp [hfree]
  | assign hubId port hinserts hassigns h =>
      have hafter : WithinQuota policy (setPort hubId port sent.before.db) :=
        hwithin.update (fun _ => id) fun _ => rfl
      rw [Sent.after, h]
      simp [hinserts, hafter]
  | suspend hubId now reason hinserts hassigns h =>
      have hafter : WithinQuota policy (markSuspended hubId now reason sent.before.db) :=
        hwithin.update (fun _ => id) fun _ => rfl
      rw [Sent.after, h]
      simp [hinserts, hafter]
  | delete hubId now hinserts hassigns h =>
      have hafter : WithinQuota policy (markDeleted hubId now sent.before.db) :=
        hwithin.update (fun row hrow => by simp [HubRow.isKept] at hrow) fun _ => rfl
      rw [Sent.after, h]
      simp [hinserts, hafter]

/-- The settings stay as they are. -/
theorem HubSent.farms (h : HubSent farm request past sent) :
    sent.after.db.farms = sent.before.db.farms := by
  cases h with
  | aside hinserts hassigns hdb => rw [hdb]
  | insert row hinserts hassigns hactive hport hpath h => rw [Sent.after, h, farms_insertHub]
  | assign hubId port hinserts hassigns h =>
      rw [Sent.after, h]
      rfl
  | suspend hubId now reason hinserts hassigns h =>
      rw [Sent.after, h]
      rfl
  | delete hubId now hinserts hassigns h =>
      rw [Sent.after, h]
      rfl

/-- What holds of a farm all along, whether its quotas are kept or not. -/
structure Governed (farm : FarmConfig) (policy : FarmRow) (server : FarmServer) : Prop where
  attached : FarmServer.Attached farm server
  farms : server.state.db.farms = some policy

theorem Governed.step (h : Governed farm policy server) (move : FarmMove) :
    Governed farm policy (farmStep farm move server) := by
  refine ⟨h.attached.step move, ?_⟩
  rcases farmStep_cases h.attached move with ⟨-, hdb⟩ |
    ⟨request, past, sent, -, hsent, hbefore, hafter⟩
  · rw [hdb]
    exact h.farms
  · rw [← hafter, hsent.farms, hbefore]
    exact h.farms

/-- A move keeps the quotas exactly if it inserts no hub for which there is no room. -/
theorem Governed.within_step_iff (h : Governed farm policy server)
    (hwithin : WithinQuota policy server.state.db) (move : FarmMove) :
    WithinQuota policy (farmStep farm move server).state.db ↔
      InsertsRight farm policy move server := by
  rw [InsertsRight]
  rcases farmStep_cases h.attached move with
    ⟨hturn, hdb⟩ | ⟨request, past, sent, hturn, hsent, hbefore, hafter⟩
  · rw [hdb, hturn]
    simp [hwithin]
  · rw [← hbefore] at hwithin
    rw [← hafter, hsent.withinQuota_iff hwithin, hturn, hbefore]
    simp

end Steps

/-- Side by side: the settings stay, and the quotas are kept all along exactly if there is
room whenever a hub is inserted. -/
theorem hubQuotas_iff (farm : FarmConfig) (pids : String → Option ℕ) (moves : List FarmMove)
    (s : FarmState) (policy : FarmRow) (hpolicy : s.db.farms = some policy)
    (hwithin : WithinQuota policy s.db) :
    (∀ first, first <+: moves →
        (farmRun farm first (boot farm pids s)).state.db.farms = some policy ∧
          WithinQuota policy (farmRun farm first (boot farm pids s)).state.db) ↔
      Along (farmStep farm) (InsertsRight farm policy) moves (boot farm pids s) := by
  have hgoverned : Governed farm policy (boot farm pids s) := ⟨attached_boot farm pids s, hpolicy⟩
  have hinv : ∀ move server, Governed farm policy server ∧ WithinQuota policy server.state.db →
      (Governed farm policy (farmStep farm move server) ∧
          WithinQuota policy (farmStep farm move server).state.db ↔
        InsertsRight farm policy move server) := by
    intro move server h
    rw [and_iff_right (h.1.step move)]
    exact h.1.within_step_iff h.2 move
  rw [← Along.invariant_iff _ hinv ⟨hgoverned, hwithin⟩]
  constructor
  · intro h first hprefix
    exact ⟨invariant_runAll _ (fun move server h => h.step move) first hgoverned,
      (h first hprefix).2⟩
  · intro h first hprefix
    exact ⟨(h first hprefix).1.farms, (h first hprefix).2⟩

/-! ## Two runs -/

/-- Everybody may have one hub, and the farm ten. -/
def oneHubPolicy : FarmRow :=
  { adminFarmRow with creationPolicy := "open", maxHubsPerUser := 1, maxHubsTotal := 10 }

def oneHubFarm : FarmState :=
  { db := { farms := some oneHubPolicy }, clock := 1000 }

/-- A user creates a hub. -/
def creation (id : UInt8) : FarmMove :=
  .start (.createHub ⟨[[0, 0, 0, id]], none, none⟩ adminBearer ⟨"My Hub", none, none⟩)

/-- One after the other. -/
def createTwice : List FarmMove :=
  [.exec 0, creation 1, .exec 1, .exec 1, .exec 1, .exec 1, .exec 1, .exec 1, .exec 1, .exec 1,
    .exec 1, .exec 1, .exec 1, creation 2, .exec 2, .exec 2, .exec 2, .exec 2]

/-- The second creation is refused. -/
theorem hubQuotas_createTwice :
    (farmRun sampleFarm createTwice (boot sampleFarm (fun _ => none) oneHubFarm)).answer? 2 =
        some (.error (jsonError .forbidden "user_quota_exceeded")) ∧
      ∀ first, first <+: createTwice →
        (farmRun sampleFarm first (boot sampleFarm (fun _ => none) oneHubFarm)).state.db.farms =
            some oneHubPolicy ∧
          WithinQuota oneHubPolicy
            (farmRun sampleFarm first (boot sampleFarm (fun _ => none) oneHubFarm)).state.db := by
  have hrun : (farmRun sampleFarm createTwice
        (boot sampleFarm (fun _ => none) oneHubFarm)).answer? 2 =
          some (.error (jsonError .forbidden "user_quota_exceeded")) ∧
      Along (farmStep sampleFarm) (InsertsRight sampleFarm oneHubPolicy) createTwice
        (boot sampleFarm (fun _ => none) oneHubFarm) := by
    rw [createTwice, creation, creation, adminBearer, signToken, dotted_eq_plainText]
    decide +kernel
  have hempty : WithinQuota oneHubPolicy oneHubFarm.db :=
    ⟨fun _ => show (0 : Int) ≤ 1 by omega, show (0 : Int) ≤ 10 by omega⟩
  exact ⟨hrun.1, (hubQuotas_iff sampleFarm (fun _ => none) createTwice oneHubFarm oneHubPolicy rfl
    hempty).mpr hrun.2⟩

/-- Both creations count before one of them inserts. -/
def createAtOnce : List FarmMove :=
  [.exec 0, creation 1, creation 2, .exec 1, .exec 1, .exec 1, .exec 1, .exec 1, .exec 2, .exec 2,
    .exec 2, .exec 2, .exec 2, .exec 1, .exec 1, .exec 1, .exec 2, .exec 2, .exec 2]

/-- The user has two hubs. -/
theorem createAtOnce_not_withinQuota :
    ¬ ∀ first, first <+: createAtOnce → WithinQuota oneHubPolicy
      (farmRun sampleFarm first (boot sampleFarm (fun _ => none) oneHubFarm)).state.db := by
  have htwo : (farmRun sampleFarm createAtOnce
      (boot sampleFarm (fun _ => none) oneHubFarm)).state.db.ownedHubs adminKey = 2 := by
    rw [createAtOnce, creation, creation, adminBearer, signToken, dotted_eq_plainText]
    decide +kernel
  intro h
  have hquota := (h _ (List.prefix_refl _)).user adminKey
  rw [htwo] at hquota
  exact absurd hquota (by decide)

end Voxply.Farm
