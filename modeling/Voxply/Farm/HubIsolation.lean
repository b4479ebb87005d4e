/-
# Isolation of hubs

No two live hubs are to have one port, and what is forwarded for a hub is to be answered
by a process that was spawned for it and works on its file.  Neither is so once a live hub
has a usable port: the port is stored before the process is there, a process that could
not be spawned keeps no port occupied, a restart forgets the map, and no hub process ever
opens the file or binds the port that it is passed.
-/

import Voxply.Farm.HubRuns

namespace Voxply.Farm

open Voxply.Math Voxply.Identity
open Voxply.Hub (SqlError StatusCode)

/-! ## What is to hold -/

/-- The ports of hubs that are neither deleted nor suspended differ. -/
def DistinctPorts (db : Db) : Prop :=
  ∀ row ∈ db.hubs.rows, ∀ other ∈ db.hubs.rows, row.isActive = true → other.isActive = true →
    ∀ port, row.processPort = some port → other.processPort = some port → row = other

/-- Where a request for a hub is forwarded to, a process listens that was spawned for the
hub and uses its file. -/
def RoutesRight (s : FarmState) : Prop :=
  ∀ hubId port, proxyTarget s.db hubId = .ok port → ∀ row ∈ s.db.keptHub hubId,
    ∃ child ∈ s.children, child.port = some port ∧ child.hubId = hubId ∧
      child.dbPath = row.dbPath

structure HubIsolated (s : FarmState) : Prop where
  ports : DistinctPorts s.db
  routes : RoutesRight s

/-- A hub may be given a port unless it is live: then only 0, to which nothing is
forwarded, and only if no other live hub has it. -/
def MayAssign (db : Db) (hubId : String) (port : UInt16) : Prop :=
  ∀ row ∈ db.hubs.find? hubId, row.isActive = true →
    port = 0 ∧ ∀ other ∈ db.hubs.rows, other.isActive = true → other.id ≠ hubId →
      other.processPort ≠ some (port.toNat : Int)

/-- If the next statement stores a port, the hub may be given it. -/
def AssignsRight (farm : FarmConfig) (move : FarmMove) (server : FarmServer) : Prop :=
  ∀ turn ∈ turn? server move, ∀ assigned ∈ assigns? farm turn.1 turn.2,
    MayAssign server.state.db assigned.1 assigned.2

instance decidableMayAssign (db : Db) (hubId : String) (port : UInt16) :
    Decidable (MayAssign db hubId port) := by
  unfold MayAssign
  infer_instance

instance decidableAssignsRight (farm : FarmConfig) (move : FarmMove) (server : FarmServer) :
    Decidable (AssignsRight farm move server) := by
  unfold AssignsRight
  infer_instance

/-! ## Forwarding -/

/-- Distinct ports, none of which can be forwarded to. -/
structure PortsQuiet (db : Db) : Prop where
  distinct : DistinctPorts db
  silent : ∀ row ∈ db.hubs.rows, row.isActive = true → ∀ port,
    row.processPort = some port → port ≤ 0

/-- No row has the file that the hub processes use. -/
def OwnPaths (db : Db) : Prop :=
  ∀ row ∈ db.hubs.rows, ∀ environment, row.dbPath ≠ hubDatabase environment

theorem hubDbPath_ne (farm : FarmConfig) (hubId : String) (environment : Environment) :
    farm.hubDbPath hubId ≠ hubDatabase environment := by
  intro h
  have hslash : '/' ∈ (farm.hubDbPath hubId).toList := by
    simp [FarmConfig.hubDbPath]
  rw [h, hubDatabase] at hslash
  exact absurd hslash (by decide)

theorem keptHub_eq_some_iff {db : Db} {hubId : String} {row : HubRow} :
    db.keptHub hubId = some row ↔ db.hubs.find? hubId = some row ∧ row.isKept = true := by
  rw [Db.keptHub, Option.filter_eq_some_iff]

theorem proxyTarget_eq_ok_iff {db : Db} {hubId : String} {port : UInt16} :
    proxyTarget db hubId = .ok port ↔ ∃ row, db.keptHub hubId = some row ∧ row.isActive = true ∧
      ∃ column, row.processPort = some column ∧ 0 < column ∧ port = portOfColumn column := by
  rw [proxyTarget]
  cases hkept : db.keptHub hubId with
  | none => simp
  | some row =>
      have hiff : row.isActive = true ↔ row.suspendedAt.isSome = false := by
        rw [HubRow.isActive, (keptHub_eq_some_iff.mp hkept).2, Bool.true_and,
          ← Option.not_isSome, Bool.not_eq_true']
      simp only [Option.some.injEq, exists_eq_left', hiff]
      cases hsuspended : row.suspendedAt.isSome with
      | true => simp
      | false =>
          cases hport : row.processPort with
          | none => simp
          | some column =>
              by_cases hpositive : 0 < column
              · simp [Option.filter_some, hpositive, eq_comm]
              · simp [Option.filter_some, hpositive]

theorem isolated_iff {s : FarmState} (hpaths : OwnPaths s.db) :
    HubIsolated s ↔ PortsQuiet s.db := by
  constructor
  · intro h
    refine ⟨h.ports, ?_⟩
    intro row hrow hactive port hport
    by_contra hpositive
    have hkept : s.db.keptHub row.id = some row := by
      refine keptHub_eq_some_iff.mpr ⟨Table.find?_eq_some_iff.mpr ⟨hrow, rfl⟩, ?_⟩
      exact (Bool.and_eq_true_iff.mp hactive).1
    have htarget := proxyTarget_eq_ok_iff.mpr
      ⟨row, hkept, hactive, port, hport, not_le.mp hpositive, rfl⟩
    obtain ⟨child, -, -, -, hpath⟩ := h.routes row.id _ htarget row hkept
    exact hpaths row hrow child.environment hpath.symm
  · intro h
    refine ⟨h.distinct, ?_⟩
    intro hubId port htarget
    obtain ⟨row, hkept, hactive, column, hcolumn, hpositive, -⟩ := proxyTarget_eq_ok_iff.mp htarget
    have hmem : row ∈ s.db.hubs.rows :=
      (Table.find?_eq_some_iff.mp (keptHub_eq_some_iff.mp hkept).1).1
    have hsilent := h.silent row hmem hactive column hcolumn
    omega

/-! ## Steps -/

section Steps

variable {farm : FarmConfig} {server : FarmServer} {db : Db} {request : HubRequest}
  {past : List (Sent FarmState)} {sent : Sent FarmState}

/-- A hub without a port can be added. -/
theorem PortsQuiet.insert {s : FarmState} (h : PortsQuiet s.db) {row : HubRow}
    (hport : row.processPort = none) : PortsQuiet (executed (insertHub row) s).db := by
  rcases insertHub_cases row s with ⟨-, hsame⟩ | ⟨-, hrows⟩
  · rwa [hsame]
  · constructor
    · intro a ha b hb hactive hactive' port hport' hport''
      rw [hrows, List.mem_append, List.mem_singleton] at ha hb
      rcases ha with ha | rfl
      · rcases hb with hb | rfl
        · exact h.distinct a ha b hb hactive hactive' port hport' hport''
        · rw [hport] at hport''
          cases hport''
      · rw [hport] at hport'
        cases hport'
    · intro a ha hactive port hport'
      rw [hrows, List.mem_append, List.mem_singleton] at ha
      rcases ha with ha | rfl
      · exact h.silent a ha hactive port hport'
      · rw [hport] at hport'
        cases hport'

/-- A hub can be retired. -/
theorem PortsQuiet.retire (h : PortsQuiet db) {hubId : String} {f : HubRow → HubRow}
    {hid : ∀ row, (f row).id = row.id} (hf : ∀ row, (f row).isActive = false) :
    PortsQuiet (updateHub hubId f hid db) := by
  have hsame : ∀ row ∈ (updateHub hubId f hid db).hubs.rows, row.isActive = true →
      row ∈ db.hubs.rows := by
    intro row hrow hactive
    rcases mem_updateHub.mp hrow with ⟨old, -, -, rfl⟩ | ⟨hold, -⟩
    · rw [hf old] at hactive
      cases hactive
    · exact hold
  constructor
  · intro row hrow other hother hactive hactive'
    exact h.distinct row (hsame row hrow hactive) other (hsame other hother hactive')
      hactive hactive'
  · intro row hrow hactive
    exact h.silent row (hsame row hrow hactive) hactive

theorem portsQuiet_setPort_iff (h : PortsQuiet db) (hubId : String) (port : UInt16) :
    PortsQuiet (setPort hubId port db) ↔ MayAssign db hubId port := by
  constructor
  · intro hquiet row hrow hactive
    obtain ⟨hmem, hid⟩ := Table.find?_eq_some_iff.mp hrow
    have hnew : { row with processPort := some (port.toNat : Int) } ∈
        (setPort hubId port db).hubs.rows :=
      mem_updateHub.mpr (.inl ⟨row, hmem, hid, rfl⟩)
    constructor
    · have hsilent := hquiet.silent _ hnew hactive _ rfl
      rw [← UInt16.toNat_inj]
      show port.toNat = 0
      omega
    · intro other hother hactive' hne hport
      have hold : other ∈ (setPort hubId port db).hubs.rows :=
        mem_updateHub.mpr (.inr ⟨hother, hne⟩)
      have hsame := hquiet.distinct _ hnew other hold hactive hactive' _ rfl hport
      apply hne
      rw [← hsame]
      exact hid
  · intro hright
    -- Among the live hubs only the one that gets the port is rewritten.
    have hrows : ∀ row ∈ (setPort hubId port db).hubs.rows, row.isActive = true →
        (row.id = hubId ∧ row.processPort = some (port.toNat : Int) ∧ port = 0 ∧
          ∀ other ∈ db.hubs.rows, other.isActive = true → other.id ≠ hubId →
            other.processPort ≠ some (port.toNat : Int)) ∨
            (row ∈ db.hubs.rows ∧ row.id ≠ hubId) := by
      intro row hrow hactive
      rcases mem_updateHub.mp hrow with ⟨old, hold, hid, rfl⟩ | hold
      · obtain ⟨hzero, hothers⟩ := hright old (Table.find?_eq_some_iff.mpr ⟨hold, hid⟩) hactive
        exact .inl ⟨hid, rfl, hzero, hothers⟩
      · exact .inr hold
    constructor
    · intro row hrow other hother hactive hactive' p hp hp'
      rcases hrows row hrow hactive with ⟨hid, hport, -, hothers⟩ | ⟨hold, hne⟩
      · rcases hrows other hother hactive' with ⟨hid', -⟩ | ⟨hold', hne'⟩
        · exact (setPort hubId port db).hubs.eq_of_key_eq hrow hother (hid.trans hid'.symm)
        · rw [hport] at hp
          exact absurd (hp'.trans hp.symm) (hothers other hold' hactive' hne')
      · rcases hrows other hother hactive' with ⟨-, hport', -, hothers⟩ | ⟨hold', -⟩
        · rw [hport'] at hp'
          exact absurd (hp.trans hp'.symm) (hothers row hold hactive hne)
        · exact h.distinct row hold other hold' hactive hactive' p hp hp'
    · intro row hrow hactive p hp
      rcases hrows row hrow hactive with ⟨-, hport, hzero, -⟩ | ⟨hold, -⟩
      · rw [hport, hzero] at hp
        cases hp
        exact le_rfl
      · exact h.silent row hold hactive p hp

theorem HubSent.portsQuiet_iff (h : HubSent farm request past sent)
    (hquiet : PortsQuiet sent.before.db) :
    PortsQuiet sent.after.db ↔
      ∀ assigned ∈ assigns? farm request past, MayAssign sent.before.db assigned.1 assigned.2 := by
  cases h with
  | aside hinserts hassigns hdb => simp [hassigns, hdb, hquiet]
  | insert row hinserts hassigns hactive hport hpath h =>
      rw [Sent.after, h]
      simp [hassigns, hquiet.insert hport]
  | assign hubId port hinserts hassigns h =>
      rw [Sent.after, h, written_db, portsQuiet_setPort_iff hquiet]
      simp [hassigns]
  | suspend hubId now reason hinserts hassigns h =>
      have hretired : PortsQuiet (markSuspended hubId now reason sent.before.db) :=
        hquiet.retire fun row => by simp [HubRow.isActive]
      rw [Sent.after, h]
      simp [hassigns, hretired]
  | delete hubId now hinserts hassigns h =>
      have hretired : PortsQuiet (markDeleted hubId now sent.before.db) :=
        hquiet.retire fun row => by simp [HubRow.isActive, HubRow.isKept]
      rw [Sent.after, h]
      simp [hassigns, hretired]

theorem OwnPaths.update (h : OwnPaths db) {hubId : String} {f : HubRow → HubRow}
    {hid : ∀ row, (f row).id = row.id} (hf : ∀ row, (f row).dbPath = row.dbPath) :
    OwnPaths (updateHub hubId f hid db) := by
  intro row hrow
  rcases mem_updateHub.mp hrow with ⟨old, hold, -, rfl⟩ | ⟨hold, -⟩
  · rw [hf old]
    exact h old hold
  · exact h row hold

theorem HubSent.ownPaths (h : HubSent farm request past sent) (hpaths : OwnPaths sent.before.db) :
    OwnPaths sent.after.db := by
  cases h with
  | aside hinserts hassigns hdb =>
      rw [hdb]
      exact hpaths
  | insert row hinserts hassigns hactive hport hpath h =>
      rw [Sent.after, h, OwnPaths]
      rcases insertHub_cases row sent.before with ⟨-, hsame⟩ | ⟨-, hrows⟩
      · rw [hsame]
        exact hpaths
      · intro found hfound environment
        rw [hrows, List.mem_append, List.mem_singleton] at hfound
        rcases hfound with hfound | rfl
        · exact hpaths found hfound environment
        · rw [hpath]
          exact hubDbPath_ne farm found.id environment
  | assign hubId port hinserts hassigns h =>
      rw [Sent.after, h]
      exact hpaths.update fun _ => rfl
  | suspend hubId now reason hinserts hassigns h =>
      rw [Sent.after, h]
      exact hpaths.update fun _ => rfl
  | delete hubId now hinserts hassigns h =>
      rw [Sent.after, h]
      exact hpaths.update fun _ => rfl

/-- What holds of a farm all along, whether its hubs are isolated or not. -/
structure Running (farm : FarmConfig) (server : FarmServer) : Prop where
  attached : FarmServer.Attached farm server
  paths : OwnPaths server.state.db

theorem Running.step (h : Running farm server) (move : FarmMove) :
    Running farm (farmStep farm move server) := by
  refine ⟨h.attached.step move, ?_⟩
  rcases farmStep_cases h.attached move with ⟨-, hdb⟩ |
    ⟨request, past, sent, -, hsent, hbefore, hafter⟩
  · rw [hdb]
    exact h.paths
  · rw [← hafter]
    apply hsent.ownPaths
    rw [hbefore]
    exact h.paths

/-- A move keeps the hubs isolated exactly if it assigns no port that it may not. -/
theorem Running.isolated_step_iff (h : Running farm server) (hisolated : HubIsolated server.state)
    (move : FarmMove) :
    HubIsolated (farmStep farm move server).state ↔ AssignsRight farm move server := by
  have hquiet := (isolated_iff h.paths).mp hisolated
  rw [isolated_iff (h.step move).paths, AssignsRight]
  rcases farmStep_cases h.attached move with
    ⟨hturn, hdb⟩ | ⟨request, past, sent, hturn, hsent, hbefore, hafter⟩
  · rw [hdb, hturn]
    simp [hquiet]
  · rw [← hbefore] at hquiet
    rw [← hafter, hsent.portsQuiet_iff hquiet, hturn, hbefore]
    simp

end Steps

/-- From a farm without hubs: the hubs are isolated all along exactly if no live hub is
ever given a port that something could be forwarded to, or the port of another. -/
theorem hubIsolation_iff (farm : FarmConfig) (pids : String → Option ℕ) (moves : List FarmMove)
    (s : FarmState) (hs : s.db.hubs = ∅) :
    (∀ first, first <+: moves → HubIsolated (farmRun farm first (boot farm pids s)).state) ↔
      Along (farmStep farm) (AssignsRight farm) moves (boot farm pids s) := by
  have hnone : ∀ row, row ∉ (boot farm pids s).state.db.hubs.rows := by
    intro row hrow
    change row ∈ s.db.hubs.rows at hrow
    rw [hs] at hrow
    cases hrow
  have hrunning : Running farm (boot farm pids s) :=
    ⟨attached_boot farm pids s, fun row hrow => absurd hrow (hnone row)⟩
  have hfirst : HubIsolated (boot farm pids s).state := by
    rw [isolated_iff hrunning.paths]
    exact ⟨fun row hrow => absurd hrow (hnone row), fun row hrow => absurd hrow (hnone row)⟩
  have hinv : ∀ move server, Running farm server ∧ HubIsolated server.state →
      (Running farm (farmStep farm move server) ∧ HubIsolated (farmStep farm move server).state ↔
        AssignsRight farm move server) := by
    intro move server h
    rw [and_iff_right (h.1.step move)]
    exact h.1.isolated_step_iff h.2 move
  rw [← Along.invariant_iff _ hinv ⟨hrunning, hfirst⟩]
  constructor
  · intro h first hprefix
    exact ⟨invariant_runAll _ (fun move server h => h.step move) first hrunning, h first hprefix⟩
  · intro h first hprefix
    exact (h first hprefix).2

/-! ## Two runs -/

/-- The admin creates a hub. -/
def sampleCreation : HubRequest :=
  .createHub ⟨[[222, 173, 190, 239]], none, some 1⟩ adminBearer ⟨"My Hub", none, none⟩

def beginCreation : List FarmMove :=
  [.exec 0, .start sampleCreation, .exec 1, .exec 1, .exec 1, .exec 1, .exec 1, .exec 1]

def endCreation : List FarmMove :=
  [.exec 1, .exec 1, .exec 1, .exec 1]

/-- The hub is suspended before it is given its port. -/
def suspendEarly : List FarmMove :=
  beginCreation ++ [.start (.suspendHub adminBearer "deadbeef" none), .exec 2, .exec 2, .exec 2,
    .exec 2, .exec 2] ++ endCreation

/-- The port is stored and its process is running, but nothing is forwarded there. -/
theorem hubIsolation_suspendEarly :
    (farmRun sampleFarm suspendEarly
      (boot sampleFarm (fun _ => none) newFarm)).state.db.hubs.rows.map
        (·.processPort) = [some 9100] ∧
      ∀ first, first <+: suspendEarly →
        HubIsolated (farmRun sampleFarm first (boot sampleFarm (fun _ => none) newFarm)).state := by
  have hrun : (farmRun sampleFarm suspendEarly
        (boot sampleFarm (fun _ => none) newFarm)).state.db.hubs.rows.map (·.processPort) =
          [some 9100] ∧
      Along (farmStep sampleFarm) (AssignsRight sampleFarm) suspendEarly
        (boot sampleFarm (fun _ => none) newFarm) := by
    rw [suspendEarly, beginCreation, sampleCreation, adminBearer, signToken, dotted_eq_plainText]
    decide +kernel
  exact ⟨hrun.1, (hubIsolation_iff sampleFarm (fun _ => none) suspendEarly newFarm rfl).mpr hrun.2⟩

/-- The hub is created, and its process listens. -/
def createAndListen : List FarmMove :=
  beginCreation ++ endCreation ++ [.start (.listens 1), .exec 2]

/-- Requests for the hub go to port 9100. The process that was spawned for it listens on
port 3000 and has the file `hub.db`. -/
theorem createAndListen_not_isolated :
    ¬ ∀ first, first <+: createAndListen →
      HubIsolated (farmRun sampleFarm first (boot sampleFarm (fun _ => none) newFarm)).state := by
  have hrun : proxyTarget (farmRun sampleFarm createAndListen
        (boot sampleFarm (fun _ => none) newFarm)).state.db "deadbeef" = .ok 9100 ∧
      (∃ row ∈ (farmRun sampleFarm createAndListen
        (boot sampleFarm (fun _ => none) newFarm)).state.db.keptHub "deadbeef",
          row.dbPath ≠ "hub.db") ∧
      (farmRun sampleFarm createAndListen
        (boot sampleFarm (fun _ => none) newFarm)).state.children.map (·.port) = [some 3000] := by
    rw [createAndListen, beginCreation, sampleCreation, adminBearer, signToken, dotted_eq_plainText]
    decide +kernel
  intro h
  obtain ⟨htarget, ⟨row, hrow, hpath⟩, -⟩ := hrun
  obtain ⟨child, -, -, -, hsame⟩ :=
    (h _ (List.prefix_refl _)).routes "deadbeef" 9100 htarget row hrow
  exact hpath hsame.symm

end Voxply.Farm
