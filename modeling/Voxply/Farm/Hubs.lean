/-
# Hubs of a farm

A farm keeps a row for each hub and runs a process of the hub binary for it.  The hub
manager picks a port that none of the processes it knows of has, stores it in the row,
spawns the process and remembers it.  Requests for a hub are forwarded to the port in
its row.

The hub binary is a program of its own: which port it listens on and which file it keeps
its data in are decided by its `main`.
-/

import Voxply.Farm.Auth

namespace Voxply.Farm

open Voxply.Math Voxply.Identity
open Voxply.Hub (SqlError StatusCode parseUnsigned trim)

/-! ## Rows of hubs -/

/-- `deleted_at IS NULL`. -/
def HubRow.isKept (row : HubRow) : Bool :=
  row.deletedAt.isNone

/-- Neither deleted nor suspended. -/
def HubRow.isActive (row : HubRow) : Bool :=
  row.isKept && row.suspendedAt.isNone

/-- `SELECT … FROM hubs WHERE id = ? AND deleted_at IS NULL`. -/
def Db.keptHub (db : Db) (hubId : String) : Option HubRow :=
  (db.hubs.find? hubId).filter HubRow.isKept

/-- `SELECT COUNT(*) FROM hubs WHERE owner_pubkey = ? AND deleted_at IS NULL`. -/
def Db.ownedHubs (db : Db) (owner : String) : ℕ :=
  db.hubs.rows.countP fun row => row.ownerPubkey = owner && row.isKept

/-- `SELECT COUNT(*) FROM hubs WHERE deleted_at IS NULL`. -/
def Db.totalHubs (db : Db) : ℕ :=
  db.hubs.rows.countP HubRow.isKept

/-- `INSERT INTO hubs`. -/
def insertHub (row : HubRow) (db : Db) : Except SqlError Db :=
  match db.hubs.insert? row with
  | none => .error (.primaryKey "hubs.id")
  | some hubs => .ok { db with hubs := hubs }

/-- `UPDATE hubs SET … WHERE id = ?`. -/
def updateHub (hubId : String) (f : HubRow → HubRow) (hid : ∀ row, (f row).id = row.id) (db : Db) :
    Db :=
  { db with hubs := db.hubs.update (·.id = hubId) f hid }

def setPort (hubId : String) (port : UInt16) : Db → Db :=
  updateHub hubId (fun row => { row with processPort := some port.toNat }) fun _ => rfl

def markSuspended (hubId : String) (now : Int) (reason : Option String) : Db → Db :=
  updateHub hubId (fun row => { row with suspendedAt := some now, suspensionReason := reason })
    fun _ => rfl

def markDeleted (hubId : String) (now : Int) : Db → Db :=
  updateHub hubId (fun row => { row with deletedAt := some now }) fun _ => rfl

/-- What an insertion does to the hubs, if it is not refused. -/
theorem insertHub_cases (row : HubRow) (s : FarmState) :
    (s.db.hubs.has row.id = true ∧ executed (insertHub row) s = s) ∨
      (s.db.hubs.has row.id = false ∧
        (executed (insertHub row) s).db.hubs.rows = s.db.hubs.rows ++ [row]) := by
  cases hinsert : s.db.hubs.insert? row with
  | none =>
      have hrefused : insertHub row s.db = .error (.primaryKey "hubs.id") := by
        rw [insertHub, hinsert]
      refine .inl ⟨Table.has_iff.mpr (Table.insert?_eq_none_iff.mp hinsert), ?_⟩
      rw [executed_of_error hrefused]
  | some hubs =>
      have haccepted : insertHub row s.db = .ok { s.db with hubs := hubs } := by
        rw [insertHub, hinsert]
      obtain ⟨hfree, hrows⟩ := Table.insert?_eq_some_iff.mp hinsert
      refine .inr ⟨Table.has_eq_false_iff.mpr hfree, ?_⟩
      rw [executed_of_ok haccepted]
      exact hrows

theorem farms_insertHub (row : HubRow) (s : FarmState) :
    (executed (insertHub row) s).db.farms = s.db.farms := by
  cases hinsert : s.db.hubs.insert? row with
  | none =>
      have hrefused : insertHub row s.db = .error (.primaryKey "hubs.id") := by
        rw [insertHub, hinsert]
      rw [executed_of_error hrefused]
  | some hubs =>
      have haccepted : insertHub row s.db = .ok { s.db with hubs := hubs } := by
        rw [insertHub, hinsert]
      rw [executed_of_ok haccepted]
      rfl

/-- Where the rows come from after an update. -/
theorem mem_updateHub {hubId : String} {f : HubRow → HubRow} {hid : ∀ row, (f row).id = row.id}
    {db : Db} {row : HubRow} :
    row ∈ (updateHub hubId f hid db).hubs.rows ↔
      (∃ old ∈ db.hubs.rows, old.id = hubId ∧ f old = row) ∨
        (row ∈ db.hubs.rows ∧ row.id ≠ hubId) := by
  rw [updateHub, Table.rows_update, List.mem_map]
  constructor
  · rintro ⟨old, hold, hrow⟩
    by_cases hsame : old.id = hubId
    · rw [if_pos (by simpa using hsame)] at hrow
      exact .inl ⟨old, hold, hsame, hrow⟩
    · rw [if_neg (by simpa using hsame)] at hrow
      rw [← hrow]
      exact .inr ⟨hold, hsame⟩
  · rintro (⟨old, hold, hsame, hrow⟩ | ⟨hrow, hne⟩)
    · exact ⟨old, hold, by rw [if_pos (by simpa using hsame), hrow]⟩
    · exact ⟨row, hrow, by rw [if_neg (by simpa using hne)]⟩

/-! ## The hub binary -/

/-- `port_from_env`: `none` stands for a process that ends with an error. -/
def portFromEnv (environment : Environment) (var : String) (default : UInt16) : Option UInt16 :=
  match environment.lookup var with
  | some s => (parseUnsigned (2 ^ 16) s).map UInt16.ofNat
  | none => some default

/-- The port that `main` of the hub binary listens on. -/
def hubHttpPort (environment : Environment) : Option UInt16 :=
  portFromEnv environment "VOXPLY_HTTP_PORT" 3000

/-- The file that `main` of the hub binary opens, whatever its environment. -/
def hubDatabase (_environment : Environment) : String := "hub.db"

def Child.dbPath (child : Child) : String :=
  hubDatabase child.environment

/-! ## The hub manager -/

/-- What `spawn_hub` adds to the environment, and what is inherited of the variables that
the hub binary reads. -/
def FarmConfig.hubEnvironment (farm : FarmConfig) (dbPath : String) (port : UInt16) : Environment :=
  ("VOXPLY_HUB_DB", dbPath) :: ("VOXPLY_HUB_HTTP_PORT", toString port.toNat) ::
    ("VOXPLY_FARM_URL", farm.farmUrl) :: farm.httpPort.toList.map ("VOXPLY_HTTP_PORT", ·)

/-- The first port from `port` on that is not occupied, if it is among so many. -/
def firstGap (occupied : List UInt16) : ℕ → UInt16 → Option UInt16
  | 0, _ => none
  | n + 1, port => if port ∈ occupied then firstGap occupied n (port + 1) else some port

/-- A request that goes on forever: it sends nothing more and nobody sees an answer. -/
def noAnswer {A : Type} : Handler A :=
  .fail (textError .internalServerError "")

/-- `allocate_port`: the ports of the processes in the map are occupied. Among one port
more than there are of those some are not, unless all are occupied. -/
def allocatePort (farm : FarmConfig) : Handler UInt16 := do
  let occupied ← .query fun s => s.running.rows.map (·.port)
  match firstGap occupied (occupied.length + 1) farm.basePort with
  | some port => pure port
  | none => noAnswer

/-- Whether the system can give a process this number. -/
def FarmState.freePid (s : FarmState) (pid : ℕ) : Bool :=
  s.children.all (·.pid ≠ pid) && s.running.rows.all (·.child ≠ pid)

/-- The system starts the process, or it does not. -/
def addChild (farm : FarmConfig) (pid : Option ℕ) (hubId dbPath : String) (port : UInt16)
    (s : FarmState) : FarmState :=
  { s with
    children := s.children ++ (pid.filter s.freePid).toList.map fun pid =>
      ⟨pid, hubId, farm.hubEnvironment dbPath port, none⟩ }

/-- `Command::spawn`. -/
def startChild (farm : FarmConfig) (pid : Option ℕ) (hubId dbPath : String) (port : UInt16) :
    Handler (Option ℕ) :=
  .step (addChild farm pid hubId dbPath port) fun s => .ret (pid.filter s.freePid)

/-- The process goes into the map. -/
def track (process : HubProcess) (s : FarmState) : FarmState :=
  { s with running := s.running.replace process }

/-- `spawn_hub`; what goes wrong is logged by the callers and has no other effect. -/
def spawnHub (farm : FarmConfig) (pid : Option ℕ) (hubId dbPath : String) (port : UInt16) :
    Handler Unit := do
  let spawned ← startChild farm pid hubId dbPath port
  .whenSome spawned fun pid => .exec (track ⟨hubId, port, pid⟩)

/-- The process leaves the map, and if it is in there it is killed, unless that fails. -/
def dropProcess (kills : Bool) (hubId : String) (s : FarmState) : FarmState :=
  match s.running.find? hubId with
  | some process =>
      { s with
        running := s.running.keep (·.hubId ≠ hubId)
        children := if kills then s.children.filter (·.pid ≠ process.child) else s.children }
  | none => s

@[simp]
theorem db_dropProcess (kills : Bool) (hubId : String) (s : FarmState) :
    (dropProcess kills hubId s).db = s.db := by
  unfold dropProcess
  cases s.running.find? hubId <;> rfl

/-- `stop_hub`, with what goes wrong logged. -/
def stopHub (kills : Bool) (hubId : String) : Handler Unit :=
  .exec (dropProcess kills hubId)

/-- `port as u16`. -/
def portOfColumn (port : Int) : UInt16 :=
  UInt16.ofInt port

/-- The rows that `spawn_all_from_db` reads, each with the process that it is given. -/
def FarmState.spawnable (s : FarmState) : List (String × String × UInt16) :=
  s.db.hubs.rows.filterMap fun row =>
    if row.isActive then row.processPort.map fun port => (row.id, row.dbPath, portOfColumn port)
    else none

/-- `spawn_all_from_db`, with the process numbers that the system gives to the hubs. -/
def spawnAllFromDb (farm : FarmConfig) (pids : String → Option ℕ) : Handler Unit := do
  let rows ← .query FarmState.spawnable
  .each rows fun row => spawnHub farm (pids row.1) row.1 row.2.1 row.2.2

/-! ## Requests -/

structure CreateHubRequest where
  name : String
  description : Option String
  visibility : Option String
  deriving DecidableEq

structure CreateHubResponse where
  id : String
  hubUrl : String
  deriving DecidableEq

/-- What `create_hub` is given by the system: the random bytes it draws, how the creation
of the directory fails, if it does, and the process that is spawned. -/
structure CreateHubEnv where
  draws : List (List UInt8)
  dirError : Option String
  pid : Option ℕ
  deriving DecidableEq

/-- The policy and the quotas. -/
def checkCreation (sub : String) : Handler Unit := do
  let policyRow ← fetch (·.farms)
  .whenSome policyRow fun farm => do
    let adminPubkey ← getAdminPubkey
    if farm.creationPolicy = "disabled" then
      .fail (jsonError .forbidden "hub_creation_disabled")
    else if farm.creationPolicy = "open" then do
      .when (farm.maxHubsPerUser > 0) do
        let owned ← fetch (·.ownedHubs sub)
        .ensure ((owned : Int) < farm.maxHubsPerUser.toInt)
          (jsonError .forbidden "user_quota_exceeded")
      .when (farm.maxHubsTotal > 0) do
        let total ← fetch (·.totalHubs)
        .ensure ((total : Int) < farm.maxHubsTotal.toInt)
          (jsonError .forbidden "farm_quota_exceeded")
    else
      -- This is the arm of `admin_only` and that of unknown values.
      .ensure (adminPubkey = some sub) (jsonError .forbidden "admin_only")

/-- The name without the blanks around it. -/
def checkHubName (farm : FarmConfig) (name : String) : Except ApiError String :=
  let name := trim name
  if name.isEmpty || name.utf8ByteSize > 64 then
    .error ⟨.badRequest, .json "invalid_name" (some "must be 1-64 chars")⟩
  else if name.toList.all fun c => farm.isAlphanumeric c || c = ' ' || c = '-' then .ok name
  else .error ⟨.badRequest, .json "invalid_name" (some "only alphanumeric, spaces, hyphens")⟩

/-- The first draw that is not the id of a hub. -/
def generateHubId : List (List UInt8) → Handler String
  | [] => noAnswer
  | bytes :: rest => do
      let exists? ← fetch (·.hubs.has (hexEncode bytes))
      if exists? then generateHubId rest else pure (hexEncode bytes)

/-- `trim_end_matches('/')`. -/
def trimSlashes (s : String) : String :=
  String.ofList (s.toList.reverse.dropWhile (· = '/')).reverse

def hubUrl (farmUrl hubId : String) : String :=
  trimSlashes farmUrl ++ "/hub/" ++ hubId

def FarmConfig.hubsDirectory (farm : FarmConfig) : String :=
  farm.hubsDir.getD "hubs"

def FarmConfig.hubDbPath (farm : FarmConfig) (hubId : String) : String :=
  trimSlashes farm.hubsDirectory ++ "/" ++ hubId ++ ".db"

/-- `create_hub` up to its `INSERT`, with the row that is inserted. -/
def prepareHub (farm : FarmConfig) (env : CreateHubEnv) (bearer : Bearer) (req : CreateHubRequest) :
    Handler HubRow := do
  let payload ← requireAuth farm bearer
  checkCreation payload.sub
  let name ← .ofExcept (checkHubName farm req.name)
  let hubId ← generateHubId env.draws
  let now ← unixNow
  .ofExcept (env.dirError.elim (.ok ()) fun e =>
    .error (jsonError .internalServerError ("cannot create hubs dir: " ++ e)))
  pure
    { id := hubId
      ownerPubkey := payload.sub
      name := name
      description := req.description
      isPublic := req.visibility = some "public"
      processPort := none
      dbPath := farm.hubDbPath hubId
      createdAt := now
      suspendedAt := none
      suspensionReason := none
      deletedAt := none }

/-- `create_hub` up to the `UPDATE` that stores the port of the new hub. -/
def placeHub (farm : FarmConfig) (env : CreateHubEnv) (bearer : Bearer) (req : CreateHubRequest) :
    Handler (HubRow × UInt16) := do
  let row ← prepareHub farm env bearer req
  execute jsonDbError (insertHub row)
  let port ← allocatePort farm
  pure (row, port)

/-- `create_hub`, with `allocate_and_spawn` as its end. -/
def createHub (farm : FarmConfig) (env : CreateHubEnv) (bearer : Bearer) (req : CreateHubRequest) :
    Handler CreateHubResponse := do
  let placed ← placeHub farm env bearer req
  write (setPort placed.1.id placed.2)
  spawnHub farm env.pid placed.1.id placed.1.dbPath placed.2
  pure ⟨placed.1.id, hubUrl farm.farmUrl placed.1.id⟩

def suspendHub (farm : FarmConfig) (bearer : Bearer) (hubId : String) (reason : Option String) :
    Handler Int := do
  let payload ← requireAuth farm bearer
  let adminPubkey ← getAdminPubkey
  .ensure (adminPubkey = some payload.sub) (jsonError .forbidden "farm_admin_only")
  let row ← fetch (·.keptHub hubId)
  .ensure (row.isSome = true) (jsonError .notFound "hub_not_found")
  let now ← unixNow
  write (markSuspended hubId now reason)
  pure now

/-- `delete_hub`; `kills` says whether killing the process works. -/
def deleteHub (farm : FarmConfig) (kills : Bool) (bearer : Bearer) (hubId : String) :
    Handler Unit := do
  let payload ← requireAuth farm bearer
  let adminPubkey ← getAdminPubkey
  let row ← fetch (·.keptHub hubId)
  match row with
  | none => .fail (jsonError .notFound "hub_not_found")
  | some row => do
      .ensure (adminPubkey = some payload.sub ∨ payload.sub = row.ownerPubkey)
        (jsonError .forbidden "farm_admin_only")
      stopHub kills hubId
      let now ← unixNow
      write (markDeleted hubId now)

/-- Where `proxy_handler` sends a request for a hub. -/
def proxyTarget (db : Db) (hubId : String) : Except ApiError UInt16 :=
  match db.keptHub hubId with
  | none => .error (jsonError .notFound "hub_not_found")
  | some row =>
      if row.suspendedAt.isSome then .error (jsonError .serviceUnavailable "hub_suspended")
      else
        match row.processPort.filter (0 < ·) with
        | some port => .ok (portOfColumn port)
        | none => .error (jsonError .serviceUnavailable "hub_not_running")

end Voxply.Farm
