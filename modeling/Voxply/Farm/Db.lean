/-
# The farm

A farm logs users in for its hubs and runs the hubs as child processes.  Its store has
the singleton row of the farm, the users, the challenges that wait for an answer, the
sessions it has issued and the hubs.  Beside the store there are the clock, the map of
the processes that the hub manager thinks are running, and the processes that are.
-/

import Voxply.Farm.Token

namespace Voxply.Farm

open Voxply.Math Voxply.Identity
open Voxply.Hub (SqlError StatusCode)

/-! ## Rows -/

/-- The policy columns of the row with `id = 1`. -/
structure FarmRow where
  name : String
  description : Option String
  directoryPublic : Int
  creationPolicy : String
  maxHubsPerUser : Int64
  maxHubsTotal : Int64
  allowDiscoveryListing : Int
  languages : String
  tags : String
  country : Option String
  region : Option String
  adminPubkey : Option String
  deriving DecidableEq

structure FarmUserRow where
  publicKey : String
  masterPubkey : Option String
  firstSeenAt : Int
  lastSeenAt : Int
  deriving DecidableEq

structure PendingChallengeRow where
  publicKey : String
  challengeHex : String
  expiresAt : Int
  deriving DecidableEq

structure FarmSessionRow where
  jti : String
  publicKey : String
  issuedAt : Int
  expiresAt : Int
  revokedAt : Option Int
  scope : String
  revokedManually : Int
  deriving DecidableEq

structure HubRow where
  id : String
  ownerPubkey : String
  name : String
  description : Option String
  isPublic : Bool
  processPort : Option Int
  dbPath : String
  createdAt : Int
  suspendedAt : Option Int
  suspensionReason : Option String
  deletedAt : Option Int
  deriving DecidableEq

structure Db where
  farms : Option FarmRow := none
  farmUsers : Table FarmUserRow FarmUserRow.publicKey := ∅
  pendingChallenges : Table PendingChallengeRow PendingChallengeRow.publicKey := ∅
  farmSessions : Table FarmSessionRow FarmSessionRow.jti := ∅
  hubs : Table HubRow HubRow.id := ∅

/-! ## Processes -/

/-- What the hub manager keeps of a process that it has spawned for a hub. -/
structure HubProcess where
  hubId : String
  port : UInt16
  child : ℕ
  deriving DecidableEq

/-- The variables of an environment. -/
abbrev Environment := List (String × String)

/-- A process of the hub binary: the hub it was spawned for, the environment it was
started with, and the port that it listens on once it has bound it. -/
structure Child where
  pid : ℕ
  hubId : String
  environment : Environment
  port : Option UInt16
  deriving DecidableEq

structure FarmState where
  db : Db := {}
  clock : Int := 0
  running : Table HubProcess HubProcess.hubId := ∅
  children : List Child := []

/-- What a farm process is started with: the libraries, its signing key, its URL, and
the variables of its environment that are read. `httpPort` is one that only the hubs
read. -/
structure FarmConfig where
  ed25519 : Ed25519
  json : TokenJson
  isAlphanumeric : Char → Bool := Char.isAlphanum
  keypair : List UInt8
  farmUrl : String
  hubsDir : Option String := none
  basePort : UInt16 := 9100
  httpPort : Option String := none

/-- `FarmState::public_key_hex`. -/
def FarmConfig.publicKeyHex (farm : FarmConfig) : String :=
  Voxply.Farm.publicKeyHex farm.ed25519 farm.keypair

/-! ## Errors and handlers -/

/-- The body of a refusal: text on the endpoints for logging in, a document with the
name of the error elsewhere. -/
inductive ErrorBody where
  | text (message : String)
  | json (error : String) (details : Option String)
  deriving DecidableEq

structure ApiError where
  status : StatusCode
  body : ErrorBody
  deriving DecidableEq

def textError (status : StatusCode) (message : String) : ApiError :=
  ⟨status, .text message⟩

def jsonError (status : StatusCode) (error : String) : ApiError :=
  ⟨status, .json error none⟩

/-- How the endpoints for logging in report an error of the store. -/
def dbError (e : SqlError) : ApiError :=
  textError .internalServerError ("DB error: " ++ e.text)

/-- How the other endpoints do. -/
def jsonDbError (e : SqlError) : ApiError :=
  jsonError .internalServerError ("db_error: " ++ e.text)

abbrev Handler (A : Type) := Prog FarmState ApiError A

def FarmState.withDb (s : FarmState) (db : Db) : FarmState :=
  { s with db := db }

@[simp]
theorem withDb_db (s : FarmState) (db : Db) : (s.withDb db).db = db := rfl

@[simp]
theorem withDb_clock (s : FarmState) (db : Db) : (s.withDb db).clock = s.clock := rfl

@[simp]
theorem withDb_running (s : FarmState) (db : Db) : (s.withDb db).running = s.running := rfl

@[simp]
theorem withDb_children (s : FarmState) (db : Db) : (s.withDb db).children = s.children := rfl

/-- `unix_now`. -/
def unixNow : Handler Int :=
  .query FarmState.clock

/-- A `SELECT`. -/
def fetch {A : Type} (f : Db → A) : Handler A :=
  .query fun s => f s.db

/-- What a write does that no constraint can refuse. -/
def written (f : Db → Db) (s : FarmState) : FarmState :=
  s.withDb (f s.db)

/-- What a write does that may be refused. -/
def executed (f : Db → Except SqlError Db) (s : FarmState) : FarmState :=
  match f s.db with
  | .ok db => s.withDb db
  | .error _ => s

def write (f : Db → Db) : Handler Unit :=
  .exec (written f)

def execute (onError : SqlError → ApiError) (f : Db → Except SqlError Db) : Handler Unit :=
  .attempt fun s =>
    match f s.db with
    | .ok db => .ok (s.withDb db)
    | .error e => .error (onError e)

theorem attempted_execute (onError : SqlError → ApiError) (f : Db → Except SqlError Db) :
    Prog.attempted (fun s : FarmState => match f s.db with
      | .ok db => .ok (s.withDb db)
      | .error e => .error (onError e)) = executed f := by
  funext s
  unfold Prog.attempted executed
  dsimp only
  cases f s.db <;> rfl

@[simp]
theorem written_db (f : Db → Db) (s : FarmState) : (written f s).db = f s.db := rfl

@[simp]
theorem written_clock (f : Db → Db) (s : FarmState) : (written f s).clock = s.clock := rfl

theorem executed_of_ok {f : Db → Except SqlError Db} {s : FarmState} {db : Db}
    (h : f s.db = .ok db) : executed f s = s.withDb db := by
  rw [executed, h]

theorem executed_of_error {f : Db → Except SqlError Db} {s : FarmState} {e : SqlError}
    (h : f s.db = .error e) : executed f s = s := by
  rw [executed, h]

@[simp]
theorem executed_clock (f : Db → Except SqlError Db) (s : FarmState) :
    (executed f s).clock = s.clock := by
  unfold executed
  cases f s.db <;> rfl

/-- However a write ends, it leaves what its statement does. -/
theorem run_execute (onError : SqlError → ApiError) (f : Db → Except SqlError Db) (s : FarmState) :
    ((execute onError f).run s).2 = executed f s := by
  rw [execute, Prog.run_attempt, executed]
  cases f s.db <;> rfl

section Follows

variable {A : Type} {good : List (Sent FarmState) → Sent FarmState → Prop}
  {post : A → List (Sent FarmState) → Prop} {past : List (Sent FarmState)}

theorem follows_fetch_bind {B : Type} {f : Db → B} {g : B → Handler A}
    (hgood : ∀ s, good past ⟨id, s⟩)
    (hnext : ∀ s : FarmState, (g (f s.db)).Follows good post (past ++ [⟨id, s⟩])) :
    (fetch f >>= g).Follows good post past :=
  Prog.follows_query_bind hgood hnext

theorem follows_unixNow_bind {g : Int → Handler A} (hgood : ∀ s, good past ⟨id, s⟩)
    (hnext : ∀ s : FarmState, (g s.clock).Follows good post (past ++ [⟨id, s⟩])) :
    (unixNow >>= g).Follows good post past :=
  Prog.follows_query_bind hgood hnext

theorem follows_write_bind {f : Db → Db} {g : Unit → Handler A}
    (hgood : ∀ s, good past ⟨written f, s⟩)
    (hnext : ∀ s, (g ()).Follows good post (past ++ [⟨written f, s⟩])) :
    (write f >>= g).Follows good post past :=
  Prog.follows_exec_bind hgood hnext

theorem follows_execute_bind {onError : SqlError → ApiError} {f : Db → Except SqlError Db}
    {g : Unit → Handler A} (hgood : ∀ s, good past ⟨executed f, s⟩)
    (hnext : ∀ (s : FarmState) (db : Db), f s.db = .ok db →
      (g ()).Follows good post (past ++ [⟨executed f, s⟩])) :
    (execute onError f >>= g).Follows good post past := by
  have hwrite : (execute onError f).Follows good
      (fun _ past' => ∃ (s : FarmState) (db : Db), f s.db = .ok db ∧
        past' = past ++ [⟨executed f, s⟩]) past := by
    apply Prog.follows_attempt (attempted_execute onError f) hgood
    intro s t hs
    cases hf : f s.db with
    | ok db => exact ⟨s, db, hf, rfl⟩
    | error e => simp [hf] at hs
  apply hwrite.bind
  rintro _ past' - ⟨s, db, hf, rfl⟩
  exact hnext s db hf

end Follows

end Voxply.Farm
