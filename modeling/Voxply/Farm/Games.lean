/-
# Games of the farm

The administrator of a farm installs games for all its hubs and grants them
capabilities.  A game keeps values for each user, under keys of its own choice; they
follow the user to every hub.  Only the user and the administrator may read or write
them.

So the other users of the farm do not matter.  In two runs that follow the same schedule
some users may ask for different things: as long as none of them is the administrator,
everybody else's requests get the same answers, and everybody else's values are the
same at the end.
-/

import Mathlib.Data.String.Basic
import Voxply.Farm.Admin
import Voxply.Farm.SessionRevocation
import Voxply.Math.Interference

namespace Voxply.Farm

open Voxply.Math Voxply.Identity
open Voxply.Hub (StatusCode)

/-! ## Rows -/

structure GameRow where
  id : String
  name : String
  entryUrl : String
  description : Option String
  thumbnailUrl : Option String
  version : String
  author : Option String
  minPlayers : Int64
  maxPlayers : Int64
  permissionGrant : String := "[]"
  installedBy : Option String
  installedAt : Option String
  deriving DecidableEq

structure GameKvRow where
  gameId : String
  userPubkey : String
  key : String
  value : String
  updatedAt : String
  deriving DecidableEq

/-- `PRIMARY KEY (game_id, user_pubkey, key)`. -/
def GameKvRow.place (row : GameKvRow) : String × String × String :=
  (row.gameId, row.userPubkey, row.key)

/-- The farm with the tables of its games. -/
structure GamesState where
  farm : FarmState
  games : Table GameRow GameRow.id := ∅
  gameKv : Table GameKvRow GameKvRow.place := ∅

abbrev GamesHandler (A : Type) := Prog GamesState ApiError A

/-! ## Requests and responses -/

structure InstallGameRequest where
  name : String
  entryUrl : String
  id : Option String := none
  description : Option String := none
  thumbnailUrl : Option String := none
  version : Option String := none
  author : Option String := none
  minPlayers : Option Int64 := none
  maxPlayers : Option Int64 := none
  deriving DecidableEq

structure GameResponse where
  id : String
  name : String
  entryUrl : String
  description : Option String
  thumbnailUrl : Option String
  version : String
  author : Option String
  minPlayers : Int64
  maxPlayers : Int64
  permissionGrant : Json
  installedBy : Option String
  installedAt : Option String

structure KvResponse where
  gameId : String
  userPubkey : String
  key : String
  value : Option String
  updatedAt : Option String
  deriving DecidableEq

/-- `From<GameRow>`. Grants that cannot be read are shown as none. -/
def GameRow.response (json : SettingsJson) (row : GameRow) : GameResponse where
  id := row.id
  name := row.name
  entryUrl := row.entryUrl
  description := row.description
  thumbnailUrl := row.thumbnailUrl
  version := row.version
  author := row.author
  minPlayers := row.minPlayers
  maxPlayers := row.maxPlayers
  permissionGrant := (json.read row.permissionGrant).getD (.array [])
  installedBy := row.installedBy
  installedAt := row.installedAt

/-! ## Who is asking -/

namespace Games

/-- `require_auth` of the games. -/
def requireAuth (farm : FarmConfig) (bearer : Bearer) : GamesHandler FarmTokenPayload := do
  let token ← .ofExcept (bearer.elim (.error (jsonError .unauthorized "missing_token")) .ok)
  let now ← .query (·.farm.clock)
  .ofExcept ((farm.verifyToken now token).mapError fun _ =>
    jsonError .unauthorized "invalid_token")

def getAdminPubkey : GamesHandler (Option String) :=
  .query fun s => s.farm.db.farms.bind (·.adminPubkey)

def requireAdmin (farm : FarmConfig) (bearer : Bearer) : GamesHandler String := do
  let payload ← requireAuth farm bearer
  let adminPubkey ← getAdminPubkey
  .ensure (adminPubkey = some payload.sub) (jsonError .forbidden "farm_admin_only")
  pure payload.sub

def requireAnyAuth (farm : FarmConfig) (bearer : Bearer) : GamesHandler String := do
  let payload ← requireAuth farm bearer
  pure payload.sub

/-- Only the owner or the farm admin may read or write a user's values. -/
def requireOwner (farm : FarmConfig) (bearer : Bearer) (userPubkey : String) :
    GamesHandler Unit := do
  let caller ← requireAnyAuth farm bearer
  .when (caller ≠ userPubkey) do
    let admin ← getAdminPubkey
    .ensure (admin = some caller) (jsonError .forbidden "forbidden")

def nowStr : GamesHandler String :=
  .query fun s => toString s.farm.clock

/-! ## Handlers -/

section Handlers

variable (farm : FarmConfig) (json : SettingsJson) (sha256 : List UInt8 → List UInt8)

/-- The id of a game that is installed without one. -/
def gameId (req : InstallGameRequest) : String :=
  req.id.getD ("game-" ++ hexEncode ((sha256 (asBytes req.entryUrl)).take 8))

/-- The row of a new game. -/
def installedRow (caller now : String) (req : InstallGameRequest) : GameRow where
  id := gameId sha256 req
  name := req.name
  entryUrl := req.entryUrl
  description := req.description
  thumbnailUrl := req.thumbnailUrl
  version := req.version.getD "1.0.0"
  author := req.author
  minPlayers := req.minPlayers.getD 1
  maxPlayers := req.maxPlayers.getD 1
  installedBy := some caller
  installedAt := some now

/-- What a game that is installed again keeps: what it is granted, and who installed it
first. -/
def reinstalled (new old : GameRow) : GameRow :=
  { new with
    id := old.id
    permissionGrant := old.permissionGrant
    installedBy := old.installedBy
    installedAt := old.installedAt }

theorem id_reinstalled (new old : GameRow) : (reinstalled new old).id = old.id := rfl

def granted (text : String) (row : GameRow) : GameRow :=
  { row with permissionGrant := text }

theorem id_granted (text : String) (row : GameRow) : (granted text row).id = row.id := rfl

def rewritten (new old : GameKvRow) : GameKvRow :=
  { old with value := new.value, updatedAt := new.updatedAt }

theorem place_rewritten (new old : GameKvRow) : (rewritten new old).place = old.place := rfl

def upsertGame (new : GameRow) (s : GamesState) : GamesState :=
  { s with games := s.games.upsert new (reinstalled new) (id_reinstalled new) }

def setGrant (id text : String) (s : GamesState) : GamesState :=
  { s with games := s.games.update (·.id = id) (granted text) (id_granted text) }

def deleteGame (id : String) (s : GamesState) : GamesState :=
  { s with games := s.games.keep (·.id ≠ id) }

def upsertKv (new : GameKvRow) (s : GamesState) : GamesState :=
  { s with gameKv := s.gameKv.upsert new (rewritten new) (place_rewritten new) }

theorem find?_upsertKv (new : GameKvRow) (s : GamesState) (place : String × String × String) :
    (upsertKv new s).gameKv.find? place =
      if place = new.place then some (((s.gameKv.find? place).map (rewritten new)).getD new)
      else s.gameKv.find? place :=
  s.gameKv.find?_upsert new (place_rewritten new) place

/-- A write to one row of `games`, which reports whether the row is there. -/
def writeGame (id : String) (act : GamesState → GamesState) : GamesHandler Bool :=
  .step act fun s => .ret (s.games.has id)

/-- `fetch_one` after a write. -/
def fetchGame (id : String) : GamesHandler GameResponse := do
  let row ← .query (·.games.find? id)
  match row with
  | none => .fail (jsonError .internalServerError
      "db_error: no rows returned by a query that expected to return at least one row")
  | some row => pure (row.response json)

def installGame (bearer : Bearer) (req : InstallGameRequest) : GamesHandler GameResponse := do
  let caller ← requireAdmin farm bearer
  let now ← nowStr
  .exec (upsertGame (installedRow sha256 caller now req))
  fetchGame json (gameId sha256 req)

def listGames (bearer : Bearer) : GamesHandler (List GameResponse) := do
  let _ ← requireAnyAuth farm bearer
  let rows ← .query fun s : GamesState => s.games.rows.mergeSort fun a b => a.name ≤ b.name
  pure (rows.map (GameRow.response json))

def getGame (bearer : Bearer) (id : String) : GamesHandler GameResponse := do
  let _ ← requireAnyAuth farm bearer
  let row ← .query (·.games.find? id)
  match row with
  | none => .fail (jsonError .notFound "game_not_found")
  | some row => pure (row.response json)

def validCaps : List String := ["post_message", "read_channel_history", "list_channel_users"]

def validateGrant (grant : List String) : Except ApiError Unit :=
  match grant.find? (· ∉ validCaps) with
  | some cap => .error (detailedError "invalid_capability" ("unknown capability: " ++ cap))
  | none => .ok ()

def patchGame (bearer : Bearer) (id : String) (grant : List String) :
    GamesHandler GameResponse := do
  let _ ← requireAdmin farm bearer
  .ofExcept (validateGrant grant)
  let affected ← writeGame id (setGrant id (json.write grant))
  .ensure (affected = true) (jsonError .notFound "game_not_found")
  fetchGame json id

def uninstallGame (bearer : Bearer) (id : String) : GamesHandler Unit := do
  let _ ← requireAdmin farm bearer
  let affected ← writeGame id (deleteGame id)
  .ensure (affected = true) (jsonError .notFound "game_not_found")

def getKv (bearer : Bearer) (gameId userPubkey key : String) : GamesHandler KvResponse := do
  requireOwner farm bearer userPubkey
  let row ← .query (·.gameKv.find? (gameId, userPubkey, key))
  pure ⟨gameId, userPubkey, key, row.map (·.value), row.map (·.updatedAt)⟩

def putKv (bearer : Bearer) (gameId userPubkey key value : String) : GamesHandler Unit := do
  requireOwner farm bearer userPubkey
  let known ← .query (·.games.has gameId)
  .ensure (known = true) (jsonError .notFound "game_not_found")
  let now ← nowStr
  .exec (upsertKv ⟨gameId, userPubkey, key, value, now⟩)

end Handlers

end Games

/-! ## Runs -/

/-- What is asked of the games, and that time passes. -/
inductive GamesRequest where
  | install (bearer : Bearer) (req : InstallGameRequest)
  | list (bearer : Bearer)
  | get (bearer : Bearer) (id : String)
  | patch (bearer : Bearer) (id : String) (grant : List String)
  | uninstall (bearer : Bearer) (id : String)
  | getKv (bearer : Bearer) (gameId userPubkey key : String)
  | putKv (bearer : Bearer) (gameId userPubkey key value : String)
  | pass (seconds : ℕ)
  deriving DecidableEq

inductive GamesAnswer where
  | game (status : StatusCode) (response : GameResponse)
  | games (responses : List GameResponse)
  | kv (response : KvResponse)
  | done (status : StatusCode)

def GamesState.after (seconds : ℕ) (s : GamesState) : GamesState :=
  { s with farm := { s.farm with clock := s.farm.clock + seconds } }

namespace GamesRequest

/-- Who asks. -/
def bearer : GamesRequest → Bearer
  | .install bearer _ => bearer
  | .list bearer => bearer
  | .get bearer _ => bearer
  | .patch bearer _ _ => bearer
  | .uninstall bearer _ => bearer
  | .getKv bearer _ _ _ => bearer
  | .putKv bearer _ _ _ _ => bearer
  | .pass _ => none

/-- Whose values it is about. -/
def owner? : GamesRequest → Option String
  | .getKv _ _ userPubkey _ => some userPubkey
  | .putKv _ _ userPubkey _ _ => some userPubkey
  | _ => none

def handler (farm : FarmConfig) (json : SettingsJson) (sha256 : List UInt8 → List UInt8) :
    GamesRequest → GamesHandler GamesAnswer
  | .install bearer req => do
      let game ← Games.installGame farm json sha256 bearer req
      pure (.game .created game)
  | .list bearer => do
      let games ← Games.listGames farm json bearer
      pure (.games games)
  | .get bearer id => do
      let game ← Games.getGame farm json bearer id
      pure (.game .ok game)
  | .patch bearer id grant => do
      let game ← Games.patchGame farm json bearer id grant
      pure (.game .ok game)
  | .uninstall bearer id => do
      Games.uninstallGame farm bearer id
      pure (.done .noContent)
  | .getKv bearer gameId userPubkey key => do
      let row ← Games.getKv farm bearer gameId userPubkey key
      pure (.kv row)
  | .putKv bearer gameId userPubkey key value => do
      Games.putKv farm bearer gameId userPubkey key value
      pure (.done .noContent)
  | .pass seconds => do
      .exec (GamesState.after seconds)
      pure (.done .ok)

end GamesRequest

def gamesRun (farm : FarmConfig) (json : SettingsJson) (sha256 : List UInt8 → List UInt8)
    (moves : List (Move GamesRequest)) (s : GamesState) :
    Server GamesRequest GamesState ApiError GamesAnswer :=
  serve (GamesRequest.handler farm json sha256) moves s

/-! ## What is to hold -/

/-- A token speaks for the user whom it names as long as it is valid. -/
def FarmConfig.SpeaksFor (farm : FarmConfig) (token user : String) : Prop :=
  ∃ now payload, farm.verifyToken now token = .ok payload ∧ payload.sub = user

/-- The request is not made by one of the others, nor about their values. -/
structure GamesRequest.Apart (farm : FarmConfig) (others : Set String) (request : GamesRequest) :
    Prop where
  asker : ∀ token ∈ request.bearer, ∀ user, farm.SpeaksFor token user → user ∉ others
  owner : ∀ user ∈ request.owner?, user ∉ others

/-- Two states that differ in the values of the others at most. None of these is the
administrator. -/
structure SameApart (others : Set String) (s t : GamesState) : Prop where
  farm : s.farm = t.farm
  games : s.games = t.games
  values : ∀ place : String × String × String, place.2.1 ∉ others →
    s.gameKv.find? place = t.gameKv.find? place
  admin : ∀ user ∈ s.farm.db.farms.bind (·.adminPubkey), user ∉ others

/-! ## States that differ in the values of the others -/

section Apart

variable {farm : FarmConfig} {others : Set String} {s t : GamesState}

theorem SameApart.symm (h : SameApart others s t) : SameApart others t s where
  farm := h.farm.symm
  games := h.games.symm
  values place hplace := (h.values place hplace).symm
  admin := h.farm ▸ h.admin

/-- The user whom a token names does not depend on when it is looked at. -/
theorem FarmConfig.SpeaksFor.unique {token user user' : String} (h : farm.SpeaksFor token user)
    (h' : farm.SpeaksFor token user') : user = user' := by
  obtain ⟨now, payload, hverify, rfl⟩ := h
  obtain ⟨now', payload', hverify', rfl⟩ := h'
  obtain ⟨payloadB64, sigB64, payloadBytes, hopened, hread, -⟩ := verifyToken_eq_ok_iff.mp hverify
  obtain ⟨payloadB64', sigB64', payloadBytes', hopened', hread', -⟩ :=
    verifyToken_eq_ok_iff.mp hverify'
  have hparts := hopened.split.symm.trans hopened'.split
  cases hparts
  have hbytes := hopened.payload.symm.trans hopened'.payload
  cases hbytes
  have hpayload := hread.symm.trans hread'
  cases hpayload
  rfl

/-- A request that is not apart is made by one of the others, or is about their values. -/
theorem GamesRequest.not_apart {request : GamesRequest} (h : ¬ request.Apart farm others) :
    (∀ token ∈ request.bearer, ∀ user, farm.SpeaksFor token user → user ∈ others) ∨
      ∃ user ∈ request.owner?, user ∈ others := by
  by_cases howner : ∃ user ∈ request.owner?, user ∈ others
  · exact .inr howner
  · left
    intro token htoken user hspeaks
    by_contra huser
    refine h ⟨fun token' htoken' user' hspeaks' => ?_, fun user hmem hin =>
      howner ⟨user, hmem, hin⟩⟩
    cases htoken.symm.trans htoken'
    rwa [hspeaks'.unique hspeaks]

/-- A value of one of the others is written. -/
theorem SameApart.upsertKv {row : GameKvRow} (h : SameApart others s t)
    (hrow : row.userPubkey ∈ others) : SameApart others (Games.upsertKv row s) t where
  farm := h.farm
  games := h.games
  values place hplace := by
    have hne : place ≠ row.place := by
      rintro rfl
      exact hplace hrow
    rw [Games.find?_upsertKv, if_neg hne, h.values place hplace]
  admin := h.admin

/-- A value is written in both. -/
theorem SameApart.upsertKv_both (h : SameApart others s t) (row : GameKvRow) :
    SameApart others (Games.upsertKv row s) (Games.upsertKv row t) where
  farm := h.farm
  games := h.games
  values place hplace := by
    rw [Games.find?_upsertKv, Games.find?_upsertKv, h.values place hplace]
  admin := h.admin

/-- What is written to the games depends on them alone. -/
theorem SameApart.writeGames (h : SameApart others s t)
    (f : Table GameRow GameRow.id → Table GameRow GameRow.id) :
    SameApart others { s with games := f s.games } { t with games := f t.games } where
  farm := h.farm
  games := congrArg f h.games
  values := h.values
  admin := h.admin

theorem SameApart.after (h : SameApart others s t) (seconds : ℕ) :
    SameApart others (s.after seconds) (t.after seconds) where
  farm := by rw [GamesState.after, GamesState.after, h.farm]
  games := h.games
  values := h.values
  admin := h.admin

/-! ## What the others ask -/

namespace Games

variable {bearer : Bearer}

theorem requireAuth_silent (farm : FarmConfig) (bearer : Bearer) :
    (requireAuth farm bearer).Silent (SameApart others) fun payload =>
      ∃ token ∈ bearer, farm.SpeaksFor token payload.sub := by
  have htoken : Prog.Silent (SameApart others) (fun token => token ∈ bearer)
      (.ofExcept (bearer.elim (.error (jsonError .unauthorized "missing_token")) .ok) :
        GamesHandler String) := by
    apply Prog.silent_ofExcept
    intro token h
    cases bearer with
    | none => cases h
    | some found =>
        cases h
        rfl
  apply htoken.bind
  intro token hmem
  have hclock : Prog.Silent (SameApart others) (fun _ => True)
      (.query (·.farm.clock) : GamesHandler Int) := Prog.silent_query fun _ _ _ => trivial
  apply hclock.bind
  intro now _
  apply Prog.silent_ofExcept
  intro payload h
  cases hverify : farm.verifyToken now token with
  | error e =>
      rw [hverify] at h
      cases h
  | ok found =>
      rw [hverify] at h
      cases h
      exact ⟨token, hmem, now, payload, hverify, rfl⟩

theorem requireAnyAuth_silent (farm : FarmConfig) (bearer : Bearer) :
    (requireAnyAuth farm bearer).Silent (SameApart others) fun caller =>
      ∃ token ∈ bearer, farm.SpeaksFor token caller :=
  (requireAuth_silent farm bearer).bind fun _ h => h

/-- None of the others is the administrator. -/
theorem getAdminPubkey_silent :
    getAdminPubkey.Silent (SameApart others) fun admin => ∀ user ∈ admin, user ∉ others :=
  Prog.silent_query fun _ _ h => h.admin

theorem requireAdmin_silent
    (h : ∀ token ∈ bearer, ∀ user, farm.SpeaksFor token user → user ∈ others) :
    (requireAdmin farm bearer).Silent (SameApart others) fun _ => False := by
  apply (requireAuth_silent farm bearer).bind
  rintro payload ⟨token, htoken, hspeaks⟩
  apply getAdminPubkey_silent.bind
  intro admin hadmin
  have hrefused : Prog.Silent (SameApart others) (fun _ => False)
      (.ensure (admin = some payload.sub) (jsonError .forbidden "farm_admin_only") :
        GamesHandler Unit) :=
    Prog.silent_ensure fun heq => hadmin _ heq (h token htoken _ hspeaks)
  exact hrefused.bind fun _ hfalse => hfalse.elim

/-- Where one of the others is let in, it is to the values of one of them. -/
theorem requireOwner_silent {userPubkey : String}
    (h : (∀ token ∈ bearer, ∀ user, farm.SpeaksFor token user → user ∈ others) ∨
      userPubkey ∈ others) :
    (requireOwner farm bearer userPubkey).Silent (SameApart others) fun _ =>
      userPubkey ∈ others := by
  apply (requireAnyAuth_silent farm bearer).bind
  rintro caller ⟨token, htoken, hspeaks⟩
  have hcaller : caller ∈ others ∨ userPubkey ∈ others :=
    h.imp_left fun hothers => hothers token htoken caller hspeaks
  apply Prog.silent_when
  · intro _
    apply getAdminPubkey_silent.bind
    intro admin hadmin
    apply Prog.silent_ensure
    intro heq
    exact hcaller.resolve_left (hadmin caller heq)
  · intro hsame
    rw [not_not.mp hsame] at hcaller
    exact hcaller.elim id id

theorem getKv_silent {gameId userPubkey key : String}
    (h : (∀ token ∈ bearer, ∀ user, farm.SpeaksFor token user → user ∈ others) ∨
      userPubkey ∈ others) :
    (getKv farm bearer gameId userPubkey key).Silent (SameApart others) fun _ => True :=
  (requireOwner_silent h).bind fun _ _ => Prog.silent_query_bind fun _ => trivial

theorem putKv_silent {gameId userPubkey key value : String}
    (h : (∀ token ∈ bearer, ∀ user, farm.SpeaksFor token user → user ∈ others) ∨
      userPubkey ∈ others) :
    (putKv farm bearer gameId userPubkey key value).Silent (SameApart others) fun _ => True := by
  apply (requireOwner_silent h).bind
  intro _ howner
  apply Prog.silent_query_bind
  intro known
  have hknown : Prog.Silent (SameApart others) (fun _ => True)
      (.ensure (known = true) (jsonError .notFound "game_not_found") : GamesHandler Unit) :=
    Prog.silent_ensure fun _ => trivial
  apply hknown.bind
  intro _ _
  apply Prog.silent_query_bind
  intro now
  exact Prog.silent_exec (fun s t hst => hst.upsertKv howner) trivial

end Games

/-- What is asked by the others, or about their values, changes these at most. -/
theorem GamesRequest.handler_silent (json : SettingsJson) (sha256 : List UInt8 → List UInt8)
    {request : GamesRequest} (h : ¬ request.Apart farm others) :
    (request.handler farm json sha256).Silent (SameApart others) fun _ => True := by
  have hasker := GamesRequest.not_apart h
  have hforeign : request.owner? = none → ∀ token ∈ request.bearer, ∀ user,
      farm.SpeaksFor token user → user ∈ others :=
    fun hnone => hasker.resolve_right (by simp [hnone])
  cases request with
  | install bearer req => exact (Games.requireAdmin_silent (hforeign rfl)).bind_false.map _
  | list bearer =>
      have hlist : (Games.listGames farm json bearer).Silent (SameApart others) fun _ => True :=
        (Games.requireAnyAuth_silent farm bearer).bind fun _ _ =>
          Prog.silent_query_bind fun _ => trivial
      exact hlist.map _
  | get bearer id =>
      have hget : (Games.getGame farm json bearer id).Silent (SameApart others) fun _ => True := by
        apply (Games.requireAnyAuth_silent farm bearer).bind
        intro _ _
        apply Prog.silent_query_bind
        intro row
        cases row <;> trivial
      exact hget.map _
  | patch bearer id grant => exact (Games.requireAdmin_silent (hforeign rfl)).bind_false.map _
  | uninstall bearer id => exact (Games.requireAdmin_silent (hforeign rfl)).bind_false.map _
  | getKv bearer gameId userPubkey key =>
      exact (Games.getKv_silent (hasker.imp_right (by simp [owner?]))).map _
  | putKv bearer gameId userPubkey key value =>
      exact (Games.putKv_silent (hasker.imp_right (by simp [owner?]))).map _
  | pass seconds => exact absurd ⟨by simp [GamesRequest.bearer], by simp [owner?]⟩ h

/-! ## What the remaining ones ask -/

namespace Games

variable {bearer : Bearer} {A : Type}

theorem requireAuth_related (farm : FarmConfig) (bearer : Bearer) :
    (requireAuth farm bearer).Related (SameApart others) Eq (requireAuth farm bearer) := by
  apply (Prog.related_ofExcept _).bind_eq
  intro token
  have hclock : Prog.Related (SameApart others) Eq
      (.query (·.farm.clock) : GamesHandler Int) (.query (·.farm.clock)) :=
    Prog.related_query fun _ _ h => congrArg FarmState.clock h.farm
  exact hclock.bind_eq fun _ => Prog.related_ofExcept _

theorem requireAnyAuth_related (farm : FarmConfig) (bearer : Bearer) :
    (requireAnyAuth farm bearer).Related (SameApart others) Eq (requireAnyAuth farm bearer) :=
  (requireAuth_related farm bearer).bind_eq fun _ => rfl

theorem getAdminPubkey_related :
    getAdminPubkey.Related (SameApart others) Eq getAdminPubkey :=
  Prog.related_query fun _ _ h => by rw [h.farm]

theorem nowStr_related : nowStr.Related (SameApart others) Eq nowStr :=
  Prog.related_query fun _ _ h => by rw [h.farm]

theorem requireAdmin_related (farm : FarmConfig) (bearer : Bearer) :
    (requireAdmin farm bearer).Related (SameApart others) Eq (requireAdmin farm bearer) := by
  apply (requireAuth_related farm bearer).bind_eq
  intro payload
  apply getAdminPubkey_related.bind_eq
  intro admin
  exact (Prog.related_ensure _ _).bind_eq fun _ => rfl

theorem requireOwner_related (farm : FarmConfig) (bearer : Bearer) (userPubkey : String) :
    (requireOwner farm bearer userPubkey).Related (SameApart others) Eq
      (requireOwner farm bearer userPubkey) := by
  apply (requireAnyAuth_related farm bearer).bind_eq
  intro caller
  apply Prog.related_when_eq
  intro _
  exact getAdminPubkey_related.bind_eq fun _ => Prog.related_ensure _ _

/-- What is read of the games is the same in both. -/
theorem queryGames_related (f : Table GameRow GameRow.id → A) :
    Prog.Related (SameApart others) Eq (.query fun s => f s.games : GamesHandler A)
      (.query fun s => f s.games) :=
  Prog.related_query fun _ _ h => by rw [h.games]

theorem fetchGame_related (json : SettingsJson) (id : String) :
    (fetchGame json id).Related (SameApart others) Eq (fetchGame json id) := by
  apply (queryGames_related fun games => games.find? id).bind_eq
  intro row
  cases row <;> rfl

/-- What is written to the games is the same in both, and so is whether a row is there. -/
theorem writeGame_related (id : String) {act : GamesState → GamesState}
    (f : Table GameRow GameRow.id → Table GameRow GameRow.id)
    (hact : ∀ s, act s = { s with games := f s.games }) :
    (writeGame id act).Related (SameApart others) Eq (writeGame id act) := by
  intro s t h
  rw [hact, hact]
  have hhas : s.games.has id = t.games.has id := by rw [h.games]
  exact ⟨h.writeGames f, hhas⟩

theorem installGame_related (json : SettingsJson) (sha256 : List UInt8 → List UInt8)
    (req : InstallGameRequest) :
    (installGame farm json sha256 bearer req).Related (SameApart others) Eq
      (installGame farm json sha256 bearer req) := by
  apply (requireAdmin_related farm bearer).bind_eq
  intro caller
  apply nowStr_related.bind_eq
  intro now
  have hupsert : Prog.Related (SameApart others) Eq
      (.exec (upsertGame (installedRow sha256 caller now req)) : GamesHandler Unit)
      (.exec (upsertGame (installedRow sha256 caller now req))) :=
    Prog.related_exec_eq fun _ _ h => h.writeGames fun games =>
      games.upsert _ (reinstalled (installedRow sha256 caller now req)) (id_reinstalled _)
  exact hupsert.bind_eq fun _ => fetchGame_related json _

theorem listGames_related (json : SettingsJson) :
    (listGames farm json bearer).Related (SameApart others) Eq (listGames farm json bearer) := by
  apply (requireAnyAuth_related farm bearer).bind_eq
  intro _
  exact (queryGames_related fun games => games.rows.mergeSort fun a b => a.name ≤ b.name).bind_eq
    fun _ => rfl

theorem getGame_related (json : SettingsJson) (id : String) :
    (getGame farm json bearer id).Related (SameApart others) Eq (getGame farm json bearer id) := by
  apply (requireAnyAuth_related farm bearer).bind_eq
  intro _
  apply (queryGames_related fun games => games.find? id).bind_eq
  intro row
  cases row <;> rfl

theorem patchGame_related (json : SettingsJson) (id : String) (grant : List String) :
    (patchGame farm json bearer id grant).Related (SameApart others) Eq
      (patchGame farm json bearer id grant) := by
  apply (requireAdmin_related farm bearer).bind_eq
  intro _
  apply (Prog.related_ofExcept _).bind_eq
  intro _
  have hgrant := @writeGame_related others id _
    (fun games => games.update (·.id = id) (granted (json.write grant)) (id_granted _))
    fun s => (rfl : setGrant id (json.write grant) s = _)
  apply hgrant.bind_eq
  intro affected
  exact (Prog.related_ensure _ _).bind_eq fun _ => fetchGame_related json id

theorem uninstallGame_related (id : String) :
    (uninstallGame farm bearer id).Related (SameApart others) Eq
      (uninstallGame farm bearer id) := by
  apply (requireAdmin_related farm bearer).bind_eq
  intro _
  have hdelete := @writeGame_related others id _
    (fun games => games.keep (·.id ≠ id)) fun s => (rfl : deleteGame id s = _)
  exact hdelete.bind_eq fun _ => Prog.related_ensure _ _

theorem getKv_related {gameId userPubkey key : String} (howner : userPubkey ∉ others) :
    (getKv farm bearer gameId userPubkey key).Related (SameApart others) Eq
      (getKv farm bearer gameId userPubkey key) := by
  apply (requireOwner_related farm bearer userPubkey).bind_eq
  intro _
  have hvalue : Prog.Related (SameApart others) Eq
      (.query (·.gameKv.find? (gameId, userPubkey, key)) : GamesHandler (Option GameKvRow))
      (.query (·.gameKv.find? (gameId, userPubkey, key))) :=
    Prog.related_query fun _ _ h => h.values _ howner
  exact hvalue.bind_eq fun _ => rfl

theorem putKv_related (gameId userPubkey key value : String) :
    (putKv farm bearer gameId userPubkey key value).Related (SameApart others) Eq
      (putKv farm bearer gameId userPubkey key value) := by
  apply (requireOwner_related farm bearer userPubkey).bind_eq
  intro _
  apply (queryGames_related fun games => games.has gameId).bind_eq
  intro known
  apply (Prog.related_ensure _ _).bind_eq
  intro _
  apply nowStr_related.bind_eq
  intro now
  exact Prog.related_exec_eq fun _ _ h => h.upsertKv_both _

end Games

/-- Who is apart gets the same answers in both. -/
theorem GamesRequest.handler_related (json : SettingsJson) (sha256 : List UInt8 → List UInt8)
    {request : GamesRequest} (h : request.Apart farm others) :
    (request.handler farm json sha256).Related (SameApart others) Eq
      (request.handler farm json sha256) := by
  cases request with
  | install bearer req =>
      exact (Games.installGame_related json sha256 req).bind_eq fun _ => rfl
  | list bearer => exact (Games.listGames_related json).bind_eq fun _ => rfl
  | get bearer id => exact (Games.getGame_related json id).bind_eq fun _ => rfl
  | patch bearer id grant => exact (Games.patchGame_related json id grant).bind_eq fun _ => rfl
  | uninstall bearer id => exact (Games.uninstallGame_related id).bind_eq fun _ => rfl
  | getKv bearer gameId userPubkey key =>
      exact (Games.getKv_related (h.owner userPubkey rfl)).bind_eq fun _ => rfl
  | putKv bearer gameId userPubkey key value =>
      exact (Games.putKv_related gameId userPubkey key value).bind_eq fun _ => rfl
  | pass seconds =>
      exact (Prog.related_exec_eq fun _ _ h => h.after seconds).bind_eq fun _ => rfl

/-! ## The others go unnoticed -/

/-- In two runs of one schedule, the others may ask for different things. Who is apart from
them gets the same answers in both, and keeps the same values. -/
theorem gamesRun_unnoticed (farm : FarmConfig) (json : SettingsJson)
    (sha256 : List UInt8 → List UInt8) (others : Set String) {s s' : GamesState}
    (hs : SameApart others s s') {moves moves' : List (Move GamesRequest)}
    (hmoves : List.Forall₂ (Move.Alike (GamesRequest.Apart farm others)) moves moves') :
    SameApart others (gamesRun farm json sha256 moves s).state
        (gamesRun farm json sha256 moves' s').state ∧
      ∀ job request, (gamesRun farm json sha256 moves s).request? job = some request →
        request.Apart farm others →
          (gamesRun farm json sha256 moves' s').request? job = some request ∧
            (gamesRun farm json sha256 moves s).answer? job =
              (gamesRun farm json sha256 moves' s').answer? job := by
  have hruns := serve_unnoticed (fun _ _ => SameApart.symm)
    (fun _ => GamesRequest.handler_related json sha256)
    (fun _ => GamesRequest.handler_silent json sha256) hs hmoves
  exact ⟨hruns.state, fun _ _ hrequest hapart => hruns.answer?_eq hrequest hapart⟩

end Apart

/-! ## A user reads for another's value -/

theorem adminBearer_speaks :
    ∃ token, adminBearer = some token ∧ sampleFarm.SpeaksFor token adminKey :=
  ⟨_, rfl, 1000, _, verifyToken_adminBearer, rfl⟩

/-- The first token of the user. -/
def firstBearer : Bearer := userBearer "01010101010101010101010101010101"

theorem firstBearer_speaks :
    ∃ token, firstBearer = some token ∧ sampleFarm.SpeaksFor token userKey := by
  have hverify : sampleFarm.verifyToken 1000
        (sampleFarm.token (newSession "01010101010101010101010101010101" userKey 1000 "member")
          none) =
      .ok (tokenPayload userKey "01010101010101010101010101010101" 1000 2593000) := by
    rw [FarmConfig.token, signToken, dotted_eq_plainText]
    decide +kernel
  exact ⟨_, rfl, 1000, _, hverify, rfl⟩

/-- The farm has one game, with a value of another user. -/
def chessFarm : GamesState where
  farm := newFarm
  games := .single ⟨"chess", "Chess", "https://chess.test", none, none, "1.0.0", none, 1, 2, "[]",
    some adminKey, some "900"⟩
  gameKv := .single ⟨"chess", "bob", "save", "e4", "950"⟩

def chessTexts : SettingsJson where
  write _ := "[]"
  read _ := some (.array [])

/-- While the user asks for something, the admin reads the value. -/
def chessMoves (request : GamesRequest) : List (Move GamesRequest) :=
  [.start (.getKv adminBearer "chess" "bob" "save"), .start request, .exec 1, .exec 0, .exec 1,
    .exec 0, .exec 1, .exec 0, .exec 1]

/-- The admin reads the same, whether the user asks for the games or for the other's value to
be overwritten. -/
theorem chess_unnoticed :
    (gamesRun sampleFarm chessTexts id
        (chessMoves (.putKv firstBearer "chess" "bob" "save" "resigned")) chessFarm).answer? 0 =
      (gamesRun sampleFarm chessTexts id (chessMoves (.list firstBearer)) chessFarm).answer? 0 := by
  have hsame : SameApart {userKey} chessFarm chessFarm := by
    refine ⟨rfl, rfl, fun _ _ => rfl, ?_⟩
    intro admin hadmin
    cases hadmin
    decide
  have hadmin : GamesRequest.Apart sampleFarm {userKey}
      (.getKv adminBearer "chess" "bob" "save") := by
    obtain ⟨token, htoken, hspeaks⟩ := adminBearer_speaks
    constructor
    · intro found hfound user hfor
      obtain rfl := Option.some.inj (htoken.symm.trans hfound)
      rw [← hspeaks.unique hfor]
      decide
    · intro owner howner
      cases howner
      decide
  have huser : ∀ request : GamesRequest, request.bearer = firstBearer →
      ¬ request.Apart sampleFarm {userKey} := by
    obtain ⟨token, htoken, hspeaks⟩ := firstBearer_speaks
    intro request hbearer hapart
    exact hapart.asker token (hbearer.trans htoken) userKey hspeaks (Set.mem_singleton userKey)
  have hmoves : List.Forall₂ (Move.Alike (GamesRequest.Apart sampleFarm {userKey}))
      (chessMoves (.putKv firstBearer "chess" "bob" "save" "resigned"))
      (chessMoves (.list firstBearer)) :=
    .cons (.start _) (.cons (.other (huser _ rfl) (huser _ rfl))
      (.cons (.exec 1) (.cons (.exec 0) (.cons (.exec 1) (.cons (.exec 0) (.cons (.exec 1)
        (.cons (.exec 0) (.cons (.exec 1) .nil))))))))
  exact ((gamesRun_unnoticed sampleFarm chessTexts id {userKey} hsame hmoves).2 0
    (.getKv adminBearer "chess" "bob" "save") (Server.request?_serve _ _ _ _) hadmin).2

end Voxply.Farm
