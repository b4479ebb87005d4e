/-
# Talking to other hubs

A hub is a client of its peers: it fetches their `/info`, logs in with its own
key and keeps the session tokens.  With the same key it signs alliance invites
and badges.  What a peer answers is up to the peer, so the hub at the other end
of a URL is a parameter, with a reply to every request the modelled handlers
send.
-/

import Voxply.Hub.Verify

namespace Voxply.Hub

open Voxply.Math Voxply.Identity

/-! ## Peers -/

/-- The fields of `/info` that the modelled handlers use. -/
structure InfoResponse where
  name : String
  publicKey : String
  deriving DecidableEq

/-- What comes back from a request: nothing, something that does not parse as
the expected JSON, or the expected value. -/
inductive Reply (A : Type)
  | unreachable
  | invalid
  | json (value : A)
  deriving DecidableEq

/-- The two `context`s that every call of the client adds. -/
def Reply.context {A : Type} (onSend onJson : String) : Reply A → Except String A
  | .unreachable => .error onSend
  | .invalid => .error onJson
  | .json value => .ok value

/-- The behaviour of the hub at some URL. -/
structure Remote where
  info : Reply InfoResponse
  /-- The `challenge` field of the answer to a public key. -/
  challenge : String → Reply String
  /-- The answer to a login. -/
  verify : VerifyRequest → Reply VerifyResponse

/-- The public key of a hub, as it is written everywhere. -/
def AppState.publicKeyHex (s : AppState) (E : Ed25519) : String :=
  hexEncode (E.publicKey s.hubIdentity)

/-! ## The client -/

/-- `FederationClient::get_info`. -/
def getInfo (peer : Remote) : Except String InfoResponse :=
  peer.info.context "Failed to connect to peer" "Invalid info response"

/-- The first half of `FederationClient::authenticate`: ask the peer for a
challenge, sign the bytes it stands for, whatever they are, and build the
request that is sent back. -/
def answerPeer (E : Ed25519) (identity : List UInt8) (peer : Remote) :
    Except String VerifyRequest := do
  let pubKey := hexEncode (E.publicKey identity)
  let challenge ← (peer.challenge pubKey).context "Failed to request challenge from peer"
    "Invalid challenge response"
  match hexDecode challenge with
  | none => .error "Invalid challenge hex from peer"
  | some challengeBytes =>
      .ok { publicKey := pubKey, challenge := challenge,
            signature := hexEncode (E.sign identity challengeBytes) }

/-- `FederationClient::authenticate`. -/
def authenticate (E : Ed25519) (identity : List UInt8) (peer : Remote) : Except String String := do
  let req ← answerPeer E identity peer
  let verify ← (peer.verify req).context "Failed to verify with peer" "Invalid verify response"
  .ok verify.token

/-- The only request that answers a peer is the signature of the bytes the peer
has chosen. -/
theorem answerPeer_eq_ok_iff {E : Ed25519} {identity : List UInt8} {peer : Remote}
    {req : VerifyRequest} :
    answerPeer E identity peer = .ok req ↔
      ∃ challenge message, peer.challenge (hexEncode (E.publicKey identity)) = .json challenge ∧
        hexDecode challenge = some message ∧
        req = { publicKey := hexEncode (E.publicKey identity), challenge := challenge,
                signature := hexEncode (E.sign identity message) } := by
  unfold answerPeer
  dsimp only
  cases peer.challenge (hexEncode (E.publicKey identity)) with
  | unreachable => simp [Reply.context, bind, Except.bind]
  | invalid => simp [Reply.context, bind, Except.bind]
  | json challenge =>
      simp only [Reply.context, bind, Except.bind, Reply.json.injEq, exists_and_left,
        exists_eq_left']
      cases hexDecode challenge with
      | none => simp
      | some message => simp [eq_comm]

/-! ## Alliances -/

structure AllianceInviteResponse where
  token : String
  allianceId : String
  allianceName : String
  hubUrl : String
  deriving DecidableEq

structure JoinAllianceRequest where
  inviteToken : String
  hubUrl : String
  deriving DecidableEq

/-- `INSERT OR IGNORE INTO alliance_members`: a taken key is ignored, an unknown
alliance is not. -/
def insertAllianceMemberOrIgnore (row : AllianceMemberRow) (db : Db) : Except SqlError Db :=
  match db.allianceMembers.insert? row with
  | none => .ok db
  | some allianceMembers =>
      if db.alliances.has row.allianceId then .ok { db with allianceMembers := allianceMembers }
      else .error .foreignKey

/-- `INSERT INTO peers`. -/
def insertPeer (row : PeerRow) (db : Db) : Except SqlError Db :=
  match db.peers.insert? row with
  | none => .error (.primaryKey "peers.public_key")
  | some peers => .ok { db with peers := peers }

def AppState.setPeerToken (s : AppState) (publicKey token : String) : AppState :=
  { s with
    peerTokens := fun key => if key = publicKey then some token else s.peerTokens key }

/-- `create_invite`: the token is a signature of the alliance's id and nothing
else. -/
def createInvite (lib : Crates) (user allianceId : String) : Handler AllianceInviteResponse := do
  let perms ← userPermissions user
  .ofExcept (perms.require admin)
  let alliance ← fetch (·.alliances.find? allianceId)
  let alliance ← .ofExcept (alliance.elim (.error ⟨.notFound, "Alliance not found"⟩) .ok)
  let identity ← .query AppState.hubIdentity
  pure ⟨hexEncode (lib.ed25519.sign identity (asBytes allianceId)), alliance.id, alliance.name,
    "self"⟩

/-- The check that `join_alliance` starts with: the token is this hub's
signature of the alliance's id. -/
def checkInviteToken (E : Ed25519) (publicKeyHex allianceId inviteToken : String) :
    Except ApiError Unit :=
  match hexDecode inviteToken with
  | none => .error ⟨.badRequest, "Invalid invite token hex"⟩
  | some sigBytes =>
      (verifySignature E publicKeyHex (asBytes allianceId) sigBytes).mapError
        fun _ => ⟨.forbidden, "Invalid invite token"⟩

/-- The end of `join_alliance`: become a peer of the new member and log in to
it. A login that fails is passed over. -/
def peerWith (lib : Crates) (now : Int) (peer : Remote) (hubUrl : String)
    (hubInfo : InfoResponse) : Handler Unit := do
  let peerExists ← fetch (·.peers.has hubInfo.publicKey)
  .when (peerExists = false) do
    execute (insertPeer ⟨hubInfo.publicKey, hubInfo.name, hubUrl, now⟩)
    let identity ← .query AppState.hubIdentity
    match authenticate lib.ed25519 identity peer with
    | .ok token => .exec (·.setPeerToken hubInfo.publicKey token)
    | .error _ => pure ()

/-- `join_alliance`, with the hubs of the network by URL. The log line at its
end, which takes the first eight bytes of the id and panics on a shorter one,
is left out: nothing is written after it. -/
def joinAlliance (lib : Crates) (now : Int) (network : String → Remote) (allianceId : String)
    (req : JoinAllianceRequest) : Handler StatusCode := do
  let publicKeyHex ← .query (·.publicKeyHex lib.ed25519)
  .ofExcept (checkInviteToken lib.ed25519 publicKeyHex allianceId req.inviteToken)
  let hubInfo ← .ofExcept ((getInfo (network req.hubUrl)).mapError
    fun e => ⟨.badGateway, "Cannot reach hub: " ++ e⟩)
  execute (insertAllianceMemberOrIgnore
    ⟨allianceId, hubInfo.publicKey, hubInfo.name, req.hubUrl, now⟩)
  peerWith lib now (network req.hubUrl) req.hubUrl hubInfo
  pure .ok

/-! ## Badges -/

structure BadgeOfferRequest where
  fromHubPubkey : String
  fromHubUrl : String
  label : String
  note : Option String
  payload : String
  signature : String
  deriving DecidableEq

/-- The checks of `receive_badge_offer`, in its order. -/
def checkBadgeOffer (lib : Crates) (ourPubkey : String) (req : BadgeOfferRequest) :
    Except ApiError Unit :=
  match lib.readBadgePayload req.payload with
  | none => .error ⟨.badRequest, "Malformed badge payload JSON"⟩
  | some payload =>
      if payload.subjectPubkey ≠ ourPubkey then
        .error ⟨.badRequest, "Badge subject_pubkey does not match this hub"⟩
      else match hexDecode req.signature with
        | none => .error ⟨.badRequest, "Invalid signature hex"⟩
        | some sigBytes =>
            match verifySignature lib.ed25519 req.fromHubPubkey (asBytes req.payload) sigBytes with
            | .error _ => .error ⟨.unauthorized, "Badge signature verification failed"⟩
            | .ok () =>
                if payload.issuerPubkey ≠ req.fromHubPubkey then
                  .error ⟨.badRequest, "payload.issuer_pubkey does not match from_hub_pubkey"⟩
                else .ok ()

/-- `INSERT INTO badge_offers`. -/
def insertBadgeOffer (row : BadgeOfferRow) (db : Db) : Except SqlError Db :=
  match db.badgeOffers.insert? row with
  | none => .error (.primaryKey "badge_offers.id")
  | some badgeOffers => .ok { db with badgeOffers := badgeOffers }

/-- `receive_badge_offer`, with the fresh identifier and the time of arrival. -/
def receiveBadgeOffer (lib : Crates) (id createdAt : String) (req : BadgeOfferRequest) :
    Handler StatusCode := do
  let ourPubkey ← .query (·.publicKeyHex lib.ed25519)
  .ofExcept (checkBadgeOffer lib ourPubkey req)
  execute (insertBadgeOffer ⟨id, req.fromHubPubkey, req.fromHubUrl, req.label, req.note,
    req.payload, req.signature, createdAt⟩)
  pure .created

end Voxply.Hub
