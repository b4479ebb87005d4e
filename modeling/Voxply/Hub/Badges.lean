/-
# Badges

Another hub offers a badge by posting a signed payload.  An administrator accepts or
declines the offer, and `/info` serves the badges that have been accepted.

The signature covers the text of the offer, but what is served is the value that the text
parses to, and whoever checks the signature writes that value down again.  Accepting takes
three statements: it reads the offer, inserts the badge and deletes the offer.  What is
served verifies, and an offer is worth one badge at most and none once it is declined, as
long as offers are written the way payloads are and nobody decides on an offer between the
insertion of its badge and the end of the offer.
-/

import Voxply.Hub.LoginSignature
import Voxply.Hub.SingleUse

namespace Voxply.Hub

open Voxply.Math Voxply.Identity

/-! ## Handlers -/

/-- What the hub relies on to write payloads: their text, and what is said of a text that
does not parse. -/
structure BadgeText where
  toJson : BadgePayload → String
  parseError : String → String

/-- A badge as served on `/info`. -/
structure BadgeEnvelope where
  payload : BadgePayload
  signature : String
  deriving DecidableEq

structure PendingBadgeResponse where
  id : String
  fromHubPubkey : String
  fromHubUrl : String
  label : String
  note : Option String
  payload : BadgePayload
  createdAt : String
  deriving DecidableEq

/-- The row of an offer. -/
def BadgeOfferRequest.row (req : BadgeOfferRequest) (id createdAt : String) : BadgeOfferRow :=
  ⟨id, req.fromHubPubkey, req.fromHubUrl, req.label, req.note, req.payload, req.signature,
    createdAt⟩

/-- The row of the badge that an offer becomes. -/
def BadgeOfferRow.badge (row : BadgeOfferRow) (badgeId acceptedAt : String) : HubBadgeRow :=
  ⟨badgeId, row.fromHubPubkey, row.fromHubUrl, row.label, row.payload, row.signature, acceptedAt⟩

/-- `INSERT INTO hub_badges`. -/
def insertHubBadge (row : HubBadgeRow) (db : Db) : Except SqlError Db :=
  match db.hubBadges.insert? row with
  | none => .error (.primaryKey "hub_badges.id")
  | some hubBadges => .ok { db with hubBadges := hubBadges }

/-- `DELETE FROM badge_offers WHERE id = ?`. -/
def deleteBadgeOffer (id : String) (db : Db) : Db :=
  { db with badgeOffers := db.badgeOffers.keep (·.id ≠ id) }

/-- `DELETE FROM hub_badges WHERE id = ?`. -/
def deleteHubBadge (id : String) (db : Db) : Db :=
  { db with hubBadges := db.hubBadges.keep (·.id ≠ id) }

section Handlers

variable (lib : Crates) (text : BadgeText)

def parseStored (payload : String) : Except ApiError BadgePayload :=
  match lib.readBadgePayload payload with
  | none => .error ⟨.internalServerError, "Payload parse error: " ++ text.parseError payload⟩
  | some payload => .ok payload

def pendingBadge (row : BadgeOfferRow) : Except ApiError PendingBadgeResponse := do
  let payload ← parseStored lib text row.payload
  pure ⟨row.id, row.fromHubPubkey, row.fromHubUrl, row.label, row.note, payload, row.createdAt⟩

def Db.offersByAge (db : Db) : List BadgeOfferRow :=
  db.badgeOffers.rows.insertionSort fun first second => first.createdAt ≤ second.createdAt

def listPending (user : String) : Handler (List PendingBadgeResponse) := do
  let perms ← userPermissions user
  .ofExcept (perms.require admin)
  let rows ← fetch (·.offersByAge)
  .ofExcept (rows.mapM (pendingBadge lib text))

/-- The checks of `accept_pending`, in its order. -/
def checkPending (ourPubkey : String) (row : BadgeOfferRow) : Except ApiError Unit :=
  match hexDecode row.signature with
  | none => .error ⟨.badRequest, "Invalid signature hex in stored offer"⟩
  | some sigBytes => do
      (verifySignature lib.ed25519 row.fromHubPubkey (asBytes row.payload) sigBytes).mapError
        fun _ => ⟨.badRequest, "Badge signature verification failed"⟩
      let payload ← parseStored lib text row.payload
      if payload.subjectPubkey ≠ ourPubkey then
        .error ⟨.badRequest, "Badge subject does not match this hub"⟩
      else .ok ()

/-- `accept_pending`, with the fresh identifier of the badge and the time. -/
def acceptPending (badgeId acceptedAt user id : String) : Handler StatusCode := do
  let perms ← userPermissions user
  .ofExcept (perms.require admin)
  let row ← fetch (·.badgeOffers.find? id)
  let row ← .ofExcept (row.elim (.error ⟨.notFound, "Pending badge offer not found"⟩) .ok)
  let ourPubkey ← .query (·.publicKeyHex lib.ed25519)
  .ofExcept (checkPending lib text ourPubkey row)
  execute (insertHubBadge (row.badge badgeId acceptedAt))
  write (deleteBadgeOffer id)
  pure .noContent

end Handlers

/-- A deletion, with the number of rows affected. -/
def deleteCounted (delete : Db → Db) (rows : Db → ℕ) : Handler ℕ :=
  .step (written delete) fun s => .ret (rows s.db)

def declinePending (user id : String) : Handler StatusCode := do
  let perms ← userPermissions user
  .ofExcept (perms.require admin)
  let affected ← deleteCounted (deleteBadgeOffer id)
    fun db => (db.badgeOffers.rows.filter (·.id = id)).length
  .ensure (affected ≠ 0) ⟨.notFound, "Pending badge offer not found"⟩
  pure .noContent

def Badges.deleteBadge (user id : String) : Handler StatusCode := do
  let perms ← userPermissions user
  .ofExcept (perms.require admin)
  let affected ← deleteCounted (deleteHubBadge id)
    fun db => (db.hubBadges.rows.filter (·.id = id)).length
  .ensure (affected ≠ 0) ⟨.notFound, "Badge not found"⟩
  pure .noContent

/-- The badge of a row as it is served, unless its text does not parse or it has expired. -/
def HubBadgeRow.envelope? (lib : Crates) (nowIso : String) (row : HubBadgeRow) :
    Option BadgeEnvelope :=
  match lib.readBadgePayload row.payload with
  | none => none
  | some payload =>
      if ∃ expiry ∈ payload.expiresAt, expiry ≤ nowIso then none
      else some ⟨payload, row.signature⟩

def Db.badgesByAge (db : Db) : List HubBadgeRow :=
  db.hubBadges.rows.insertionSort fun first second => first.acceptedAt ≤ second.acceptedAt

def Db.loadActiveBadges (db : Db) (lib : Crates) (nowIso : String) : List BadgeEnvelope :=
  db.badgesByAge.filterMap (·.envelope? lib nowIso)

/-! ## Requests -/

inductive BadgeCall where
  | receive (id createdAt : String) (req : BadgeOfferRequest)
  | accept (badgeId acceptedAt user id : String)
  | decline (user id : String)
  | delete (user id : String)

namespace BadgeCall

def handler (lib : Crates) (text : BadgeText) : BadgeCall → Handler StatusCode
  | .receive id createdAt req => receiveBadgeOffer lib id createdAt req
  | .accept badgeId acceptedAt user id => acceptPending lib text badgeId acceptedAt user id
  | .decline user id => declinePending user id
  | .delete user id => Badges.deleteBadge user id

/-- The identifier that is drawn for an offer. -/
def drawn? : BadgeCall → Option String
  | .receive id _ _ => some id
  | _ => none

/-- The offer that is accepted. -/
def accepted? : BadgeCall → Option String
  | .accept _ _ _ id => some id
  | _ => none

/-- The offer that is declined. -/
def declined? : BadgeCall → Option String
  | .decline _ id => some id
  | _ => none

end BadgeCall

abbrev BadgeEvent := Event BadgeCall AppState

/-- Follow a schedule of requests. -/
def badgeRun (lib : Crates) (text : BadgeText) (moves : List (Move BadgeCall)) (s : AppState) :
    Server BadgeCall AppState ApiError StatusCode :=
  serve (BadgeCall.handler lib text) moves s

/-! ## What is to hold -/

/-- The badge names the hub, and its signature is one of the issuer under the text of what
is served. -/
def BadgeEnvelope.Verifies (lib : Crates) (text : BadgeText) (ourPubkey : String)
    (envelope : BadgeEnvelope) : Prop :=
  envelope.payload.subjectPubkey = ourPubkey ∧
    ∃ sigBytes, hexDecode envelope.signature = some sigBytes ∧
      verifySignature lib.ed25519 envelope.payload.issuerPubkey
        (asBytes (text.toJson envelope.payload)) sigBytes = .ok ()

/-- The badges that a statement has inserted. -/
def insertedBadges (e : BadgeEvent) : List HubBadgeRow :=
  e.after.db.hubBadges.rows.filter (· ∉ e.before.db.hubBadges.rows)

/-- The badges that have been inserted for an offer. -/
def badgesFor (id : String) (history : List BadgeEvent) : List HubBadgeRow :=
  (history.filter (·.request.accepted? = some id)).flatMap insertedBadges

/-- What is served verifies, administrators see the label of the payload, and an offer is
worth one badge at most, none if it has been declined. -/
structure BadgesRight (lib : Crates) (text : BadgeText)
    (server : Server BadgeCall AppState ApiError StatusCode) : Prop where
  served : ∀ nowIso, ∀ envelope ∈ server.state.db.loadActiveBadges lib nowIso,
    envelope.Verifies lib text (server.state.publicKeyHex lib.ed25519)
  labelled : ∀ user responses, ((listPending lib text user).run server.state).1 = .ok responses →
    ∀ response ∈ responses, response.label = response.payload.label
  once : ∀ id, (badgesFor id server.history).length ≤ 1
  declined : ∀ job user id, server.request? job = some (.decline user id) →
    server.answer? job = some (.ok .noContent) → badgesFor id server.history = []

/-- An acceptance of the offer has inserted its badge and has not sent anything since. -/
def HalfAccepted (id : String) (history : List BadgeEvent) : Prop :=
  ∃ pre e post, history = pre ++ e :: post ∧ e.request.accepted? = some id ∧
    insertedBadges e ≠ [] ∧ ∀ later ∈ post, later.job ≠ e.job

/-- The statement is fine after what has been executed before it: an offer that is stored
has the label of its payload, a badge is inserted while its offer, which is written as its
payload is, is there and not accepted by halves, and no such offer is declined. -/
structure KeepsBadges (lib : Crates) (text : BadgeText) (pre : List BadgeEvent) (e : BadgeEvent) :
    Prop where
  stores : ∀ id createdAt req, e.request = .receive id createdAt req →
    e.before.db.badgeOffers.has id = false → e.after.db.badgeOffers.has id = true →
    ∀ payload ∈ lib.readBadgePayload req.payload, req.label = payload.label
  inserts : ∀ id, e.request.accepted? = some id → insertedBadges e ≠ [] →
    ¬ HalfAccepted id pre ∧ ∃ row ∈ e.before.db.badgeOffers.find? id,
      ∀ payload ∈ lib.readBadgePayload row.payload, text.toJson payload = row.payload
  declines : ∀ id, e.request.declined? = some id → e.before.db.badgeOffers.has id = true →
    ¬ HalfAccepted id pre

/-! ## Statements -/

theorem parseStored_eq_ok_iff {lib : Crates} {text : BadgeText} {stored : String}
    {payload : BadgePayload} :
    parseStored lib text stored = .ok payload ↔ lib.readBadgePayload stored = some payload := by
  unfold parseStored
  cases lib.readBadgePayload stored with
  | none => simp
  | some read => simp

/-- The text names the hub and is signed by whom it says. -/
structure SignedBadge (lib : Crates) (ourPubkey fromHubPubkey stored signature : String)
    (payload : BadgePayload) : Prop where
  read : lib.readBadgePayload stored = some payload
  subject : payload.subjectPubkey = ourPubkey
  issuer : payload.issuerPubkey = fromHubPubkey
  verifies : ∃ sigBytes, hexDecode signature = some sigBytes ∧
    verifySignature lib.ed25519 fromHubPubkey (asBytes stored) sigBytes = .ok ()

theorem checkBadgeOffer_ok_iff {lib : Crates} {ourPubkey : String} {req : BadgeOfferRequest} :
    checkBadgeOffer lib ourPubkey req = .ok () ↔
      ∃ payload, SignedBadge lib ourPubkey req.fromHubPubkey req.payload req.signature payload := by
  rw [checkBadgeOffer_eq_ok_iff]
  constructor
  · rintro ⟨payload, sigBytes, hread, hsubject, hdecode, hverify, hissuer⟩
    exact ⟨payload, hread, hsubject, hissuer, sigBytes, hdecode, hverify⟩
  · rintro ⟨payload, hread, hsubject, hissuer, sigBytes, hdecode, hverify⟩
    exact ⟨payload, sigBytes, hread, hsubject, hdecode, hverify, hissuer⟩

/-- What the requests send. -/
inductive BadgeSent (lib : Crates) (call : BadgeCall) (past : List (Sent AppState))
    (sent : Sent AppState) : Prop
  | read (hreads : ∀ earlier ∈ past, earlier.statement = id) (h : sent.statement = id)
  | store (offerId createdAt : String) (req : BadgeOfferRequest) (s : AppState)
      (hcall : call = .receive offerId createdAt req) (hpast : past = [⟨id, s⟩])
      (hcheck : checkBadgeOffer lib (s.publicKeyHex lib.ed25519) req = .ok ())
      (h : sent.statement = executed (insertBadgeOffer (req.row offerId createdAt)))
  | insert (badgeId acceptedAt user offerId : String) (row : BadgeOfferRow) (s : AppState)
      (hcall : call = .accept badgeId acceptedAt user offerId)
      (hreads : ∀ earlier ∈ past, earlier.statement = id)
      (hfound : ⟨id, s⟩ ∈ past) (hrow : s.db.badgeOffers.find? offerId = some row)
      (h : sent.statement = executed (insertHubBadge (row.badge badgeId acceptedAt)))
  | finish (badgeId acceptedAt user offerId : String)
      (hcall : call = .accept badgeId acceptedAt user offerId)
      (h : sent.statement = written (deleteBadgeOffer offerId))
  | decline (user offerId : String) (hcall : call = .decline user offerId)
      (h : sent.statement = written (deleteBadgeOffer offerId))
  | delete (user badgeId : String) (hcall : call = .delete user badgeId)
      (h : sent.statement = written (deleteHubBadge badgeId))

/-- Who declines an offer successfully has deleted it. -/
def BadgeCall.Answered : BadgeCall → StatusCode → List (Sent AppState) → Prop
  | .decline _ offerId, _, past =>
      ∃ sent ∈ past, sent.statement = written (deleteBadgeOffer offerId) ∧
        sent.before.db.badgeOffers.has offerId = true
  | _, _, _ => True

section Statements

variable {lib : Crates} {text : BadgeText} {call : BadgeCall} {past : List (Sent AppState)}
  {post : StatusCode → List (Sent AppState) → Prop}

/-- What is only for administrators starts by asking who they are. -/
theorem asAdmin_follows {user : String} {rest : Handler StatusCode}
    (hrest : ∀ past, (∀ earlier ∈ past, earlier.statement = id) →
      rest.Follows (BadgeSent lib call) post past) :
    (do
      let perms ← userPermissions user
      Prog.ofExcept (perms.require admin)
      rest : Handler StatusCode).Follows (BadgeSent lib call) post [] := by
  have hasked : (userPermissions user).Follows (BadgeSent lib call)
      (fun _ past => ∀ earlier ∈ past, earlier.statement = id) [] := by
    apply userPermissions_asked
    · exact fun s => .read (by simp) rfl
    · exact fun s s' => .read (by simp) rfl
    · exact fun s perms _ _ => by simp
    · exact fun s s' perms _ => by simp
  apply hasked.bind
  intro perms past _ hreads
  apply Prog.follows_ofExcept_bind
  exact fun _ _ => hrest past hreads

theorem length_filter_id_ne_zero_iff {offers : Table BadgeOfferRow BadgeOfferRow.id}
    {offerId : String} :
    (offers.rows.filter (·.id = offerId)).length ≠ 0 ↔ offers.has offerId = true := by
  rw [Ne, List.length_eq_zero_iff, List.filter_eq_nil_iff, Table.has_iff]
  simp

theorem BadgeCall.handler_follows (call : BadgeCall) :
    (call.handler lib text).Follows (BadgeSent lib call) call.Answered [] := by
  cases call with
  | receive offerId createdAt req =>
      apply Prog.follows_query_bind
      · exact fun s => .read (by simp) rfl
      intro s
      apply Prog.follows_ofExcept_bind
      intro _ hcheck
      apply follows_execute_bind
      · exact fun t => .store offerId createdAt req s rfl rfl hcheck rfl
      · exact fun _ _ _ => trivial
  | accept badgeId acceptedAt user offerId =>
      apply asAdmin_follows
      intro past hreads
      apply follows_fetch_bind
      · exact fun s => .read hreads rfl
      intro s
      apply Prog.follows_ofExcept_bind
      intro row hrow
      have hfound : s.db.badgeOffers.find? offerId = some row := by
        cases hfind : s.db.badgeOffers.find? offerId with
        | none => simp [hfind] at hrow
        | some found =>
            rw [hfind] at hrow
            cases hrow
            rfl
      have hreads' : ∀ earlier ∈ past ++ [⟨id, s⟩], earlier.statement = id := by
        intro earlier hearlier
        rcases List.mem_append.mp hearlier with hearlier | hearlier
        · exact hreads earlier hearlier
        · rw [List.mem_singleton.mp hearlier]
      apply Prog.follows_query_bind
      · exact fun t => .read hreads' rfl
      intro t
      apply Prog.follows_ofExcept_bind
      intro _ _
      apply follows_execute_bind
      · refine fun u => .insert badgeId acceptedAt user offerId row s rfl ?_ (by simp) hfound rfl
        intro earlier hearlier
        rcases List.mem_append.mp hearlier with hearlier | hearlier
        · exact hreads' earlier hearlier
        · rw [List.mem_singleton.mp hearlier]
      intro u db _
      apply follows_write_bind
      · exact fun u' => .finish badgeId acceptedAt user offerId rfl rfl
      · exact fun _ => trivial
  | decline user offerId =>
      apply asAdmin_follows
      intro past hreads s
      refine ⟨.decline user offerId rfl rfl, ?_⟩
      apply Prog.follows_ensure_bind
      intro haffected
      refine ⟨⟨written (deleteBadgeOffer offerId), s⟩, by simp, rfl, ?_⟩
      exact length_filter_id_ne_zero_iff.mp haffected
  | delete user badgeId =>
      apply asAdmin_follows
      intro past hreads s
      refine ⟨.delete user badgeId rfl rfl, ?_⟩
      apply Prog.follows_ensure_bind
      exact fun _ => trivial

end Statements

/-! ## What a statement does -/

theorem executed_insertBadgeOffer_cases (row : BadgeOfferRow) (s : AppState) :
    executed (insertBadgeOffer row) s = s ∨
      ∃ badgeOffers, s.db.badgeOffers.insert? row = some badgeOffers ∧
        executed (insertBadgeOffer row) s = s.withDb { s.db with badgeOffers := badgeOffers } := by
  cases hinsert : s.db.badgeOffers.insert? row with
  | none =>
      exact .inl (executed_of_error (show insertBadgeOffer row s.db = _ by
        rw [insertBadgeOffer, hinsert]))
  | some badgeOffers =>
      exact .inr ⟨badgeOffers, rfl, executed_of_ok (show insertBadgeOffer row s.db = _ by
        rw [insertBadgeOffer, hinsert])⟩

theorem executed_insertHubBadge_cases (row : HubBadgeRow) (s : AppState) :
    executed (insertHubBadge row) s = s ∨
      ∃ hubBadges, s.db.hubBadges.insert? row = some hubBadges ∧
        executed (insertHubBadge row) s = s.withDb { s.db with hubBadges := hubBadges } := by
  cases hinsert : s.db.hubBadges.insert? row with
  | none =>
      exact .inl (executed_of_error (show insertHubBadge row s.db = _ by
        rw [insertHubBadge, hinsert]))
  | some hubBadges =>
      exact .inr ⟨hubBadges, rfl, executed_of_ok (show insertHubBadge row s.db = _ by
        rw [insertHubBadge, hinsert])⟩

theorem has_deleteBadgeOffer (offerId : String) (db : Db) :
    (deleteBadgeOffer offerId db).badgeOffers.has offerId = false := by
  rw [Table.has_eq_false_iff]
  intro row hrow
  have hne := (List.mem_filter.mp hrow).2
  simpa using hne

namespace BadgeSent

variable {lib : Crates} {call : BadgeCall} {past : List (Sent AppState)} {sent : Sent AppState}

theorem hubIdentity (h : BadgeSent lib call past sent) :
    sent.after.hubIdentity = sent.before.hubIdentity := by
  cases h with
  | read _ h => rw [Sent.after_of_id h]
  | store offerId createdAt req s _ _ _ h =>
      rw [Sent.after, h]
      rcases executed_insertBadgeOffer_cases (req.row offerId createdAt) sent.before with
        heq | ⟨_, -, heq⟩
      · rw [heq]
      · rw [heq]
        rfl
  | insert badgeId acceptedAt _ _ row s _ _ _ _ h =>
      rw [Sent.after, h]
      rcases executed_insertHubBadge_cases (row.badge badgeId acceptedAt) sent.before with
        heq | ⟨_, -, heq⟩
      · rw [heq]
      · rw [heq]
        rfl
  | finish _ _ _ _ _ h => rw [Sent.after, h]; rfl
  | decline _ _ _ h => rw [Sent.after, h]; rfl
  | delete _ _ _ h => rw [Sent.after, h]; rfl

/-- An offer that is new has been stored by its request, after the checks. -/
theorem offer_cases (h : BadgeSent lib call past sent) {row : BadgeOfferRow}
    (hrow : row ∈ sent.after.db.badgeOffers.rows) :
    row ∈ sent.before.db.badgeOffers.rows ∨
      ∃ offerId createdAt req s, call = .receive offerId createdAt req ∧ past = [⟨id, s⟩] ∧
        checkBadgeOffer lib (s.publicKeyHex lib.ed25519) req = .ok () ∧
        row = req.row offerId createdAt ∧ sent.before.db.badgeOffers.has offerId = false := by
  cases h with
  | read _ h => exact .inl (Sent.after_of_id h ▸ hrow)
  | store offerId createdAt req s hcall hpast hcheck h =>
      rw [Sent.after, h] at hrow
      rcases executed_insertBadgeOffer_cases (req.row offerId createdAt) sent.before with
        heq | ⟨badgeOffers, hinsert, heq⟩
      · exact .inl (heq ▸ hrow)
      · obtain ⟨hfree, hrows⟩ := Table.insert?_eq_some_iff.mp hinsert
        rw [heq, show (sent.before.withDb { sent.before.db with
          badgeOffers := badgeOffers }).db.badgeOffers.rows = _ from hrows] at hrow
        rcases List.mem_append.mp hrow with hrow | hrow
        · exact .inl hrow
        · exact .inr ⟨offerId, createdAt, req, s, hcall, hpast, hcheck, List.mem_singleton.mp hrow,
            Table.has_eq_false_iff.mpr hfree⟩
  | insert badgeId acceptedAt _ _ row' s _ _ _ _ h =>
      rw [Sent.after, h] at hrow
      rcases executed_insertHubBadge_cases (row'.badge badgeId acceptedAt) sent.before with
        heq | ⟨_, -, heq⟩
      · exact .inl (heq ▸ hrow)
      · rw [heq] at hrow
        exact .inl hrow
  | finish _ _ _ _ _ h =>
      rw [Sent.after, h] at hrow
      exact .inl (List.mem_filter.mp hrow).1
  | decline _ _ _ h =>
      rw [Sent.after, h] at hrow
      exact .inl (List.mem_filter.mp hrow).1
  | delete _ _ _ h =>
      rw [Sent.after, h] at hrow
      exact .inl hrow

/-- What an acceptance has found when it inserts a badge. -/
structure Inserts (call : BadgeCall) (past : List (Sent AppState)) (offerId : String)
    (offer : BadgeOfferRow) (row : HubBadgeRow) (s : AppState) : Prop where
  accepts : call.accepted? = some offerId
  reads : ∀ earlier ∈ past, earlier.statement = id
  found : ⟨id, s⟩ ∈ past
  offered : s.db.badgeOffers.find? offerId = some offer
  badge : ∃ badgeId acceptedAt, row = offer.badge badgeId acceptedAt

/-- A statement leaves the badges, or removes some, or is the insertion of one. -/
theorem badge_cases (h : BadgeSent lib call past sent) :
    (∀ row ∈ sent.after.db.hubBadges.rows, row ∈ sent.before.db.hubBadges.rows) ∨
      ∃ offerId offer row s, Inserts call past offerId offer row s ∧
        row ∉ sent.before.db.hubBadges.rows ∧
        sent.after.db.hubBadges.rows = sent.before.db.hubBadges.rows ++ [row] := by
  cases h with
  | read _ h => exact .inl fun row hrow => Sent.after_of_id h ▸ hrow
  | store offerId createdAt req s _ _ _ h =>
      left
      intro row hrow
      rw [Sent.after, h] at hrow
      rcases executed_insertBadgeOffer_cases (req.row offerId createdAt) sent.before with
        heq | ⟨_, -, heq⟩
      · exact heq ▸ hrow
      · rw [heq] at hrow
        exact hrow
  | insert badgeId acceptedAt user offerId row s hcall hreads hfound hrow h =>
      rw [Sent.after, h]
      rcases executed_insertHubBadge_cases (row.badge badgeId acceptedAt) sent.before with
        heq | ⟨hubBadges, hinsert, heq⟩
      · rw [heq]
        exact .inl fun _ hold => hold
      · obtain ⟨hfree, hrows⟩ := Table.insert?_eq_some_iff.mp hinsert
        rw [heq]
        refine .inr ⟨offerId, row, row.badge badgeId acceptedAt, s, ⟨by rw [hcall]; rfl, hreads,
          hfound, hrow, _, _, rfl⟩, ?_, hrows⟩
        exact fun hold => hfree _ hold rfl
  | finish _ _ _ _ _ h =>
      rw [Sent.after, h]
      exact .inl fun _ hold => hold
  | decline _ _ _ h =>
      rw [Sent.after, h]
      exact .inl fun _ hold => hold
  | delete _ _ _ h =>
      rw [Sent.after, h]
      exact .inl fun _ hold => (List.mem_filter.mp hold).1

/-- Once it has written, an acceptance deletes its offer. -/
theorem finishes (h : BadgeSent lib call past sent) {offerId : String}
    (hcall : call.accepted? = some offerId) (hwrote : ∃ earlier ∈ past, earlier.statement ≠ id) :
    sent.after.db.badgeOffers.has offerId = false := by
  obtain ⟨earlier, hearlier, hne⟩ := hwrote
  cases h with
  | read hreads _ => exact absurd (hreads earlier hearlier) hne
  | store _ _ _ _ hcall' => simp [hcall', BadgeCall.accepted?] at hcall
  | insert _ _ _ _ _ _ _ hreads => exact absurd (hreads earlier hearlier) hne
  | finish _ _ _ _ hcall' h =>
      rw [hcall'] at hcall
      cases hcall
      rw [Sent.after, h]
      exact has_deleteBadgeOffer _ _
  | decline _ _ hcall' => simp [hcall', BadgeCall.accepted?] at hcall
  | delete _ _ hcall' => simp [hcall', BadgeCall.accepted?] at hcall

end BadgeSent

/-! ## Runs -/

/-- A history of requests that starts without offers and badges, and in which every offer
gets an identifier of its own. -/
structure BadgeHistory (lib : Crates) (s : AppState) (history : List BadgeEvent) (t : AppState) :
    Prop where
  run : Interleaving (BadgeSent lib) s history t
  offers : s.db.badgeOffers = ∅
  badges : s.db.hubBadges = ∅
  fresh : ∀ e ∈ history, ∀ e' ∈ history, ∀ offerId, e.request.drawn? = some offerId →
    e'.request.drawn? = some offerId → e.job = e'.job

/-- The event stores the offer. -/
structure StoresOffer (lib : Crates) (s : AppState) (pre : List BadgeEvent) (e : BadgeEvent)
    (row : BadgeOfferRow) (createdAt : String) (req : BadgeOfferRequest) : Prop where
  request : e.request = .receive row.id createdAt req
  row_eq : row = req.row row.id createdAt
  second : (sentBy e.job pre).length = 1
  check : checkBadgeOffer lib (s.publicKeyHex lib.ed25519) req = .ok ()
  free : e.before.db.badgeOffers.has row.id = false
  stored : e.after.db.badgeOffers.has row.id = true

section Runs

variable {lib : Crates} {text : BadgeText} {s t u : AppState} {history pre post : List BadgeEvent}
  {e : BadgeEvent}

theorem badgeSent_identity (h : Interleaving (BadgeSent lib) s history t) :
    t.publicKeyHex lib.ed25519 = s.publicKeyHex lib.ed25519 := by
  have hidle : Interleaving (BadgeSent lib) s [] s := .idle
  apply Interleaving.kept_after (fun u => u.publicKeyHex lib.ed25519 = s.publicKeyHex lib.ed25519)
    h hidle _ rfl
  intro mid e post hsplit hbefore
  obtain ⟨-, hsent, -⟩ := h.split hsplit
  rw [← hbefore, AppState.publicKeyHex, AppState.publicKeyHex, hsent.hubIdentity]

theorem mem_insertedBadges {row : HubBadgeRow} :
    row ∈ insertedBadges e ↔
      row ∈ e.after.db.hubBadges.rows ∧ row ∉ e.before.db.hubBadges.rows := by
  rw [insertedBadges, List.mem_filter, decide_eq_true_iff]

theorem mem_badgesFor {offerId : String} {row : HubBadgeRow} :
    row ∈ badgesFor offerId history ↔
      ∃ e ∈ history, e.request.accepted? = some offerId ∧ row ∈ insertedBadges e := by
  simp [badgesFor, and_assoc]

theorem badgesFor_snoc (offerId : String) (last : BadgeEvent) :
    badgesFor offerId (history ++ [last]) = badgesFor offerId history ++
      if last.request.accepted? = some offerId then insertedBadges last else [] := by
  unfold badgesFor
  split_ifs with h
  · simp [h]
  · simp [h]

namespace BadgeHistory

theorem split (h : BadgeHistory lib s history t) (hsplit : history = pre ++ e :: post) :
    BadgeHistory lib s pre e.before where
  run := (h.run.split hsplit).1
  offers := h.offers
  badges := h.badges
  fresh e' he' e'' he'' := h.fresh e' (hsplit ▸ List.mem_append_left _ he') e''
    (hsplit ▸ List.mem_append_left _ he'')

/-- An offer that is new is stored by the event. -/
theorem stores_of_new (h : BadgeHistory lib s history t) (hsplit : history = pre ++ e :: post)
    {row : BadgeOfferRow} (hbefore : row ∉ e.before.db.badgeOffers.rows)
    (hafter : row ∈ e.after.db.badgeOffers.rows) :
    ∃ createdAt req, StoresOffer lib s pre e row createdAt req := by
  obtain ⟨-, hsent, -⟩ := h.run.split hsplit
  obtain hold | ⟨offerId, createdAt, req, u, hcall, hpast, hcheck, rfl, hfree⟩ :=
    hsent.offer_cases hafter
  · exact absurd hold hbefore
  have hread : (⟨id, u⟩ : Sent AppState) ∈ sentBy e.job pre := by
    rw [hpast]
    exact List.mem_singleton_self _
  obtain ⟨query, hquery, -, hu⟩ := mem_sentBy.mp hread
  obtain ⟨first, rest, hfirst⟩ := List.append_of_mem hquery
  have hkey : u.publicKeyHex lib.ed25519 = s.publicKeyHex lib.ed25519 := by
    have hstate : query.before = u := congrArg Sent.before hu
    rw [← hstate]
    exact badgeSent_identity ((h.split hsplit).run.split hfirst).1
  have hstored : e.after.db.badgeOffers.has offerId = true :=
    Table.has_iff.mpr ⟨_, hafter, rfl⟩
  exact ⟨createdAt, req, hcall, rfl, by rw [hpast]; rfl, hkey ▸ hcheck, hfree, hstored⟩

/-- The offers that are there have been stored. -/
theorem stored (h : BadgeHistory lib s history t) {row : BadgeOfferRow}
    (hrow : row ∈ t.db.badgeOffers.rows) :
    ∃ pre e post createdAt req, history = pre ++ e :: post ∧
      StoresOffer lib s pre e row createdAt req := by
  have hfirst : row ∉ s.db.badgeOffers.rows := by
    rw [h.offers]
    exact List.not_mem_nil
  obtain ⟨pre, e, post, hsplit, hbefore, hafter⟩ :=
    h.run.established (fun u => row ∈ u.db.badgeOffers.rows) hfirst hrow
  obtain ⟨createdAt, req, hstores⟩ := h.stores_of_new hsplit hbefore hafter
  exact ⟨pre, e, post, createdAt, req, hsplit, hstores⟩

/-- An identifier is stored once. -/
theorem stores_unique (h : BadgeHistory lib s history t) {pre' post' : List BadgeEvent}
    {e' : BadgeEvent} {row row' : BadgeOfferRow} {createdAt createdAt' : String}
    {req req' : BadgeOfferRequest} (hsplit : history = pre ++ e :: post)
    (hsplit' : history = pre' ++ e' :: post') (hstores : StoresOffer lib s pre e row createdAt req)
    (hstores' : StoresOffer lib s pre' e' row' createdAt' req') (hid : row.id = row'.id) :
    pre = pre' ∧ row = row' := by
  have hjob : e.job = e'.job := by
    apply h.fresh e (by rw [hsplit]; simp) e' (by rw [hsplit']; simp) row.id
    · rw [hstores.request]
      rfl
    · rw [hstores'.request, hid]
      rfl
  obtain ⟨hpre, rfl⟩ := split_eq_of_length hsplit hsplit' hjob
    (hstores.second.trans hstores'.second.symm)
  have hrequest := hstores.request.symm.trans hstores'.request
  cases BadgeCall.receive.inj hrequest with
  | intro _ hrest =>
      obtain ⟨rfl, rfl⟩ := hrest
      refine ⟨hpre, ?_⟩
      rw [hstores.row_eq, hstores'.row_eq, hid]

/-- An offer that has been stored and is not there any more does not come back. -/
theorem gone (h : BadgeHistory lib s history t) {mid later : List BadgeEvent}
    (hhistory : history = mid ++ later) (hmid : Interleaving (BadgeSent lib) s mid u)
    {row : BadgeOfferRow} {createdAt : String} {req : BadgeOfferRequest}
    (hsplit : mid = pre ++ e :: post) (hstores : StoresOffer lib s pre e row createdAt req)
    (hgone : u.db.badgeOffers.has row.id = false) : t.db.badgeOffers.has row.id = false := by
  have hrun := h.run
  rw [hhistory] at hrun
  apply hrun.kept_after (fun v => v.db.badgeOffers.has row.id = false) hmid _ hgone
  intro first last rest hlater hbefore
  have hlast : history = (mid ++ first) ++ last :: rest := by
    rw [hhistory, hlater, List.append_assoc]
  by_contra hafter
  rw [Bool.not_eq_false, Table.has_iff] at hafter
  obtain ⟨row', hrow', hid⟩ := hafter
  have hnew : row' ∉ last.before.db.badgeOffers.rows := fun hold =>
    Table.has_eq_false_iff.mp hbefore row' hold hid
  obtain ⟨createdAt', req', hagain⟩ := h.stores_of_new hlast hnew hrow'
  have hfirst : history = pre ++ e :: (post ++ later) := by
    rw [hhistory, hsplit]
    simp
  have hpre := (h.stores_unique hfirst hlast hstores hagain hid.symm).1
  have hlength := congrArg List.length hpre
  rw [hsplit] at hlength
  simp at hlength

/-- A badge is inserted for an offer that has been stored before. -/
theorem inserted (h : BadgeHistory lib s history t) (hsplit : history = pre ++ e :: post)
    (hinserted : insertedBadges e ≠ []) :
    ∃ offer row badgeId acceptedAt, e.request.accepted? = some offer.id ∧
      insertedBadges e = [row] ∧ row = offer.badge badgeId acceptedAt ∧ e.statement ≠ id ∧
      ∃ pre' e' post' createdAt req, pre = pre' ++ e' :: post' ∧
        StoresOffer lib s pre' e' offer createdAt req := by
  obtain ⟨-, hsent, -⟩ := h.run.split hsplit
  obtain hkept | ⟨offerId, offer, row, u, hinserts, hnew, hrows⟩ := hsent.badge_cases
  · apply absurd _ hinserted
    rw [List.eq_nil_iff_forall_not_mem]
    intro row hrow
    obtain ⟨hafter, hbefore⟩ := mem_insertedBadges.mp hrow
    exact hbefore (hkept row hafter)
  obtain ⟨hmem, rfl⟩ := Table.find?_eq_some_iff.mp hinserts.offered
  obtain ⟨badgeId, acceptedAt, hbadge⟩ := hinserts.badge
  have hone : insertedBadges e = [row] := by
    rw [insertedBadges, hrows, List.filter_append,
      List.filter_eq_nil_iff.mpr fun old hold => by simpa using hold]
    simpa using hnew
  have hwrites : e.statement ≠ id := by
    intro hread
    rw [Sent.after_of_id hread] at hrows
    simpa using congrArg List.length hrows
  refine ⟨offer, row, badgeId, acceptedAt, hinserts.accepts, hone, hbadge, hwrites, ?_⟩
  obtain ⟨query, hquery, -, hu⟩ := mem_sentBy.mp hinserts.found
  obtain ⟨first, rest, hfirst⟩ := List.append_of_mem hquery
  have hstate : query.before = u := congrArg Sent.before hu
  rw [← hstate] at hmem
  obtain ⟨pre', e', post', createdAt, req, hpre', hstores⟩ :=
    ((h.split hsplit).split hfirst).stored hmem
  exact ⟨pre', e', post' ++ query :: rest, createdAt, req, by rw [hfirst, hpre']; simp, hstores⟩

/-- Unless it is half accepted, an accepted offer is not there any more. -/
theorem finished (h : BadgeHistory lib s history t) (hsplit : history = pre ++ e :: post)
    {offerId : String} (haccepts : e.request.accepted? = some offerId)
    (hinserted : insertedBadges e ≠ []) (hhalf : ¬ HalfAccepted offerId history) :
    t.db.badgeOffers.has offerId = false := by
  obtain ⟨offer, row, badgeId, acceptedAt, hoffer, -, -, hwrites, pre', e', post', createdAt, req,
    hpre, hstores⟩ := h.inserted hsplit hinserted
  have hid : offer.id = offerId := Option.some.inj (hoffer.symm.trans haccepts)
  subst hid
  have hlater : ∃ later ∈ post, later.job = e.job := by
    by_contra hnone
    push Not at hnone
    exact hhalf ⟨pre, e, post, hsplit, haccepts, hinserted, hnone⟩
  obtain ⟨later, hlater, hjob⟩ := hlater
  obtain ⟨between, rest, rfl⟩ := List.append_of_mem hlater
  have hat : history = (pre ++ e :: between) ++ later :: rest := by
    rw [hsplit]
    simp
  obtain ⟨hrun, hsent, hown⟩ := h.run.split hat
  have hsame : e.request = later.request := hown e (by simp) hjob.symm
  have hfinished : later.after.db.badgeOffers.has offer.id = false := by
    apply hsent.finishes
    · rw [← hsame]
      exact haccepts
    · exact ⟨e.toSent, mem_sentBy.mpr ⟨e, by simp, hjob.symm, rfl⟩, hwrites⟩
  have hmid : Interleaving (BadgeSent lib) s (pre ++ e :: between ++ [later]) later.after :=
    .exec later hrun rfl hown hsent
  have hfirst : pre ++ e :: between ++ [later] =
      pre' ++ e' :: (post' ++ e :: (between ++ [later])) := by
    rw [hpre]
    simp
  have hhistory : history = (pre ++ e :: between ++ [later]) ++ rest := by
    rw [hat]
    simp
  exact h.gone hhistory hmid hfirst hstores hfinished

/-- What is served is one of the badges that have been inserted. -/
theorem served_inserted (h : BadgeHistory lib s history t) {nowIso : String}
    {envelope : BadgeEnvelope} (henvelope : envelope ∈ t.db.loadActiveBadges lib nowIso) :
    ∃ row payload, lib.readBadgePayload row.payload = some payload ∧
      envelope = ⟨payload, row.signature⟩ ∧
      ∃ pre e post, history = pre ++ e :: post ∧ row ∈ insertedBadges e := by
  obtain ⟨row, hrow, hserved⟩ := List.mem_filterMap.mp henvelope
  have hmem : row ∈ t.db.hubBadges.rows := (List.mem_insertionSort _).mp hrow
  have hfirst : row ∉ s.db.hubBadges.rows := by
    rw [h.badges]
    exact List.not_mem_nil
  obtain ⟨pre, e, post, hsplit, hbefore, hafter⟩ :=
    h.run.established (fun u => row ∈ u.db.hubBadges.rows) hfirst hmem
  unfold HubBadgeRow.envelope? at hserved
  cases hread : lib.readBadgePayload row.payload with
  | none => simp [hread] at hserved
  | some payload =>
      simp only [hread] at hserved
      split_ifs at hserved
      cases hserved
      exact ⟨row, payload, hread, rfl, pre, e, post, hsplit,
        mem_insertedBadges.mpr ⟨hafter, hbefore⟩⟩

variable (hright : ∀ pre e post, history = pre ++ e :: post → KeepsBadges lib text pre e)

include hright

/-- What is served verifies. -/
theorem served (h : BadgeHistory lib s history t) {nowIso : String} {envelope : BadgeEnvelope}
    (henvelope : envelope ∈ t.db.loadActiveBadges lib nowIso) :
    envelope.Verifies lib text (t.publicKeyHex lib.ed25519) := by
  obtain ⟨row, payload, hread, rfl, pre, e, post, hsplit, hrow⟩ := h.served_inserted henvelope
  have hinserted : insertedBadges e ≠ [] := List.ne_nil_of_mem hrow
  obtain ⟨offer, row', badgeId, acceptedAt, hoffer, hone, hbadge, -, pre', e', post', createdAt,
    req, hpre, hstores⟩ := h.inserted hsplit hinserted
  rw [hone, List.mem_singleton] at hrow
  subst hrow hbadge
  -- The offer that is there when the badge is inserted is the one that was read.
  obtain ⟨-, there, hthere, hwritten⟩ := (hright pre e post hsplit).inserts _ hoffer hinserted
  obtain ⟨hmem, hid⟩ := Table.find?_eq_some_iff.mp hthere
  obtain ⟨pre'', e'', post'', createdAt', req', hpre', hstores'⟩ := (h.split hsplit).stored hmem
  have hsame : offer = there :=
    ((h.split hsplit).stores_unique hpre hpre' hstores hstores' hid.symm).2
  subst hsame
  have htext : text.toJson payload = offer.payload := hwritten payload hread
  obtain ⟨payload', hsigned⟩ := checkBadgeOffer_ok_iff.mp hstores.check
  have hrow := hstores.row_eq
  have hpayload : offer.payload = req.payload := by rw [hrow]; rfl
  have hread' : lib.readBadgePayload req.payload = some payload := hpayload ▸ hread
  obtain rfl : payload' = payload := Option.some.inj (hsigned.read.symm.trans hread')
  obtain ⟨sigBytes, hdecode, hverify⟩ := hsigned.verifies
  have hsignature : hexDecode (offer.badge badgeId acceptedAt).signature = some sigBytes := by
    rw [hrow]
    exact hdecode
  rw [badgeSent_identity h.run]
  refine ⟨hsigned.subject, sigBytes, hsignature, ?_⟩
  show verifySignature lib.ed25519 payload'.issuerPubkey (asBytes (text.toJson payload')) sigBytes =
    _
  rw [hsigned.issuer, htext, hpayload]
  exact hverify

/-- Administrators see the label of the payload. -/
theorem labelled (h : BadgeHistory lib s history t) {row : BadgeOfferRow}
    (hrow : row ∈ t.db.badgeOffers.rows) {payload : BadgePayload}
    (hread : lib.readBadgePayload row.payload = some payload) : row.label = payload.label := by
  obtain ⟨pre, e, post, createdAt, req, hsplit, hstores⟩ := h.stored hrow
  have hrequest := hstores.row_eq
  rw [hrequest] at hread ⊢
  exact (hright pre e post hsplit).stores _ _ _ hstores.request hstores.free hstores.stored
    payload hread

/-- An offer is worth one badge at most. -/
theorem length_badgesFor_le (h : BadgeHistory lib s history t) (offerId : String) :
    (badgesFor offerId history).length ≤ 1 := by
  induction history using List.reverseRecOn generalizing t with
  | nil => exact Nat.zero_le 1
  | append_singleton earlier last ih =>
      have hearlier : BadgeHistory lib s earlier last.before := h.split rfl
      have hlength := ih (fun pre e post hsplit =>
        hright pre e (post ++ [last]) (by rw [hsplit]; simp)) hearlier
      by_cases hinserts : last.request.accepted? = some offerId ∧ insertedBadges last ≠ []
      · obtain ⟨haccepts, hinserted⟩ := hinserts
        obtain ⟨-, row, -, -, -, hone, -⟩ := h.inserted rfl hinserted
        obtain ⟨hhalf, there, hthere, -⟩ :=
          (hright earlier last [] rfl).inserts _ haccepts hinserted
        have hnone : badgesFor offerId earlier = [] := by
          rw [List.eq_nil_iff_forall_not_mem]
          intro old hold
          obtain ⟨e, he, haccepts', hmem⟩ := mem_badgesFor.mp hold
          obtain ⟨pre, post, hsplit⟩ := List.append_of_mem he
          have hgone := hearlier.finished hsplit haccepts' (List.ne_nil_of_mem hmem) hhalf
          obtain ⟨hmem', hid⟩ := Table.find?_eq_some_iff.mp hthere
          exact Table.has_eq_false_iff.mp hgone there hmem' hid
        rw [badgesFor_snoc, hnone, if_pos haccepts, hone]
        exact Nat.le_refl 1
      · rw [badgesFor_snoc]
        split_ifs with haccepts
        · have hnone : insertedBadges last = [] := by
            by_contra hinserted
            exact hinserts ⟨haccepts, hinserted⟩
          rw [hnone, List.append_nil]
          exact hlength
        · rw [List.append_nil]
          exact hlength

/-- A declined offer is worth none. -/
theorem badgesFor_eq_nil (h : BadgeHistory lib s history t) (hsplit : history = pre ++ e :: post)
    {offerId : String} (hdeclines : e.request.declined? = some offerId)
    (hthere : e.before.db.badgeOffers.has offerId = true)
    (hdeletes : e.statement = written (deleteBadgeOffer offerId)) :
    badgesFor offerId history = [] := by
  rw [List.eq_nil_iff_forall_not_mem]
  intro row hrow
  obtain ⟨insertion, hinsertion, haccepts, hmem⟩ := mem_badgesFor.mp hrow
  have hinserted : insertedBadges insertion ≠ [] := List.ne_nil_of_mem hmem
  obtain ⟨pre', post', hsplit'⟩ := List.append_of_mem hinsertion
  have hthere' : e.before.db.badgeOffers.has offerId ≠ false := by simp [hthere]
  rcases split_order hsplit hsplit' with ⟨-, rfl⟩ | ⟨between, hpre'⟩ | ⟨between, hpre⟩
  · cases hcall : e.request with
    | decline user id => simp [hcall, BadgeCall.accepted?] at haccepts
    | receive id createdAt req => simp [hcall, BadgeCall.accepted?] at haccepts
    | accept badgeId acceptedAt user id => simp [hcall, BadgeCall.declined?] at hdeclines
    | delete user id => simp [hcall, BadgeCall.accepted?] at haccepts
  · -- The offer is gone when the badge is inserted.
    obtain ⟨-, there, hfound, -⟩ :=
      (hright pre' insertion post' hsplit').inserts offerId haccepts hinserted
    obtain ⟨hmem', hid⟩ := Table.find?_eq_some_iff.mp hfound
    obtain ⟨old, hold, holdId⟩ := Table.has_iff.mp hthere
    obtain ⟨first, e', rest, createdAt, req, hpre, hstores⟩ := (h.split hsplit).stored hold
    obtain ⟨hrun, hsent, hown⟩ := h.run.split hsplit
    have hmid : Interleaving (BadgeSent lib) s (pre ++ [e]) e.after := .exec e hrun rfl hown hsent
    have hfirst : pre ++ [e] = first ++ e' :: (rest ++ [e]) := by
      rw [hpre]
      simp
    have hat : pre' = (pre ++ [e]) ++ between := by
      rw [hpre']
      simp
    have hdeleted : e.after.db.badgeOffers.has old.id = false := by
      rw [Sent.after, hdeletes, holdId]
      exact has_deleteBadgeOffer _ _
    have hgone := (h.split hsplit').gone hat hmid hfirst hstores hdeleted
    exact Table.has_eq_false_iff.mp hgone there hmem' (hid.trans holdId.symm)
  · exact hthere' ((h.split hsplit).finished hpre haccepts hinserted
      ((hright pre e post hsplit).declines offerId hdeclines hthere))

end BadgeHistory

end Runs

theorem labels_of_listPending {lib : Crates} {text : BadgeText} {user : String} {s : AppState}
    {responses : List PendingBadgeResponse}
    (h : ((listPending lib text user).run s).1 = .ok responses) {response : PendingBadgeResponse}
    (hresponse : response ∈ responses) :
    ∃ row ∈ s.db.badgeOffers.rows, lib.readBadgePayload row.payload = some response.payload ∧
      response.label = row.label := by
  rw [listPending, Prog.run_bind_of_ok (run_userPermissions user s)] at h
  cases hadmin : (s.db.userPermissions user).require admin with
  | error e =>
      rw [hadmin] at h
      cases h
  | ok _ =>
      rw [hadmin, Prog.run_bind_of_ok rfl, Prog.run_bind_of_ok (run_fetch _ s),
        Prog.run_ofExcept] at h
      obtain ⟨row, hrow, hpending⟩ := exists_of_mem_mapM h response hresponse
      obtain ⟨payload, hparse, hmade⟩ := except_bind_eq_ok_iff.mp hpending
      cases hmade
      exact ⟨row, (List.mem_insertionSort _).mp hrow, parseStored_eq_ok_iff.mp hparse, rfl⟩

/-- In every run that starts without offers and badges, in which every offer gets an
identifier of its own and every statement is fine, the badges are right. -/
theorem badgesRight_of_keeps (lib : Crates) (text : BadgeText) (moves : List (Move BadgeCall))
    (s : AppState) (hoffers : s.db.badgeOffers = ∅) (hbadges : s.db.hubBadges = ∅)
    (hdistinct : ((moves.filterMap Move.request?).filterMap BadgeCall.drawn?).Nodup)
    (hright : ∀ pre e post, (badgeRun lib text moves s).history = pre ++ e :: post →
      KeepsBadges lib text pre e) :
    BadgesRight lib text (badgeRun lib text moves s) := by
  have hsound : (badgeRun lib text moves s).Sound _ _ _ s :=
    Server.sound_serve BadgeCall.handler_follows moves s
  have hknown : ∀ e ∈ (badgeRun lib text moves s).history,
      (moves.filterMap Move.request?)[e.job]? = some e.request := by
    intro e he
    exact (Server.request?_serve _ moves s e.job).symm.trans (hsound.request?_eq he)
  have hhistory : BadgeHistory lib s (badgeRun lib text moves s).history
      (badgeRun lib text moves s).state := by
    refine ⟨hsound.run, hoffers, hbadges, ?_⟩
    intro e he e' he' offerId hdrawn hdrawn'
    exact index_eq_of_nodup_filterMap hdistinct (hknown e he) (hknown e' he') hdrawn hdrawn'
  constructor
  · exact fun nowIso envelope henvelope => hhistory.served hright henvelope
  · intro user responses hresponses response hresponse
    obtain ⟨row, hrow, hread, hlabel⟩ := labels_of_listPending hresponses hresponse
    rw [hlabel]
    exact hhistory.labelled hright hrow hread
  · exact hhistory.length_badgesFor_le hright
  · intro job user offerId hrequest hanswer
    obtain ⟨sent, hsent, hdeletes, hthere⟩ := hsound.returned hrequest hanswer
    obtain ⟨e, he, hjob, rfl⟩ := mem_sentBy.mp hsent
    obtain ⟨pre, post, hsplit⟩ := List.append_of_mem he
    have hcall : e.request = .decline user offerId := by
      have hsame := hsound.request?_eq he
      rw [hjob, hrequest] at hsame
      exact (Option.some.inj hsame).symm
    exact hhistory.badgesFor_eq_nil hright hsplit (by rw [hcall]; rfl) hthere hdeletes

/-! ## One badge -/

instance decidableVerifies (lib : Crates) (text : BadgeText) (ourPubkey : String)
    (envelope : BadgeEnvelope) : Decidable (envelope.Verifies lib text ourPubkey) :=
  inferInstanceAs (Decidable (_ ∧ ∃ sigBytes ∈ hexDecode envelope.signature, _))

/-- The text of a payload without characters to escape and without an expiry. -/
def payloadJson (afterColon : String) (payload : BadgePayload) : String :=
  "\x7b\"issuer_pubkey\":" ++ afterColon ++ "\"" ++ payload.issuerPubkey ++
    "\",\"issuer_url\":" ++ afterColon ++ "\"" ++ payload.issuerUrl ++
    "\",\"subject_pubkey\":" ++ afterColon ++ "\"" ++ payload.subjectPubkey ++
    "\",\"label\":" ++ afterColon ++ "\"" ++ payload.label ++
    "\",\"issued_at\":" ++ afterColon ++ "\"" ++ payload.issuedAt ++
    "\",\"expires_at\":" ++ afterColon ++ "null\x7d"

def friendBadge : BadgePayload :=
  ⟨peerHubKey, "https://b.example", homeHubKey, "Friend", "1970-01-01T00:00:01Z", none⟩

def badgeText : BadgeText := ⟨payloadJson "", fun _ => ""⟩

/-- The issuer signs the text as it is, and with a space after each colon. -/
def plainSignature : RecordedSignature :=
  ⟨.replicate 32 6, peerHubKey, asBytes (payloadJson "" friendBadge),
    "6f1929fbd8980cbbbd4d328a827554abaa51ca68dc485ef3c7993026644b04fb" ++
    "b9753d6478943de6864065ad6f7df38a078bea7ff22b5b32cf1ecf3d7a1a6a09"⟩

def spacedSignature : RecordedSignature :=
  ⟨.replicate 32 6, peerHubKey, asBytes (payloadJson " " friendBadge),
    "6a913a5fafbe2161e8ef461dd191b078c0dca227a148c32e8e41fc765f67eb70" ++
    "e80dcf44c198ef4fc385e9309741979d4d47b82eb40ce18d729e47d6007cb603"⟩

def badgeLib : Crates :=
  { Crates.ofRecorded [plainSignature, spacedSignature, allianceSignature] with
    readBadgePayload := fun text =>
      if text = payloadJson "" friendBadge ∨ text = payloadJson " " friendBadge then
        some friendBadge
      else none }

/-- A hub with its owner. -/
def badgeHub : AppState :=
  { hubIdentity := .replicate 32 5
    db := { Db.migrated with
      users := .single ⟨"owner", 0, 0, .approved, none, false, 0, none, .none, none⟩
      userRoles := .single ⟨"owner", "builtin-owner", 0⟩ } }

/-- An offer is received and accepted, one after the other. -/
def offerAndAccept (afterColon signature : String) : List (Move BadgeCall) :=
  [.start (.receive "offer" "1970-01-01T00:00:02Z" ⟨peerHubKey, "https://b.example", "Friend", none,
      payloadJson afterColon friendBadge, signature⟩), .exec 0, .exec 0,
    .start (.accept "badge" "1970-01-01T00:00:03Z" "owner" "offer")] ++ List.replicate 6 (.exec 1)

/-- The badge is accepted and served, but its signature is under another text. -/
theorem not_badgesRight_spaced :
    ¬ BadgesRight badgeLib badgeText
      (badgeRun badgeLib badgeText (offerAndAccept " " spacedSignature.signatureHex) badgeHub) := by
  intro h
  obtain ⟨⟨envelope, henvelope, hnot⟩, hkey⟩ :
      (∃ envelope ∈ (badgeRun badgeLib badgeText (offerAndAccept " " spacedSignature.signatureHex)
          badgeHub).state.db.loadActiveBadges badgeLib "1970-01-01T00:00:04Z",
        ¬ envelope.Verifies badgeLib badgeText homeHubKey) ∧
      (badgeRun badgeLib badgeText (offerAndAccept " " spacedSignature.signatureHex)
        badgeHub).state.publicKeyHex badgeLib.ed25519 = homeHubKey := by
    decide +kernel
  exact hnot (hkey ▸ h.served _ envelope henvelope)

/-- The same with the text as the issuer's own hub writes it. -/
theorem badgesRight_plain :
    ((badgeRun badgeLib badgeText (offerAndAccept "" plainSignature.signatureHex)
      badgeHub).state.db.loadActiveBadges badgeLib "1970-01-01T00:00:04Z").length = 1 ∧
    BadgesRight badgeLib badgeText
      (badgeRun badgeLib badgeText (offerAndAccept "" plainSignature.signatureHex) badgeHub) := by
  obtain ⟨hserved, honce, hoffer⟩ :
      ((badgeRun badgeLib badgeText (offerAndAccept "" plainSignature.signatureHex)
          badgeHub).state.db.loadActiveBadges badgeLib "1970-01-01T00:00:04Z").length = 1 ∧
        ((badgeRun badgeLib badgeText (offerAndAccept "" plainSignature.signatureHex)
          badgeHub).history.filter (insertedBadges · ≠ [])).length = 1 ∧
        ∀ e ∈ (badgeRun badgeLib badgeText
          (offerAndAccept "" plainSignature.signatureHex) badgeHub).history, insertedBadges e ≠ [] →
            e.request.accepted? = some "offer" ∧ ∃ row ∈ e.before.db.badgeOffers.find? "offer",
              row.payload = payloadJson "" friendBadge := by
    decide +kernel
  refine ⟨hserved, badgesRight_of_keeps _ _ _ _ rfl rfl (by decide +kernel) ?_⟩
  have hsound : (badgeRun badgeLib badgeText (offerAndAccept "" plainSignature.signatureHex)
      badgeHub).Sound _ _ _ badgeHub :=
    Server.sound_serve BadgeCall.handler_follows _ _
  have hcalls : ∀ e ∈ (badgeRun badgeLib badgeText
      (offerAndAccept "" plainSignature.signatureHex) badgeHub).history,
      e.request = .receive "offer" "1970-01-01T00:00:02Z"
      ⟨peerHubKey, "https://b.example", "Friend",
        none, payloadJson "" friendBadge, plainSignature.signatureHex⟩ ∨
      e.request = .accept "badge" "1970-01-01T00:00:03Z" "owner" "offer" := by
    intro e he
    have hmem := List.mem_of_getElem?
      ((Server.request?_serve _ _ badgeHub e.job).symm.trans (hsound.request?_eq he))
    simp [offerAndAccept, Move.request?] at hmem
    exact hmem.imp_right Eq.symm
  have hread : badgeLib.readBadgePayload (payloadJson "" friendBadge) = some friendBadge := by
    simp only [badgeLib, true_or, if_true]
  intro pre e post hsplit
  have he : e ∈ (badgeRun badgeLib badgeText
      (offerAndAccept "" plainSignature.signatureHex) badgeHub).history := by
    rw [hsplit]
    simp
  constructor
  · intro id createdAt req hrequest _ _ payload hpayload
    rcases hcalls e he with hcall | hcall
    · cases hcall.symm.trans hrequest
      rw [← Option.some.inj (hread.symm.trans hpayload)]
      rfl
    · cases hcall.symm.trans hrequest
  · intro id haccepts hinserted
    obtain ⟨haccepts', row, hrow, htext⟩ := hoffer e he hinserted
    obtain rfl : "offer" = id := Option.some.inj (haccepts'.symm.trans haccepts)
    refine ⟨?_, row, hrow, ?_⟩
    · rintro ⟨first, earlier, between, hpre, -, hearlier, -⟩
      rw [hsplit, hpre] at honce
      simp [hearlier, hinserted] at honce
      omega
    · intro payload hpayload
      rw [htext] at hpayload ⊢
      rw [← Option.some.inj (hread.symm.trans hpayload)]
      rfl
  · intro id hdeclines
    rcases hcalls e he with hcall | hcall
    · rw [hcall] at hdeclines
      cases hdeclines
    · rw [hcall] at hdeclines
      cases hdeclines

end Voxply.Hub
