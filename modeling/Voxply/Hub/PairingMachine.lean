/-
# The pairing machine

A pairing row is offered, claimed and completed, by requests of different
parties that run side by side.  Only the last statement of a claim and of a
completion is guarded by the state of the row.  That is enough: a row that has
been claimed stays as it was claimed until it is completed, so what a request
has read of a claimed row is still there when it writes.  The one way around it
is to offer a token again after its row has expired and been deleted.
-/

import Voxply.Hub.IdentityIntegrity

namespace Voxply.Hub

open Voxply.Math Voxply.Identity

/-- The row of a token. -/
def AppState.offer? (s : AppState) (token : String) : Option PairingOfferRow :=
  s.db.pairingOffers.find? token

/-! ## What a statement does to a row -/

section RowStep

variable (lib : Crates) (json : IdentityJson) (request : IdentityRequest)
  (past : List (Sent AppState)) (sent : Sent AppState) (token : String)

/-- What a statement may do to the row of a token. -/
inductive RowStep (before after : Option PairingOfferRow) : Prop
  | same (h : after = before)
  | pruned (h : after = none)
  | offered (clock : PairingClock) (offer : PairingOffer) (text : String)
      (hrequest : request = .postOffer clock offer) (htoken : offer.pairingToken = token)
      (hwrites : WritesOffer lib json clock offer past sent)
      (htext : json.writeStrings offer.homeHubs = .ok text) (hbefore : before = none)
      (hafter : after = some (pairingOfferRow clock text offer))
  | claimed (clock : PairingClock) (claim : PairingClaim) (row : PairingOfferRow)
      (hrequest : request = .postClaim clock claim) (htoken : claim.pairingToken = token)
      (hwrites : WritesClaim lib clock claim past sent) (hstate : row.state = .pending)
      (hbefore : before = some row) (hafter : after = some (row.claimedBy claim clock.updated))
  | completed (clock : PairingClock) (complete : PairingComplete) (certJson fallbackJson : String)
      (row : PairingOfferRow) (hrequest : request = .postComplete clock complete)
      (htoken : complete.pairingToken = token)
      (hwrites : WritesCompletion lib json clock complete past sent)
      (hcertJson : json.writeCert complete.cert = .ok certJson)
      (hfallbackJson : json.writeStrings complete.cert.fallbackHubs = .ok fallbackJson)
      (hstatement : sent.statement = written (completeOffer clock certJson fallbackJson complete))
      (hstate : row.state = .claimed) (hbefore : before = some row)
      (hafter : after = some (row.completedBy complete certJson clock.updated))

end RowStep

section Steps

variable {lib : Crates} {json : IdentityJson} {request : IdentityRequest}
  {past : List (Sent AppState)} {sent : Sent AppState}

/-- A statement that writes to other tables. -/
theorem rowStep_of_eq {f : AppState → AppState} (hstatement : sent.statement = f)
    (h : ∀ s, (f s).db.pairingOffers = s.db.pairingOffers) (token : String) :
    RowStep lib json request past sent token (sent.before.offer? token)
      (sent.after.offer? token) := by
  refine .same ?_
  rw [Sent.after, hstatement]
  exact congrArg (·.find? token) (h sent.before)

theorem rowStep_prune {now : Int} (hstatement : sent.statement = written (pruneExpired now))
    (token : String) : RowStep lib json request past sent token (sent.before.offer? token)
      (sent.after.offer? token) := by
  have hafter : sent.after.offer? token =
      (sent.before.offer? token).filter fun row => ¬ row.expiresAt < now := by
    rw [Sent.after, hstatement]
    exact find?_pruneExpired now
  rw [hafter]
  cases hfind : sent.before.offer? token with
  | none => exact .same rfl
  | some row =>
      rw [Option.filter_some]
      split_ifs
      · exact .same rfl
      · exact .pruned rfl

theorem rowStep_offer {clock : PairingClock} {offer : PairingOffer}
    (hwrites : WritesOffer lib json clock offer past sent) (token : String) :
    RowStep lib json (.postOffer clock offer) past sent token (sent.before.offer? token)
      (sent.after.offer? token) := by
  obtain ⟨text, htext, hstatement⟩ := hwrites.statement
  have hafter : sent.after.offer? token = if token = offer.pairingToken then
      some ((sent.before.offer? token).getD (pairingOfferRow clock text offer))
      else sent.before.offer? token := by
    rw [Sent.after, hstatement]
    exact find?_insertOffer (pairingOfferRow clock text offer)
  split_ifs at hafter with htoken
  · cases hfind : sent.before.offer? token with
    | none =>
        rw [hfind, Option.getD_none] at hafter
        exact .offered clock offer text rfl htoken.symm hwrites htext rfl hafter
    | some row =>
        rw [hfind, Option.getD_some] at hafter
        exact .same hafter
  · exact .same hafter

theorem rowStep_claim {clock : PairingClock} {claim : PairingClaim}
    (hwrites : WritesClaim lib clock claim past sent) (token : String) :
    RowStep lib json (.postClaim clock claim) past sent token (sent.before.offer? token)
      (sent.after.offer? token) := by
  have hafter : sent.after.offer? token = (sent.before.offer? token).map fun row =>
      if row.pairingToken = claim.pairingToken ∧ row.state = .pending then
        row.claimedBy claim clock.updated
      else row := by
    rw [Sent.after, hwrites.statement]
    exact find?_claimOffer clock.updated claim
  cases hfind : sent.before.offer? token with
  | none =>
      rw [hfind] at hafter
      exact .same hafter
  | some row =>
      have hkey : row.pairingToken = token := (Table.find?_eq_some_iff.mp hfind).2
      rw [hfind, Option.map_some] at hafter
      split_ifs at hafter with hpending
      · exact .claimed clock claim row rfl (hpending.1.symm.trans hkey) hwrites
          hpending.2 rfl hafter
      · exact .same hafter

theorem rowStep_complete {clock : PairingClock} {complete : PairingComplete}
    (hwrites : WritesCompletion lib json clock complete past sent) (token : String) :
    RowStep lib json (.postComplete clock complete) past sent token (sent.before.offer? token)
      (sent.after.offer? token) := by
  obtain ⟨certJson, fallbackJson, hcertJson, hfallbackJson, hstatement⟩ := hwrites.statement
  have hafter : sent.after.offer? token = (sent.before.offer? token).map fun row =>
      if row.pairingToken = complete.pairingToken ∧ row.state = .claimed then
        row.completedBy complete certJson clock.updated
      else row := by
    rw [Sent.after, hstatement]
    exact find?_completeOffer clock certJson fallbackJson complete
  cases hfind : sent.before.offer? token with
  | none =>
      rw [hfind] at hafter
      exact .same hafter
  | some row =>
      have hkey : row.pairingToken = token := (Table.find?_eq_some_iff.mp hfind).2
      rw [hfind, Option.map_some] at hafter
      split_ifs at hafter with hclaimed
      · exact .completed clock complete certJson fallbackJson row rfl
          (hclaimed.1.symm.trans hkey) hwrites hcertJson hfallbackJson hstatement hclaimed.2 rfl
          hafter
      · exact .same hafter

/-- Everything that can happen to a row. -/
theorem IdentitySent.rowStep (h : IdentitySent lib json request past sent) (token : String) :
    RowStep lib json request past sent token (sent.before.offer? token)
      (sent.after.offer? token) := by
  cases h with
  | read h => exact rowStep_of_eq h (fun _ => rfl) token
  | prune now h => exact rowStep_prune h token
  | write h =>
      cases request with
      | putDesignation now master body =>
          obtain ⟨text, -, hstatement⟩ := h.statement
          exact rowStep_of_eq hstatement (fun _ => rfl) token
      | postDevice now master cert =>
          obtain ⟨text, -, hstatement⟩ := h.statement
          exact rowStep_of_eq hstatement (fun _ => rfl) token
      | postRevocation now master entry => exact rowStep_of_eq h.statement (fun _ => rfl) token
      | putPrefs now master blob => exact rowStep_of_eq h.statement (fun _ => rfl) token
      | postOffer clock offer => exact rowStep_offer h token
      | postClaim clock claim => exact rowStep_claim h token
      | postComplete clock complete => exact rowStep_complete h token
      | getDesignation | listDevices | listRevocations | getPrefs | getStatus => exact h.elim

end Steps

/-! ## Rows over time -/

/-- The columns that a claim writes. -/
def PairingOfferRow.claimColumns (row : PairingOfferRow) :
    Option String × Option String × Option String :=
  (row.subkeyPubkey, row.deviceLabel, row.claimProof)

/-- The columns that a completion writes. -/
def PairingOfferRow.completionColumns (row : PairingOfferRow) : Option String × Option String :=
  (row.certJson, row.wrappedKeyHex)

/-- What may have become of a row. -/
structure PairingOfferRow.Evolves (row row' : PairingOfferRow) : Prop where
  masterPubkey : row'.masterPubkey = row.masterPubkey
  homeHubsJson : row'.homeHubsJson = row.homeHubsJson
  expiresAt : row'.expiresAt = row.expiresAt
  claimed : row.state ≠ .pending → row'.state ≠ .pending ∧ row'.claimColumns = row.claimColumns
  complete : row.state = .complete →
    row'.state = .complete ∧ row'.completionColumns = row.completionColumns

namespace PairingOfferRow

theorem Evolves.refl (row : PairingOfferRow) : row.Evolves row :=
  ⟨rfl, rfl, rfl, fun h => ⟨h, rfl⟩, fun h => ⟨h, rfl⟩⟩

theorem Evolves.trans {first second third : PairingOfferRow} (h : first.Evolves second)
    (h' : second.Evolves third) : first.Evolves third where
  masterPubkey := h'.masterPubkey.trans h.masterPubkey
  homeHubsJson := h'.homeHubsJson.trans h.homeHubsJson
  expiresAt := h'.expiresAt.trans h.expiresAt
  claimed hstate := by
    obtain ⟨hsecond, hcolumns⟩ := h.claimed hstate
    obtain ⟨hthird, hcolumns'⟩ := h'.claimed hsecond
    exact ⟨hthird, hcolumns'.trans hcolumns⟩
  complete hstate := by
    obtain ⟨hsecond, hcolumns⟩ := h.complete hstate
    obtain ⟨hthird, hcolumns'⟩ := h'.complete hsecond
    exact ⟨hthird, hcolumns'.trans hcolumns⟩

theorem evolves_claimedBy {row : PairingOfferRow} (h : row.state = .pending) (claim : PairingClaim)
    (now : Int) : row.Evolves (row.claimedBy claim now) :=
  ⟨rfl, rfl, rfl, fun hstate => absurd h hstate, fun hstate => by simp [h] at hstate⟩

theorem evolves_completedBy {row : PairingOfferRow} (h : row.state = .claimed)
    (complete : PairingComplete) (certJson : String) (now : Int) :
    row.Evolves (row.completedBy complete certJson now) :=
  ⟨rfl, rfl, rfl, fun _ => ⟨by simp [completedBy], rfl⟩, fun hstate => by simp [h] at hstate⟩

end PairingOfferRow

section Evolution

variable {lib : Crates} {json : IdentityJson} {request : IdentityRequest}
  {past : List (Sent AppState)} {sent : Sent AppState} {token : String}
  {before after : Option PairingOfferRow}

theorem RowStep.evolves (h : RowStep lib json request past sent token before after)
    {row row' : PairingOfferRow} (hrow : before = some row) (hrow' : after = some row') :
    row.Evolves row' := by
  subst hrow hrow'
  cases h with
  | same h =>
      cases h
      exact .refl row
  | pruned h => cases h
  | offered clock offer text hrequest htoken hwrites htext hbefore hafter => cases hbefore
  | claimed clock claim old hrequest htoken hwrites hstate hbefore hafter =>
      cases hbefore
      cases hafter
      exact row.evolves_claimedBy hstate claim _
  | completed clock complete certJson fallbackJson old hrequest htoken hwrites hcertJson
      hfallbackJson hstatement hstate hbefore hafter =>
      cases hbefore
      cases hafter
      exact row.evolves_completedBy hstate complete certJson _

/-- Where a row comes from. -/
theorem RowStep.offered_of_none (h : RowStep lib json request past sent token before after)
    {row : PairingOfferRow} (hbefore : before = none) (hafter : after = some row) :
    ∃ clock offer text, request = .postOffer clock offer ∧ offer.pairingToken = token ∧
      json.writeStrings offer.homeHubs = .ok text ∧ WritesOffer lib json clock offer past sent ∧
      row = pairingOfferRow clock text offer := by
  subst hbefore hafter
  cases h with
  | same h => cases h
  | pruned h => cases h
  | offered clock offer text hrequest htoken hwrites htext hbefore hafter =>
      cases hafter
      exact ⟨clock, offer, text, hrequest, htoken, htext, hwrites, rfl⟩
  | claimed clock claim old hrequest htoken hwrites hstate hbefore hafter => cases hbefore
  | completed clock complete certJson fallbackJson old hrequest htoken hwrites hcertJson
      hfallbackJson hstatement hstate hbefore hafter => cases hbefore

/-- The offer that a request posts. -/
def IdentityRequest.offer? : IdentityRequest → Option PairingOffer
  | .postOffer _ offer => some offer
  | _ => none

/-- No token gets a row after it has had one before. -/
def OfferedOnce (history : List IdentityEvent) : Prop :=
  ∀ pre e post, history = pre ++ e :: post → ∀ offer ∈ e.request.offer?,
    e.before.offer? offer.pairingToken = none → e.after.offer? offer.pairingToken ≠ none →
    ∀ earlier ∈ pre, earlier.before.offer? offer.pairingToken = none

theorem OfferedOnce.init {history post : List IdentityEvent} (h : OfferedOnce (history ++ post)) :
    OfferedOnce history := by
  intro pre e rest hsplit
  exact h pre e (rest ++ post) (by rw [hsplit]; simp)

variable {s t : AppState} {history : List IdentityEvent}

/-- The states that a history has gone through, and the last one. -/
def statesOf (history : List IdentityEvent) (t : AppState) : List AppState :=
  history.map (·.before) ++ [t]

theorem statesOf_snoc (history : List IdentityEvent) (e : IdentityEvent) (t : AppState) :
    statesOf (history ++ [e]) t = statesOf history e.before ++ [t] := by
  simp [statesOf]

/-- The rows of two states, one after the other. -/
def RowsEvolve (earlier later : AppState) : Prop :=
  ∀ token row row', earlier.offer? token = some row → later.offer? token = some row' →
    row.Evolves row'

theorem rowsEvolve_self (t : AppState) : RowsEvolve t t := by
  intro token row row' hrow hrow'
  cases hrow.symm.trans hrow'
  exact .refl row

/-- A row that is there now has developed from what was there at any time. -/
theorem rowsEvolve_of_mem (h : Interleaving (IdentitySent lib json) s history t)
    (honce : OfferedOnce history) {earlier : AppState} (hearlier : earlier ∈ statesOf history t) :
    RowsEvolve earlier t := by
  induction h generalizing earlier with
  | idle =>
      cases List.mem_singleton.mp hearlier
      exact rowsEvolve_self s
  | @exec history t e hrun hbefore hown hgood ih =>
      subst hbefore
      rw [statesOf_snoc] at hearlier
      rcases List.mem_append.mp hearlier with hearlier | hearlier
      · have hih := ih honce.init hearlier
        intro token row row' hrow hrow'
        cases hmid : e.before.offer? token with
        | some mid =>
            exact (hih token row mid hrow hmid).trans ((hgood.rowStep token).evolves hmid hrow')
        | none =>
            -- The row has just been offered, and the token has not had one before.
            obtain ⟨clock, offer, text, hrequest, rfl, -⟩ :=
              (hgood.rowStep token).offered_of_none hmid hrow'
            have hfree := honce history e [] rfl offer (by rw [hrequest]; rfl) hmid
              (by rw [hrow']; simp)
            rcases List.mem_append.mp hearlier with hearlier | hearlier
            · obtain ⟨other, hother, rfl⟩ := List.mem_map.mp hearlier
              cases (hfree other hother).symm.trans hrow
            · cases List.mem_singleton.mp hearlier
              cases hmid.symm.trans hrow
      · cases List.mem_singleton.mp hearlier
        exact rowsEvolve_self _

theorem before_mem_statesOf {e : IdentityEvent} (he : e ∈ history) :
    e.before ∈ statesOf history t :=
  List.mem_append_left _ (List.mem_map_of_mem he)

theorem after_mem_statesOf (h : Interleaving (IdentitySent lib json) s history t)
    {e : IdentityEvent} (he : e ∈ history) : e.after ∈ statesOf history t := by
  induction h with
  | idle => cases he
  | @exec history t last hrun hbefore hown hgood ih =>
      subst hbefore
      rw [statesOf_snoc]
      rcases List.mem_append.mp he with he | he
      · exact List.mem_append_left _ (ih he)
      · cases List.mem_singleton.mp he
        exact List.mem_append_right _ (List.mem_singleton_self _)

theorem statesOf_pairwise (h : Interleaving (IdentitySent lib json) s history t)
    (honce : OfferedOnce history) : (statesOf history t).Pairwise RowsEvolve := by
  induction h with
  | idle => exact List.pairwise_singleton ..
  | @exec history t e hrun hbefore hown hgood ih =>
      subst hbefore
      rw [statesOf_snoc, List.pairwise_append]
      refine ⟨ih honce.init, List.pairwise_singleton .., ?_⟩
      intro earlier hearlier later hlater
      cases List.mem_singleton.mp hlater
      apply rowsEvolve_of_mem (.exec e hrun rfl hown hgood) honce
      rw [statesOf_snoc]
      exact List.mem_append_left _ hearlier

/-- What is known of every row, if it is known of an offered row and each
statement that keeps the row keeps it. -/
theorem row_invariant (p : List IdentityEvent → String → PairingOfferRow → Prop)
    (h : Interleaving (IdentitySent lib json) s history t) (honce : OfferedOnce history)
    (hempty : s.db.pairingOffers = ∅)
    (hstep : ∀ history (e : IdentityEvent) token row,
      Interleaving (IdentitySent lib json) s history e.before → OfferedOnce history →
      IdentitySent lib json e.request (sentBy e.job history) e.toSent →
      e.after.offer? token = some row →
      (∀ old, e.before.offer? token = some old → p history token old) →
      p (history ++ [e]) token row) :
    ∀ token row, t.offer? token = some row → p history token row := by
  induction h with
  | idle =>
      intro token row hrow
      rw [AppState.offer?, hempty] at hrow
      cases hrow
  | @exec history t e hrun hbefore hown hgood ih =>
      subst hbefore
      intro token row hrow
      exact hstep history e token row hrun honce.init hgood hrow (ih honce.init token)

end Evolution

/-! ## Claims and completions -/

section Machine

variable (lib : Crates) (json : IdentityJson)

/-- The statement leaves the columns of a claim as they are. -/
def IdentityEvent.LeavesClaim (e : IdentityEvent) (token : String) : Prop :=
  ∀ row row', e.before.offer? token = some row → e.after.offer? token = some row' →
    row'.claimColumns = row.claimColumns

/-- The columns of a claim were written once, from a pending row, by a claim that
verifies. -/
structure ClaimedOnce (history : List IdentityEvent) (token : String) (row : PairingOfferRow)
    (pre : List IdentityEvent) (e : IdentityEvent) (post : List IdentityEvent)
    (clock : PairingClock) (claim : PairingClaim) : Prop where
  split : history = pre ++ e :: post
  request : e.request = .postClaim clock claim
  token_eq : claim.pairingToken = token
  verified : claim.verify lib.ed25519 = .ok ()
  written : ∃ old, e.before.offer? token = some old ∧ old.state = .pending ∧
    e.after.offer? token = some (old.claimedBy claim clock.updated)
  columns : row.claimColumns = (some claim.subkeyPubkey, some claim.deviceLabel, some claim.proof)
  once : ∀ other ∈ pre ++ post, other.LeavesClaim token

/-- A row was completed with a certificate that verifies and matches it, and the
same statement has stored the certificate. -/
structure CompletedBy (history : List IdentityEvent) (token : String) (row : PairingOfferRow)
    (e : IdentityEvent) (clock : PairingClock) (complete : PairingComplete) : Prop where
  mem : e ∈ history
  request : e.request = .postComplete clock complete
  token_eq : complete.pairingToken = token
  verified : complete.cert.verify lib.ed25519 = .ok ()
  master_eq : complete.cert.masterPubkey = row.masterPubkey
  subkey_eq : some complete.cert.subkeyPubkey = row.subkeyPubkey
  columns : ∃ certJson, json.writeCert complete.cert = .ok certJson ∧
    row.completionColumns = (some certJson, some complete.wrappedBlobKeyHex)
  commit : ∃ old new, e.before.offer? token = some old ∧ old.state = .claimed ∧
    e.after.offer? token = some new ∧ new.state = .complete
  registered : ∃ certRow, e.after.db.subkeyCerts.find?
      (complete.cert.masterPubkey, complete.cert.subkeyPubkey) = some certRow ∧
    readSubkeyCert json certRow = .ok complete.cert

/-- The pairing machine, over a whole run. -/
structure PairingMachine (server : Server IdentityRequest AppState ApiError IdentityAnswer) :
    Prop where
  /-- A row that stays in the table moves one state on, if at all. -/
  moves : ∀ e ∈ server.history, ∀ token row row', e.before.offer? token = some row →
    e.after.offer? token = some row' → row' = row ∨
      (row.state = .pending ∧ row'.state = .claimed) ∨
      (row.state = .claimed ∧ row'.state = .complete)
  /-- What never changes, and what does not change any more. -/
  evolves : (statesOf server.history server.state).Pairwise RowsEvolve
  pending : ∀ token row, server.state.offer? token = some row → row.state = .pending →
    row.claimColumns = (none, none, none)
  claimed : ∀ token row, server.state.offer? token = some row → row.state ≠ .pending →
    ∃ pre e post clock claim, ClaimedOnce lib server.history token row pre e post clock claim
  complete : ∀ token row, server.state.offer? token = some row → row.state = .complete →
    ∃ e clock complete, CompletedBy lib json server.history token row e clock complete
  /-- A certificate that is reported is the one that is stored. -/
  status : ∀ job now token cert wrappedBlobKeyHex,
    server.request? job = some (.getStatus now token) →
    server.answer? job = some (.ok (.pairing (.complete cert wrappedBlobKeyHex))) →
    ∃ e ∈ server.history, e.job = job ∧ ∃ row certJson, e.before.offer? token = some row ∧
      row.state = .complete ∧ json.writeCert cert = .ok certJson ∧
      row.completionColumns = (some certJson, some wrappedBlobKeyHex)

end Machine

section Proof

variable {lib : Crates} {json : IdentityJson} {s t : AppState} {history : List IdentityEvent}
  {token : String} {row row' : PairingOfferRow}

theorem RowStep.moves {request : IdentityRequest} {past : List (Sent AppState)}
    {sent : Sent AppState} {before after : Option PairingOfferRow}
    (h : RowStep lib json request past sent token before after) (hrow : before = some row)
    (hrow' : after = some row') : row' = row ∨
      (row.state = .pending ∧ row'.state = .claimed) ∨
      (row.state = .claimed ∧ row'.state = .complete) := by
  subst hrow hrow'
  cases h with
  | same h => exact .inl (Option.some.inj h)
  | pruned h => cases h
  | offered clock offer text hrequest htoken hwrites htext hbefore hafter => cases hbefore
  | claimed clock claim old hrequest htoken hwrites hstate hbefore hafter =>
      cases hbefore
      cases hafter
      exact .inr (.inl ⟨hstate, rfl⟩)
  | completed clock complete certJson fallbackJson old hrequest htoken hwrites hcertJson
      hfallbackJson hstatement hstate hbefore hafter =>
      cases hbefore
      cases hafter
      exact .inr (.inr ⟨hstate, rfl⟩)

/-- Before a row is claimed, nothing has written the columns of a claim. -/
theorem leavesClaim_of_pending (h : Interleaving (IdentitySent lib json) s history t)
    (honce : OfferedOnce history) (hrow : t.offer? token = some row) (hstate : row.state = .pending)
    {e : IdentityEvent} (he : e ∈ history) : e.LeavesClaim token := by
  intro first second hfirst hsecond
  obtain ⟨past, hgood⟩ := h.good_of_mem he
  rcases (hgood.rowStep token).moves hfirst hsecond with rfl | ⟨-, hsecondState⟩ | ⟨-, hsecondState⟩
  · rfl
  all_goals
    have hevolves := rowsEvolve_of_mem h honce (after_mem_statesOf h he) token second row
      hsecond hrow
    exact absurd hstate (hevolves.claimed (by simp [hsecondState])).1

theorem ClaimedOnce.snoc {pre post : List IdentityEvent} {e last : IdentityEvent}
    {clock : PairingClock} {claim : PairingClaim}
    (h : ClaimedOnce lib history token row pre e post clock claim)
    (hbefore : last.before.offer? token = some row) (hafter : last.after.offer? token = some row')
    (hcolumns : row'.claimColumns = row.claimColumns) :
    ClaimedOnce lib (history ++ [last]) token row' pre e (post ++ [last]) clock claim where
  split := by rw [h.split]; simp
  request := h.request
  token_eq := h.token_eq
  verified := h.verified
  written := h.written
  columns := hcolumns.trans h.columns
  once := by
    intro other hother
    rw [← List.append_assoc] at hother
    rcases List.mem_append.mp hother with hother | hother
    · exact h.once other hother
    · cases List.mem_singleton.mp hother
      intro first second hfirst hsecond
      cases hbefore.symm.trans hfirst
      cases hafter.symm.trans hsecond
      exact hcolumns

/-- The columns of a claim, in a pending row and later. -/
def ClaimRecorded (lib : Crates) (history : List IdentityEvent) (token : String)
    (row : PairingOfferRow) : Prop :=
  (row.state = .pending → row.claimColumns = (none, none, none)) ∧
    (row.state ≠ .pending →
      ∃ pre e post clock claim, ClaimedOnce lib history token row pre e post clock claim)

theorem claimRecorded (h : Interleaving (IdentitySent lib json) s history t)
    (honce : OfferedOnce history) (hempty : s.db.pairingOffers = ∅) :
    ∀ token row, t.offer? token = some row → ClaimRecorded lib history token row := by
  apply row_invariant (ClaimRecorded lib) h honce hempty
  intro history e token row hrun honce hgood hafter hold
  have hstep := hgood.rowStep token
  cases hstep with
  | same hsame =>
      have hbefore : e.before.offer? token = some row := hsame.symm.trans hafter
      obtain ⟨hpending, hclaimed⟩ := hold row hbefore
      refine ⟨hpending, fun hstate => ?_⟩
      obtain ⟨pre, first, post, clock, claim, hclaimed⟩ := hclaimed hstate
      exact ⟨pre, first, _, clock, claim, hclaimed.snoc hbefore hafter rfl⟩
  | pruned hnone => cases hnone.symm.trans hafter
  | offered clock offer text hrequest htoken hwrites htext hbefore hnew =>
      cases hnew.symm.trans hafter
      exact ⟨fun _ => rfl, fun hstate => absurd rfl hstate⟩
  | claimed clock claim old hrequest htoken hwrites hstate hbefore hnew =>
      cases hnew.symm.trans hafter
      refine ⟨fun hpending => (nomatch hpending), fun _ => ⟨history, e, [], clock, claim, ?_⟩⟩
      refine ⟨rfl, hrequest, htoken, hwrites.verified, ⟨old, hbefore, hstate, hnew⟩, rfl, ?_⟩
      rw [List.append_nil]
      exact fun other hother => leavesClaim_of_pending hrun honce hbefore hstate hother
  | completed clock complete certJson fallbackJson old hrequest htoken hwrites hcertJson
      hfallbackJson hstatement hstate hbefore hnew =>
      cases hnew.symm.trans hafter
      refine ⟨fun hpending => (nomatch hpending), fun _ => ?_⟩
      obtain ⟨pre, first, post, clock, claim, hclaimed⟩ :=
        (hold old hbefore).2 (by simp [hstate])
      exact ⟨pre, first, _, clock, claim, hclaimed.snoc hbefore hafter rfl⟩

/-- Registering a certificate leaves a row that reads back as it. -/
theorem find?_upsertSubkeyCert {db : Db} (hjson : json.RoundTrips) {now : Int} {text : String}
    {cert : SubkeyCert} (htext : json.writeStrings cert.fallbackHubs = .ok text) :
    ∃ certRow, (upsertSubkeyCert (subkeyCertRow now text cert) db).subkeyCerts.find?
        (cert.masterPubkey, cert.subkeyPubkey) = some certRow ∧
      readSubkeyCert json certRow = .ok cert := by
  refine ⟨_, (Table.find?_upsert ..).trans (if_pos rfl), ?_⟩
  cases hfind : db.subkeyCerts.find? (cert.masterPubkey, cert.subkeyPubkey) with
  | none => exact readSubkeyCert_subkeyCertRow hjson htext
  | some old =>
      have hkey := (Table.find?_eq_some_iff.mp hfind).2
      have hmaster : old.masterPubkey = cert.masterPubkey := congrArg Prod.fst hkey
      have hsubkey : old.subkeyPubkey = cert.subkeyPubkey := congrArg Prod.snd hkey
      rw [Option.map_some, Option.getD_some, hmaster, hsubkey]
      exact readSubkeyCert_subkeyCertRow hjson htext

/-- What a completion has read of the row still holds of the row that it
completes. -/
theorem matches_of_writesCompletion (h : Interleaving (IdentitySent lib json) s history t)
    (honce : OfferedOnce history) {job : ℕ} {clock : PairingClock} {complete : PairingComplete}
    {sent : Sent AppState}
    (hwrites : WritesCompletion lib json clock complete (sentBy job history) sent)
    (hrow : t.offer? complete.pairingToken = some row) :
    complete.cert.masterPubkey = row.masterPubkey ∧
      some complete.cert.subkeyPubkey = row.subkeyPubkey := by
  obtain ⟨first, second, read, hpast, hread, -, hstate, hmaster, hsubkey⟩ := hwrites.read
  have hmem : (⟨id, second⟩ : Sent AppState) ∈ sentBy job history := by
    rw [hpast]
    simp
  obtain ⟨reading, hreading, -, hsent⟩ := mem_sentBy.mp hmem
  have hbefore : reading.before = second := congrArg Sent.before hsent
  have hevolves := rowsEvolve_of_mem h honce (before_mem_statesOf hreading)
    complete.pairingToken read row (by rw [hbefore]; exact hread) hrow
  have hcolumns := (hevolves.claimed (by simp [hstate])).2
  refine ⟨hmaster.trans hevolves.masterPubkey.symm, hsubkey.trans ?_⟩
  exact congrArg Prod.fst hcolumns.symm

def CompletionRecorded (lib : Crates) (json : IdentityJson) (history : List IdentityEvent)
    (token : String) (row : PairingOfferRow) : Prop :=
  row.state = .complete →
    ∃ e clock complete, CompletedBy lib json history token row e clock complete

theorem completionRecorded (hjson : json.RoundTrips)
    (h : Interleaving (IdentitySent lib json) s history t) (honce : OfferedOnce history)
    (hempty : s.db.pairingOffers = ∅) :
    ∀ token row, t.offer? token = some row → CompletionRecorded lib json history token row := by
  apply row_invariant (CompletionRecorded lib json) h honce hempty
  intro history e token row hrun honce hgood hafter hold hcomplete
  have hstep := hgood.rowStep token
  cases hstep with
  | same hsame =>
      obtain ⟨first, clock, complete, hdone⟩ := hold row (hsame.symm.trans hafter) hcomplete
      exact ⟨first, clock, complete, { hdone with mem := List.mem_append_left _ hdone.mem }⟩
  | pruned hnone => cases hnone.symm.trans hafter
  | offered clock offer text hrequest htoken hwrites htext hbefore hnew =>
      cases hnew.symm.trans hafter
      cases hcomplete
  | claimed clock claim old hrequest htoken hwrites hstate hbefore hnew =>
      cases hnew.symm.trans hafter
      cases hcomplete
  | completed clock complete certJson fallbackJson old hrequest htoken hwrites hcertJson
      hfallbackJson hstatement hstate hbefore hnew =>
      cases hnew.symm.trans hafter
      subst htoken
      obtain ⟨hmaster, hsubkey⟩ := matches_of_writesCompletion hrun honce hwrites hbefore
      refine ⟨e, clock, complete, ?_⟩
      exact {
        mem := List.mem_append_right _ (List.mem_singleton_self e)
        request := hrequest
        token_eq := rfl
        verified := hwrites.verified
        master_eq := hmaster
        subkey_eq := hsubkey
        columns := ⟨certJson, hcertJson, rfl⟩
        commit := ⟨old, _, hbefore, hstate, hnew, rfl⟩
        registered := by
          rw [Sent.after, hstatement]
          exact find?_upsertSubkeyCert hjson hfallbackJson }

/-- A status is made of the columns of the row. -/
theorem readStatus_complete {now : Int} {cert : SubkeyCert} {wrappedBlobKeyHex : String}
    (h : readStatus json now row = .ok (.complete cert wrappedBlobKeyHex)) :
    row.state = .complete ∧ ∃ certJson, json.readCert certJson = .ok cert ∧
      row.completionColumns = (some certJson, some wrappedBlobKeyHex) := by
  unfold readStatus at h
  split_ifs at h
  · cases h
  cases hstate : row.state with
  | pending => simp [hstate] at h
  | claimed =>
      cases hsubkey : row.subkeyPubkey <;> cases hlabel : row.deviceLabel <;>
        simp [hstate, hsubkey, hlabel, bind, Except.bind, pure, Except.pure] at h
  | complete =>
      cases hcert : row.certJson with
      | none => simp [hstate, hcert, bind, Except.bind] at h
      | some certJson =>
          cases hkey : row.wrappedKeyHex with
          | none => simp [hstate, hcert, hkey, bind, Except.bind] at h
          | some wrapped =>
              cases hread : json.readCert certJson with
              | error e => simp [hstate, hcert, hkey, hread, bind, Except.bind,
                  Except.mapError] at h
              | ok other =>
                  simp only [hstate, hcert, hkey, hread, bind, Except.bind, Except.mapError, pure,
                    Except.pure, Option.elim_some, Except.ok.injEq,
                    PairingStatus.complete.injEq] at h
                  obtain ⟨rfl, rfl⟩ := h
                  exact ⟨rfl, certJson,
                    hread, by rw [PairingOfferRow.completionColumns, hcert, hkey]⟩

/-- The pairing machine, on every schedule that offers no token again. -/
theorem pairing_machine (hjson : json.RoundTrips) (hempty : s.db.pairingOffers = ∅)
    (moves : List (Move IdentityRequest))
    (honce : OfferedOnce (identityRun lib json moves s).history) :
    PairingMachine lib json (identityRun lib json moves s) := by
  have hsound := sound_identityRun lib json moves s
  exact {
    moves := by
      intro e he token row row' hrow hrow'
      obtain ⟨past, hgood⟩ := hsound.run.good_of_mem he
      exact (hgood.rowStep token).moves hrow hrow'
    evolves := statesOf_pairwise hsound.run honce
    pending := fun token row hrow => (claimRecorded hsound.run honce hempty token row hrow).1
    claimed := fun token row hrow => (claimRecorded hsound.run honce hempty token row hrow).2
    complete := completionRecorded hjson hsound.run honce hempty
    status := by
      intro job now token cert wrappedBlobKeyHex hrequest hanswer
      obtain ⟨t, row, status, hpast, hrow, hread, hstatus⟩ := hsound.returned hrequest hanswer
      cases hstatus
      obtain ⟨pre, e, post, hsplit, hjob, hsent, -⟩ :=
        exists_first_event (by rw [hpast]; rfl)
      have hbefore : e.before = t := congrArg Sent.before hsent
      obtain ⟨hcomplete, certJson, hcert, hcolumns⟩ := readStatus_complete hread
      rw [hsplit] at honce
      rw [← hbefore] at hrow
      obtain ⟨first, clock, complete, hdone⟩ := completionRecorded hjson (hsound.run.split hsplit).1
        honce.init hempty token row hrow hcomplete
      obtain ⟨text, htext, hcolumns'⟩ := hdone.columns
      cases hcolumns.symm.trans hcolumns'
      cases (hjson.cert _ _ htext).symm.trans hcert
      exact ⟨e, by rw [hsplit]; simp, hjob, row, certJson, hrow, hcomplete, htext, hcolumns⟩ }

end Proof

/-! ## The phone is paired -/

def phoneToken : String := "0123456789abcdef0123456789abcdef"

def phoneOffer : PairingOffer :=
  ⟨ownerKey, [], phoneToken, 1000, 1300,
    "bf603e3a80aedee5cac592ca21495b4786c4aa91d6e8985960c87b193f9a2a86" ++
      "22fd2e7da8b42cef9839ae342426e17df20c47cbbeffaaeff633dc331fd5960f"⟩

def phoneClaim : PairingClaim :=
  ⟨phoneToken, phoneKey, "phone",
    "35daa8a83d4c05e983ab2b588f68707c0964d02da16fd5b4cf94265bddda1730" ++
      "959888cf146849b8339e4fb615f5f692721218d83928328bec3360aa0832f60f"⟩

def phoneComplete : PairingComplete :=
  ⟨phoneToken, phoneCert, "00ff"⟩

def pairingLib : Crates := .ofRecorded [
  ⟨.replicate 32 2, ownerKey, phoneOffer.toSigningBytes, phoneOffer.signature⟩,
  ⟨.replicate 32 3, phoneKey, phoneClaim.toSigningBytes, phoneClaim.proof⟩,
  ⟨.replicate 32 2, ownerKey, phoneCert.toSigningBytes, phoneCert.signature⟩]

/-- The owner's device polls while the phone claims the offer. -/
def phonePaired : List (Move IdentityRequest) :=
  [.start (.postOffer (.at 1010) phoneOffer), .exec 0, .exec 0,
    .start (.postClaim (.at 1020) phoneClaim), .exec 1, .exec 1,
    .start (.getStatus 1021 phoneToken), .exec 2, .exec 1,
    .start (.postComplete (.at 1030) phoneComplete), .exec 3, .exec 3, .exec 3,
    .start (.getStatus 1040 phoneToken), .exec 4]

theorem pairing_machine_phonePaired :
    PairingMachine pairingLib deviceJson
      (identityRun pairingLib deviceJson phonePaired { db := .migrated }) := by
  apply pairing_machine deviceJson_roundTrips rfl
  exact forall_split_iff.mpr (by decide +kernel)

end Voxply.Hub
