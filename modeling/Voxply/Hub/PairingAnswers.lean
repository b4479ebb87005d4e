/-
# What the answers of pairing are worth

A claim, a completion and an offer are answered OK once their last statement has
been executed, whether or not it has changed anything.  The answers mean what
they say as long as every such statement takes effect: a claim finds the row
pending, a completion finds it claimed, and an offer finds no row, or one of the
same master and hubs.
-/

import Voxply.Hub.PairingMachine

namespace Voxply.Hub

open Voxply.Math Voxply.Identity

/-! ## Truthful answers -/

/-- The claim that a request posts. -/
def IdentityRequest.claim? : IdentityRequest → Option PairingClaim
  | .postClaim _ claim => some claim
  | _ => none

/-- The completion that a request posts. -/
def IdentityRequest.complete? : IdentityRequest → Option PairingComplete
  | .postComplete _ complete => some complete
  | _ => none

/-- The row holds the claim. -/
def PairingOfferRow.HoldsClaim (row : PairingOfferRow) (claim : PairingClaim) : Prop :=
  row.claimColumns = (some claim.subkeyPubkey, some claim.deviceLabel, some claim.proof)

/-- The row is complete with the key of the completion. -/
def PairingOfferRow.HoldsKey (row : PairingOfferRow) (complete : PairingComplete) : Prop :=
  row.state = .complete ∧ row.wrappedKeyHex = some complete.wrappedBlobKeyHex

/-- The row is that of the offer. -/
def PairingOfferRow.HoldsOffer (json : IdentityJson) (row : PairingOfferRow)
    (offer : PairingOffer) : Prop :=
  row.masterPubkey = offer.masterPubkey ∧ json.readStrings row.homeHubsJson = .ok offer.homeHubs

/-- A job whose request was accepted. -/
def Accepted (server : Server IdentityRequest AppState ApiError IdentityAnswer) (job : ℕ)
    (request : IdentityRequest) : Prop :=
  server.request? job = some request ∧ server.answer? job = some (.ok (.status .ok))

instance decidableAccepted (server : Server IdentityRequest AppState ApiError IdentityAnswer)
    (job : ℕ) (request : IdentityRequest) : Decidable (Accepted server job request) :=
  inferInstanceAs (Decidable (_ ∧ _))

/-- What the row of a token is after the last statement of a job, and has been
ever since. -/
def HeldSince (server : Server IdentityRequest AppState ApiError IdentityAnswer) (job : ℕ)
    (token : String) (holds : PairingOfferRow → Prop) : Prop :=
  (∃ e ∈ server.history, e.job = job ∧ ∃ row, e.after.offer? token = some row ∧ holds row) ∧
    ∀ row, server.state.offer? token = some row → holds row

/-- The answers of pairing mean what they say. -/
structure PairingTruthful (json : IdentityJson)
    (server : Server IdentityRequest AppState ApiError IdentityAnswer) : Prop where
  claim_unique : ∀ job job' clock clock' claim claim',
    Accepted server job (.postClaim clock claim) → Accepted server job' (.postClaim clock' claim') →
    claim.pairingToken = claim'.pairingToken → job = job'
  claim_stored : ∀ job clock claim, Accepted server job (.postClaim clock claim) →
    HeldSince server job claim.pairingToken (·.HoldsClaim claim)
  complete_unique : ∀ job job' clock clock' complete complete',
    Accepted server job (.postComplete clock complete) →
    Accepted server job' (.postComplete clock' complete') →
    complete.pairingToken = complete'.pairingToken → job = job'
  complete_stored : ∀ job clock complete, Accepted server job (.postComplete clock complete) →
    HeldSince server job complete.pairingToken (·.HoldsKey complete)
  /-- A key that is served is that of the accepted completion. -/
  complete_served : ∀ job clock complete, Accepted server job (.postComplete clock complete) →
    ∀ reader now cert wrappedBlobKeyHex,
      server.request? reader = some (.getStatus now complete.pairingToken) →
      server.answer? reader = some (.ok (.pairing (.complete cert wrappedBlobKeyHex))) →
      wrappedBlobKeyHex = complete.wrappedBlobKeyHex
  offer_stored : ∀ job clock offer, Accepted server job (.postOffer clock offer) →
    HeldSince server job offer.pairingToken (·.HoldsOffer json offer)

/-! ## Statements that take effect -/

section Effective

variable (json : IdentityJson) (pre : List IdentityEvent) (e : IdentityEvent)

/-- The second statement of an offer finds a token that has had no row, or the
row of the same offer. -/
def OfferFits : Prop :=
  ∀ offer ∈ e.request.offer?, (sentBy e.job pre).length = 1 →
    (∀ row ∈ e.before.offer? offer.pairingToken, row.masterPubkey = offer.masterPubkey ∧
      json.readStrings row.homeHubsJson = .ok offer.homeHubs) ∧
    (e.before.offer? offer.pairingToken = none →
      ∀ earlier ∈ pre, earlier.before.offer? offer.pairingToken = none)

/-- The third statement of a claim finds the row pending. -/
def ClaimFits : Prop :=
  ∀ claim ∈ e.request.claim?, (sentBy e.job pre).length = 2 →
    (e.before.offer? claim.pairingToken).map (·.state) = some .pending

/-- The third statement of a completion finds the row claimed. -/
def CompletionFits : Prop :=
  ∀ complete ∈ e.request.complete?, (sentBy e.job pre).length = 2 →
    (e.before.offer? complete.pairingToken).map (·.state) = some .claimed

def PairingFits : Prop :=
  OfferFits json pre e ∧ ClaimFits pre e ∧ CompletionFits pre e

instance : Decidable (OfferFits json pre e) :=
  inferInstanceAs (Decidable (∀ offer ∈ e.request.offer?, (sentBy e.job pre).length = 1 →
    (∀ row ∈ e.before.offer? offer.pairingToken, row.masterPubkey = offer.masterPubkey ∧
      json.readStrings row.homeHubsJson = .ok offer.homeHubs) ∧
    (e.before.offer? offer.pairingToken = none →
      ∀ earlier ∈ pre, earlier.before.offer? offer.pairingToken = none)))

instance : Decidable (ClaimFits pre e) :=
  inferInstanceAs (Decidable (∀ claim ∈ e.request.claim?, (sentBy e.job pre).length = 2 →
    (e.before.offer? claim.pairingToken).map (·.state) = some .pending))

instance : Decidable (CompletionFits pre e) :=
  inferInstanceAs (Decidable (∀ complete ∈ e.request.complete?, (sentBy e.job pre).length = 2 →
    (e.before.offer? complete.pairingToken).map (·.state) = some .claimed))

instance : Decidable (PairingFits json pre e) :=
  inferInstanceAs (Decidable (OfferFits json pre e ∧ ClaimFits pre e ∧ CompletionFits pre e))

end Effective

section Proof

variable {lib : Crates} {json : IdentityJson} {s t : AppState} {history : List IdentityEvent}
  {moves : List (Move IdentityRequest)} {job : ℕ}

/-- The statements of a run that write to a pairing row all take effect. -/
def AllFit (json : IdentityJson) (history : List IdentityEvent) : Prop :=
  ∀ pre e post, history = pre ++ e :: post → PairingFits json pre e

theorem AllFit.offeredOnce (hfits : AllFit json history)
    (h : Interleaving (IdentitySent lib json) s history t) : OfferedOnce history := by
  intro pre e post hsplit offer hoffer hbefore hafter
  obtain ⟨row, hrow⟩ := Option.ne_none_iff_exists'.mp hafter
  have hgood := (h.split hsplit).2.1
  obtain ⟨clock, written, text, hrequest, -, -, hwrites, -⟩ :=
    (hgood.rowStep offer.pairingToken).offered_of_none hbefore hrow
  obtain ⟨first, hpast⟩ := hwrites.read
  exact ((hfits pre e post hsplit).1 offer hoffer (by rw [hpast]; rfl)).2 hbefore

/-- Two statements that find a row in a certain condition, and end it for good,
are the same. -/
theorem takes_effect_once {p : PairingState → Prop} {token : String}
    (hp : ∀ row row' : PairingOfferRow, row.Evolves row' → ¬ p row.state → ¬ p row'.state)
    (h : Interleaving (IdentitySent lib json) s history t) (honce : OfferedOnce history)
    {pre post pre' post' : List IdentityEvent} {e e' : IdentityEvent}
    {row ended row' ended' : PairingOfferRow} (hsplit : history = pre ++ e :: post)
    (hsplit' : history = pre' ++ e' :: post') (hrow : e.before.offer? token = some row)
    (hended : e.after.offer? token = some ended) (hrow' : e'.before.offer? token = some row')
    (hended' : e'.after.offer? token = some ended') (hstate : p row.state) (hstate' : p row'.state)
    (hend : ¬ p ended.state) (hend' : ¬ p ended'.state) : e = e' := by
  by_contra hne
  rcases mem_or_mem_of_split hsplit hsplit' hne with hmem | hmem
  · have hrun := (h.split hsplit').1
    rw [hsplit'] at honce
    have hevolves := rowsEvolve_of_mem hrun honce.init (after_mem_statesOf hrun hmem)
    exact hp ended row' (hevolves token ended row' hended hrow') hend hstate'
  · have hrun := (h.split hsplit).1
    rw [hsplit] at honce
    have hevolves := rowsEvolve_of_mem hrun honce.init (after_mem_statesOf hrun hmem)
    exact hp ended' row (hevolves token ended' row hended' hrow) hend' hstate

/-- What a statement leaves in the row, and what the row can become keeps, is
held ever since. -/
theorem heldSince {server : Server IdentityRequest AppState ApiError IdentityAnswer}
    {holds : PairingOfferRow → Prop} {token : String} {e : IdentityEvent} {row : PairingOfferRow}
    (h : Interleaving (IdentitySent lib json) s server.history server.state)
    (honce : OfferedOnce server.history) (he : e ∈ server.history)
    (hrow : e.after.offer? token = some row) (hholds : holds row)
    (hkeep : ∀ row', row.Evolves row' → holds row') : HeldSince server e.job token holds := by
  refine ⟨⟨e, he, rfl, row, hrow, hholds⟩, fun row' hrow' => hkeep row' ?_⟩
  exact rowsEvolve_of_mem h honce (after_mem_statesOf h he) token row row' hrow hrow'

/-- The row that an accepted claim has found and what it has made of it. -/
theorem claim_takes_effect (hfits : AllFit json (identityRun lib json moves s).history)
    {clock : PairingClock} {claim : PairingClaim}
    (h : Accepted (identityRun lib json moves s) job (.postClaim clock claim)) :
    ∃ pre e post row, (identityRun lib json moves s).history = pre ++ e :: post ∧ e.job = job ∧
      e.before.offer? claim.pairingToken = some row ∧ row.state = .pending ∧
      e.after.offer? claim.pairingToken = some (row.claimedBy claim clock.updated) := by
  obtain ⟨pre, e, post, hsplit, hjob, hrequest, hwrites⟩ := exists_write h.1 h.2
  obtain ⟨first, second, read, hpast, -⟩ := hwrites.read
  have hfound := (hfits pre e post hsplit).2.1 claim (by rw [hrequest]; rfl) (by rw [hpast]; rfl)
  obtain ⟨row, hrow, hstate⟩ := Option.map_eq_some_iff.mp hfound
  refine ⟨pre, e, post, row, hsplit, hjob, hrow, hstate, ?_⟩
  rw [Sent.after, hwrites.statement]
  refine (find?_claimOffer clock.updated claim).trans ?_
  have hkey : row.pairingToken = claim.pairingToken := (Table.find?_eq_some_iff.mp hrow).2
  rw [AppState.offer?] at hrow
  rw [hrow, Option.map_some, if_pos ⟨hkey, hstate⟩]

theorem complete_takes_effect (hfits : AllFit json (identityRun lib json moves s).history)
    {clock : PairingClock} {complete : PairingComplete}
    (h : Accepted (identityRun lib json moves s) job (.postComplete clock complete)) :
    ∃ pre e post row certJson, (identityRun lib json moves s).history = pre ++ e :: post ∧
      e.job = job ∧ e.request = .postComplete clock complete ∧
      e.before.offer? complete.pairingToken = some row ∧ row.state = .claimed ∧
      e.after.offer? complete.pairingToken =
        some (row.completedBy complete certJson clock.updated) := by
  obtain ⟨pre, e, post, hsplit, hjob, hrequest, hwrites⟩ := exists_write h.1 h.2
  obtain ⟨first, second, read, hpast, -⟩ := hwrites.read
  obtain ⟨certJson, fallbackJson, -, -, hstatement⟩ := hwrites.statement
  have hfound := (hfits pre e post hsplit).2.2 complete (by rw [hrequest]; rfl)
    (by rw [hpast]; rfl)
  obtain ⟨row, hrow, hstate⟩ := Option.map_eq_some_iff.mp hfound
  refine ⟨pre, e, post, row, certJson, hsplit, hjob, hrequest, hrow, hstate, ?_⟩
  rw [Sent.after, hstatement]
  refine (find?_completeOffer clock certJson fallbackJson complete).trans ?_
  have hkey : row.pairingToken = complete.pairingToken := (Table.find?_eq_some_iff.mp hrow).2
  rw [AppState.offer?] at hrow
  rw [hrow, Option.map_some, if_pos ⟨hkey, hstate⟩]

theorem offer_takes_effect (hjson : json.RoundTrips)
    (hfits : AllFit json (identityRun lib json moves s).history)
    {clock : PairingClock} {offer : PairingOffer}
    (h : Accepted (identityRun lib json moves s) job (.postOffer clock offer)) :
    ∃ e ∈ (identityRun lib json moves s).history, e.job = job ∧
      ∃ row, e.after.offer? offer.pairingToken = some row ∧ row.HoldsOffer json offer := by
  obtain ⟨pre, e, post, hsplit, hjob, hrequest, hwrites⟩ := exists_write h.1 h.2
  obtain ⟨first, hpast⟩ := hwrites.read
  obtain ⟨text, htext, hstatement⟩ := hwrites.statement
  have hfound := ((hfits pre e post hsplit).1 offer (by rw [hrequest]; rfl)
    (by rw [hpast]; rfl)).1
  have hafter : e.after.offer? offer.pairingToken = some
      ((e.before.offer? offer.pairingToken).getD (pairingOfferRow clock text offer)) := by
    rw [Sent.after, hstatement]
    exact (find?_insertOffer (pairingOfferRow clock text offer)).trans (if_pos rfl)
  refine ⟨e, by rw [hsplit]; simp, hjob, _, hafter, ?_⟩
  cases hrow : e.before.offer? offer.pairingToken with
  | none => exact ⟨rfl, hjson.strings _ _ htext⟩
  | some row => exact hfound row hrow

/-- The key that is served after a completion has been accepted. -/
theorem served_key (hfits : AllFit json (identityRun lib json moves s).history)
    {clock : PairingClock} {complete : PairingComplete}
    (h : Accepted (identityRun lib json moves s) job (.postComplete clock complete))
    {reader : ℕ} {now : Int} {cert : SubkeyCert} {wrappedBlobKeyHex : String}
    (hreader : (identityRun lib json moves s).request? reader =
      some (.getStatus now complete.pairingToken))
    (hanswer : (identityRun lib json moves s).answer? reader =
      some (.ok (.pairing (.complete cert wrappedBlobKeyHex)))) :
    wrappedBlobKeyHex = complete.wrappedBlobKeyHex := by
  have hsound := sound_identityRun lib json moves s
  have honce := hfits.offeredOnce hsound.run
  obtain ⟨pre, e, post, row, certJson, hsplit, -, hrequest, hrow, hstate, hafter⟩ :=
    complete_takes_effect hfits h
  obtain ⟨t, served, status, hpast, hserved, hread, hstatus⟩ := hsound.returned hreader hanswer
  cases hstatus
  obtain ⟨hcomplete, text, -, hcolumns⟩ := readStatus_complete hread
  obtain ⟨pre', reading, post', hsplit', hjob, hsent, -⟩ :=
    exists_first_event (by rw [hpast]; rfl)
  have hbefore : reading.before = t := congrArg Sent.before hsent
  rw [← hbefore] at hserved
  have hmem : reading ∈ (identityRun lib json moves s).history := by
    rw [hsplit']
    simp
  have hne : e ≠ reading := by
    rintro rfl
    cases hrequest.symm.trans
      (Option.some.inj ((hsound.request?_eq hmem).symm.trans (hjob ▸ hreader)))
  rcases mem_or_mem_of_split hsplit hsplit' hne with hfirst | hfirst
  · have hrun := (hsound.run.split hsplit').1
    rw [hsplit'] at honce
    have hevolves := rowsEvolve_of_mem hrun honce.init (after_mem_statesOf hrun hfirst)
      complete.pairingToken _ served hafter hserved
    have hkept := (hevolves.complete rfl).2
    exact Option.some.inj (congrArg Prod.snd (hcolumns.symm.trans hkept))
  · -- A row that was served as complete cannot be completed.
    have hrun := (hsound.run.split hsplit).1
    rw [hsplit] at honce
    have hevolves := rowsEvolve_of_mem hrun honce.init (before_mem_statesOf hfirst)
      complete.pairingToken served row hserved hrow
    cases hstate.symm.trans (hevolves.complete hcomplete).1

/-- The answers are truthful if every statement takes effect. -/
theorem pairing_truthful (hjson : json.RoundTrips) (moves : List (Move IdentityRequest))
    (s : AppState) (hfits : AllFit json (identityRun lib json moves s).history) :
    PairingTruthful json (identityRun lib json moves s) := by
  have hrun := (sound_identityRun lib json moves s).run
  have honce := hfits.offeredOnce hrun
  exact {
    claim_unique := by
      intro job job' clock clock' claim claim' hjob hjob' htoken
      obtain ⟨pre, e, post, row, hsplit, rfl, hrow, hstate, hafter⟩ :=
        claim_takes_effect hfits hjob
      obtain ⟨pre', e', post', row', hsplit', rfl, hrow', hstate', hafter'⟩ :=
        claim_takes_effect hfits hjob'
      rw [← htoken] at hrow' hafter'
      have hsame : e = e' := takes_effect_once (p := (· = .pending))
        (fun _ _ hevolves hclaimed => (hevolves.claimed hclaimed).1) hrun honce hsplit hsplit' hrow
        hafter hrow' hafter' hstate hstate' (by simp [PairingOfferRow.claimedBy])
        (by simp [PairingOfferRow.claimedBy])
      rw [hsame]
    claim_stored := by
      intro job clock claim hjob
      obtain ⟨pre, e, post, row, hsplit, rfl, -, -, hafter⟩ := claim_takes_effect hfits hjob
      have hholds : (row.claimedBy claim clock.updated).HoldsClaim claim := rfl
      apply heldSince hrun honce (by rw [hsplit]; simp) hafter hholds
      exact fun _ hevolves => (hevolves.claimed (by simp [PairingOfferRow.claimedBy])).2
    complete_unique := by
      intro job job' clock clock' complete complete' hjob hjob' htoken
      obtain ⟨pre, e, post, row, text, hsplit, rfl, -, hrow, hstate, hafter⟩ :=
        complete_takes_effect hfits hjob
      obtain ⟨pre', e', post', row', text', hsplit', rfl, -, hrow', hstate', hafter'⟩ :=
        complete_takes_effect hfits hjob'
      rw [← htoken] at hrow' hafter'
      have hsame : e = e' := takes_effect_once (p := (· ≠ .complete))
        (fun _ _ hevolves hcomplete => not_not.mpr (hevolves.complete (not_not.mp hcomplete)).1)
        hrun honce hsplit hsplit' hrow hafter hrow' hafter' (by simp [hstate]) (by simp [hstate'])
        (by simp [PairingOfferRow.completedBy]) (by simp [PairingOfferRow.completedBy])
      rw [hsame]
    complete_stored := by
      intro job clock complete hjob
      obtain ⟨pre, e, post, row, text, hsplit, rfl, -, -, -, hafter⟩ :=
        complete_takes_effect hfits hjob
      have hholds : (row.completedBy complete text clock.updated).HoldsKey complete := ⟨rfl, rfl⟩
      apply heldSince hrun honce (by rw [hsplit]; simp) hafter hholds
      intro row' hevolves
      obtain ⟨hstate, hcolumns⟩ := hevolves.complete rfl
      exact ⟨hstate, congrArg Prod.snd hcolumns⟩
    complete_served := by
      intro job clock complete hjob reader now cert wrappedBlobKeyHex hreader hanswer
      exact served_key hfits hjob hreader hanswer
    offer_stored := by
      intro job clock offer hjob
      obtain ⟨e, he, rfl, row, hrow, hholds⟩ := offer_takes_effect hjson hfits hjob
      apply heldSince hrun honce he hrow hholds
      intro row' hevolves
      rw [PairingOfferRow.HoldsOffer, hevolves.masterPubkey, hevolves.homeHubsJson]
      exact hholds }

end Proof

theorem pairing_truthful_phonePaired :
    PairingTruthful deviceJson
      (identityRun pairingLib deviceJson phonePaired { db := .migrated }) := by
  apply pairing_truthful deviceJson_roundTrips
  exact forall_split_iff.mpr (by decide +kernel)

/-! ## Two claims -/

def laptopClaim : PairingClaim :=
  ⟨phoneToken, laptopKey, "laptop",
    "a9d6e3743f91340a2147d8f06b36d687b890517266d96ae25dbd73a115613726" ++
      "7ee11a188862ca812b41aa205115769332c1bfe1aea7a5f22612deec44712209"⟩

def claimsLib : Crates := .ofRecorded [
  ⟨.replicate 32 2, ownerKey, phoneOffer.toSigningBytes, phoneOffer.signature⟩,
  ⟨.replicate 32 3, phoneKey, phoneClaim.toSigningBytes, phoneClaim.proof⟩,
  ⟨.replicate 32 1, laptopKey, laptopClaim.toSigningBytes, laptopClaim.proof⟩]

/-- Both devices find the offer pending before either claims it. -/
def claimsCrossing : List (Move IdentityRequest) :=
  [.start (.postOffer (.at 1010) phoneOffer), .exec 0, .exec 0,
    .start (.postClaim (.at 1020) phoneClaim), .start (.postClaim (.at 1020) laptopClaim),
    .exec 1, .exec 1, .exec 2, .exec 2, .exec 1, .exec 2]

theorem claims_both_accepted :
    ¬ PairingTruthful deviceJson
      (identityRun claimsLib deviceJson claimsCrossing { db := .migrated }) := by
  intro h
  obtain ⟨hphone, hlaptop⟩ :
      Accepted (identityRun claimsLib deviceJson claimsCrossing { db := .migrated }) 1
          (.postClaim (.at 1020) phoneClaim) ∧
        Accepted (identityRun claimsLib deviceJson claimsCrossing { db := .migrated }) 2
          (.postClaim (.at 1020) laptopClaim) := by
    decide +kernel
  exact absurd (h.claim_unique 1 2 _ _ _ _ hphone hlaptop rfl) (by decide)

end Voxply.Hub
