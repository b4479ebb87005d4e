/-
# How long a pairing offer lives

An offer carries its own two times, and the hub bounds the distance between
them.  It does not ask whether the first of them has come.  What ends an offer
is the comparison of its expiry, as a signed column, with the hub's clock: the
offer lives no longer than the bound, counted from the time at which the hub has
accepted it, exactly if its expiry is not further away than that.
-/

import Voxply.Hub.PairingAnswers

namespace Voxply.Hub

open Voxply.Math Voxply.Identity

/-- The hub accepts the offer at the given time. -/
def PostsOffer (lib : Crates) (json : IdentityJson) (clock : PairingClock) (offer : PairingOffer) :
    Prop :=
  ∃ s, ((postOffer lib json clock offer).run s).1 = .ok .ok

/-- The requests of a run that post an offer under the token post this one. -/
def OnlyOffer (offer : PairingOffer) (history : List IdentityEvent) : Prop :=
  ∀ e ∈ history, ∀ other ∈ e.request.offer?, other.pairingToken = offer.pairingToken →
    other = offer

instance (offer : PairingOffer) (history : List IdentityEvent) :
    Decidable (OnlyOffer offer history) :=
  inferInstanceAs (Decidable (∀ e ∈ history, ∀ other ∈ e.request.offer?,
    other.pairingToken = offer.pairingToken → other = offer))

/-- Nothing is made of the offer, and it is not reported as open, once the bound
has passed since it was accepted. -/
structure ShortLived (clock : PairingClock) (offer : PairingOffer)
    (server : Server IdentityRequest AppState ApiError IdentityAnswer) : Prop where
  claim : ∀ job clock' claim, Accepted server job (.postClaim clock' claim) →
    claim.pairingToken = offer.pairingToken → clock'.check ≤ clock.check + maxOfferLifetimeSecs
  complete : ∀ job clock' complete, Accepted server job (.postComplete clock' complete) →
    complete.pairingToken = offer.pairingToken →
    clock'.check ≤ clock.check + maxOfferLifetimeSecs
  status : ∀ job now status, server.request? job = some (.getStatus now offer.pairingToken) →
    server.answer? job = some (.ok (.pairing status)) →
    (status = .pending ∨ ∃ subkeyPubkey deviceLabel, status = .claimed subkeyPubkey deviceLabel) →
    now ≤ clock.check + maxOfferLifetimeSecs

/-- The offer is short-lived in every run that accepts it, and no other offer of
its token. -/
def AlwaysShortLived (lib : Crates) (json : IdentityJson) (clock : PairingClock)
    (offer : PairingOffer) : Prop :=
  ∀ moves s, s.offer? offer.pairingToken = none →
    OnlyOffer offer (identityRun lib json moves s).history →
    (∃ job, Accepted (identityRun lib json moves s) job (.postOffer clock offer)) →
    ShortLived clock offer (identityRun lib json moves s)

/-! ## Offers that end in time -/

section Ends

variable {lib : Crates} {json : IdentityJson} {clock : PairingClock} {offer : PairingOffer}
  {s t : AppState} {history : List IdentityEvent}

/-- Whatever is stored under the token expires with the offer. -/
theorem expiresAt_of_onlyOffer (h : Interleaving (IdentitySent lib json) s history t)
    (hfree : s.offer? offer.pairingToken = none) (honly : OnlyOffer offer history)
    {row : PairingOfferRow} (hrow : t.offer? offer.pairingToken = some row) :
    row.expiresAt = asI64 offer.expiresAt := by
  induction h generalizing row with
  | idle => cases hfree.symm.trans hrow
  | @exec history t e hrun hbefore hown hgood ih =>
      subst hbefore
      have hinit : OnlyOffer offer history := fun e he => honly e (List.mem_append_left _ he)
      have hstep := hgood.rowStep offer.pairingToken
      cases hold : e.before.offer? offer.pairingToken with
      | some old =>
          rw [(hstep.evolves hold hrow).expiresAt]
          exact ih hinit hold
      | none =>
          obtain ⟨clock, other, text, hrequest, htoken, -, -, rfl⟩ :=
            hstep.offered_of_none hold hrow
          have hsame : other = offer :=
            honly e (List.mem_append_right _ (List.mem_singleton_self e)) other
              (by rw [hrequest]; rfl) htoken
          rw [hsame]
          rfl

/-- A row that is reported as open has not expired. -/
theorem not_expired_of_readStatus {now : Int} {row : PairingOfferRow} {status : PairingStatus}
    (h : readStatus json now row = .ok status) (hopen : status ≠ .expired) :
    ¬ row.expiresAt < now := by
  intro hexpired
  rw [readStatus, if_pos hexpired] at h
  cases h
  exact hopen rfl

/-- What a job reads of the row, it reads in a state of the run. -/
theorem expiresAt_of_read {moves : List (Move IdentityRequest)} {job : ℕ} {row : PairingOfferRow}
    (hfree : s.offer? offer.pairingToken = none)
    (honly : OnlyOffer offer (identityRun lib json moves s).history)
    (hread : (⟨id, t⟩ : Sent AppState) ∈ sentBy job (identityRun lib json moves s).history)
    (hrow : t.offer? offer.pairingToken = some row) :
    row.expiresAt = asI64 offer.expiresAt := by
  obtain ⟨e, he, -, hsent⟩ := mem_sentBy.mp hread
  obtain ⟨pre, post, hsplit⟩ := List.append_of_mem he
  have hbefore : e.before = t := congrArg Sent.before hsent
  rw [← hbefore] at hrow
  have hpre : OnlyOffer offer pre := by
    intro other hother
    exact honly other (by rw [hsplit]; simp [hother])
  exact expiresAt_of_onlyOffer ((sound_identityRun lib json moves s).run.split hsplit).1 hfree
    hpre hrow

/-- The row is only ever acted on while the offer has not expired. -/
theorem shortLived_of_le (hle : asI64 offer.expiresAt ≤ clock.check + maxOfferLifetimeSecs)
    (moves : List (Move IdentityRequest)) (hfree : s.offer? offer.pairingToken = none)
    (honly : OnlyOffer offer (identityRun lib json moves s).history) :
    ShortLived clock offer (identityRun lib json moves s) := by
  have hsound := sound_identityRun lib json moves s
  exact {
    claim := by
      intro job clock' claim haccepted htoken
      obtain ⟨earlier, sent, hpast, hwrites⟩ := (hsound.returned haccepted.1 haccepted.2).writes
      obtain ⟨first, second, row, rfl, hrow, hunexpired, -⟩ := hwrites.read
      rw [htoken] at hrow
      have hexpires := expiresAt_of_read hfree honly (by rw [hpast]; simp) hrow
      omega
    complete := by
      intro job clock' complete haccepted htoken
      obtain ⟨earlier, sent, hpast, hwrites⟩ := (hsound.returned haccepted.1 haccepted.2).writes
      obtain ⟨first, second, row, rfl, hrow, hunexpired, -⟩ := hwrites.read
      rw [htoken] at hrow
      have hexpires := expiresAt_of_read hfree honly (by rw [hpast]; simp) hrow
      omega
    status := by
      intro job now status hrequest hanswer hopen
      obtain ⟨t, row, served, hpast, hrow, hread, hstatus⟩ := hsound.returned hrequest hanswer
      cases hstatus
      have hexpires := expiresAt_of_read hfree honly (by rw [hpast]; simp) hrow
      have hne : status ≠ .expired := by
        rcases hopen with rfl | ⟨subkeyPubkey, deviceLabel, rfl⟩ <;> simp
      have hunexpired := not_expired_of_readStatus hread hne
      omega }

end Ends

/-! ## Offers that do not -/

section Lingers

variable {lib : Crates} {json : IdentityJson} {clock : PairingClock} {offer : PairingOffer}

/-- What `post_offer` does with an offer that passes its checks. -/
theorem run_postOffer (h : AcceptsOffer lib clock offer) {text : String}
    (htext : json.writeStrings offer.homeHubs = .ok text) (s : AppState) :
    (postOffer lib json clock offer).run s = (.ok .ok,
      written (insertOffer (pairingOfferRow clock text offer))
        (written (pruneExpired clock.prune) s)) := by
  rw [postOffer, h.verified, htext]
  simp only [Except.mapError]
  rw [Prog.run_bind_of_ok (Prog.run_ofExcept ..),
    Prog.run_bind_of_ok (Prog.run_ensure_of_pos h.ordered ..),
    Prog.run_bind_of_ok (Prog.run_ensure_of_pos h.lifetime ..),
    Prog.run_bind_of_ok (Prog.run_ensure_of_pos h.unexpired ..),
    Prog.run_bind_of_ok (Prog.run_ensure_of_pos h.token ..)]
  rfl

/-- What the checks of an accepted offer have found. -/
theorem PostsOffer.accepts (h : PostsOffer lib json clock offer) :
    AcceptsOffer lib clock offer ∧ ∃ text, json.writeStrings offer.homeHubs = .ok text := by
  obtain ⟨s, hs⟩ := h
  obtain ⟨past, -, earlier, sent, -, hwrites⟩ :=
    (@postOffer_follows lib json clock offer).of_run hs
  obtain ⟨text, htext, -⟩ := hwrites.statement
  exact ⟨hwrites.accepted, text, htext⟩

/-- The row of an offer that has just been posted under a free token. -/
theorem offer?_posted {text : String} {s : AppState} (hfree : s.offer? offer.pairingToken = none) :
    (written (insertOffer (pairingOfferRow clock text offer))
        (written (pruneExpired clock.prune) s)).offer? offer.pairingToken =
      some (pairingOfferRow clock text offer) := by
  have hpruned : (pruneExpired clock.prune s.db).pairingOffers.find? offer.pairingToken = none := by
    rw [find?_pruneExpired]
    rw [AppState.offer?] at hfree
    rw [hfree]
    rfl
  refine (find?_insertOffer (pairingOfferRow clock text offer)).trans ((if_pos rfl).trans ?_)
  exact congrArg (fun found => some (Option.getD found _)) hpruned

/-- An offer that has not expired is reported as pending. -/
theorem run_getStatus_posted {text : String} {s : AppState} {now : Int}
    (hrow : s.offer? offer.pairingToken = some (pairingOfferRow clock text offer))
    (hunexpired : ¬ asI64 offer.expiresAt < now) :
    (getStatus json now offer.pairingToken).run s = (.ok .pending, s) := by
  have hread : readStatus json now (pairingOfferRow clock text offer) = .ok .pending :=
    if_neg hunexpired
  rw [AppState.offer?] at hrow
  rw [getStatus, Prog.run_bind_of_ok (run_fetch ..), hrow, Option.elim_some, Prog.run_ofExcept,
    hread]

/-- The offer is posted on an empty hub, and then polled. -/
theorem exists_polled (hposts : PostsOffer lib json clock offer) {now : Int}
    (hunexpired : ¬ asI64 offer.expiresAt < now) :
    ∃ moves, OnlyOffer offer (identityRun lib json moves { db := .migrated }).history ∧
      Accepted (identityRun lib json moves { db := .migrated }) 0 (.postOffer clock offer) ∧
      (identityRun lib json moves { db := .migrated }).request? 1 =
        some (.getStatus now offer.pairingToken) ∧
      (identityRun lib json moves { db := .migrated }).answer? 1 =
        some (.ok (.pairing .pending)) := by
  obtain ⟨haccepts, text, htext⟩ := hposts.accepts
  obtain ⟨post, q, events, hpost, hanswer, hevents⟩ := Server.exists_alone
    (IdentityRequest.handler lib json) [] { db := .migrated } (.postOffer clock offer)
  have hrun : ((IdentityRequest.postOffer clock offer).handler lib json).run { db := .migrated } =
      (.ok (.status .ok), written (insertOffer (pairingOfferRow clock text offer))
        (written (pruneExpired clock.prune) { db := .migrated })) :=
    Prog.run_bind_of_ok (run_postOffer haccepts htext _)
  have hidle : (serve (IdentityRequest.handler lib json) [] { db := .migrated }).state =
      { db := .migrated } := rfl
  rw [hidle, hrun] at hpost hanswer
  obtain ⟨poll, q', events', hpoll, hanswer', hevents'⟩ := Server.exists_alone
    (IdentityRequest.handler lib json) post { db := .migrated } (.getStatus now offer.pairingToken)
  rw [List.nil_append] at hpost
  rw [hpost] at hpoll hanswer'
  have hrow : (written (insertOffer (pairingOfferRow clock text offer))
      (written (pruneExpired clock.prune) { db := .migrated })).offer? offer.pairingToken =
      some (pairingOfferRow clock text offer) := offer?_posted rfl
  have hstatus : (getStatus json now offer.pairingToken).run _ = _ :=
    run_getStatus_posted hrow hunexpired
  have hrun' := Prog.run_bind_of_ok (f := fun status =>
    pure (IdentityAnswer.pairing status)) hstatus
  refine ⟨post ++ poll, ?_, ?_, ?_, ?_⟩
  all_goals rw [identityRun, hpoll]
  · intro e he other hother _
    rcases List.mem_append.mp he with he | he
    · rw [hevents e he] at hother
      exact (Option.some.inj hother).symm
    · rw [hevents' e he] at hother
      cases hother
  · exact ⟨rfl, hanswer⟩
  · rfl
  · exact hanswer'.trans (congrArg (fun result => some result.1) hrun')

/-- An accepted offer is short-lived exactly if it expires in time. -/
theorem offer_shortLived_iff (hposts : PostsOffer lib json clock offer) :
    AlwaysShortLived lib json clock offer ↔
      asI64 offer.expiresAt ≤ clock.check + maxOfferLifetimeSecs := by
  constructor
  · intro h
    by_contra hlate
    obtain ⟨moves, honly, haccepted, hrequest, hanswer⟩ := exists_polled hposts
      (show ¬ asI64 offer.expiresAt < clock.check + maxOfferLifetimeSecs + 1 by omega)
    have hshort := h moves { db := .migrated } rfl honly ⟨0, haccepted⟩
    have hnow := hshort.status 1 _ .pending hrequest hanswer (.inl rfl)
    omega
  · intro hle moves s hfree honly _
    exact shortLived_of_le hle moves hfree honly

end Lingers

theorem offer_shortLived_phoneOffer :
    AlwaysShortLived pairingLib deviceJson (.at 1010) phoneOffer := by
  have hposts : PostsOffer pairingLib deviceJson (.at 1010) phoneOffer :=
    ⟨{ db := .migrated }, by decide +kernel⟩
  exact (offer_shortLived_iff hposts).mpr (by decide)

/-- An offer whose two times lie in the future. -/
def futureOffer : PairingOffer :=
  ⟨ownerKey, [], phoneToken, 5000, 5300,
    "70cbb985b367d01d218e2cb0ee67670ebd7d689312db961627eec684d5afa928" ++
      "b9bab56e122c180736721f50b5ff0b2567888fec15f72bd3e7d10eff3f7a8f0f"⟩

def futureLib : Crates := .ofRecorded [
  ⟨.replicate 32 2, ownerKey, futureOffer.toSigningBytes, futureOffer.signature⟩]

/-- It is still pending when the bound has passed. -/
def futurePolled : List (Move IdentityRequest) :=
  [.start (.postOffer (.at 1000) futureOffer), .exec 0, .exec 0,
    .start (.getStatus 1301 phoneToken), .exec 1]

theorem futureOffer_not_shortLived :
    ¬ AlwaysShortLived futureLib deviceJson (.at 1000) futureOffer := by
  intro h
  obtain ⟨honly, hposted, hpolled, hpending⟩ :
      OnlyOffer futureOffer
          (identityRun futureLib deviceJson futurePolled { db := .migrated }).history ∧
        Accepted (identityRun futureLib deviceJson futurePolled { db := .migrated }) 0
          (.postOffer (.at 1000) futureOffer) ∧
        (identityRun futureLib deviceJson futurePolled { db := .migrated }).request? 1 =
          some (.getStatus 1301 phoneToken) ∧
        (identityRun futureLib deviceJson futurePolled { db := .migrated }).answer? 1 =
          some (.ok (.pairing .pending)) := by
    decide +kernel
  have hshort := h futurePolled { db := .migrated } rfl honly ⟨0, hposted⟩
  have hnow := hshort.status 1 1301 .pending hpolled hpending (.inl rfl)
  exact absurd hnow (by decide)

end Voxply.Hub
