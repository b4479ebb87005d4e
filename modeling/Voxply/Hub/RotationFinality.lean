/-
# Key rotation against concurrent decisions

Whatever the interleaving of approvals and denials, a request that has become
approved has had its roles copied to the new key and leaves no session of the
old one.  A verdict is final, and roles are transferred for approved requests
only, in runs in which each verdict overwrites the request that its job has
read.  The old key is without roles afterwards in runs in which there was
nothing to copy.
-/

import Voxply.Hub.RotationDecision

namespace Voxply.Hub

open Voxply.Math

/-! ## Conditions on runs -/

/-- A statement that writes a verdict finds the request as its job has read it,
or with the same verdict of the same administrator. -/
def DecidesAsRead (pre : List DecisionEvent) (e : DecisionEvent) : Prop :=
  e.after.db.keyRotationRequests = e.before.db.keyRotationRequests ∨
  (∀ sent ∈ sentBy e.job pre, sent.before.db.keyRotationRequests.find? e.request.id =
    e.before.db.keyRotationRequests.find? e.request.id) ∨
  ∃ row ∈ e.before.db.keyRotationRequests.rows, row.id = e.request.id ∧
    row.status = e.request.verdict ∧ row.decidedBy = some e.request.user

/-- The copy of the roles, the fifth statement of an approval, finds the old key
without a role. -/
def CopiesNothing (pre : List DecisionEvent) (e : DecisionEvent) : Prop :=
  e.request.verdict = .approved → (sentBy e.job pre).length = 4 →
    ∀ row ∈ e.before.db.keyRotationRequests.rows, row.id = e.request.id →
      ∀ grant ∈ e.before.db.userRoles.rows, grant.userPublicKey ≠ row.oldPubkey

instance (pre : List DecisionEvent) (e : DecisionEvent) : Decidable (DecidesAsRead pre e) :=
  inferInstanceAs (Decidable (_ ∨ _ ∨ _))

instance (pre : List DecisionEvent) (e : DecisionEvent) : Decidable (CopiesNothing pre e) :=
  inferInstanceAs (Decidable (_ → _ → _))

/-- Approved, and not since the beginning of the run. -/
def NewlyApproved (s : AppState) (row : KeyRotationRow) : Prop :=
  row.status = .approved ∧
    ∀ first ∈ s.db.keyRotationRequests.rows, first.id = row.id → first.status ≠ .approved

/-- The statement copies the roles from one key of the request to the other. -/
structure TransfersRoles (row : KeyRotationRow) (e : DecisionEvent) : Prop where
  approves : e.request.verdict = .approved
  request : e.request.id = row.id
  statement : e.statement =
    executed (transferRoles row.newPubkey row.oldPubkey e.request.now)

/-- A request is there with the verdict and the administrator of the row. -/
def HoldsVerdict (row : KeyRotationRow) (t : AppState) : Prop :=
  ∃ row' ∈ t.db.keyRotationRequests.rows, row'.id = row.id ∧ row'.status = row.status ∧
    row'.decidedBy = row.decidedBy

/-! ## Approved requests -/

section Approved

variable {s t : AppState} {history pre post : List DecisionEvent} {e : DecisionEvent}
  {row stored : KeyRotationRow} {id : String}

theorem find?_self {table : Table KeyRotationRow KeyRotationRow.id} (hrow : row ∈ table.rows) :
    table.find? row.id = some row :=
  Table.find?_eq_some_iff.mpr ⟨hrow, rfl⟩

/-- A request stays, with its two keys. -/
theorem exists_parties (hrun : Interleaving DecisionSent s history t) (he : e ∈ history)
    (hstored : e.before.db.keyRotationRequests.find? id = some stored) :
    ∃ row, t.db.keyRotationRequests.find? id = some row ∧ SameParties stored row := by
  obtain ⟨pre, post, hsplit⟩ := List.append_of_mem he
  apply hrun.kept_from (fun t => ∃ row, t.db.keyRotationRequests.find? id = some row ∧
    SameParties stored row) hsplit _ ⟨stored, hstored, rfl, rfl, rfl⟩
  rintro later hlater ⟨row, hrow, hsame⟩
  have hmem : later ∈ history := by
    rw [hsplit]
    exact List.mem_append_right pre hlater
  obtain ⟨past, hgood⟩ := hrun.good_of_mem hmem
  obtain ⟨row', hrow', hsame'⟩ := hgood.parties hrow
  exact ⟨row', hrow', hsame.trans hsame'⟩

/-- A request that a job has read is still there, with its two keys. -/
theorem SeenOpen.exists_parties (hrun : Interleaving DecisionSent s history t) {job : ℕ}
    (hseen : SeenOpen id stored (sentBy job history)) :
    ∃ row, t.db.keyRotationRequests.find? id = some row ∧ SameParties stored row := by
  obtain ⟨sent, hsent, hfind, -⟩ := hseen
  obtain ⟨e, he, -, rfl⟩ := mem_sentBy.mp hsent
  exact Hub.exists_parties hrun he hfind

/-- A request that has become approved was approved by some statement. -/
theorem NewlyApproved.established (hrun : Interleaving DecisionSent s history t)
    (hrow : row ∈ t.db.keyRotationRequests.rows) (h : NewlyApproved s row) :
    ∃ pre e post, history = pre ++ e :: post ∧ e.request.verdict = .approved ∧
      e.request.id = row.id ∧ WritesVerdict e.request (sentBy e.job pre) e.toSent := by
  have hfirst : ¬ ∃ first, s.db.keyRotationRequests.find? row.id = some first ∧
      first.status = .approved := by
    rintro ⟨first, hfirst, happroved⟩
    obtain ⟨hmem, hid⟩ := Table.find?_eq_some_iff.mp hfirst
    exact h.2 first hmem hid happroved
  obtain ⟨pre, e, post, hsplit, hbefore, row', hrow', happroved⟩ :=
    hrun.established (fun t => ∃ row', t.db.keyRotationRequests.find? row.id = some row' ∧
      row'.status = .approved) hfirst ⟨row, find?_self hrow, h.1⟩
  refine ⟨pre, e, post, hsplit, ?_⟩
  rcases (hrun.split hsplit).2.1.requests with hsame | hverdict
  · rw [hsame] at hrow'
    exact absurd ⟨row', hrow', happroved⟩ hbefore
  · rw [Sent.after, hverdict.statement] at hrow'
    rcases find?_decideRequest_cases hrow' with ⟨-, hkept⟩ | ⟨hid, hstatus, -⟩
    · exact absurd ⟨row', hkept, happroved⟩ hbefore
    · exact ⟨hstatus.symm.trans happroved, hid.symm, hverdict⟩

/-- The job that approved a request has copied the roles and deleted the sessions
before. -/
theorem NewlyApproved.origin (hrun : Interleaving DecisionSent s history t)
    (hrow : row ∈ t.db.keyRotationRequests.rows) (h : NewlyApproved s row) :
    (∃ pre e post, history = pre ++ e :: post ∧ TransfersRoles row e ∧
      (sentBy e.job pre).length = 4 ∧
      (∃ stored ∈ e.before.db.keyRotationRequests.rows, SameParties stored row) ∧
      ∃ db, transferRoles row.newPubkey row.oldPubkey e.request.now e.before.db = .ok db) ∧
    ∃ e ∈ history, e.statement = written (deleteSessions row.oldPubkey) := by
  obtain ⟨pre, e, post, hsplit, happroved, hid, hverdict⟩ := h.established hrun hrow
  obtain ⟨hpre, -, hown⟩ := hrun.split hsplit
  obtain ⟨stored, hseen, hdone⟩ := hverdict.seen
  have hseen : SeenOpen e.request.id stored (sentBy e.job history) := by
    apply hseen.mono
    rw [hsplit, sentBy_append]
    exact List.prefix_append ..
  obtain ⟨row', hrow', hparties⟩ := hseen.exists_parties hrun
  rw [hid, find?_self hrow] at hrow'
  cases hrow'
  obtain ⟨⟨earlier, s', db, hread, hlength, hsent, hdb⟩, earlier', s'', hsent'⟩ := hdone happroved
  rw [← hparties.2.1, ← hparties.2.2] at hsent hdb
  rw [← hparties.2.1] at hsent'
  constructor
  · obtain ⟨pre', e', post', hpre', hjob, hsame, rfl⟩ := exists_event hsent
    have hrequest : e'.request = e.request := hown e' (by rw [hpre']; simp) hjob
    obtain ⟨row₁, hrow₁, hparties₁⟩ := hread.exists_parties (hpre.split hpre').1
    refine ⟨pre', e', post' ++ e :: post, ?_, ⟨?_, ?_, ?_⟩, ?_, ⟨row₁, ?_, ?_⟩, db, ?_⟩
    · rw [hsplit, hpre']
      simp
    · rw [hrequest, happroved]
    · rw [hrequest, hid]
    · rw [hsame, hrequest]
    · rw [hjob, hlength]
    · exact (Table.find?_eq_some_iff.mp hrow₁).1
    · exact hparties₁.symm.trans hparties
    · rw [hsame, hrequest]
      exact hdb
  · obtain ⟨pre', e', post', hpre', -, hsame, -⟩ := exists_event hsent'
    refine ⟨e', by rw [hsplit, hpre']; simp, ?_⟩
    rw [hsame]

/-- Once a request has become approved, its old key has no session. -/
theorem NewlyApproved.no_session (hrun : Interleaving DecisionSent s history t)
    (hrow : row ∈ t.db.keyRotationRequests.rows) (h : NewlyApproved s row) :
    ∀ session ∈ t.db.sessions.rows, session.publicKey ≠ row.oldPubkey := by
  obtain ⟨-, e, he, hstatement⟩ := h.origin hrun hrow
  apply hrun.kept (fun t => ∀ session ∈ t.db.sessions.rows, session.publicKey ≠ row.oldPubkey) _ he
  · intro session hsession
    rw [Sent.after, hstatement] at hsession
    exact not_mem_deleteSessions hsession
  · intro later hlater hnone session hsession
    obtain ⟨past, hgood⟩ := hrun.good_of_mem hlater
    exact hnone session (hgood.sessions hsession)

/-- Roles are kept from any event on. -/
theorem roles_now (hrun : Interleaving DecisionSent s history t) (he : e ∈ history)
    {k : String × String} (hk : e.after.db.userRoles.has k = true) :
    t.db.userRoles.has k = true := by
  apply hrun.kept (fun t => t.db.userRoles.has k = true) _ he hk
  intro later hlater hbefore
  obtain ⟨past, hgood⟩ := hrun.good_of_mem hlater
  exact hgood.roles hbefore

/-- Once a request has become approved, its new key has the roles of the old
one. -/
theorem NewlyApproved.roles (hrun : Interleaving DecisionSent s history t)
    (hrow : row ∈ t.db.keyRotationRequests.rows) (h : NewlyApproved s row) :
    ∃ e ∈ history, TransfersRoles row e ∧
      ∀ roleId, e.before.db.userRoles.has (row.oldPubkey, roleId) = true →
        t.db.userRoles.has (row.newPubkey, roleId) = true := by
  obtain ⟨⟨pre, e, post, hsplit, htransfers, -, -, db, hdb⟩, -⟩ := h.origin hrun hrow
  have he : e ∈ history := by
    rw [hsplit]
    simp
  refine ⟨e, he, htransfers, fun roleId hold => roles_now hrun he ?_⟩
  rw [Sent.after, htransfers.statement, executed_of_ok hdb]
  exact (transferRoles_ok hdb).2.2 roleId hold

/-- Where there is nothing to copy, the roles stay as they are. -/
theorem CopiesNothing.roles_eq (hrun : Interleaving DecisionSent s history t)
    (hsplit : history = pre ++ e :: post) (h : CopiesNothing pre e) :
    e.after.db.userRoles = e.before.db.userRoles := by
  obtain ⟨hpre, hgood, -⟩ := hrun.split hsplit
  by_contra hne
  obtain ⟨stored, hseen, happroved, hlength, hstatement⟩ := hgood.transfer_of_ne hne
  obtain ⟨row, hrow, -, hold, -⟩ := hseen.exists_parties hpre
  obtain ⟨hmem, hid⟩ := Table.find?_eq_some_iff.mp hrow
  have hnone : transferRoles stored.newPubkey stored.oldPubkey e.request.now e.before.db =
      .ok e.before.db :=
    transferRoles_of_none (hold ▸ h happroved hlength row hmem hid)
  apply hne
  rw [Sent.after, hstatement, executed_of_ok hnone]
  rfl

/-- If there never is anything to copy, the old key of a request that has become
approved holds no role. -/
theorem NewlyApproved.no_role (hrun : Interleaving DecisionSent s history t)
    (hcopies : ∀ pre e post, history = pre ++ e :: post → CopiesNothing pre e)
    (hrow : row ∈ t.db.keyRotationRequests.rows) (h : NewlyApproved s row) :
    ∀ grant ∈ t.db.userRoles.rows, grant.userPublicKey ≠ row.oldPubkey := by
  obtain ⟨⟨pre, e, post, hsplit, htransfers, hlength, ⟨stored, hstored, hparties⟩, -⟩, -⟩ :=
    h.origin hrun hrow
  have hkept : t.db.userRoles = e.before.db.userRoles := by
    apply hrun.kept_from (fun t => t.db.userRoles = e.before.db.userRoles) hsplit _ rfl
    intro later hlater hbefore
    obtain ⟨between, rest, hbetween⟩ := List.append_of_mem hlater
    have hsplit' : history = (pre ++ between) ++ later :: rest := by
      rw [hsplit, hbetween, List.append_assoc]
    rw [(hcopies _ _ _ hsplit').roles_eq hrun hsplit', hbefore]
  rw [hkept, hparties.2.1]
  apply hcopies pre e post hsplit htransfers.approves hlength stored hstored
  rw [htransfers.request, hparties.1]

end Approved

/-! ## Final verdicts -/

section Verdicts

variable {s t : AppState} {history pre post : List DecisionEvent} {e : DecisionEvent}
  {row : KeyRotationRow}

/-- A verdict that its job has read as open, or that is there already, does not
change a decided request. -/
theorem DecidesAsRead.keeps (hrun : Interleaving DecisionSent s history t)
    (hsplit : history = pre ++ e :: post) (h : DecidesAsRead pre e)
    (hrow : row ∈ e.before.db.keyRotationRequests.rows) (hdecided : ¬ row.status.Open) :
    HoldsVerdict row e.after := by
  obtain ⟨-, hgood, -⟩ := hrun.split hsplit
  rcases hgood.requests with hsame | hverdict
  · exact ⟨row, hsame ▸ hrow, rfl, rfl, rfl⟩
  rcases h with hsame | h
  · exact ⟨row, hsame ▸ hrow, rfl, rfl, rfl⟩
  have hafter := find?_decideRequest e.request.id e.request.verdict e.request.now e.request.user
    e.before.db row.id
  rw [find?_self hrow, Option.map_some] at hafter
  rw [Sent.after, hverdict.statement]
  by_cases hid : row.id = e.request.id
  · rw [if_pos hid] at hafter
    refine ⟨_, (Table.find?_eq_some_iff.mp hafter).1, rfl, ?_⟩
    rcases h with hread | ⟨first, hfirst, hfirstId, hstatus, huser⟩
    · -- The job has read the request open, and it still is as it was then.
      obtain ⟨stored, ⟨sent, hsent, hfind, hopen⟩, -⟩ := hverdict.seen
      rw [hread sent hsent, ← hid, find?_self hrow] at hfind
      cases hfind
      exact absurd hopen hdecided
    · have hfirst := e.before.db.keyRotationRequests.eq_of_key_eq hfirst hrow
        (hfirstId.trans hid.symm)
      subst hfirst
      exact ⟨hstatus.symm, huser.symm⟩
  · rw [if_neg hid] at hafter
    exact ⟨row, (Table.find?_eq_some_iff.mp hafter).1, rfl, rfl, rfl⟩

/-- No statement changes the verdict on a decided request. -/
theorem holdsVerdict_step (hrun : Interleaving DecisionSent s history t)
    (hdecides : ∀ pre e post, history = pre ++ e :: post → DecidesAsRead pre e)
    (hdecided : ¬ row.status.Open) (he : e ∈ history) (h : HoldsVerdict row e.before) :
    HoldsVerdict row e.after := by
  obtain ⟨pre, post, hsplit⟩ := List.append_of_mem he
  obtain ⟨row', hrow', hid, hstatus, huser⟩ := h
  obtain ⟨row'', hrow'', hid', hstatus', huser'⟩ :=
    (hdecides pre e post hsplit).keeps hrun hsplit hrow' (hstatus ▸ hdecided)
  exact ⟨row'', hrow'', hid'.trans hid, hstatus'.trans hstatus, huser'.trans huser⟩

/-- The request that a verdict has been written to. -/
theorem WritesVerdict.exists_row (hrun : Interleaving DecisionSent s history t)
    (hsplit : history = pre ++ e :: post)
    (h : WritesVerdict e.request (sentBy e.job pre) e.toSent) :
    ∃ row ∈ e.after.db.keyRotationRequests.rows, row.id = e.request.id ∧
      row.status = e.request.verdict := by
  obtain ⟨stored, hseen, -⟩ := h.seen
  obtain ⟨row, hrow, -⟩ := hseen.exists_parties (hrun.split hsplit).1
  have hid : row.id = e.request.id := (Table.find?_eq_some_iff.mp hrow).2
  have hafter := find?_decideRequest e.request.id e.request.verdict e.request.now e.request.user
    e.before.db e.request.id
  rw [hrow, Option.map_some, if_pos hid] at hafter
  rw [Sent.after, h.statement]
  exact ⟨_, (Table.find?_eq_some_iff.mp hafter).1, hid, rfl⟩

/-- A decision that has been answered is there to stay. -/
theorem verdict_of_answer {moves : List (Move DecisionRequest)}
    (hdecides : ∀ pre e post, (decisionRun moves s).history = pre ++ e :: post →
      DecidesAsRead pre e) {job : ℕ} {request : DecisionRequest} {answer : StatusCode}
    (hrequest : (decisionRun moves s).request? job = some request)
    (hanswer : (decisionRun moves s).answer? job = some (.ok answer)) :
    ∃ row ∈ (decisionRun moves s).state.db.keyRotationRequests.rows, row.id = request.id ∧
      row.status = request.verdict := by
  have hsound := Server.sound_serve DecisionRequest.handler_follows moves s
  obtain ⟨earlier, sent, hsent, hverdict⟩ := hsound.returned hrequest hanswer
  have hlast : earlier ++ [sent] <+: sentBy job (decisionRun moves s).history :=
    hsent ▸ List.prefix_refl _
  obtain ⟨pre, e, post, hsplit, rfl, rfl, rfl⟩ := exists_event hlast
  have he : e ∈ (decisionRun moves s).history := by
    rw [hsplit]
    simp
  have hown := hsound.request?_eq he
  rw [hrequest] at hown
  cases hown
  obtain ⟨row, hrow, hid, hstatus⟩ := hverdict.exists_row hsound.run hsplit
  have hdecided : ¬ row.status.Open := by
    rw [hstatus]
    exact e.request.verdict_not_open
  obtain ⟨row', hrow', hid', hstatus', -⟩ := hsound.run.kept (HoldsVerdict row)
    (fun later hlater => holdsVerdict_step hsound.run hdecides hdecided hlater) he
    ⟨row, hrow, rfl, rfl, rfl⟩
  exact ⟨row', hrow', hid'.trans hid, hstatus'.trans hstatus⟩

/-- A decision that has failed has not changed a role. -/
theorem roles_of_failed {moves : List (Move DecisionRequest)} {error : ApiError}
    (he : e ∈ (decisionRun moves s).history)
    (hanswer : (decisionRun moves s).answer? e.job = some (.error error)) :
    e.after.db.userRoles = e.before.db.userRoles := by
  have hsound := Server.sound_serve DecisionRequest.handler_follows moves s
  have hkept := Server.always_serve DecisionRequest.handler_follows
    DecisionRequest.handler_always moves s (hsound.request?_eq he) ⟨error, hanswer⟩
  exact hkept e.toSent (mem_sentBy.mpr ⟨e, he, rfl, rfl⟩)

/-- Roles are transferred for requests that are approved as soon as the job is
done. -/
theorem approved_of_transfer {moves : List (Move DecisionRequest)}
    (hdecides : ∀ pre e post, (decisionRun moves s).history = pre ++ e :: post →
      DecidesAsRead pre e) (he : e ∈ (decisionRun moves s).history)
    (hne : e.after.db.userRoles ≠ e.before.db.userRoles) :
    ∃ row ∈ (decisionRun moves s).state.db.keyRotationRequests.rows, TransfersRoles row e ∧
      (row.status = .approved ∨ (decisionRun moves s).answer? e.job = none) := by
  have hsound := Server.sound_serve DecisionRequest.handler_follows moves s
  obtain ⟨pre, post, hsplit⟩ := List.append_of_mem he
  obtain ⟨stored, hseen, happroved, -, hstatement⟩ :=
    (hsound.run.split hsplit).2.1.transfer_of_ne hne
  have hseen : SeenOpen e.request.id stored (sentBy e.job (decisionRun moves s).history) := by
    apply hseen.mono
    rw [hsplit, sentBy_append]
    exact List.prefix_append ..
  obtain ⟨row, hrow, -, hold, hnew⟩ := hseen.exists_parties hsound.run
  obtain ⟨hmem, hid⟩ := Table.find?_eq_some_iff.mp hrow
  refine ⟨row, hmem, ⟨happroved, hid.symm, by rw [hstatement, hold, hnew]⟩, ?_⟩
  cases hanswer : (decisionRun moves s).answer? e.job with
  | none => exact .inr rfl
  | some outcome =>
      left
      cases outcome with
      | error error => exact absurd (roles_of_failed he hanswer) hne
      | ok answer =>
          obtain ⟨row', hrow', hid', hstatus⟩ :=
            verdict_of_answer hdecides (hsound.request?_eq he) hanswer
          have hsame := Table.eq_of_key_eq _ hrow' hmem (hid'.trans hid.symm)
          rw [← hsame, hstatus, happroved]

end Verdicts

/-- **Key rotation.** Over every interleaving of approvals and denials: a request
that has become approved leaves no session of its old key, and its new key holds
the roles that the old key held when they were copied. If every verdict finds
the request as its job has read it, a decided request keeps its verdict and its
administrator, and roles are transferred only for requests that are approved in
the end. If every copy finds the old key without roles, the old key of a request
that has become approved holds none. -/
theorem rotation_decisions (moves : List (Move DecisionRequest)) (s : AppState) :
    (∀ row ∈ (decisionRun moves s).state.db.keyRotationRequests.rows, NewlyApproved s row →
      (∀ session ∈ (decisionRun moves s).state.db.sessions.rows,
        session.publicKey ≠ row.oldPubkey) ∧
      ∃ e ∈ (decisionRun moves s).history, TransfersRoles row e ∧
        ∀ roleId, e.before.db.userRoles.has (row.oldPubkey, roleId) = true →
          (decisionRun moves s).state.db.userRoles.has (row.newPubkey, roleId) = true) ∧
    ((∀ pre e post, (decisionRun moves s).history = pre ++ e :: post → DecidesAsRead pre e) →
      (∀ e ∈ (decisionRun moves s).history, ∀ row ∈ e.before.db.keyRotationRequests.rows,
        ¬ row.status.Open → HoldsVerdict row (decisionRun moves s).state) ∧
      ∀ e ∈ (decisionRun moves s).history, e.after.db.userRoles ≠ e.before.db.userRoles →
        ∃ row ∈ (decisionRun moves s).state.db.keyRotationRequests.rows, TransfersRoles row e ∧
          (row.status = .approved ∨ (decisionRun moves s).answer? e.job = none)) ∧
    ((∀ pre e post, (decisionRun moves s).history = pre ++ e :: post → CopiesNothing pre e) →
      ∀ row ∈ (decisionRun moves s).state.db.keyRotationRequests.rows, NewlyApproved s row →
        ∀ grant ∈ (decisionRun moves s).state.db.userRoles.rows,
          grant.userPublicKey ≠ row.oldPubkey) := by
  have hsound := Server.sound_serve DecisionRequest.handler_follows moves s
  refine ⟨fun row hrow h => ⟨h.no_session hsound.run hrow, h.roles hsound.run hrow⟩, ?_,
    fun hcopies row hrow h => h.no_role hsound.run hcopies hrow⟩
  refine fun hdecides => ⟨fun e he row hrow hdecided => ?_, fun e he hne =>
    approved_of_transfer hdecides he hne⟩
  obtain ⟨pre, post, hsplit⟩ := List.append_of_mem he
  apply hsound.run.kept_from (HoldsVerdict row) hsplit _ ⟨row, hrow, rfl, rfl, rfl⟩
  intro later hlater
  apply holdsVerdict_step hsound.run hdecides hdecided
  rw [hsplit]
  exact List.mem_append_right pre hlater

/-- A hub with an administrator, and a request to replace a key that has a
session and no role. -/
def rotationHub : AppState :=
  executed (insertKeyRotationRequest
      { id := "request", oldPubkey := "old", newPubkey := "new", reason := none,
        status := .readyForReview, createdAt := 1 })
    (executed (insertUserRole ⟨"admin", "builtin-owner", 0⟩)
      (written (fun db => { db with sessions := db.sessions.insertOrIgnore ⟨"token", "old", 0⟩ })
        (written (insertUserOrIgnore "old" 0)
          (written (insertUserOrIgnore "admin" 0) { db := .migrated }))))

/-- The request as it is approved. -/
def approvedRequest : KeyRotationRow :=
  { id := "request", oldPubkey := "old", newPubkey := "new", reason := none, status := .approved,
    createdAt := 1, decidedAt := some 5, decidedBy := some "admin" }

/-- The administrator approves the request. -/
def soleApproval : List (Move DecisionRequest) :=
  .start (.approve 5 "admin" "request") :: .replicate 7 (.exec 0)

theorem rotation_decisions_soleApproval :
    (decisionRun soleApproval rotationHub).answer? 0 = some (.ok .ok) ∧
    (∀ session ∈ (decisionRun soleApproval rotationHub).state.db.sessions.rows,
      session.publicKey ≠ "old") ∧
    (∀ e ∈ (decisionRun soleApproval rotationHub).history,
      ∀ row ∈ e.before.db.keyRotationRequests.rows, ¬ row.status.Open →
        HoldsVerdict row (decisionRun soleApproval rotationHub).state) ∧
    ∀ grant ∈ (decisionRun soleApproval rotationHub).state.db.userRoles.rows,
      grant.userPublicKey ≠ "old" := by
  have hrow : approvedRequest ∈
      (decisionRun soleApproval rotationHub).state.db.keyRotationRequests.rows := by
    decide +kernel
  have hnew : NewlyApproved rotationHub approvedRequest := ⟨rfl, by decide +kernel⟩
  have hresult := rotation_decisions soleApproval rotationHub
  refine ⟨by decide +kernel, (hresult.1 _ hrow hnew).1, ?_, ?_⟩
  · exact (hresult.2.1 (forall_split_iff.mpr (by decide +kernel))).1
  · exact hresult.2.2 (forall_split_iff.mpr (by decide +kernel)) _ hrow hnew

/-- The same hub, where the key to replace holds a role. -/
def rotationHubWithRole : AppState :=
  executed (insertUserRole ⟨"old", "builtin-everyone", 0⟩) rotationHub

/-- The request is approved and denied side by side. -/
def racingDecisions : List (Move DecisionRequest) :=
  [.start (.approve 5 "admin" "request"), .start (.deny 6 "admin" "request")] ++
    .replicate 3 (.exec 0) ++ .replicate 4 (.exec 1) ++ .replicate 4 (.exec 0)

/-- An approved key keeps its role, and a request is rejected first and approved
afterwards. -/
theorem approvals_diverge :
    (approvedRequest ∈
        (decisionRun soleApproval rotationHubWithRole).state.db.keyRotationRequests.rows ∧
      (decisionRun soleApproval rotationHubWithRole).state.db.userRoles.has
        (approvedRequest.oldPubkey, "builtin-everyone") = true) ∧
    (∃ e ∈ (decisionRun racingDecisions rotationHub).history,
      ∃ row ∈ e.before.db.keyRotationRequests.rows, row.id = approvedRequest.id ∧
        row.status = .rejected) ∧
    approvedRequest ∈ (decisionRun racingDecisions
      rotationHub).state.db.keyRotationRequests.rows := by
  decide +kernel

end Voxply.Hub
