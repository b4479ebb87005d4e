/-
# The life of a game session

Nobody knows of a session before it is announced, and that happens once it is in memory.
So whenever nothing is under way, the session is in memory exactly if it is open in the
store, and its players are the host and those whose requests to join have been accepted.
-/

import Voxply.Hub.GamePlay

namespace Voxply.Hub

open Voxply.Math

/-! ## What is to hold -/

/-- Nobody asks for the session before it has been announced. -/
def AskedAfterwards (json : JsonText) (sessionId : String) (moves : List (Move PlayRequest))
    (s : AppState) : Prop :=
  Along (Server.step (PlayRequest.handler json))
    (fun move server => ∀ request ∈ move.request?, request.sessionId? = some sessionId →
      server.state.hasAnnounced sessionId = true) moves (.idle s)

/-- There is no trace of the session yet. -/
structure AppState.Unheard (s : AppState) (sessionId : String) : Prop where
  row : s.db.gameSessions.find? sessionId = none
  entry : s.activeGameSessions sessionId = none
  announced : s.hasAnnounced sessionId = false

/-- Nothing is under way. -/
def AtRest (server : Server PlayRequest AppState ApiError PlayAnswer) : Prop :=
  ∀ job request, server.request? job = some request → server.answer? job ≠ none

/-- The session is in memory if it is open, with the host and those who have joined. -/
structure SessionRight (sessionId : String)
    (server : Server PlayRequest AppState ApiError PlayAnswer) : Prop where
  present : (server.state.activeGameSessions sessionId).isSome =
    server.state.db.isOpen sessionId
  matching : ∀ session ∈ server.state.activeGameSessions sessionId,
    ∃ row ∈ server.state.db.gameSessions.find? sessionId, session.channelId = row.channelId ∧
      session.gameId = row.gameId ∧ session.hostPubkey = row.hostPubkey
  players : ∀ session ∈ server.state.activeGameSessions sessionId, ∀ user,
    user ∈ session.players ↔ user = session.hostPubkey ∨
      ∃ job answer, server.request? job = some (.join user sessionId) ∧
        server.answer? job = some (.ok answer)

/-! ## Runs -/

section Runs

variable {json : JsonText} {sessionId : String} {moves : List (Move PlayRequest)} {s t : AppState}
  {history : List (Event PlayRequest AppState)} {request : PlayRequest}
  {past : List (Sent AppState)} {sent : Sent AppState}

namespace PlaySent

/-- What has been announced stays so. -/
theorem announced (h : PlaySent sessionId request past sent)
    (hbefore : (sent.before.sessionView sessionId).announced = true) :
    (sent.after.sessionView sessionId).announced = true := by
  cases h with
  | aside _ _ h => rwa [h]
  | file _ _ _ h => rwa [h]
  | seat _ _ _ h => rwa [h]
  | announce _ _ _ h => rw [h]; rfl
  | join _ _ _ _ h => rwa [h]
  | close _ _ _ _ h => rwa [h]
  | clear _ _ _ _ h => rwa [h]

/-- Only a session that has been entered in memory is announced. -/
theorem announces (h : PlaySent sessionId request past sent)
    (hbefore : ¬ (sent.before.sessionView sessionId).announced = true)
    (hafter : (sent.after.sessionView sessionId).announced = true) :
    ∃ last ∈ past.getLast?, (last.after.sessionView sessionId).seated ≠ none := by
  cases h with
  | aside _ _ h => exact absurd (by rwa [h] at hafter) hbefore
  | file _ _ _ h => exact absurd (by rwa [h] at hafter) hbefore
  | seat _ _ _ h => exact absurd (by rwa [h] at hafter) hbefore
  | announce _ _ hlast _ => exact hlast
  | join _ _ _ _ h => exact absurd (by rwa [h] at hafter) hbefore
  | close _ _ _ _ h => exact absurd (by rwa [h] at hafter) hbefore
  | clear _ _ _ _ h => exact absurd (by rwa [h] at hafter) hbefore

/-- What is over stays so. -/
theorem stays_over (h : PlaySent sessionId request past sent)
    (hbefore : (sent.before.sessionView sessionId).Over) :
    (sent.after.sessionView sessionId).Over := by
  cases h with
  | aside _ _ h => rwa [h]
  | file facts _ _ h => rwa [h, SessionView.file_of_filed hbefore.1]
  | seat _ _ _ h => rwa [h]
  | announce _ _ _ h => rwa [h]
  | join _ _ _ _ h => rwa [h]
  | close _ _ _ _ h =>
      rw [h]
      exact SessionView.close_over hbefore.1
  | clear _ _ _ _ h => rwa [h]

/-- A statement changes the row or the entry, but not both. -/
theorem filed_or_seated (h : PlaySent sessionId request past sent) :
    (sent.after.sessionView sessionId).filed = (sent.before.sessionView sessionId).filed ∨
      (sent.after.sessionView sessionId).seated = (sent.before.sessionView sessionId).seated := by
  cases h with
  | aside _ _ h => exact .inl (by rw [h])
  | file _ _ _ h => exact .inr (by rw [h]; rfl)
  | seat _ _ _ h => exact .inl (by rw [h]; rfl)
  | announce _ _ _ h => exact .inl (by rw [h]; rfl)
  | join _ _ _ _ h => exact .inl (by rw [h]; rfl)
  | close _ _ _ _ h => exact .inr (by rw [h]; rfl)
  | clear _ _ _ _ h => exact .inl (by rw [h]; rfl)

end PlaySent

theorem playRun_sound (json : JsonText) (sessionId : String) (moves : List (Move PlayRequest))
    (s : AppState) :
    (playRun json moves s).Sound (PlayRequest.handler json) (PlaySent sessionId)
      (fun request _ => request.Done sessionId) s :=
  Server.sound_serve PlayRequest.handler_follows moves s

/-- The jobs that ask for the session have come after its announcement. -/
structure AskedInv (sessionId : String)
    (server : Server PlayRequest AppState ApiError PlayAnswer) : Prop where
  attached : server.Attached (PlaySent sessionId) fun request _ => request.Done sessionId
  jobs : ∀ (job : ℕ) (request : PlayRequest) (p : Handler PlayAnswer),
    server.jobs[job]? = some (request, p) → request.sessionId? = some sessionId →
      (server.state.sessionView sessionId).announced = true
  events : ∀ e ∈ server.history, e.request.sessionId? = some sessionId →
    (e.before.sessionView sessionId).announced = true

theorem AskedInv.step {server : Server PlayRequest AppState ApiError PlayAnswer}
    (h : AskedInv sessionId server) {move : Move PlayRequest}
    (hmove : ∀ request ∈ move.request?, request.sessionId? = some sessionId →
      server.state.hasAnnounced sessionId = true) :
    AskedInv sessionId (Server.step (PlayRequest.handler json) move server) := by
  have hattached : (Server.step (PlayRequest.handler json) move server).Attached
      (PlaySent sessionId) fun request _ => request.Done sessionId :=
    h.attached.step PlayRequest.handler_follows move
  cases move with
  | start request =>
      refine ⟨hattached, ?_, h.events⟩
      intro job request' p hjob hnamed
      rcases Server.jobs_start_cases hjob with hjob | ⟨-, rfl, -⟩
      · exact h.jobs job request' p hjob hnamed
      · exact hmove request' rfl hnamed
  | exec turn =>
      rcases Server.step_exec_cases (PlayRequest.handler json) turn server with heq |
        ⟨own, act, next, hturn, heq⟩
      · rwa [heq]
      have hgood := (h.attached.follows turn own _ hturn server.state).1
      rw [heq] at hattached ⊢
      refine ⟨hattached, ?_, ?_⟩
      · intro job request p hjob hnamed
        apply hgood.announced
        rcases Server.jobs_exec_cases hjob with ⟨-, hjob⟩ | ⟨rfl, rfl, -⟩
        · exact h.jobs job request p hjob hnamed
        · exact h.jobs turn request _ hturn hnamed
      · intro e he hnamed
        rcases List.mem_append.mp he with he | he
        · exact h.events e he hnamed
        · rw [List.mem_singleton.mp he] at hnamed ⊢
          exact h.jobs turn own _ hturn hnamed

/-- What is sent for the session is sent after its announcement. -/
theorem AskedAfterwards.announced (h : AskedAfterwards json sessionId moves s) :
    ∀ e ∈ (playRun json moves s).history, e.request.sessionId? = some sessionId →
      (e.before.sessionView sessionId).announced = true := by
  have hidle : AskedInv sessionId (Server.idle s) :=
    ⟨Server.attached_idle, by simp [Server.idle], by simp [Server.idle]⟩
  exact (h.invariant (AskedInv sessionId) (fun _ _ hmove hinv => hinv.step hmove) hidle).events

/-- The session has just been filed by this job. -/
def Opening (sessionId : String) (history : List (Event PlayRequest AppState)) (job : ℕ)
    (facts : SessionFacts) : Prop :=
  ∃ last ∈ (sentBy job history).getLast?, (last.before.sessionView sessionId).filed = none ∧
    (last.after.sessionView sessionId).filed = some (facts, true)

theorem opening_snoc_self {e : Event PlayRequest AppState} {facts : SessionFacts} :
    Opening sessionId (history ++ [e]) e.job facts ↔
      (e.before.sessionView sessionId).filed = none ∧
        (e.after.sessionView sessionId).filed = some (facts, true) := by
  rw [Opening, sentBy_snoc_self, List.getLast?_concat]
  simp

theorem opening_snoc_of_ne {e : Event PlayRequest AppState} {job : ℕ} {facts : SessionFacts}
    (h : e.job ≠ job) :
    Opening sessionId (history ++ [e]) job facts ↔ Opening sessionId history job facts := by
  rw [Opening, sentBy_snoc_of_ne h, Opening]

/-- Before the session is in memory nobody has heard of it, and afterwards it is there as
long as it is open. -/
structure SessionInv (sessionId : String) (history : List (Event PlayRequest AppState))
    (view : SessionView) : Prop where
  matched : ∀ seat ∈ view.seated, view.filed.map Prod.fst = some seat.1
  settled : ∀ e ∈ history, (e.before.sessionView sessionId).announced = true ∨
    (e.after.sessionView sessionId).seated ≠ none → view.Settled
  heard : ∀ e ∈ history, (e.before.sessionView sessionId).announced = true →
    (e.before.sessionView sessionId).filed ≠ none
  announced : view.announced = true → view.Settled
  opening : ∀ job facts, Opening sessionId history job facts →
    view.seated = none ∧ view.filed = some (facts, true) ∧
      ∀ job' facts', Opening sessionId history job' facts' → job' = job

theorem over_of_closed (h : Interleaving (PlaySent sessionId) s history t)
    (hinv : SessionInv sessionId history (t.sessionView sessionId)) {e : Event PlayRequest AppState}
    (he : e ∈ history) (hheard : (e.before.sessionView sessionId).announced = true)
    (hclose : e.after.sessionView sessionId = (e.before.sessionView sessionId).close) :
    (t.sessionView sessionId).Over := by
  apply h.kept (fun u => (u.sessionView sessionId).Over) _ he
  · rw [hclose]
    exact SessionView.close_over (hinv.heard e he hheard)
  · intro other hother
    rcases h.good_of_mem hother with ⟨past, hgood⟩
    exact hgood.stays_over

/-- The run has come to this statement: it is sound so far, and nobody has asked for the
session before its announcement. -/
structure Reached (sessionId : String) (s : AppState) (history : List (Event PlayRequest AppState))
    (e : Event PlayRequest AppState) : Prop where
  run : Interleaving (PlaySent sessionId) s history e.before
  own : ∀ other ∈ history, other.job = e.job → other.request = e.request
  asked : ∀ other ∈ history ++ [e], other.request.sessionId? = some sessionId →
    (other.before.sessionView sessionId).announced = true
  inv : SessionInv sessionId history (e.before.sessionView sessionId)

namespace Reached

variable {e : Event PlayRequest AppState}

/-- The last statement of the job was an event. -/
theorem exists_last (h : Reached sessionId s history e) {last : Sent AppState}
    (hlast : last ∈ (sentBy e.job history).getLast?) :
    ∃ other ∈ history, other.toSent = last ∧ other.request = e.request := by
  rcases mem_sentBy.mp (List.mem_of_getLast? hlast) with ⟨other, hother, hjob, hsame⟩
  exact ⟨other, hother, hsame, h.own other hother hjob⟩

theorem over_of_last (h : Reached sessionId s history e)
    (hnamed : e.request.sessionId? = some sessionId)
    (hlast : ∃ last ∈ (sentBy e.job history).getLast?, last.after.sessionView sessionId =
      (last.before.sessionView sessionId).close) : (e.before.sessionView sessionId).Over := by
  rcases hlast with ⟨last, hlast, hclose⟩
  rcases h.exists_last hlast with ⟨other, hother, rfl, hrequest⟩
  exact over_of_closed h.run h.inv hother
    (h.asked other (List.mem_append_left _ hother) (by rw [hrequest, hnamed])) hclose

theorem settled (h : Reached sessionId s history e)
    (hgood : PlaySent sessionId e.request (sentBy e.job history) e.toSent)
    (hbefore : (e.before.sessionView sessionId).Settled) :
    (e.after.sessionView sessionId).Settled := by
  cases hgood with
  | aside _ _ h => rwa [h]
  | file _ _ _ h => rwa [h, SessionView.file_of_filed hbefore.filed]
  | seat facts _ _ h =>
      rw [h]
      exact ⟨hbefore.filed, fun _ => by simp [SessionView.seat]⟩
  | announce _ _ _ h =>
      rw [h]
      exact ⟨hbefore.filed, hbefore.seated⟩
  | join user _ _ _ h =>
      rw [h]
      refine ⟨hbefore.filed, fun hopen => ?_⟩
      simpa [SessionView.join] using hbefore.seated hopen
  | close _ _ _ _ h =>
      rw [h]
      refine ⟨(SessionView.close_over hbefore.filed).1, ?_⟩
      simp
  | clear now user hrequest hlast hclear =>
      rw [hclear]
      rcases h.over_of_last (by rw [hrequest]; rfl) hlast with ⟨-, hover⟩
      exact ⟨hbefore.filed, fun hopen => absurd (hover.symm.trans hopen) (by simp)⟩

theorem matched (h : Reached sessionId s history e)
    (hgood : PlaySent sessionId e.request (sentBy e.job history) e.toSent) :
    ∀ seat ∈ (e.after.sessionView sessionId).seated,
      (e.after.sessionView sessionId).filed.map Prod.fst = some seat.1 := by
  intro seat hseat
  cases hgood with
  | aside _ _ hview =>
      rw [hview] at hseat ⊢
      exact h.inv.matched seat hseat
  | file facts _ _ hview =>
      rw [hview] at hseat ⊢
      have hfirst := h.inv.matched seat hseat
      rwa [SessionView.file_of_filed (by rintro hnone; simp [hnone] at hfirst)]
  | seat facts _ hlast hview =>
      rw [hview] at hseat ⊢
      rw [SessionView.seat] at hseat ⊢
      cases hseat
      simp [(h.inv.opening e.job facts hlast).2.1]
  | announce _ _ _ hview =>
      rw [hview] at hseat ⊢
      exact h.inv.matched seat hseat
  | join user _ _ _ hview =>
      rw [hview] at hseat ⊢
      rcases Option.map_eq_some_iff.mp hseat with ⟨old, hold, rfl⟩
      exact h.inv.matched old hold
  | close _ _ _ _ hview =>
      rw [hview] at hseat ⊢
      simpa [SessionView.close] using h.inv.matched seat hseat
  | clear _ _ _ _ hview =>
      rw [hview] at hseat
      cases hseat

theorem announced (h : Reached sessionId s history e)
    (hgood : PlaySent sessionId e.request (sentBy e.job history) e.toSent)
    (hafter : (e.after.sessionView sessionId).announced = true) :
    (e.after.sessionView sessionId).Settled := by
  by_cases hbefore : (e.before.sessionView sessionId).announced = true
  · exact h.settled hgood (h.inv.announced hbefore)
  apply h.settled hgood
  rcases hgood.announces hbefore hafter with ⟨last, hlast, hseated⟩
  rcases h.exists_last hlast with ⟨other, hother, rfl, -⟩
  exact h.inv.settled other hother (.inr hseated)

/-- A job that files the session is the first to do so. -/
theorem opening_self (h : Reached sessionId s history e)
    (hgood : PlaySent sessionId e.request (sentBy e.job history) e.toSent) {facts : SessionFacts}
    (hnone : (e.before.sessionView sessionId).filed = none)
    (hfiled : (e.after.sessionView sessionId).filed = some (facts, true)) :
    (e.after.sessionView sessionId).seated = none := by
  have hbefore : (e.before.sessionView sessionId).seated = none := by
    rw [Option.eq_none_iff_forall_not_mem]
    intro seat hseat
    simpa [hnone] using h.inv.matched seat hseat
  rcases hgood.filed_or_seated with hsame | hsame
  · rw [hsame, hnone] at hfiled
    cases hfiled
  · rw [hsame, hbefore]

/-- Others do not touch a session between its row and its entry. -/
theorem opening_other (h : Reached sessionId s history e)
    (hgood : PlaySent sessionId e.request (sentBy e.job history) e.toSent) {job : ℕ}
    {facts : SessionFacts} (hjob : e.job ≠ job) (hopening : Opening sessionId history job facts) :
    (e.after.sessionView sessionId).seated = none ∧
      (e.after.sessionView sessionId).filed = some (facts, true) := by
  rcases h.inv.opening job facts hopening with ⟨hseated, hfiled, honly⟩
  cases hgood with
  | aside _ _ hview =>
      rw [hview]
      exact ⟨hseated, hfiled⟩
  | file _ _ _ hview =>
      rw [hview, SessionView.file_of_filed (by simp [hfiled])]
      exact ⟨hseated, hfiled⟩
  | seat _ _ hlast _ => exact absurd (honly e.job _ hlast) hjob
  | announce _ _ _ hview =>
      rw [hview]
      exact ⟨hseated, hfiled⟩
  | join _ _ _ _ hview =>
      rw [hview]
      exact ⟨by simp [SessionView.join, hseated], hfiled⟩
  | close _ _ hrequest _ _ =>
      -- Nobody can have asked for the session yet.
      have hasked := h.asked e (by simp) (by rw [hrequest]; rfl)
      refine absurd hseated ((h.inv.announced hasked).seated ?_)
      rw [SessionView.isOpen, hfiled]
      rfl
  | clear _ _ _ _ hview =>
      rw [hview]
      exact ⟨rfl, hfiled⟩

theorem opening (h : Reached sessionId s history e)
    (hgood : PlaySent sessionId e.request (sentBy e.job history) e.toSent) {job : ℕ}
    {facts : SessionFacts} (hopening : Opening sessionId (history ++ [e]) job facts) :
    (e.after.sessionView sessionId).seated = none ∧
      (e.after.sessionView sessionId).filed = some (facts, true) ∧
        ∀ job' facts', Opening sessionId (history ++ [e]) job' facts' → job' = job := by
  by_cases hjob : e.job = job
  · subst hjob
    rcases opening_snoc_self.mp hopening with ⟨hnone, hfiled⟩
    refine ⟨h.opening_self hgood hnone hfiled, hfiled, fun job' facts' hopening' => ?_⟩
    by_contra hother
    have hbefore := (h.inv.opening job' facts'
      ((opening_snoc_of_ne (Ne.symm hother)).mp hopening')).2.1
    rw [hnone] at hbefore
    cases hbefore
  · rw [opening_snoc_of_ne hjob] at hopening
    rcases h.opening_other hgood hjob hopening with ⟨hseated, hfiled⟩
    refine ⟨hseated, hfiled, fun job' facts' hopening' => ?_⟩
    by_cases hjob' : e.job = job'
    · subst hjob'
      have hbefore := (h.inv.opening job facts hopening).2.1
      rw [(opening_snoc_self.mp hopening').1] at hbefore
      cases hbefore
    · exact (h.inv.opening job facts hopening).2.2 job' facts'
        ((opening_snoc_of_ne hjob').mp hopening')

/-- The invariant is kept. -/
theorem step (h : Reached sessionId s history e)
    (hgood : PlaySent sessionId e.request (sentBy e.job history) e.toSent) :
    SessionInv sessionId (history ++ [e]) (e.after.sessionView sessionId) where
  matched := h.matched hgood
  settled other hother hevent := by
    rcases List.mem_append.mp hother with hother | hother
    · exact h.settled hgood (h.inv.settled other hother hevent)
    · rw [List.mem_singleton.mp hother] at hevent
      rcases hevent with hannounced | hseated
      · exact h.settled hgood (h.inv.announced hannounced)
      · rcases Option.ne_none_iff_exists'.mp hseated with ⟨seat, hseat⟩
        have hfirst := h.matched hgood seat hseat
        exact ⟨by rintro hnone; simp [hnone] at hfirst, fun _ => hseated⟩
  heard other hother hannounced := by
    rcases List.mem_append.mp hother with hother | hother
    · exact h.inv.heard other hother hannounced
    · rw [List.mem_singleton.mp hother] at hannounced ⊢
      exact (h.inv.announced hannounced).filed
  announced := h.announced hgood
  opening _ _ := h.opening hgood

end Reached

/-- Everybody who has asked for the session has done so after its announcement. -/
def AskedEvent (sessionId : String) (e : Event PlayRequest AppState) : Prop :=
  e.request.sessionId? = some sessionId → (e.before.sessionView sessionId).announced = true

theorem AppState.Unheard.sessionView (h : s.Unheard sessionId) :
    s.sessionView sessionId = ⟨none, none, false⟩ := by
  ext1
  · rw [AppState.sessionView, h.row]
    rfl
  · rw [AppState.sessionView, h.entry]
    rfl
  · exact h.announced

theorem sessionInv_idle (h : s.Unheard sessionId) :
    SessionInv sessionId [] (s.sessionView sessionId) := by
  rw [h.sessionView]
  refine ⟨by simp, by simp, by simp, by simp, ?_⟩
  rintro job facts ⟨last, hlast, -⟩
  cases hlast

theorem sessionInv (hstart : s.Unheard sessionId)
    (h : Interleaving (PlaySent sessionId) s history t)
    (hasked : ∀ e ∈ history, AskedEvent sessionId e) :
    SessionInv sessionId history (t.sessionView sessionId) :=
  h.invariant (fun history t => SessionInv sessionId history (t.sessionView sessionId))
    (sessionInv_idle hstart)
    (fun _ _ hrun hok hown hgood hinv => Reached.step ⟨hrun, hown, hok, hinv⟩ hgood) hasked

theorem reached (hstart : s.Unheard sessionId) {e : Event PlayRequest AppState}
    (hrun : Interleaving (PlaySent sessionId) s history e.before)
    (hown : ∀ other ∈ history, other.job = e.job → other.request = e.request)
    (hok : ∀ other ∈ history ++ [e], AskedEvent sessionId other) : Reached sessionId s history e :=
  ⟨hrun, hown, hok,
    sessionInv hstart hrun fun other hother => hok other (List.mem_append_left _ hother)⟩

/-- The session is in memory if it is open, or somebody has still to see to it. -/
def PresentOr (sessionId : String) (history : List (Event PlayRequest AppState))
    (view : SessionView) : Prop :=
  view.seated.isSome = view.isOpen ∨ ∃ job, Halfway sessionId (sentBy job history)

theorem PresentOr.snoc {e : Event PlayRequest AppState} {view : SessionView}
    (h : PresentOr sessionId history (e.before.sessionView sessionId))
    (hpast : ¬ Halfway sessionId (sentBy e.job history))
    (hseated : view.seated.isSome = (e.before.sessionView sessionId).seated.isSome)
    (hopen : view.isOpen = (e.before.sessionView sessionId).isOpen) :
    PresentOr sessionId (history ++ [e]) view := by
  rcases h with hsame | ⟨job, hjob⟩
  · exact .inl (by rw [hseated, hopen, hsame])
  · refine .inr ⟨job, ?_⟩
    rwa [sentBy_snoc_of_ne]
    rintro rfl
    exact hpast hjob

/-- A row that has just changed is seen to by the same job. -/
theorem presentOr_of_change {e : Event PlayRequest AppState}
    (h : (e.before.sessionView sessionId).isOpen ≠ (e.after.sessionView sessionId).isOpen) :
    PresentOr sessionId (history ++ [e]) (e.after.sessionView sessionId) := by
  refine .inr ⟨e.job, e.toSent, ?_, h⟩
  rw [sentBy_snoc_self]
  exact mem_getLast?_snoc

theorem Reached.presentOr {e : Event PlayRequest AppState} (h : Reached sessionId s history e)
    (hgood : PlaySent sessionId e.request (sentBy e.job history) e.toSent)
    (hbefore : PresentOr sessionId history (e.before.sessionView sessionId)) :
    PresentOr sessionId (history ++ [e]) (e.after.sessionView sessionId) := by
  by_cases hsame : (e.before.sessionView sessionId).isOpen = (e.after.sessionView sessionId).isOpen
  · cases hgood with
    | aside hpast _ hview => exact hbefore.snoc hpast (by rw [hview]) hsame.symm
    | file _ hpast _ hview => exact hbefore.snoc hpast (by rw [hview]; rfl) hsame.symm
    | seat facts _ hlast hview =>
        left
        rw [← hsame, hview, SessionView.isOpen, (h.inv.opening e.job facts hlast).2.1]
        rfl
    | announce hpast _ _ hview => exact hbefore.snoc hpast (by rw [hview]; rfl) hsame.symm
    | join user _ hpast _ hview =>
        exact hbefore.snoc hpast (by rw [hview]; exact Option.isSome_map) hsame.symm
    | close _ _ _ hpast hview => exact hbefore.snoc hpast (by rw [hview]; rfl) hsame.symm
    | clear now user hrequest hlast hview =>
        left
        rw [← hsame, hview, (h.over_of_last (by rw [hrequest]; rfl) hlast).2]
        rfl
  · exact presentOr_of_change hsame

theorem presentOr (hstart : s.Unheard sessionId) (h : Interleaving (PlaySent sessionId) s history t)
    (hasked : ∀ e ∈ history, AskedEvent sessionId e) :
    PresentOr sessionId history (t.sessionView sessionId) := by
  apply h.invariant (fun history t => PresentOr sessionId history (t.sessionView sessionId))
    _ _ hasked
  · rw [hstart.sessionView]
    exact .inl rfl
  · exact fun _ _ hrun hok hown hgood hbefore =>
      (reached hstart hrun hown hok).presentOr hgood hbefore

/-- The user's request to join has been executed. -/
def HasJoined (sessionId user : String) (history : List (Event PlayRequest AppState)) : Prop :=
  ∃ pre e post, history = pre ++ e :: post ∧ e.request = .join user sessionId ∧
    (sentBy e.job pre).length = 1

theorem hasJoined_snoc {user : String} {e : Event PlayRequest AppState} :
    HasJoined sessionId user (history ++ [e]) ↔ HasJoined sessionId user history ∨
      (e.request = .join user sessionId ∧ (sentBy e.job history).length = 1) := by
  constructor
  · rintro ⟨pre, other, post, hsplit, hother⟩
    rcases snoc_split hsplit with ⟨rfl, rfl, -⟩ | ⟨between, -, hinit⟩
    · exact .inr hother
    · exact .inl ⟨pre, other, between, hinit, hother⟩
  · rintro (⟨pre, other, post, rfl, hother⟩ | hlast)
    · exact ⟨pre, other, post ++ [e], by simp, hother⟩
    · exact ⟨history, e, [], rfl, hlast⟩

/-- The players are the host and those who have joined. -/
def PlayersRight (sessionId : String) (history : List (Event PlayRequest AppState))
    (view : SessionView) : Prop :=
  ∀ seat ∈ view.seated, ∀ user,
    user ∈ seat.2 ↔ user = seat.1.hostPubkey ∨ HasJoined sessionId user history

theorem PlayersRight.snoc {e : Event PlayRequest AppState} {view : SessionView}
    (h : PlayersRight sessionId history (e.before.sessionView sessionId))
    (hseated : view.seated = (e.before.sessionView sessionId).seated)
    (hjoin : ∀ user, e.request = .join user sessionId → (sentBy e.job history).length ≠ 1) :
    PlayersRight sessionId (history ++ [e]) view := by
  intro seat hseat user
  rw [hseated] at hseat
  have hsame : HasJoined sessionId user (history ++ [e]) ↔ HasJoined sessionId user history :=
    hasJoined_snoc.trans (or_iff_left fun hlast => hjoin user hlast.1 hlast.2)
  rw [hsame]
  exact h seat hseat user

@[simp]
theorem mem_insertPlayer {user other : String} {players : List String} :
    user ∈ insertPlayer other players ↔ user ∈ players ∨ user = other := by
  rw [insertPlayer]
  split_ifs with hknown
  · exact ⟨.inl, fun h => h.elim id fun heq => heq ▸ hknown⟩
  · simp

/-- Nobody has joined a session that has not been entered yet. -/
theorem Reached.not_hasJoined {e : Event PlayRequest AppState} (h : Reached sessionId s history e)
    {facts : SessionFacts} (hopening : Opening sessionId history e.job facts) (user : String) :
    ¬ HasJoined sessionId user history := by
  rintro ⟨pre, other, post, hsplit, hrequest, -⟩
  have hother : other ∈ history := by simp [hsplit]
  have hasked := h.asked other (List.mem_append_left _ hother) (by rw [hrequest]; rfl)
  rcases h.inv.opening e.job facts hopening with ⟨hseated, hfiled, -⟩
  refine (h.inv.settled other hother (.inl hasked)).seated ?_ hseated
  rw [SessionView.isOpen, hfiled]
  rfl

theorem Reached.playersRight {e : Event PlayRequest AppState} (h : Reached sessionId s history e)
    (hgood : PlaySent sessionId e.request (sentBy e.job history) e.toSent)
    (hbefore : PlayersRight sessionId history (e.before.sessionView sessionId)) :
    PlayersRight sessionId (history ++ [e]) (e.after.sessionView sessionId) := by
  cases hgood with
  | aside _ hjoin hview => exact hbefore.snoc (by rw [hview]) hjoin
  | file _ _ hnew hview =>
      exact hbefore.snoc (by rw [hview]; rfl) fun user hrequest =>
        absurd hrequest (ne_join_of_new hnew user)
  | seat facts hnew hlast hview =>
      intro seat hseat user
      rw [hview, SessionView.seat] at hseat
      cases hseat
      rw [List.mem_singleton, hasJoined_snoc, or_iff_left]
      rintro (hjoined | ⟨hrequest, -⟩)
      · exact h.not_hasJoined hlast user hjoined
      · exact ne_join_of_new hnew user hrequest
  | announce _ hnew _ hview =>
      exact hbefore.snoc (by rw [hview]; rfl) fun user hrequest =>
        absurd hrequest (ne_join_of_new hnew user)
  | join other hrequest _ hlength hview =>
      intro seat hseat user
      rw [hview] at hseat
      rcases Option.map_eq_some_iff.mp hseat with ⟨old, hold, rfl⟩
      rw [mem_insertPlayer, hbefore old hold user, hasJoined_snoc, hrequest, or_assoc]
      simp [hlength, eq_comm]
  | close _ _ hrequest _ hview =>
      exact hbefore.snoc (by rw [hview]; rfl) fun user hother => by simp [hrequest] at hother
  | clear _ _ hrequest _ hview =>
      intro seat hseat
      rw [hview] at hseat
      cases hseat

theorem playersRight (hstart : s.Unheard sessionId)
    (h : Interleaving (PlaySent sessionId) s history t)
    (hasked : ∀ e ∈ history, AskedEvent sessionId e) :
    PlayersRight sessionId history (t.sessionView sessionId) := by
  apply h.invariant (fun history t => PlayersRight sessionId history (t.sessionView sessionId))
    _ _ hasked
  · intro seat hseat
    rw [hstart.sessionView] at hseat
    cases hseat
  · exact fun _ _ hrun hok hown hgood hbefore =>
      (reached hstart hrun hown hok).playersRight hgood hbefore

/-! ## When nothing is under way -/

theorem answered {job : ℕ} (hrequest : (playRun json moves s).request? job = some request) :
    Answered sessionId request ((playRun json moves s).answer? job)
      (sentBy job (playRun json moves s).history) := by
  have hfollows : ∀ request : PlayRequest, (request.handler json).Follows
      (PlaySent sessionId request) (fun _ => request.Done sessionId) [] :=
    PlayRequest.handler_follows
  exact Server.always_serve hfollows PlayRequest.handler_always moves s hrequest

/-- Nobody is halfway if nothing is under way. -/
theorem AtRest.not_halfway (h : AtRest (playRun json moves s)) (job : ℕ) :
    ¬ Halfway sessionId (sentBy job (playRun json moves s).history) := by
  intro hhalf
  obtain ⟨last, hlast, -⟩ := id hhalf
  rcases mem_sentBy.mp (List.mem_of_getLast? hlast) with ⟨e, he, rfl, -⟩
  have hrequest := (playRun_sound json sessionId moves s).request?_eq he
  exact (answered hrequest).finished (h e.job e.request hrequest) hhalf

/-- Those who have joined are those who have been told so. -/
theorem AtRest.hasJoined_iff (h : AtRest (playRun json moves s)) (user : String) :
    HasJoined sessionId user (playRun json moves s).history ↔
      ∃ job answer, (playRun json moves s).request? job = some (.join user sessionId) ∧
        (playRun json moves s).answer? job = some (.ok answer) := by
  have hsound := playRun_sound json sessionId moves s
  constructor
  · rintro ⟨pre, e, post, hsplit, hrequest, hlength⟩
    have hjob := hsound.request?_eq (e := e) (by simp [hsplit])
    have htwo : 2 ≤ (sentBy e.job (playRun json moves s).history).length := by
      rw [hsplit, ← List.singleton_append, ← List.append_assoc, sentBy_append, List.length_append,
        sentBy_snoc_self, List.length_append, hlength, List.length_singleton]
      omega
    rcases hanswer : (playRun json moves s).answer? e.job with _ | error | answer
    · exact absurd hanswer (h e.job e.request hjob)
    · have hrefused := (answered hjob).refused error hanswer user hrequest
      omega
    · exact ⟨e.job, answer, hrequest ▸ hjob, hanswer⟩
  · rintro ⟨job, answer, hjob, hanswer⟩
    have htwo := hsound.returned hjob hanswer user rfl
    rcases hsent : sentBy job (playRun json moves s).history with _ | ⟨first, _ | ⟨second, rest⟩⟩
    · simp [hsent] at htwo
    · simp [hsent] at htwo
    · have hprefix : [first] ++ [second] <+: sentBy job (playRun json moves s).history := by
        simp [hsent]
      rcases exists_event hprefix with ⟨pre, e, post, hsplit, rfl, -, hpast⟩
      have hrequest := hsound.request?_eq (e := e) (by simp [hsplit])
      refine ⟨pre, e, post, hsplit, ?_, by rw [hpast, List.length_singleton]⟩
      exact Option.some.inj (hrequest.symm.trans hjob)

end Runs

/-- Whatever requests come in at the same time, and whatever is under way in between: if
nobody asks for a session before it has been announced, then once nothing is under way the
session is in memory exactly if it is open in the store, as what the store says it is, and
its players are the host and those whose requests to join have been accepted. -/
theorem sessionRight_of_atRest (json : JsonText) (sessionId : String)
    (moves : List (Move PlayRequest)) (s : AppState) (hstart : s.Unheard sessionId)
    (hasked : AskedAfterwards json sessionId moves s) (hrest : AtRest (playRun json moves s)) :
    SessionRight sessionId (playRun json moves s) := by
  have hrun := (playRun_sound json sessionId moves s).run
  have hevents : ∀ e ∈ (playRun json moves s).history, AskedEvent sessionId e := hasked.announced
  refine ⟨?_, ?_, ?_⟩
  · rcases presentOr hstart hrun hevents with hsame | ⟨job, hhalf⟩
    · rwa [isOpen_sessionView, AppState.sessionView, Option.isSome_map] at hsame
    · exact absurd hhalf (hrest.not_halfway job)
  · intro session hsession
    have hmatched := (sessionInv hstart hrun hevents).matched (session.facts, session.players)
      (Option.map_eq_some_iff.mpr ⟨session, hsession, rfl⟩)
    rw [AppState.sessionView, Option.map_map] at hmatched
    rcases Option.map_eq_some_iff.mp hmatched with ⟨row, hrow, hfacts⟩
    have hsame : row.facts = session.facts := hfacts
    rw [GameSessionRow.facts, GameSessionState.facts, SessionFacts.mk.injEq] at hsame
    exact ⟨row, hrow, hsame.1.symm, hsame.2.1.symm, hsame.2.2.symm⟩
  · intro session hsession user
    rw [← hrest.hasJoined_iff]
    exact playersRight hstart hrun hevents (session.facts, session.players)
      (Option.map_eq_some_iff.mpr ⟨session, hsession, rfl⟩) user

/-- A hub on which the host may start games. -/
def playHub : AppState where
  db := { Db.migrated with
    channels := .single
      { id := "general", name := "General", createdBy := "host", parentId := none, createdAt := 1 }
    userRoles := .single ⟨"host", "builtin-everyone", 0⟩ }

/-- A game is started, and then two users join at the same time. -/
def joinedGame : List (Move PlayRequest) :=
  [.start (.create ⟨"game", "5", true⟩ "host" "general" "chess")] ++ List.replicate 7 (.exec 0) ++
    [.start (.join "guest" "game"), .start (.join "late" "game")] ++
    (List.replicate 4 [.exec 1, .exec 2]).flatten

theorem joinedGame_asked : AskedAfterwards playedJson "game" joinedGame playHub := by
  unfold AskedAfterwards
  decide +kernel

theorem atRest_of_jobs {server : Server PlayRequest AppState ApiError PlayAnswer}
    (h : ∀ entry ∈ server.jobs, entry.2.answer?.isSome = true) : AtRest server := by
  intro job request hrequest hnone
  obtain ⟨p, hjob⟩ := Server.request?_eq_some_iff.mp hrequest
  have hdone := h _ (List.mem_of_getElem? hjob)
  rw [Server.answer?, hjob, Option.bind_some] at hnone
  simp [hnone] at hdone

theorem joinedGame_right :
    SessionRight "game" (playRun playedJson joinedGame playHub) ∧
      ((playRun playedJson joinedGame playHub).state.activeGameSessions "game").map (·.players) =
        some ["host", "guest", "late"] := by
  constructor
  · apply sessionRight_of_atRest playedJson "game" joinedGame playHub
    · exact ⟨by decide +kernel, rfl, rfl⟩
    · exact joinedGame_asked
    · exact atRest_of_jobs (by decide +kernel)
  · decide +kernel

end Voxply.Hub
