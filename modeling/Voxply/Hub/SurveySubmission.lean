/-
# Submitting a survey as a whole

`submit_survey` stores the response first.  The answers and the roles they bring follow one
statement after the other, and each of them can be refused: a question that is answered twice
by the primary key, a role that no longer exists by a foreign key.  By then the response is
stored, and the user cannot submit again.
-/

import Voxply.Hub.Survey
import Voxply.Math.Atomic
import Voxply.Math.ForeignKey
import Voxply.Math.Schedule

namespace Voxply.Hub

open Voxply.Math

/-! ## What a submission is to do -/

/-- Responses, answers, roles and approvals are as they were. -/
structure SameSubmissions (s t : AppState) : Prop where
  responses : t.db.surveyResponses = s.db.surveyResponses
  answers : t.db.surveyAnswers = s.db.surveyAnswers
  roles : t.db.userRoles = s.db.userRoles
  approval : ∀ key, (t.db.users.find? key).map (·.approvalStatus) =
    (s.db.users.find? key).map (·.approvalStatus)

theorem SameSubmissions.refl (s : AppState) : SameSubmissions s s :=
  ⟨rfl, rfl, rfl, fun _ => rfl⟩

/-- The status of a user whose submission is stored. -/
def SubmitSurveyRequest.approval (req : SubmitSurveyRequest) : ApprovalStatus :=
  if req.answers.any (·.hasText) then .pending else .approved

def SurveyAnswerInput.row (a : SurveyAnswerInput) (responseId : String) : SurveyAnswerRow :=
  ⟨responseId, a.questionId, a.choiceId, a.textAnswer⟩

/-- The response, all answers and all roles they bring are stored, and the user's status is
set. -/
structure Recorded (env : SurveyEnv) (user : String) (req : SubmitSurveyRequest) (s t : AppState) :
    Prop where
  responses : t.db.surveyResponses.rows =
    s.db.surveyResponses.rows ++ [⟨env.responseId, user, req.surveyId, env.now⟩]
  answers : t.db.surveyAnswers.rows =
    s.db.surveyAnswers.rows ++ req.answers.map (·.row env.responseId)
  roles : ∀ key, t.db.userRoles.has key = true ↔ s.db.userRoles.has key = true ∨
    key.1 = user ∧ key.2 ∈ req.answers.flatMap s.db.rolesFor
  approval : ∀ key, (t.db.users.find? key).map (·.approvalStatus) =
    (s.db.users.find? key).map fun row => if key = user then req.approval else row.approvalStatus

/-- A submission with what the server supplies for it. -/
structure SurveySubmission where
  env : SurveyEnv
  user : String
  req : SubmitSurveyRequest

def SurveySubmission.handler (submission : SurveySubmission) : Handler SubmitSurveyResponse :=
  submitSurvey submission.env submission.user submission.req

/-- No user has two responses to one survey. -/
def Db.RespondedOnce (db : Db) : Prop :=
  ∀ first ∈ db.surveyResponses.rows, ∀ second ∈ db.surveyResponses.rows,
    first.pubkey = second.pubkey → first.surveyId = second.surveyId → first = second

/-- A submission fails without a trace or is stored as a whole, and however submissions
overlap, a user's response to a survey is stored once. -/
structure SubmitsWhole (env : SurveyEnv) (user : String) (req : SubmitSurveyRequest)
    (s : AppState) : Prop where
  whole : (submitSurvey env user req).AllOrNothing
    (SameSubmissions s) (fun _ => Recorded env user req s) s
  once : s.db.RespondedOnce → ∀ moves : List (Move SurveySubmission),
    (serve SurveySubmission.handler moves s).state.db.RespondedOnce

/-- The user has responded to the survey. -/
def Db.HasResponded (db : Db) (user surveyId : String) : Prop :=
  ∃ row ∈ db.surveyResponses.rows, row.pubkey = user ∧ row.surveyId = surveyId

/-- No question is answered twice, and every role that a chosen choice brings is there, or the
user has it already. -/
structure Db.Storable (db : Db) (user : String) (answers : List SurveyAnswerInput) : Prop where
  questions : (answers.map (·.questionId)).Nodup
  roles : ∀ a ∈ answers, ∀ roleId ∈ db.rolesFor a, db.grantable user roleId = true

/-! ## Overlapping submissions -/

section Overlapping

variable {s : AppState} {past : List (Sent AppState)}

/-- A statement leaves the responses alone or stores one under the constraint. -/
def ResponseSent (_past : List (Sent AppState)) (sent : Sent AppState) : Prop :=
  sent.before.db.RespondedOnce → sent.after.db.RespondedOnce

theorem RespondedOnce.of_eq {db db' : Db} (h : db.RespondedOnce)
    (hsame : db'.surveyResponses = db.surveyResponses) : db'.RespondedOnce := by
  intro first hfirst second hsecond
  rw [hsame] at hfirst hsecond
  exact h first hfirst second hsecond

/-- The constraint on the pair of a user and a survey. -/
theorem RespondedOnce.insert {row : SurveyResponseRow} {db db' : Db} (h : db.RespondedOnce)
    (hinsert : insertSurveyResponse row db = .ok db') : db'.RespondedOnce := by
  unfold insertSurveyResponse at hinsert
  split_ifs at hinsert with hany
  cases htable : db.surveyResponses.insert? row with
  | none =>
      rw [htable] at hinsert
      cases hinsert
  | some table =>
      rw [htable] at hinsert
      cases hinsert
      have hfree : ∀ old ∈ db.surveyResponses.rows, old.pubkey = row.pubkey →
          old.surveyId ≠ row.surveyId := by
        intro old hold hpubkey hsurvey
        apply hany
        rw [List.any_eq_true]
        exact ⟨old, hold, decide_eq_true ⟨hpubkey, hsurvey⟩⟩
      intro first hfirst second hsecond hpubkey hsurvey
      rw [(Table.insert?_eq_some_iff.mp htable).2, List.mem_append,
        List.mem_singleton] at hfirst hsecond
      rcases hfirst with hfirst | rfl
      · rcases hsecond with hsecond | rfl
        · exact h first hfirst second hsecond hpubkey hsurvey
        · exact absurd hsurvey (hfree first hfirst hpubkey)
      · rcases hsecond with hsecond | rfl
        · exact absurd hsurvey.symm (hfree second hsecond hpubkey.symm)
        · rfl

theorem responseSent_executed {f : Db → Except SqlError Db} {s : AppState}
    (h : ∀ db, f s.db = .ok db → s.db.RespondedOnce → db.RespondedOnce) :
    ResponseSent past ⟨executed f, s⟩ := by
  intro hs
  rw [Sent.after_mk]
  rcases executed_cases f s with heq | ⟨db, hdb, heq⟩
  · rw [heq]
    exact hs
  · rw [heq, withDb_db]
    exact h db hdb hs

theorem responseSent_query {A B : Type} {f : Db → A} {g : A → Handler B}
    (h : ∀ a past', (g a).Follows ResponseSent (fun _ _ => True) past') :
    (fetch f >>= g).Follows ResponseSent (fun _ _ => True) past :=
  Prog.follows_query_bind (fun _ hs => hs) fun _ => h _ _

/-- A write to another table. -/
theorem responseSent_execute {f : Db → Except SqlError Db}
    (h : ∀ db db', f db = .ok db' → db'.surveyResponses = db.surveyResponses) :
    (execute f).Follows ResponseSent (fun _ _ => True) past := by
  apply follows_execute
  · exact fun s => responseSent_executed fun db hdb hs => RespondedOnce.of_eq hs (h s.db db hdb)
  · exact fun _ _ _ => trivial

theorem follows_loadQuestions (rows : List SurveyQuestionRow) (past : List (Sent AppState)) :
    (loadQuestions rows).Follows ResponseSent (fun _ _ => True) past := by
  induction rows generalizing past with
  | nil => exact Prog.follows_ret trivial
  | cons q rest ih =>
      unfold loadQuestions loadChoices
      apply Prog.Follows.bind_any
      · split_ifs
        · exact responseSent_query fun _ _ => Prog.follows_ret trivial
        · exact Prog.follows_ret trivial
      · exact fun _ past' _ => (ih past').bind_any fun _ _ _ => Prog.follows_ret trivial

theorem surveyResponses_of_insertUserRoleOrIgnore {row : UserRoleRow} {db db' : Db}
    (h : insertUserRoleOrIgnore row db = .ok db') : db'.surveyResponses = db.surveyResponses := by
  unfold insertUserRoleOrIgnore insertUserRole at h
  split at h
  · cases h
    rfl
  · cases hinsert : db.userRoles.insert? row with
    | none =>
        rw [hinsert] at h
        cases h
    | some userRoles =>
        rw [hinsert] at h
        dsimp only at h
        split_ifs at h
        cases h
        rfl

theorem surveyResponses_of_insertSurveyAnswer {row : SurveyAnswerRow} {db db' : Db}
    (h : insertSurveyAnswer row db = .ok db') : db'.surveyResponses = db.surveyResponses := by
  unfold insertSurveyAnswer at h
  cases hinsert : db.surveyAnswers.insert? row with
  | none =>
      rw [hinsert] at h
      cases h
  | some surveyAnswers =>
      rw [hinsert] at h
      dsimp only at h
      split_ifs at h
      cases h
      rfl

theorem follows_submitAnswers (env : SurveyEnv) (user : String) (answers : List SurveyAnswerInput)
    (past : List (Sent AppState)) :
    (submitAnswers env user answers).Follows ResponseSent (fun _ _ => True) past := by
  induction answers generalizing past with
  | nil => exact Prog.follows_ret trivial
  | cons a rest ih =>
      apply (responseSent_execute fun _ _ h => surveyResponses_of_insertSurveyAnswer h).bind_any
      intro _ past' _
      apply Prog.Follows.bind_any
      · cases a.choiceId with
        | none => exact Prog.follows_ret trivial
        | some choiceId =>
            apply responseSent_query
            intro roleIds past''
            refine Prog.Follows.bind_any (Prog.follows_each fun _ _ _ _ => ?_)
              fun _ _ _ => Prog.follows_ret trivial
            exact responseSent_execute fun _ _ h => surveyResponses_of_insertUserRoleOrIgnore h
      · exact fun _ past'' _ => (ih past'').bind_any fun _ _ _ => Prog.follows_ret trivial

theorem SurveySubmission.follows (submission : SurveySubmission) :
    submission.handler.Follows ResponseSent (fun _ _ => True) [] := by
  unfold SurveySubmission.handler submitSurvey loadActiveSurveyPublic
  apply Prog.Follows.bind_any
  · apply responseSent_query
    intro survey past
    cases survey with
    | none => exact Prog.follows_ret trivial
    | some survey =>
        apply responseSent_query
        exact fun _ past' =>
          (follows_loadQuestions _ past').bind_any fun _ _ _ => Prog.follows_ret trivial
  · intro survey past _
    cases survey with
    | none => exact Prog.follows_fail _
    | some survey =>
        apply Prog.follows_ensure_bind
        intro _
        apply Prog.follows_ofExcept_bind
        intro _ _
        apply Prog.Follows.bind_any
        · apply follows_executeOr
          · exact fun s => responseSent_executed fun _ hdb hs => RespondedOnce.insert hs hdb
          · exact fun _ _ _ => trivial
        · intro _ past' _
          apply (follows_submitAnswers _ _ _ past').bind_any
          intro _ past'' _
          apply Prog.Follows.bind_any
          · unfold settleApproval
            split_ifs
            · exact follows_write_bind (fun _ hs => hs) fun _ => Prog.follows_ret trivial
            · exact follows_write_bind (fun _ hs => hs) fun _ => Prog.follows_ret trivial
          · exact fun _ _ _ => Prog.follows_ret trivial

/-- However submissions overlap. -/
theorem respondedOnce_serve (moves : List (Move SurveySubmission)) (h : s.db.RespondedOnce) :
    (serve SurveySubmission.handler moves s).state.db.RespondedOnce := by
  exact Server.Sound.kept_runAll (fun t => t.db.RespondedOnce) SurveySubmission.follows
    (fun _ _ _ hsent hbefore => hsent hbefore) Server.sound_idle h moves

end Overlapping

/-! ## Storing the answers -/

section Answers

variable {env : SurveyEnv} {user : String} {db db' : Db}

/-- The answers can all be stored next to those that are there. -/
structure Db.StorableNext (db : Db) (env : SurveyEnv) (user : String)
    (answers : List SurveyAnswerInput) : Prop extends db.Storable user answers where
  free : ∀ a ∈ answers, db.surveyAnswers.has (env.responseId, a.questionId) = false

theorem storableNext_nil (db : Db) : db.StorableNext env user [] where
  questions := List.nodup_nil
  roles _ ha := absurd ha List.not_mem_nil
  free _ ha := absurd ha List.not_mem_nil

/-- What is left to be stored after an answer and its roles. -/
theorem Taken.storableNext_iff {a : SurveyAnswerInput}
    (h : Taken env user [a.questionId] (db.rolesFor a) db db')
    (hgrantable : ∀ roleId ∈ db.rolesFor a, db.grantable user roleId = true)
    (hfree : db.surveyAnswers.has (env.responseId, a.questionId) = false)
    (rest : List SurveyAnswerInput) :
    db'.StorableNext env user rest ↔ db.StorableNext env user (a :: rest) := by
  have hhas : ∀ questionId, db'.surveyAnswers.has (env.responseId, questionId) = false ↔
      db.surveyAnswers.has (env.responseId, questionId) = false ∧ questionId ≠ a.questionId := by
    intro questionId
    rw [← Bool.not_eq_true, h.questions, List.mem_singleton, not_or, Bool.not_eq_true]
  constructor
  · intro hrest
    constructor
    · constructor
      · rw [List.map_cons, List.nodup_cons]
        refine ⟨?_, hrest.questions⟩
        intro hmem
        obtain ⟨b, hb, heq⟩ := List.mem_map.mp hmem
        exact ((hhas _).mp (hrest.free b hb)).2 heq
      · intro b hb
        rcases List.mem_cons.mp hb with rfl | hb
        · exact hgrantable
        · have hroles := hrest.roles b hb
          rw [h.rolesFor, h.grantable hgrantable] at hroles
          exact hroles
    · intro b hb
      rcases List.mem_cons.mp hb with rfl | hb
      · exact hfree
      · exact ((hhas _).mp (hrest.free b hb)).1
  · intro hall
    have hnodup := hall.questions
    rw [List.map_cons, List.nodup_cons] at hnodup
    constructor
    · constructor
      · exact hnodup.2
      · intro b hb
        rw [h.rolesFor, h.grantable hgrantable]
        exact hall.roles b (List.mem_cons_of_mem a hb)
    · intro b hb
      rw [hhas]
      refine ⟨hall.free b (List.mem_cons_of_mem a hb), ?_⟩
      intro heq
      exact hnodup.1 (heq ▸ List.mem_map_of_mem hb)

theorem surveyAnswers_of_insertUserRoleOrIgnore {row : UserRoleRow} {db db' : Db}
    (h : insertUserRoleOrIgnore row db = .ok db') : db'.surveyAnswers = db.surveyAnswers := by
  unfold insertUserRoleOrIgnore insertUserRole at h
  split at h
  · cases h
    rfl
  · cases hinsert : db.userRoles.insert? row with
    | none =>
        rw [hinsert] at h
        cases h
    | some userRoles =>
        rw [hinsert] at h
        dsimp only at h
        split_ifs at h
        cases h
        rfl

def SameAnswers (s t : AppState) : Prop :=
  t.db.surveyAnswers = s.db.surveyAnswers

theorem SameAnswers.refl (s : AppState) : SameAnswers s s := rfl

theorem SameAnswers.trans (s t u : AppState) (h : SameAnswers s t) (h' : SameAnswers t u) :
    SameAnswers s u :=
  Eq.trans h' h

/-- Granting roles does not touch the answers. -/
theorem changes_applyChoice (env : SurveyEnv) (user : String) (choice : Option String) :
    (applyChoice env user choice).Changes SameAnswers := by
  cases choice with
  | none => exact SameAnswers.refl
  | some choiceId =>
      apply Prog.Changes.bind SameAnswers.trans
      · exact SameAnswers.refl
      intro roleIds
      apply Prog.Changes.bind SameAnswers.trans
      · apply Prog.changes_each SameAnswers.refl SameAnswers.trans
        intro roleId
        exact changes_execute SameAnswers.refl fun s db h =>
          surveyAnswers_of_insertUserRoleOrIgnore h
      · exact fun _ => SameAnswers.refl

/-- All answers with all their roles are stored between the two. -/
structure AnswersStored (env : SurveyEnv) (user : String) (answers : List SurveyAnswerInput)
    (db db' : Db) :
    Prop extends Taken env user (answers.map (·.questionId)) (answers.flatMap db.rolesFor)
    db db' where
  rows : db'.surveyAnswers.rows = db.surveyAnswers.rows ++ answers.map (·.row env.responseId)

theorem rows_of_insertSurveyAnswer {row : SurveyAnswerRow}
    (h : insertSurveyAnswer row db = .ok db') :
    db'.surveyAnswers.rows = db.surveyAnswers.rows ++ [row] := by
  unfold insertSurveyAnswer at h
  cases hinsert : db.surveyAnswers.insert? row with
  | none =>
      rw [hinsert] at h
      cases h
  | some surveyAnswers =>
      rw [hinsert] at h
      dsimp only at h
      split_ifs at h
      cases h
      exact (Table.insert?_eq_some_iff.mp hinsert).2

/-- The answers are stored with their roles exactly if they all can be; the responses stay as
they are. -/
theorem ends_submitAnswers_stored (env : SurveyEnv) (user : String)
    (answers : List SurveyAnswerInput) (s : AppState)
    (hresponse : s.db.surveyResponses.has env.responseId = true) :
    (submitAnswers env user answers).Ends s fun result t =>
      t.db.surveyResponses = s.db.surveyResponses ∧
        (result.isOk = true ↔ s.db.StorableNext env user answers) ∧
        (result.isOk = true → AnswersStored env user answers s.db t.db) := by
  induction answers generalizing s with
  | nil =>
      refine ⟨rfl, ?_, fun _ => ⟨Taken.refl s.db, (List.append_nil _).symm⟩⟩
      simp [submitAnswers, storableNext_nil, Except.isOk, Except.toBool]
  | cons a rest ih =>
      unfold submitAnswers
      rcases insertSurveyAnswer_cases user hresponse a with
        ⟨e, hrun, hanswered⟩ | ⟨db, hrun, hfree, htaken⟩
      · rw [Prog.Ends, Prog.run_bind_of_error (run_execute_of_error hrun)]
        refine ⟨rfl, ?_, fun h => by cases h⟩
        refine iff_of_false (fun h => by cases h) fun h => ?_
        rw [h.free a List.mem_cons_self] at hanswered
        cases hanswered
      rw [Prog.ends_bind_of_ok (run_execute_of_ok hrun)]
      have hgrantable : (s.withDb db).db.grantable user = s.db.grantable user :=
        htaken.grantable (by simp)
      have hroles : (s.withDb db).db.rolesFor = s.db.rolesFor := htaken.rolesFor
      have happly := ends_applyChoice env user a (s.withDb db)
      have hkept := changes_applyChoice env user a.choiceId (s.withDb db)
      rw [hgrantable, hroles] at happly
      have hboth : (applyChoice env user a.choiceId).Ends (s.withDb db) fun result t =>
          (Taken env user [] ((s.db.rolesFor a).takeWhile (s.db.grantable user)) db t.db ∧
            (result.isOk = true ↔ ∀ roleId ∈ s.db.rolesFor a, s.db.grantable user roleId = true)) ∧
          t.db.surveyAnswers = db.surveyAnswers := ⟨happly, hkept⟩
      refine hboth.bind ?_ ?_
      · rintro e t ⟨⟨htaken', hok⟩, -⟩
        refine ⟨htaken'.surveyResponses.trans htaken.surveyResponses, ?_, fun h => by cases h⟩
        refine iff_of_false (fun h => by cases h) fun h => ?_
        have hsome := hok.mpr (h.roles a List.mem_cons_self)
        cases hsome
      · rintro roleIds t ⟨⟨htaken', hok⟩, hsame⟩
        have hall : ∀ roleId ∈ s.db.rolesFor a, s.db.grantable user roleId = true := hok.mp rfl
        rw [List.takeWhile_eq_self_iff.mpr hall] at htaken'
        have hone : Taken env user [a.questionId] (s.db.rolesFor a) s.db t.db :=
          htaken.trans htaken'
        refine (ih t (hone.surveyResponses ▸ hresponse)).bind ?_ ?_
        · rintro e u ⟨hresponses, hiff, -⟩
          refine ⟨hresponses.trans hone.surveyResponses, ?_, fun h => by cases h⟩
          rw [← hone.storableNext_iff hall hfree]
          exact hiff
        · rintro applied u ⟨hresponses, hiff, hstored⟩
          refine ⟨hresponses.trans hone.surveyResponses, ?_, fun _ => ?_⟩
          · rw [← hone.storableNext_iff hall hfree]
            exact hiff
          · have hrest := hstored rfl
            constructor
            · rw [List.map_cons, List.flatMap_cons, ← hone.rolesFor]
              exact (hone.rolesFor ▸ hone).trans hrest.toTaken
            · rw [Prog.run_pure, hrest.rows, hsame, rows_of_insertSurveyAnswer hrun,
                List.append_assoc]
              rfl

end Answers

/-! ## The handler -/

section Submission

variable {env : SurveyEnv} {user : String} {req : SubmitSurveyRequest} {s : AppState}

/-- What `submit_survey` does once the request has passed the checks. -/
def storeSubmission (env : SurveyEnv) (user : String) (req : SubmitSurveyRequest) :
    Handler SubmitSurveyResponse := do
  executeOr surveyResponseError
    (insertSurveyResponse ⟨env.responseId, user, req.surveyId, env.now⟩)
  let appliedRoles ← submitAnswers env user req.answers
  let nextState ← settleApproval user (req.answers.any (·.hasText))
  pure ⟨nextState, appliedRoles⟩

theorem run_submitSurvey (env : SurveyEnv) (user : String) (req : SubmitSurveyRequest)
    (s : AppState) :
    (submitSurvey env user req).run s =
      (.ofExcept (s.db.surveyCheck req) >>= fun _ => storeSubmission env user req).run s := by
  unfold submitSurvey Db.surveyCheck
  rw [Prog.run_bind_of_ok (run_loadActiveSurveyPublic s)]
  cases s.db.activeSurvey? with
  | none => rfl
  | some survey =>
      dsimp only [Option.map_some]
      by_cases hid : survey.id = req.surveyId
      · rw [Prog.run_bind_of_ok (Prog.run_ensure_of_pos hid _ s), if_pos hid]
        rfl
      · rw [Prog.run_bind_of_error (Prog.run_ensure_of_neg hid _ s), if_neg hid]
        rfl

/-- A response is stored unless the user has responded already. -/
theorem insertSurveyResponse_of_fresh (row : SurveyResponseRow) {db : Db}
    (hfresh : db.surveyResponses.has row.id = false)
    (hfirst : ¬ db.HasResponded row.pubkey row.surveyId) :
    ∃ table, insertSurveyResponse row db = .ok { db with surveyResponses := table } ∧
      table.rows = db.surveyResponses.rows ++ [row] := by
  obtain ⟨table, hinsert, hrows⟩ := Table.insert?_of_free hfresh
  refine ⟨table, ?_, hrows⟩
  have hnone : ¬ (db.surveyResponses.rows.any fun old =>
      old.pubkey = row.pubkey ∧ old.surveyId = row.surveyId) = true := by
    rw [List.any_eq_true]
    rintro ⟨old, hold, hsame⟩
    exact hfirst ⟨old, hold, of_decide_eq_true hsame⟩
  rw [insertSurveyResponse, if_neg hnone, hinsert]

theorem insertSurveyResponse_of_responded (row : SurveyResponseRow) {db : Db}
    (h : db.HasResponded row.pubkey row.surveyId) :
    insertSurveyResponse row db =
      .error (.unique "survey_responses.pubkey, survey_responses.survey_id") := by
  obtain ⟨old, hold, hsame⟩ := h
  rw [insertSurveyResponse, if_pos]
  rw [List.any_eq_true]
  exact ⟨old, hold, decide_eq_true hsame⟩

theorem run_settleApproval (user : String) (hasText : Bool) (s : AppState) :
    ∃ text, (settleApproval user hasText).run s =
      (.ok text, s.withDb (setApprovalStatus user (if hasText then .pending else .approved)
        s.db)) := by
  cases hasText with
  | true => exact ⟨"pending", rfl⟩
  | false => exact ⟨"approved", rfl⟩

theorem approvalStatus_setApprovalStatus (user key : String) (status : ApprovalStatus) (db : Db) :
    ((setApprovalStatus user status db).users.find? key).map (·.approvalStatus) =
      (db.users.find? key).map fun row => if key = user then status else row.approvalStatus := by
  show ((db.users.update (·.publicKey = user) (fun row => { row with approvalStatus := status })
    fun _ => rfl).find? key).map (·.approvalStatus) = _
  rw [Table.find?_update, Option.map_map]
  apply Option.map_congr
  intro row hrow
  have hkey : row.publicKey = key := (Table.find?_eq_some_iff.mp hrow).2
  rw [Function.comp_apply, hkey]
  by_cases huser : key = user
  · rw [if_pos (decide_eq_true huser), if_pos huser]
  · rw [if_neg (by simpa using huser), if_neg huser]

/-- The response is stored, and the rest is stored exactly if it can be. -/
theorem storeSubmission_whole_iff
    (hkeys : s.db.surveyAnswers.Refers (fun row => some row.responseId) s.db.surveyResponses)
    (hfresh : s.db.surveyResponses.has env.responseId = false)
    (hfirst : ¬ s.db.HasResponded user req.surveyId) :
    (storeSubmission env user req).AllOrNothing
        (SameSubmissions s) (fun _ => Recorded env user req s) s ↔
      s.db.Storable user req.answers := by
  obtain ⟨table, hinsert, hrows⟩ := insertSurveyResponse_of_fresh
    ⟨env.responseId, user, req.surveyId, env.now⟩ hfresh hfirst
  have hresponse : table.has env.responseId = true := by
    rw [Table.has_of_append hrows]
    exact .inr rfl
  have hfree : ∀ questionId, s.db.surveyAnswers.has (env.responseId, questionId) = false := by
    intro questionId
    rw [Table.has_eq_false_iff]
    intro row hrow hkey
    have hthere := hkeys row hrow row.responseId rfl
    rw [show row.responseId = env.responseId from congrArg Prod.fst hkey, hfresh] at hthere
    cases hthere
  have hnext : (s.withDb { s.db with surveyResponses := table }).db.StorableNext env user
    req.answers ↔
      s.db.Storable user req.answers := by
    constructor
    · exact fun h => ⟨h.questions, h.roles⟩
    · exact fun h => ⟨⟨h.questions, h.roles⟩, fun a _ => hfree a.questionId⟩
  obtain ⟨hkept, hiff, hstored⟩ := ends_submitAnswers_stored env user req.answers
    (s.withDb { s.db with surveyResponses := table }) hresponse
  unfold storeSubmission
  rw [Prog.allOrNothing_bind_of_ok (run_executeOr_of_ok hinsert), ← hnext, ← hiff]
  rcases hrun : (submitAnswers env user req.answers).run
    (s.withDb { s.db with surveyResponses := table }) with ⟨e | roleIds, t⟩
  · rw [hrun] at hkept
    rw [Prog.allOrNothing_bind_of_error hrun]
    refine iff_of_false ?_ fun h => by cases h
    intro hsame
    have hold : table = s.db.surveyResponses := hkept.symm.trans hsame.responses
    rw [hold, hfresh] at hresponse
    cases hresponse
  · rw [hrun] at hkept hstored
    obtain ⟨text, hsettle⟩ := run_settleApproval user (req.answers.any (·.hasText)) t
    rw [Prog.allOrNothing_bind_of_ok hrun, Prog.allOrNothing_bind_of_ok hsettle,
      Prog.allOrNothing_iff_of_ok (Prog.run_pure _ _)]
    refine iff_of_true ?_ rfl
    have hall := hstored rfl
    constructor
    · exact (congrArg Table.rows hkept).trans hrows
    · exact hall.rows
    · exact hall.roleIds
    · intro key
      rw [withDb_db, approvalStatus_setApprovalStatus, hall.users]
      rfl

/-- A submission is stored as a whole or not at all exactly if the response is not taken, or no
question is answered twice and every role that is brought can be given. -/
theorem submitsWhole_iff
    (hkeys : s.db.surveyAnswers.Refers (fun row => some row.responseId) s.db.surveyResponses)
    (hfresh : s.db.surveyResponses.has env.responseId = false) :
    SubmitsWhole env user req s ↔
      (s.db.surveyCheck req = .ok () → ¬ s.db.HasResponded user req.surveyId →
        s.db.Storable user req.answers) := by
  have hwhole : (submitSurvey env user req).AllOrNothing
      (SameSubmissions s) (fun _ => Recorded env user req s) s ↔
        (s.db.surveyCheck req = .ok () → ¬ s.db.HasResponded user req.surveyId →
          s.db.Storable user req.answers) := by
    rw [Prog.allOrNothing_congr (run_submitSurvey env user req s),
      Prog.allOrNothing_ofExcept_bind (.refl s)]
    apply imp_congr_right
    intro _
    by_cases hresponded : s.db.HasResponded user req.surveyId
    · have hrefused := insertSurveyResponse_of_responded
        ⟨env.responseId, user, req.surveyId, env.now⟩ hresponded
      unfold storeSubmission
      rw [Prog.allOrNothing_bind_of_error (run_executeOr_of_error hrefused)]
      exact iff_of_true (.refl s) fun hnot => absurd hresponded hnot
    · rw [storeSubmission_whole_iff hkeys hfresh hresponded, imp_iff_right hresponded]
  rw [← hwhole]
  exact ⟨fun h => h.whole, fun h => ⟨h, fun honce moves => respondedOnce_serve moves honce⟩⟩

/-- A guest of the hub answers the question of its survey. -/
theorem red_submitsWhole :
    SubmitsWhole ⟨10, "response"⟩ "guest" ⟨"new", [⟨"colour?", some "red", none⟩]⟩ surveyingHub :=
  (submitsWhole_iff (by decide) (by decide)).mpr fun _ _ => ⟨by decide, by decide⟩

/-- The question is answered twice: the request fails, and the response is stored. -/
theorem twice_not_submitsWhole :
    ¬ SubmitsWhole ⟨10, "response"⟩ "guest"
      ⟨"new", [⟨"colour?", some "red", none⟩, ⟨"colour?", none, some "dark"⟩]⟩ surveyingHub := by
  have hrun : ((submitSurvey ⟨10, "response"⟩ "guest"
      ⟨"new", [⟨"colour?", some "red", none⟩, ⟨"colour?", none, some "dark"⟩]⟩).run
        surveyingHub).1.isOk = false ∧
      ((submitSurvey ⟨10, "response"⟩ "guest"
        ⟨"new", [⟨"colour?", some "red", none⟩, ⟨"colour?", none, some "dark"⟩]⟩).run
          surveyingHub).2.db.surveyResponses.has "response" = true := by
    decide +kernel
  intro h
  rcases hanswer : (submitSurvey ⟨10, "response"⟩ "guest"
    ⟨"new", [⟨"colour?", some "red", none⟩, ⟨"colour?", none, some "dark"⟩]⟩).run surveyingHub with
    ⟨e | answer, t⟩
  · rw [hanswer] at hrun
    have hthere := hrun.2
    rw [(h.whole.failed e t hanswer).responses] at hthere
    cases hthere
  · rw [hanswer] at hrun
    cases hrun.1

end Submission

end Voxply.Hub
