/-
# The onboarding survey

A hub can ask newcomers a few questions.  Answers are stored, and a choice may bring roles:
`survey_choice_roles` says which.  A submission has to name the active survey and to answer
the required questions.

Beyond that nothing is checked: a choice brings its roles whichever question it is given
for, and whichever survey it was made for.  The grants are right exactly when every role that
a submission gets to is one that the user has anyway or one that a choice of the answered
question brings.
-/

import Mathlib.Data.List.TakeWhile
import Voxply.Hub.Verify

namespace Voxply.Hub

open Voxply.Math

/-! ## Requests and answers -/

structure SurveyChoicePublic where
  id : String
  label : String
  displayOrder : Int
  deriving DecidableEq

structure SurveyQuestionPublic where
  id : String
  prompt : String
  kind : String
  required : Bool
  displayOrder : Int
  choices : Option (List SurveyChoicePublic)
  deriving DecidableEq

structure SurveyPublic where
  id : String
  questions : List SurveyQuestionPublic
  deriving DecidableEq

structure SurveyAnswerInput where
  questionId : String
  choiceId : Option String := none
  textAnswer : Option String := none
  deriving DecidableEq

structure SubmitSurveyRequest where
  surveyId : String
  answers : List SurveyAnswerInput
  deriving DecidableEq

structure SubmitSurveyResponse where
  nextState : String
  appliedRoles : List String
  deriving DecidableEq

/-- What the surroundings supply: the clock and a fresh identifier. -/
structure SurveyEnv where
  now : Int
  responseId : String
  deriving DecidableEq

/-! ## Handlers -/

/-- `SELECT id, enabled FROM surveys WHERE enabled = 1 LIMIT 1`. -/
def Db.activeSurvey? (db : Db) : Option SurveyRow :=
  db.surveys.rows.find? (·.enabled = 1)

/-- `SELECT ... FROM survey_questions WHERE survey_id = ? ORDER BY display_order`. -/
def Db.questionsOf (db : Db) (surveyId : String) : List SurveyQuestionRow :=
  (db.surveyQuestions.rows.filter (·.surveyId = surveyId)).mergeSort fun first second =>
    first.displayOrder ≤ second.displayOrder

/-- `SELECT ... FROM survey_choices WHERE question_id = ? ORDER BY display_order`. -/
def Db.choicesOf (db : Db) (questionId : String) : List SurveyChoiceRow :=
  (db.surveyChoices.rows.filter (·.questionId = questionId)).mergeSort fun first second =>
    first.displayOrder ≤ second.displayOrder

/-- `SELECT role_id FROM survey_choice_roles WHERE choice_id = ?`. -/
def Db.choiceRoles (db : Db) (choiceId : String) : List String :=
  (db.surveyChoiceRoles.rows.filter (·.choiceId = choiceId)).map (·.roleId)

/-- A choice as it is shown, without its roles. -/
def SurveyChoiceRow.shown (c : SurveyChoiceRow) : SurveyChoicePublic :=
  ⟨c.id, c.label, c.displayOrder⟩

/-- The choices of a question, if it has any. -/
def loadChoices (q : SurveyQuestionRow) : Handler (Option (List SurveyChoicePublic)) :=
  if q.kind = "choice" then do
    let rows ← fetch (·.choicesOf q.id)
    pure (some (rows.map SurveyChoiceRow.shown))
  else pure none

/-- A question as it is shown. -/
def SurveyQuestionRow.shown (q : SurveyQuestionRow) (choices : Option (List SurveyChoicePublic)) :
    SurveyQuestionPublic :=
  ⟨q.id, q.prompt, q.kind, decide (q.required ≠ 0), q.displayOrder, choices⟩

def loadQuestions : List SurveyQuestionRow → Handler (List SurveyQuestionPublic)
  | [] => pure []
  | q :: rest => do
      let choices ← loadChoices q
      let questions ← loadQuestions rest
      pure (q.shown choices :: questions)

/-- `load_active_survey_public`. -/
def loadActiveSurveyPublic : Handler (Option SurveyPublic) := do
  let survey ← fetch (·.activeSurvey?)
  match survey with
  | none => pure none
  | some survey => do
      let rows ← fetch (·.questionsOf survey.id)
      let questions ← loadQuestions rows
      pure (some ⟨survey.id, questions⟩)

def SurveyAnswerInput.hasText (a : SurveyAnswerInput) : Bool :=
  a.textAnswer.any (· ≠ "")

/-- Every required question is answered. -/
def checkRequired (answers : List SurveyAnswerInput) (questions : List SurveyQuestionPublic) :
    Except ApiError Unit :=
  match questions.find? fun q =>
      q.required && !answers.any fun a =>
        a.questionId = q.id && (a.choiceId.isSome || a.hasText) with
  | none => .ok ()
  | some q => .error ⟨.unprocessableEntity, "Required question '" ++ q.id ++ "' not answered"⟩

/-- `INSERT INTO survey_responses`: a user responds to a survey once. -/
def insertSurveyResponse (row : SurveyResponseRow) (db : Db) : Except SqlError Db :=
  if db.surveyResponses.rows.any fun old => old.pubkey = row.pubkey ∧
    old.surveyId = row.surveyId then
    .error (.unique "survey_responses.pubkey, survey_responses.survey_id")
  else
    match db.surveyResponses.insert? row with
    | none => .error (.primaryKey "survey_responses.id")
    | some surveyResponses => .ok { db with surveyResponses := surveyResponses }

/-- The answer to a response that could not be stored. -/
def surveyResponseError (e : SqlError) : ApiError :=
  if e.mentionsUnique then ⟨.conflict, "Survey already submitted"⟩ else dbError e

/-- `INSERT INTO survey_answers`. -/
def insertSurveyAnswer (row : SurveyAnswerRow) (db : Db) : Except SqlError Db :=
  match db.surveyAnswers.insert? row with
  | none => .error (.primaryKey "survey_answers.response_id, survey_answers.question_id")
  | some surveyAnswers =>
      if db.surveyResponses.has row.responseId then .ok { db with surveyAnswers := surveyAnswers }
      else .error .foreignKey

/-- Apply the role mappings of a choice. -/
def applyChoice (env : SurveyEnv) (user : String) : Option String → Handler (List String)
  | none => pure []
  | some choiceId => do
      let roleIds ← fetch (·.choiceRoles choiceId)
      .each roleIds fun roleId => execute (insertUserRoleOrIgnore ⟨user, roleId, env.now⟩)
      pure roleIds

/-- Store the answers and collect the roles that are applied. -/
def submitAnswers (env : SurveyEnv) (user : String) :
    List SurveyAnswerInput → Handler (List String)
  | [] => pure []
  | a :: rest => do
      execute (insertSurveyAnswer ⟨env.responseId, a.questionId, a.choiceId, a.textAnswer⟩)
      let roleIds ← applyChoice env user a.choiceId
      let appliedRoles ← submitAnswers env user rest
      pure (roleIds ++ appliedRoles)

/-- `UPDATE users SET approval_status = ? WHERE public_key = ?`. -/
def setApprovalStatus (publicKey : String) (status : ApprovalStatus) (db : Db) : Db :=
  updateUser publicKey (fun row => { row with approvalStatus := status }) (fun _ => rfl) db

/-- The end of `submit_survey`: texts have to be looked at. -/
def settleApproval (user : String) (hasText : Bool) : Handler String :=
  if hasText then do
    write (setApprovalStatus user .pending)
    pure "pending"
  else do
    write (setApprovalStatus user .approved)
    pure "approved"

def submitSurvey (env : SurveyEnv) (user : String) (req : SubmitSurveyRequest) :
    Handler SubmitSurveyResponse := do
  let survey ← loadActiveSurveyPublic
  match survey with
  | none => .fail ⟨.notFound, "No active survey"⟩
  | some survey => do
      .ensure (survey.id = req.surveyId) ⟨.badRequest, "survey_id does not match active survey"⟩
      .ofExcept (checkRequired req.answers survey.questions)
      executeOr surveyResponseError
        (insertSurveyResponse ⟨env.responseId, user, req.surveyId, env.now⟩)
      let appliedRoles ← submitAnswers env user req.answers
      let nextState ← settleApproval user (req.answers.any (·.hasText))
      pure ⟨nextState, appliedRoles⟩

/-! ## What is to hold -/

/-- The choice with which a question is answered: the first answer counts, if its choice
belongs to the question. -/
def Db.countedChoice (db : Db) (req : SubmitSurveyRequest) (questionId : String) : Option String :=
  ((req.answers.find? (·.questionId = questionId)).bind (·.choiceId)).filter fun choiceId =>
    (db.surveyChoices.find? choiceId).any (·.questionId = questionId)

/-- A choice that counts for a question of the active survey brings the role. -/
def Db.Earned (db : Db) (req : SubmitSurveyRequest) (roleId : String) : Prop :=
  ∃ survey ∈ db.activeSurvey?, ∃ question ∈ db.surveyQuestions.rows, question.surveyId = survey.id ∧
    ∃ choiceId ∈ db.countedChoice req question.id, roleId ∈ db.choiceRoles choiceId

/-- A submission grants the roles that it has earned and no others. -/
structure GrantsRight (env : SurveyEnv) (user : String) (req : SubmitSurveyRequest) (s : AppState) :
    Prop where
  only : ∀ key, ((submitSurvey env user req).run s).2.db.userRoles.has key = true →
    s.db.userRoles.has key = true ∨ key.1 = user ∧ s.db.Earned req key.2
  all : ((submitSurvey env user req).run s).1.isOk = true → ∀ roleId, s.db.Earned req roleId →
    ((submitSurvey env user req).run s).2.db.userRoles.has (user, roleId) = true
  kept : ∀ key, s.db.userRoles.has key = true →
    ((submitSurvey env user req).run s).2.db.userRoles.has key = true

/-! ## How far a submission gets -/

def Db.publicQuestion (db : Db) (q : SurveyQuestionRow) : SurveyQuestionPublic :=
  q.shown (if q.kind = "choice" then some ((db.choicesOf q.id).map (·.shown)) else none)

/-- The checks before the response is stored. -/
def Db.surveyCheck (db : Db) (req : SubmitSurveyRequest) : Except ApiError Unit :=
  match db.activeSurvey? with
  | none => .error ⟨.notFound, "No active survey"⟩
  | some survey =>
      if survey.id = req.surveyId then
        checkRequired req.answers ((db.questionsOf survey.id).map db.publicQuestion)
      else .error ⟨.badRequest, "survey_id does not match active survey"⟩

/-- The submission passes the checks, and its response can be stored. -/
def Db.TakesResponse (db : Db) (env : SurveyEnv) (user : String)
    (req : SubmitSurveyRequest) : Prop :=
  db.surveyCheck req = .ok () ∧
    (insertSurveyResponse ⟨env.responseId, user, req.surveyId, env.now⟩ db).isOk = true

/-- The answers up to the first question that is answered already. -/
def recordable (answered : String → Bool) : List SurveyAnswerInput → List SurveyAnswerInput
  | [] => []
  | a :: rest =>
      if answered a.questionId then []
      else a :: recordable (fun questionId => answered questionId || questionId = a.questionId) rest

/-- The roles that an answer brings. -/
def Db.rolesFor (db : Db) (a : SurveyAnswerInput) : List String :=
  a.choiceId.toList.flatMap db.choiceRoles

/-- The user has the role, or it can be given to them. -/
def Db.grantable (db : Db) (user roleId : String) : Bool :=
  db.userRoles.has (user, roleId) || (db.users.has user && db.roles.has roleId)

/-- The roles that a submission gets to: it ends at a question that is answered again and at
a role that no longer exists. -/
def Db.reachedRoles (db : Db) (env : SurveyEnv) (user : String) (answers : List SurveyAnswerInput) :
    List String :=
  ((recordable (fun questionId => db.surveyAnswers.has (env.responseId, questionId))
    answers).flatMap db.rolesFor).takeWhile (db.grantable user)

/-- The choice of an answer is one of the question's, and the question is one of the active
survey's. -/
def Db.Fits (db : Db) (a : SurveyAnswerInput) : Prop :=
  ∃ survey ∈ db.activeSurvey?, ∃ question ∈ db.surveyQuestions.rows, question.surveyId = survey.id ∧
    question.id = a.questionId ∧
    ∃ choiceId ∈ a.choiceId,
    (db.surveyChoices.find? choiceId).any (·.questionId = a.questionId) = true

/-- Choices that do not fit bring nothing, as far as the submission gets to their roles. -/
def Db.MisfitsBringNothing (db : Db) (env : SurveyEnv) (user : String) (req : SubmitSurveyRequest) :
    Prop :=
  ∀ a ∈ req.answers, ¬ db.Fits a → ∀ roleId ∈ db.rolesFor a,
    roleId ∈ db.reachedRoles env user req.answers →
      db.userRoles.has (user, roleId) = true ∨ db.Earned req roleId

/-! ## Loading the survey -/

theorem run_loadChoices (q : SurveyQuestionRow) (s : AppState) :
    (loadChoices q).run s =
      (.ok (if q.kind = "choice" then some ((s.db.choicesOf q.id).map (·.shown)) else none),
        s) := by
  unfold loadChoices
  split_ifs <;> rfl

theorem run_loadQuestions (rows : List SurveyQuestionRow) (s : AppState) :
    (loadQuestions rows).run s = (.ok (rows.map s.db.publicQuestion), s) := by
  induction rows with
  | nil => rfl
  | cons q rest ih =>
      unfold loadQuestions
      rw [Prog.run_bind_of_ok (run_loadChoices q s), Prog.run_bind_of_ok ih]
      rfl

theorem run_loadActiveSurveyPublic (s : AppState) :
    loadActiveSurveyPublic.run s = (.ok (s.db.activeSurvey?.map fun survey =>
      ⟨survey.id, (s.db.questionsOf survey.id).map s.db.publicQuestion⟩), s) := by
  unfold loadActiveSurveyPublic
  rw [Prog.run_bind_of_ok (run_fetch _ s)]
  cases s.db.activeSurvey? with
  | none => rfl
  | some survey =>
      dsimp only
      rw [Prog.run_bind_of_ok (run_fetch _ s), Prog.run_bind_of_ok (run_loadQuestions _ s)]
      rfl

/-! ## Storing the answers -/

section Answers

variable {env : SurveyEnv} {user : String} {s t : AppState} {db db' : Db}

/-- Between the two stores, these questions were answered and these roles granted. -/
structure Taken (env : SurveyEnv) (user : String) (questions roleIds : List String) (db db' : Db) :
    Prop where
  roleIds : ∀ key, db'.userRoles.has key = true ↔
    db.userRoles.has key = true ∨ key.1 = user ∧ key.2 ∈ roleIds
  questions : ∀ questionId, db'.surveyAnswers.has (env.responseId, questionId) = true ↔
    db.surveyAnswers.has (env.responseId, questionId) = true ∨ questionId ∈ questions
  users : db'.users = db.users
  roles : db'.roles = db.roles
  surveyChoiceRoles : db'.surveyChoiceRoles = db.surveyChoiceRoles
  surveyResponses : db'.surveyResponses = db.surveyResponses

theorem Taken.refl (db : Db) : Taken env user [] [] db db :=
  ⟨by simp, by simp, rfl, rfl, rfl, rfl⟩

theorem Taken.trans {questions questions' roleIds roleIds' : List String} {db'' : Db}
    (h : Taken env user questions roleIds db db')
    (h' : Taken env user questions' roleIds' db' db'') :
    Taken env user (questions ++ questions') (roleIds ++ roleIds') db db'' where
  roleIds key := by
    rw [h'.roleIds, h.roleIds, List.mem_append, and_or_left, or_assoc]
  questions questionId := by
    rw [h'.questions, h.questions, List.mem_append, or_assoc]
  users := h'.users.trans h.users
  roles := h'.roles.trans h.roles
  surveyChoiceRoles := h'.surveyChoiceRoles.trans h.surveyChoiceRoles
  surveyResponses := h'.surveyResponses.trans h.surveyResponses

/-- An answer is stored unless the question is answered already. -/
theorem insertSurveyAnswer_cases (user : String)
    (hresponse : db.surveyResponses.has env.responseId = true) (a : SurveyAnswerInput) :
    (∃ e, insertSurveyAnswer ⟨env.responseId, a.questionId, a.choiceId, a.textAnswer⟩
      db = .error e ∧
        db.surveyAnswers.has (env.responseId, a.questionId) = true) ∨
      ∃ db', insertSurveyAnswer ⟨env.responseId, a.questionId, a.choiceId, a.textAnswer⟩
      db = .ok db' ∧
        db.surveyAnswers.has (env.responseId, a.questionId) = false ∧
        Taken env user [a.questionId] [] db db' := by
  unfold insertSurveyAnswer
  cases hinsert : db.surveyAnswers.insert? ⟨env.responseId, a.questionId, a.choiceId,
    a.textAnswer⟩ with
  | none =>
      refine .inl ⟨_, rfl, ?_⟩
      exact Table.has_iff.mpr (Table.insert?_eq_none_iff.mp hinsert)
  | some surveyAnswers =>
      obtain ⟨hfree, hrows⟩ := Table.insert?_eq_some_iff.mp hinsert
      refine .inr ⟨{ db with surveyAnswers := surveyAnswers }, if_pos hresponse, ?_, ?_⟩
      · exact Table.has_eq_false_iff.mpr hfree
      · refine ⟨by simp, fun questionId => ?_, rfl, rfl, rfl, rfl⟩
        rw [Table.has_of_append hrows, List.mem_singleton]
        apply or_congr_right
        simp only [SurveyAnswerRow.key, Prod.mk.injEq, true_and]
        exact eq_comm

/-- A role is granted if it can be. -/
theorem insertUserRoleOrIgnore_cases (env : SurveyEnv) (user roleId : String) (db : Db) :
    (∃ e, insertUserRoleOrIgnore ⟨user, roleId, env.now⟩ db = .error e ∧
        db.grantable user roleId = false) ∨
      ∃ db', insertUserRoleOrIgnore ⟨user, roleId, env.now⟩ db = .ok db' ∧
        db.grantable user roleId = true ∧ Taken env user [] [roleId] db db' := by
  have hkey : UserRoleRow.key ⟨user, roleId, env.now⟩ = (user, roleId) := rfl
  unfold insertUserRoleOrIgnore Db.grantable
  rw [hkey]
  cases hhas : db.userRoles.has (user, roleId) with
  | true =>
      refine .inr ⟨db, rfl, rfl, fun key => ?_, by simp, rfl, rfl, rfl, rfl⟩
      rw [List.mem_singleton]
      constructor
      · exact .inl
      · rintro (h | ⟨hfst, hsnd⟩)
        · exact h
        · rwa [show key = (user, roleId) from Prod.ext hfst hsnd]
  | false =>
      rw [if_neg Bool.false_ne_true, Bool.false_or]
      have hfree : db.userRoles.has (UserRoleRow.key ⟨user, roleId, env.now⟩) = false := hhas
      obtain ⟨userRoles, hinsert, hrows⟩ := Table.insert?_of_free hfree
      unfold insertUserRole
      rw [hinsert]
      by_cases hexists : db.users.has user = true ∧ db.roles.has roleId = true
      · refine .inr ⟨{ db with userRoles := userRoles }, if_pos hexists, ?_, ?_, ?_, rfl,
          rfl, rfl, rfl⟩
        · rw [hexists.1, hexists.2]
          rfl
        · intro key
          rw [Table.has_of_append hrows, List.mem_singleton]
          apply or_congr_right
          simp only [UserRoleRow.key, Prod.ext_iff]
          exact and_congr eq_comm eq_comm
        · simp
      · refine .inl ⟨_, if_neg hexists, ?_⟩
        rw [Bool.and_eq_false_iff]
        simpa [imp_iff_not_or] using hexists

/-- What can be granted does not depend on what was granted. -/
theorem Taken.grantable {questions roleIds : List String}
    (h : Taken env user questions roleIds db db')
    (hgrantable : ∀ roleId ∈ roleIds, db.grantable user roleId = true) :
    db'.grantable user = db.grantable user := by
  funext roleId
  rw [Bool.eq_iff_iff]
  unfold Db.grantable
  rw [h.users, h.roles, Bool.or_eq_true, Bool.or_eq_true, h.roleIds]
  constructor
  · rintro ((hold | ⟨-, hmem⟩) | hexists)
    · exact .inl hold
    · exact Bool.or_eq_true _ _ ▸ hgrantable roleId hmem
    · exact .inr hexists
  · rintro (hold | hexists)
    · exact .inl (.inl hold)
    · exact .inr hexists

theorem Taken.rolesFor {questions roleIds : List String}
    (h : Taken env user questions roleIds db db') : db'.rolesFor = db.rolesFor := by
  funext a
  unfold Db.rolesFor
  congr 1
  funext choiceId
  rw [Db.choiceRoles, Db.choiceRoles, h.surveyChoiceRoles]

/-- A loop over roles grants them up to the first that cannot be granted. -/
theorem ends_grant (roleIds : List String) (s : AppState) :
    (Prog.each roleIds fun roleId =>
      execute (insertUserRoleOrIgnore ⟨user, roleId, env.now⟩)).Ends s fun result t =>
        Taken env user [] (roleIds.takeWhile (s.db.grantable user)) s.db t.db ∧
          (result.isOk = true ↔ ∀ roleId ∈ roleIds, s.db.grantable user roleId = true) := by
  induction roleIds generalizing s with
  | nil => exact ⟨Taken.refl s.db, by simp [Prog.each, Except.isOk, Except.toBool]⟩
  | cons roleId rest ih =>
      rw [Prog.Ends, Prog.run_each_cons]
      rcases insertUserRoleOrIgnore_cases env user roleId s.db with
        ⟨e, hrun, hrefused⟩ | ⟨db, hrun, hgranted, htaken⟩
      · rw [Prog.run_bind_of_error (run_execute_of_error hrun),
          List.takeWhile_cons_of_neg (by simp [hrefused])]
        refine ⟨Taken.refl s.db, ?_⟩
        simp [Except.isOk, Except.toBool, hrefused]
      · rw [Prog.run_bind_of_ok (run_execute_of_ok hrun), List.takeWhile_cons_of_pos hgranted]
        obtain ⟨hrest, hok⟩ := ih (s.withDb db)
        have hsame : (s.withDb db).db.grantable user = s.db.grantable user := by
          apply htaken.grantable
          simpa using hgranted
        rw [hsame] at hrest hok
        refine ⟨htaken.trans hrest, ?_⟩
        rw [hok, List.forall_mem_cons]
        simp [hgranted]

theorem ends_applyChoice (env : SurveyEnv) (user : String) (a : SurveyAnswerInput) (s : AppState) :
    (applyChoice env user a.choiceId).Ends s fun result t =>
      Taken env user [] ((s.db.rolesFor a).takeWhile (s.db.grantable user)) s.db t.db ∧
        (result.isOk = true ↔ ∀ roleId ∈ s.db.rolesFor a, s.db.grantable user roleId = true) := by
  cases hchoice : a.choiceId with
  | none =>
      have hnone : s.db.rolesFor a = [] := by simp [Db.rolesFor, hchoice]
      rw [hnone]
      exact ⟨Taken.refl s.db, by simp [applyChoice, Except.isOk, Except.toBool]⟩
  | some choiceId =>
      have hsome : s.db.rolesFor a = s.db.choiceRoles choiceId := by simp [Db.rolesFor, hchoice]
      rw [hsome]
      unfold applyChoice
      rw [Prog.ends_bind_of_ok (run_fetch _ s)]
      refine (ends_grant (s.db.choiceRoles choiceId) s).bind ?_ ?_
      · exact fun e t h => h
      · rintro ⟨⟩ t ⟨htaken, hok⟩
        exact ⟨htaken, hok⟩

/-- What is left to reach after an answer and its roles. -/
theorem Taken.reachedRoles {a : SurveyAnswerInput} {roleIds : List String}
    (h : Taken env user [a.questionId] roleIds db db')
    (hgrantable : ∀ roleId ∈ roleIds, db.grantable user roleId = true)
    (rest : List SurveyAnswerInput) :
    db'.reachedRoles env user rest =
      ((recordable (fun questionId => db.surveyAnswers.has (env.responseId, questionId) ||
        questionId = a.questionId) rest).flatMap db.rolesFor).takeWhile (db.grantable user) := by
  have hanswered : (fun questionId => db'.surveyAnswers.has (env.responseId, questionId)) =
      fun questionId => db.surveyAnswers.has (env.responseId, questionId) ||
        decide (questionId = a.questionId) := by
    funext questionId
    rw [Bool.eq_iff_iff, h.questions, Bool.or_eq_true, List.mem_singleton, decide_eq_true_eq]
  rw [Db.reachedRoles, hanswered, h.rolesFor, h.grantable hgrantable]

/-- The answers are stored and their roles granted up to the first that is refused. -/
theorem ends_submitAnswers (answers : List SurveyAnswerInput) (s : AppState)
    (hresponse : s.db.surveyResponses.has env.responseId = true) :
    (submitAnswers env user answers).Ends s fun result t =>
      (∃ questions, Taken env user questions (s.db.reachedRoles env user answers) s.db t.db) ∧
        (result.isOk = true → s.db.reachedRoles env user answers =
          answers.flatMap s.db.rolesFor) := by
  induction answers generalizing s with
  | nil => exact ⟨⟨[], Taken.refl s.db⟩, fun _ => rfl⟩
  | cons a rest ih =>
      unfold submitAnswers Db.reachedRoles recordable
      rcases insertSurveyAnswer_cases user hresponse a with
        ⟨e, hrun, hanswered⟩ | ⟨db, hrun, hfree, htaken⟩
      · rw [Prog.Ends, Prog.run_bind_of_error (run_execute_of_error hrun), if_pos hanswered]
        exact ⟨⟨[], Taken.refl s.db⟩, by simp [Except.isOk, Except.toBool]⟩
      rw [Prog.ends_bind_of_ok (run_execute_of_ok hrun), if_neg (by simp [hfree]),
        List.flatMap_cons]
      have hgrantable : (s.withDb db).db.grantable user = s.db.grantable user :=
        htaken.grantable (by simp)
      have hroles : (s.withDb db).db.rolesFor = s.db.rolesFor := htaken.rolesFor
      have happly := ends_applyChoice env user a (s.withDb db)
      rw [hgrantable, hroles] at happly
      refine happly.bind ?_ ?_
      · rintro e t ⟨htaken', hok⟩
        have hstopped : ((s.db.rolesFor a).takeWhile (s.db.grantable user)).length ≠
            (s.db.rolesFor a).length := by
          intro hlength
          have hsome := hok.mpr (List.takeWhile_eq_self_iff.mp
            ((List.takeWhile_prefix _).eq_of_length hlength))
          cases hsome
        rw [List.takeWhile_append, if_neg hstopped]
        exact ⟨⟨[a.questionId], htaken.trans htaken'⟩, by simp [Except.isOk, Except.toBool]⟩
      · rintro roleIds t ⟨htaken', hok⟩
        have hall : ∀ roleId ∈ s.db.rolesFor a, s.db.grantable user roleId = true := hok.mp rfl
        rw [List.takeWhile_eq_self_iff.mpr hall] at htaken'
        have hboth : Taken env user [a.questionId] (s.db.rolesFor a) s.db t.db :=
          htaken.trans htaken'
        rw [List.takeWhile_append_of_pos hall, ← hboth.reachedRoles hall]
        refine (ih t (hboth.surveyResponses ▸ hresponse)).bind ?_ ?_
        · rintro e u ⟨⟨questions, hrest⟩, -⟩
          exact ⟨⟨_, hboth.trans hrest⟩, by simp [Except.isOk, Except.toBool]⟩
        · rintro applied u ⟨⟨questions, hrest⟩, hsome⟩
          refine ⟨⟨_, hboth.trans hrest⟩, fun _ => ?_⟩
          rw [hsome rfl, hboth.rolesFor, List.flatMap_cons]

end Answers

/-! ## Submissions -/

section Submissions

variable {env : SurveyEnv} {user : String} {req : SubmitSurveyRequest} {s : AppState}

/-- What a submission leaves: the roles that it gets to, if its response is taken. -/
def Submitted (env : SurveyEnv) (user : String) (req : SubmitSurveyRequest) (s : AppState)
    (result : Except ApiError SubmitSurveyResponse) (t : AppState) : Prop :=
  (∀ key, t.db.userRoles.has key = true ↔ s.db.userRoles.has key = true ∨
      s.db.TakesResponse env user req ∧ key.1 = user ∧
        key.2 ∈ s.db.reachedRoles env user req.answers) ∧
    (result.isOk = true → s.db.TakesResponse env user req ∧
      s.db.reachedRoles env user req.answers = req.answers.flatMap s.db.rolesFor)

/-- A submission that is refused leaves everything as it was. -/
theorem submitted_of_refused (h : ¬ s.db.TakesResponse env user req) (e : ApiError) :
    Submitted env user req s (.error e) s :=
  ⟨by simp [h], by simp [Except.isOk, Except.toBool]⟩

theorem ends_settleApproval (hasText : Bool) (t : AppState) :
    (settleApproval user hasText).Ends t fun result u =>
      result.isOk = true ∧ u.db.userRoles = t.db.userRoles := by
  unfold settleApproval
  split_ifs
  · exact ⟨rfl, rfl⟩
  · exact ⟨rfl, rfl⟩

/-- What `submit_survey` does once the response is stored. -/
theorem ends_answered {db : Db} (htakes : s.db.TakesResponse env user req)
    (hinsert : insertSurveyResponse ⟨env.responseId, user, req.surveyId, env.now⟩ s.db = .ok db) :
    (do
      let appliedRoles ← submitAnswers env user req.answers
      let nextState ← settleApproval user (req.answers.any (·.hasText))
      pure ⟨nextState, appliedRoles⟩ : Handler SubmitSurveyResponse).Ends (s.withDb db)
        (Submitted env user req s) := by
  obtain ⟨surveyResponses, rfl, hresponse⟩ : ∃ surveyResponses,
      db = { s.db with surveyResponses := surveyResponses } ∧
        db.surveyResponses.has env.responseId = true := by
    unfold insertSurveyResponse at hinsert
    split_ifs at hinsert
    split at hinsert
    · cases hinsert
    · rename_i surveyResponses hrow
      cases hinsert
      refine ⟨surveyResponses, rfl, ?_⟩
      rw [Table.has_of_append (Table.insert?_eq_some_iff.mp hrow).2]
      exact .inr rfl
  -- The survey, the roles and the answers so far are those of the state before.
  refine (ends_submitAnswers req.answers _ hresponse).bind ?_ ?_
  · rintro e t ⟨⟨questions, htaken⟩, -⟩
    refine ⟨fun key => ?_, by simp [Except.isOk, Except.toBool]⟩
    rw [htaken.roleIds]
    simp only [htakes, true_and]
    rfl
  · rintro appliedRoles t ⟨⟨questions, htaken⟩, hall⟩
    refine (ends_settleApproval _ t).bind ?_ ?_
    · rintro e u ⟨hok, -⟩
      cases hok
    · rintro nextState u ⟨-, hsame⟩
      refine ⟨fun key => ?_, fun _ => ⟨htakes, hall rfl⟩⟩
      rw [Prog.run_pure, hsame, htaken.roleIds]
      simp only [htakes, true_and]
      rfl

theorem ends_submitSurvey (env : SurveyEnv) (user : String) (req : SubmitSurveyRequest)
    (s : AppState) : (submitSurvey env user req).Ends s (Submitted env user req s) := by
  unfold submitSurvey
  rw [Prog.ends_bind_of_ok (run_loadActiveSurveyPublic s)]
  cases hsurvey : s.db.activeSurvey? with
  | none =>
      apply submitted_of_refused
      simp [Db.TakesResponse, Db.surveyCheck, hsurvey]
  | some survey =>
      dsimp only [Option.map_some]
      by_cases hid : survey.id = req.surveyId
      · rw [Prog.ends_bind_of_ok (Prog.run_ensure_of_pos hid _ s)]
        have hcheck : s.db.surveyCheck req =
            checkRequired req.answers ((s.db.questionsOf survey.id).map s.db.publicQuestion) := by
          rw [Db.surveyCheck, hsurvey]
          exact if_pos hid
        cases hrequired : checkRequired req.answers
            ((s.db.questionsOf survey.id).map s.db.publicQuestion) with
        | error e =>
            apply submitted_of_refused
            simp [Db.TakesResponse, hcheck, hrequired]
        | ok =>
            rw [Prog.ends_bind_of_ok (Prog.run_ofExcept _ s)]
            cases hinsert : insertSurveyResponse ⟨env.responseId, user, req.surveyId,
              env.now⟩ s.db with
            | error e =>
                rw [Prog.Ends, Prog.run_bind_of_error (run_executeOr_of_error hinsert)]
                apply submitted_of_refused
                simp [Db.TakesResponse, hinsert, Except.isOk, Except.toBool]
            | ok db =>
                rw [Prog.ends_bind_of_ok (run_executeOr_of_ok hinsert)]
                refine ends_answered ⟨hcheck.trans hrequired, ?_⟩ hinsert
                rw [hinsert]
                rfl
      · rw [Prog.Ends, Prog.run_bind_of_error (Prog.run_ensure_of_neg hid _ s)]
        apply submitted_of_refused
        simp [Db.TakesResponse, Db.surveyCheck, hsurvey, hid]

/-- What is earned is brought by one of the answers. -/
theorem Db.Earned.mem_rolesFor {db : Db} {roleId : String} (h : db.Earned req roleId) :
    roleId ∈ req.answers.flatMap db.rolesFor := by
  rcases h with ⟨survey, -, question, -, -, choiceId, hcounted, hrole⟩
  rw [Db.countedChoice, Option.mem_def, Option.filter_eq_some_iff,
    Option.bind_eq_some_iff] at hcounted
  rcases hcounted with ⟨⟨a, ha, hchoice⟩, -⟩
  rw [List.mem_flatMap]
  refine ⟨a, List.mem_of_find?_eq_some ha, ?_⟩
  rw [Db.rolesFor, hchoice, Option.toList_some, List.flatMap_singleton]
  exact hrole

/-- An answer that is recorded is the first one to its question. -/
theorem find?_of_mem_recordable {answered : String → Bool} {answers : List SurveyAnswerInput}
    {a : SurveyAnswerInput} (h : a ∈ recordable answered answers) :
    answered a.questionId = false ∧ answers.find? (·.questionId = a.questionId) = some a := by
  induction answers generalizing answered with
  | nil => cases h
  | cons b rest ih =>
      unfold recordable at h
      split_ifs at h with hanswered
      · cases h
      · rcases List.mem_cons.mp h with rfl | hrest
        · exact ⟨Bool.eq_false_iff.mpr hanswered, by simp⟩
        · obtain ⟨hfresh, hfind⟩ := ih hrest
          rw [Bool.or_eq_false_iff, decide_eq_false_iff_not] at hfresh
          refine ⟨hfresh.1, ?_⟩
          rw [List.find?_cons_of_neg (by simp [Ne.symm hfresh.2])]
          exact hfind

/-- What is reached comes from an answer that is recorded. -/
theorem exists_of_mem_reachedRoles {db : Db} {answers : List SurveyAnswerInput} {roleId : String}
    (h : roleId ∈ db.reachedRoles env user answers) :
    ∃ a ∈ answers, answers.find? (·.questionId = a.questionId) = some a ∧
    roleId ∈ db.rolesFor a := by
  have hmem := (List.takeWhile_prefix _).subset h
  rcases List.mem_flatMap.mp hmem with ⟨a, ha, hrole⟩
  obtain ⟨-, hfind⟩ := find?_of_mem_recordable ha
  exact ⟨a, List.mem_of_find?_eq_some hfind, hfind, hrole⟩

/-- What the first answer to a question brings is earned, if the answer fits. -/
theorem Db.Fits.earned {db : Db} {a : SurveyAnswerInput} {roleId : String} (h : db.Fits a)
    (hfind : req.answers.find? (·.questionId = a.questionId) = some a)
    (hrole : roleId ∈ db.rolesFor a) : db.Earned req roleId := by
  rcases h with ⟨survey, hsurvey, question, hquestion, hbelongs, hid, choiceId, hchoice, hfits⟩
  refine ⟨survey, hsurvey, question, hquestion, hbelongs, choiceId, ?_, ?_⟩
  · rw [hid, Db.countedChoice, hfind, Option.bind_some, Option.mem_def.mp hchoice, Option.mem_def,
      Option.filter_eq_some_iff]
    exact ⟨rfl, hfits⟩
  · rw [Db.rolesFor, Option.mem_def.mp hchoice, Option.toList_some, List.flatMap_singleton] at hrole
    exact hrole

end Submissions

/-- The grants of a submission are right exactly if its response is not taken or the choices
that do not fit bring nothing. -/
theorem grantsRight_iff (env : SurveyEnv) (user : String) (req : SubmitSurveyRequest)
    (s : AppState) :
    GrantsRight env user req s ↔
      (s.db.TakesResponse env user req → s.db.MisfitsBringNothing env user req) := by
  obtain ⟨hroles, hok⟩ := ends_submitSurvey env user req s
  constructor
  · intro h htakes a _ _ roleId _ hreached
    have hgranted := (hroles (user, roleId)).mpr (.inr ⟨htakes, rfl, hreached⟩)
    exact (h.only _ hgranted).imp_right And.right
  · intro h
    constructor
    · intro key hkey
      rcases (hroles key).mp hkey with hold | ⟨htakes, huser, hreached⟩
      · exact .inl hold
      · have hkey : key = (user, key.2) := Prod.ext huser rfl
        rw [hkey]
        rcases exists_of_mem_reachedRoles hreached with ⟨a, ha, hfind, hrole⟩
        by_cases hfits : s.db.Fits a
        · exact .inr ⟨rfl, hfits.earned hfind hrole⟩
        · exact (h htakes a ha hfits key.2 hrole hreached).imp_right fun hearned => ⟨rfl, hearned⟩
    · intro haccepted roleId hearned
      obtain ⟨htakes, hall⟩ := hok haccepted
      refine (hroles _).mpr (.inr ⟨htakes, rfl, ?_⟩)
      rw [hall]
      exact hearned.mem_rolesFor
    · exact fun key hold => (hroles key).mpr (.inl hold)

/-- A hub with a survey and an older one that brought its takers a role of their own. -/
def surveyingHub : AppState where
  db := { Db.migrated with
    users := ⟨[{ publicKey := "guest", firstSeenAt := 0, lastSeenAt := 0 }], by decide⟩
    surveys := ⟨[⟨"old", 0, 0⟩, ⟨"new", 1, 5⟩], by decide⟩
    surveyQuestions := ⟨[⟨"staff?", "old", "Are you on the staff?", "choice", 1, 0⟩,
      ⟨"colour?", "new", "Your colour?", "choice", 1, 0⟩], by decide⟩
    surveyChoices := ⟨[⟨"yes", "staff?", "Yes", 0⟩, ⟨"red", "colour?", "Red", 0⟩], by decide⟩
    surveyChoiceRoles := ⟨[⟨"yes", "builtin-owner"⟩], by decide⟩ }

/-- The question of the new survey is answered with a choice of the old one. -/
def oldChoice : SubmitSurveyRequest :=
  ⟨"new", [⟨"colour?", some "yes", none⟩]⟩

/-- It makes the guest an owner. -/
theorem oldChoice_not_grantsRight :
    (surveyingHub.db.surveys.find? "old").map (·.enabled) = some 0 ∧
      ((submitSurvey ⟨10, "response"⟩ "guest" oldChoice).run surveyingHub).1 =
        .ok ⟨"approved", ["builtin-owner"]⟩ ∧
      ¬ GrantsRight ⟨10, "response"⟩ "guest" oldChoice surveyingHub := by
  refine ⟨by decide +kernel, by decide +kernel, fun h => ?_⟩
  have howner : ((submitSurvey ⟨10, "response"⟩ "guest" oldChoice).run
      surveyingHub).2.db.userRoles.has ("guest", "builtin-owner") = true := by
    decide +kernel
  have hearned : ¬ surveyingHub.db.Earned oldChoice "builtin-owner" := by
    unfold Db.Earned
    decide +kernel
  rcases h.only _ howner with hbefore | ⟨-, hbrought⟩
  · exact absurd hbefore (by decide +kernel)
  · exact hearned hbrought

end Voxply.Hub
