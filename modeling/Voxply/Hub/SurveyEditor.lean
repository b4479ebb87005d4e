/-
# Replacing a survey

`admin_put_survey` deletes the survey with the identifier of the document, with everything
that hangs on it, and inserts what the document says: the survey, its questions, their choices
and the roles of these, one statement each.  The identifiers come from the client and have to
be new in tables that all surveys share.  If one is not, the old survey is gone and a part of
the new one is there.

What a document with new identifiers loses on the way to `load_survey_admin` and back is the
rest of the story: choices are shown only for questions of the kind `choice`, and always for
these.
-/

import Voxply.Hub.Survey
import Voxply.Math.Atomic
import Voxply.Math.ForeignKey

namespace Voxply.Hub

open Voxply.Math

/-! ## Documents -/

structure SurveyChoiceAdmin where
  id : String
  label : String
  displayOrder : Int
  roleIds : List String
  deriving DecidableEq

structure SurveyQuestionAdmin where
  id : String
  prompt : String
  kind : String
  required : Bool
  displayOrder : Int
  choices : Option (List SurveyChoiceAdmin)
  deriving DecidableEq

structure SurveyAdmin where
  id : String
  enabled : Bool
  questions : List SurveyQuestionAdmin
  deriving DecidableEq

def SurveyChoiceAdmin.row (c : SurveyChoiceAdmin) (questionId : String) : SurveyChoiceRow :=
  ⟨c.id, questionId, c.label, c.displayOrder⟩

def SurveyQuestionAdmin.row (q : SurveyQuestionAdmin) (surveyId : String) : SurveyQuestionRow :=
  ⟨q.id, surveyId, q.prompt, q.kind, if q.required then 1 else 0, q.displayOrder⟩

def SurveyAdmin.row (req : SurveyAdmin) (now : Int) : SurveyRow :=
  ⟨req.id, if req.enabled then 1 else 0, now⟩

/-! ## Loading -/

/-- A choice as the administrator sees it. -/
def SurveyChoiceRow.full (c : SurveyChoiceRow) (roleIds : List String) : SurveyChoiceAdmin :=
  ⟨c.id, c.label, c.displayOrder, roleIds⟩

/-- A question as the administrator sees it. -/
def SurveyQuestionRow.full (q : SurveyQuestionRow) (choices : Option (List SurveyChoiceAdmin)) :
    SurveyQuestionAdmin :=
  ⟨q.id, q.prompt, q.kind, decide (q.required ≠ 0), q.displayOrder, choices⟩

def loadChoicesAdmin : List SurveyChoiceRow → Handler (List SurveyChoiceAdmin)
  | [] => pure []
  | c :: rest => do
      let roleIds ← fetch (·.choiceRoles c.id)
      let choices ← loadChoicesAdmin rest
      pure (c.full roleIds :: choices)

def loadQuestionsAdmin : List SurveyQuestionRow → Handler (List SurveyQuestionAdmin)
  | [] => pure []
  | q :: rest => do
      let choices ←
        if q.kind = "choice" then do
          let rows ← fetch (·.choicesOf q.id)
          let choices ← loadChoicesAdmin rows
          pure (some choices)
        else pure none
      let questions ← loadQuestionsAdmin rest
      pure (q.full choices :: questions)

def loadSurveyAdmin (surveyId : String) : Handler (Option SurveyAdmin) := do
  let survey ← fetch (·.surveys.find? surveyId)
  match survey with
  | none => pure none
  | some survey => do
      let rows ← fetch (·.questionsOf survey.id)
      let questions ← loadQuestionsAdmin rows
      pure (some ⟨survey.id, decide (survey.enabled ≠ 0), questions⟩)

/-! ## Storing -/

/-- `DELETE FROM surveys WHERE id = ?`, with what is deleted along with it. -/
def deleteSurvey (surveyId : String) (db : Db) : Db :=
  let surveys := db.surveys.keep (·.id ≠ surveyId)
  let questions := db.surveyQuestions.cascade (fun row => some row.surveyId) surveys
  let choices := db.surveyChoices.cascade (fun row => some row.questionId) questions
  { db with
    surveys := surveys
    surveyQuestions := questions
    surveyChoices := choices
    surveyChoiceRoles := db.surveyChoiceRoles.cascade (fun row => some row.choiceId) choices }

def SurveyRow.disable (row : SurveyRow) : SurveyRow :=
  { row with enabled := 0 }

theorem SurveyRow.disable_id (row : SurveyRow) : row.disable.id = row.id := rfl

/-- `UPDATE surveys SET enabled = 0`. -/
def disableSurveys (db : Db) : Db :=
  { db with surveys := db.surveys.update (fun _ => true) SurveyRow.disable SurveyRow.disable_id }

/-- `INSERT INTO surveys`. -/
def insertSurvey (row : SurveyRow) (db : Db) : Except SqlError Db :=
  match db.surveys.insert? row with
  | none => .error (.primaryKey "surveys.id")
  | some surveys => .ok { db with surveys := surveys }

/-- `INSERT INTO survey_questions`. -/
def insertSurveyQuestion (row : SurveyQuestionRow) (db : Db) : Except SqlError Db :=
  match db.surveyQuestions.insert? row with
  | none => .error (.primaryKey "survey_questions.id")
  | some surveyQuestions =>
      if db.surveys.has row.surveyId then .ok { db with surveyQuestions := surveyQuestions }
      else .error .foreignKey

/-- `INSERT INTO survey_choices`. -/
def insertSurveyChoice (row : SurveyChoiceRow) (db : Db) : Except SqlError Db :=
  match db.surveyChoices.insert? row with
  | none => .error (.primaryKey "survey_choices.id")
  | some surveyChoices =>
      if db.surveyQuestions.has row.questionId then .ok { db with surveyChoices := surveyChoices }
      else .error .foreignKey

/-- `INSERT OR IGNORE INTO survey_choice_roles`: a dangling reference is not ignored. -/
def insertSurveyChoiceRoleOrIgnore (row : SurveyChoiceRoleRow) (db : Db) : Except SqlError Db :=
  if db.surveyChoiceRoles.has row.key then .ok db
  else if db.surveyChoices.has row.choiceId then
    .ok { db with surveyChoiceRoles := db.surveyChoiceRoles.insertOrIgnore row }
  else .error .foreignKey

/-- Insert a choice with its roles. -/
def putChoice (questionId : String) (c : SurveyChoiceAdmin) : Handler Unit := do
  execute (insertSurveyChoice (c.row questionId))
  .each c.roleIds fun roleId => execute (insertSurveyChoiceRoleOrIgnore ⟨c.id, roleId⟩)

/-- Insert a question with its choices. -/
def putQuestion (surveyId : String) (q : SurveyQuestionAdmin) : Handler Unit := do
  execute (insertSurveyQuestion (q.row surveyId))
  .whenSome q.choices fun choices => .each choices (putChoice q.id)

def adminPutSurvey (now : Int) (user : String) (req : SurveyAdmin) : Handler StatusCode := do
  let perms ← userPermissions user
  .ofExcept (perms.require admin)
  write (deleteSurvey req.id)
  -- If enabling this survey, disable all others first
  .when req.enabled (write disableSurveys)
  execute (insertSurvey (req.row now))
  .each req.questions (putQuestion req.id)
  pure .ok

/-! ## What a replacement is to do -/

/-- The survey tables are as they were. -/
structure SameSurveys (s t : AppState) : Prop where
  surveys : s.db.surveys.SameRows t.db.surveys
  questions : s.db.surveyQuestions.SameRows t.db.surveyQuestions
  choices : s.db.surveyChoices.SameRows t.db.surveyChoices
  choiceRoles : s.db.surveyChoiceRoles.SameRows t.db.surveyChoiceRoles
  responses : t.db.surveyResponses = s.db.surveyResponses
  answers : t.db.surveyAnswers = s.db.surveyAnswers

/-- The choice is loaded as it was submitted, its roles in some order. -/
structure SurveyChoiceAdmin.Shown (c loaded : SurveyChoiceAdmin) : Prop where
  id : loaded.id = c.id
  label : loaded.label = c.label
  displayOrder : loaded.displayOrder = c.displayOrder
  roleIds : loaded.roleIds.Perm c.roleIds

/-- Choices in display order. -/
def choicesInOrder (choices : List SurveyChoiceAdmin) : List SurveyChoiceAdmin :=
  choices.mergeSort fun first second => first.displayOrder ≤ second.displayOrder

/-- The question is loaded as it was submitted, its choices in display order. -/
structure SurveyQuestionAdmin.Shown (q loaded : SurveyQuestionAdmin) : Prop where
  id : loaded.id = q.id
  prompt : loaded.prompt = q.prompt
  kind : loaded.kind = q.kind
  required : loaded.required = q.required
  displayOrder : loaded.displayOrder = q.displayOrder
  choices : Option.Rel (List.Forall₂ SurveyChoiceAdmin.Shown) (q.choices.map choicesInOrder)
    loaded.choices

/-- Questions in display order. -/
def questionsInOrder (questions : List SurveyQuestionAdmin) : List SurveyQuestionAdmin :=
  questions.mergeSort fun first second => first.displayOrder ≤ second.displayOrder

/-- The document is loaded as it was submitted, its questions in display order. -/
structure SurveyAdmin.Shown (req loaded : SurveyAdmin) : Prop where
  id : loaded.id = req.id
  enabled : loaded.enabled = req.enabled
  questions : List.Forall₂ SurveyQuestionAdmin.Shown (questionsInOrder req.questions)
    loaded.questions

/-- The request is answered and the document can be loaded again. -/
def Reloads (req : SurveyAdmin) (status : StatusCode) (t : AppState) : Prop :=
  status = .ok ∧ ∃ loaded, (loadSurveyAdmin req.id).run t = (.ok (some loaded), t) ∧
    req.Shown loaded

/-- A call of `admin_put_survey`. -/
structure PutCall where
  now : Int
  user : String
  req : SurveyAdmin

def PutCall.exec (call : PutCall) (s : AppState) : AppState :=
  ((adminPutSurvey call.now call.user call.req).run s).2

/-- At most one survey is enabled. -/
def Db.OneSurveyEnabled (db : Db) : Prop :=
  ∀ first ∈ db.surveys.rows, ∀ second ∈ db.surveys.rows,
    first.enabled = 1 → second.enabled = 1 → first = second

/-- The survey is replaced by one that is loaded as the document, or nothing has changed; and
after any calls at most one survey is enabled. -/
structure PutsWhole (now : Int) (user : String) (req : SurveyAdmin) (s : AppState) : Prop where
  whole : (adminPutSurvey now user req).AllOrNothing (SameSurveys s) (Reloads req) s
  once : s.db.OneSurveyEnabled → ∀ calls : List PutCall,
    (runAll PutCall.exec calls s).db.OneSurveyEnabled

/-! ## The rows of a document -/

/-- A row that `admin_put_survey` inserts. -/
inductive SurveyItem where
  | question (row : SurveyQuestionRow)
  | choice (row : SurveyChoiceRow)
  | role (row : SurveyChoiceRoleRow)
  deriving DecidableEq

namespace SurveyItem

def question? : SurveyItem → Option SurveyQuestionRow
  | .question row => some row
  | _ => none

def choice? : SurveyItem → Option SurveyChoiceRow
  | .choice row => some row
  | _ => none

@[simp]
theorem question?_question (row : SurveyQuestionRow) : (question row).question? = some row := rfl

@[simp]
theorem choice?_choice (row : SurveyChoiceRow) : (choice row).choice? = some row := rfl

/-- The identifier that has to be new, among the questions or among the choices. -/
def key? : SurveyItem → Option (String ⊕ String)
  | .question row => some (.inl row.id)
  | .choice row => some (.inr row.id)
  | .role _ => none

/-- The statement that inserts it. -/
def insert : SurveyItem → Db → Except SqlError Db
  | .question row => insertSurveyQuestion row
  | .choice row => insertSurveyChoice row
  | .role row => insertSurveyChoiceRoleOrIgnore row

/-- What it refers to is among the rows before it. -/
def HasParent (surveyId : String) (past : List SurveyItem) : SurveyItem → Prop
  | .question row => row.surveyId = surveyId
  | .choice row => ∃ q, .question q ∈ past ∧ q.id = row.questionId
  | .role row => ∃ c, .choice c ∈ past ∧ c.id = row.choiceId

end SurveyItem

def SurveyChoiceAdmin.items (questionId : String) (c : SurveyChoiceAdmin) : List SurveyItem :=
  .choice (c.row questionId) :: c.roleIds.map fun roleId => .role ⟨c.id, roleId⟩

def SurveyQuestionAdmin.choiceList (q : SurveyQuestionAdmin) : List SurveyChoiceAdmin :=
  q.choices.getD []

def SurveyQuestionAdmin.items (surveyId : String) (q : SurveyQuestionAdmin) : List SurveyItem :=
  .question (q.row surveyId) :: q.choiceList.flatMap (·.items q.id)

/-- The rows of a document in the order in which they are inserted. -/
def SurveyAdmin.items (req : SurveyAdmin) : List SurveyItem :=
  req.questions.flatMap (·.items req.id)

def SurveyAdmin.allChoices (req : SurveyAdmin) : List SurveyChoiceAdmin :=
  req.questions.flatMap (·.choiceList)

/-- The identifiers of questions and choices that are taken. -/
def Db.surveyKeyTaken (db : Db) : String ⊕ String → Bool :=
  Sum.elim db.surveyQuestions.has db.surveyChoices.has

/-- The rows that are inserted: all, or those before the first with an identifier that is taken
when the survey has been deleted. -/
def SurveyAdmin.firstItems (req : SurveyAdmin) (db : Db) : List SurveyItem :=
  untilTaken SurveyItem.key? (deleteSurvey req.id db).surveyKeyTaken req.items

/-! ## When a replacement does it -/

/-- The identifiers of the document are different, and no other survey has them. -/
structure SurveyAdmin.Fresh (req : SurveyAdmin) (db : Db) : Prop where
  questions : (req.questions.map (·.id)).Nodup
  choices : (req.allChoices.map (·.id)).Nodup
  questionsFree : ∀ q ∈ req.questions, (deleteSurvey req.id db).surveyQuestions.has q.id = false
  choicesFree : ∀ c ∈ req.allChoices, (deleteSurvey req.id db).surveyChoices.has c.id = false

/-- The questions of the kind `choice` are those with choices, and no choice brings a role
twice. -/
def SurveyAdmin.Showable (req : SurveyAdmin) : Prop :=
  ∀ q ∈ req.questions, (q.choices.isSome = true ↔ q.kind = "choice") ∧
    ∀ c ∈ q.choiceList, c.roleIds.Nodup

/-- What is inserted before the first identifier that is taken is what has been deleted, to the
second of the last update. -/
structure SurveyAdmin.Restores (req : SurveyAdmin) (now : Int) (db : Db) : Prop where
  survey : req.row now ∈ db.surveys.rows
  enabled : req.enabled = true → ∀ row ∈ db.surveys.rows, row.id ≠ req.id → row.enabled = 0
  questions : ∀ row, row ∈ db.surveyQuestions.rows ↔
    row ∈ (deleteSurvey req.id db).surveyQuestions.rows ∨ .question row ∈ req.firstItems db
  choices : ∀ row, row ∈ db.surveyChoices.rows ↔
    row ∈ (deleteSurvey req.id db).surveyChoices.rows ∨ .choice row ∈ req.firstItems db
  choiceRoles : ∀ row, row ∈ db.surveyChoiceRoles.rows ↔
    row ∈ (deleteSurvey req.id db).surveyChoiceRoles.rows ∨ .role row ∈ req.firstItems db

/-! ## One loop for three -/

theorem putChoice_eq (questionId : String) (c : SurveyChoiceAdmin) :
    putChoice questionId c = .each (c.items questionId) fun item => execute item.insert := by
  rw [SurveyChoiceAdmin.items, Prog.each_cons, Prog.each_map]
  rfl

theorem putQuestion_eq (surveyId : String) (q : SurveyQuestionAdmin) :
    putQuestion surveyId q = .each (q.items surveyId) fun item => execute item.insert := by
  rw [SurveyQuestionAdmin.items, Prog.each_cons, Prog.each_flatMap, SurveyQuestionAdmin.choiceList]
  simp only [← putChoice_eq]
  cases hchoices : q.choices with
  | none =>
      rw [putQuestion, hchoices]
      rfl
  | some choices =>
      rw [putQuestion, hchoices]
      rfl

theorem putQuestions_eq (req : SurveyAdmin) :
    Prog.each req.questions (putQuestion req.id) =
      .each req.items fun item => execute item.insert := by
  rw [SurveyAdmin.items, Prog.each_flatMap]
  simp only [← putQuestion_eq]

/-! ## Parents -/

section Parents

variable {surveyId : String} {past past' : List SurveyItem}

theorem SurveyItem.HasParent.mono {item : SurveyItem} (h : item.HasParent surveyId past)
    (hpast : past ⊆ past') : item.HasParent surveyId past' := by
  cases item with
  | question row => exact h
  | choice row =>
      obtain ⟨q, hq, hid⟩ := h
      exact ⟨q, hpast hq, hid⟩
  | role row =>
      obtain ⟨c, hc, hid⟩ := h
      exact ⟨c, hpast hc, hid⟩

/-- Every row comes after the one it refers to. -/
def Supported (surveyId : String) : List SurveyItem → List SurveyItem → Prop
  | _, [] => True
  | past, item :: rest => item.HasParent surveyId past ∧ Supported surveyId (past ++ [item]) rest

theorem supported_of_parents {items : List SurveyItem}
    (h : ∀ item ∈ items, item.HasParent surveyId past) : Supported surveyId past items := by
  induction items generalizing past with
  | nil => trivial
  | cons item rest ih =>
      refine ⟨h item List.mem_cons_self, ih fun other hother => ?_⟩
      exact (h other (List.mem_cons_of_mem item hother)).mono (List.subset_append_left past [item])

theorem Supported.append {first rest : List SurveyItem} (h : Supported surveyId past first)
    (hrest : Supported surveyId (past ++ first) rest) :
    Supported surveyId past (first ++ rest) := by
  induction first generalizing past with
  | nil => rwa [List.append_nil] at hrest
  | cons item first ih =>
      refine ⟨h.1, ih h.2 ?_⟩
      rwa [List.append_assoc]

theorem supported_flatMap {A : Type} {as : List A} {g : A → List SurveyItem}
    (h : ∀ a ∈ as, ∀ later, past ⊆ later → Supported surveyId later (g a)) :
    Supported surveyId past (as.flatMap g) := by
  induction as generalizing past with
  | nil => trivial
  | cons a rest ih =>
      rw [List.flatMap_cons]
      apply (h a List.mem_cons_self past (List.Subset.refl past)).append
      apply ih
      intro b hb later hlater
      exact h b (List.mem_cons_of_mem a hb) later fun item hitem =>
        hlater (List.mem_append_left _ hitem)

theorem supported_items (req : SurveyAdmin) : Supported req.id [] req.items := by
  apply supported_flatMap
  intro q _ later _
  refine ⟨rfl, supported_flatMap fun c _ later' hlater' => ?_⟩
  refine ⟨⟨q.row req.id, hlater' List.mem_concat_self, rfl⟩, supported_of_parents ?_⟩
  intro item hitem
  obtain ⟨roleId, -, rfl⟩ := List.mem_map.mp hitem
  exact ⟨c.row q.id, List.mem_concat_self, rfl⟩

end Parents

/-! ## Inserting the rows -/

section Insert

variable {surveyId : String} {db db' : Db}

/-- These rows have been inserted between the two stores. -/
structure Inserted (items : List SurveyItem) (db db' : Db) : Prop where
  questions : db'.surveyQuestions.rows =
    db.surveyQuestions.rows ++ items.filterMap SurveyItem.question?
  choices : db'.surveyChoices.rows = db.surveyChoices.rows ++ items.filterMap SurveyItem.choice?
  choiceRoles : ∀ row, row ∈ db'.surveyChoiceRoles.rows ↔
    row ∈ db.surveyChoiceRoles.rows ∨ .role row ∈ items
  surveys : db'.surveys = db.surveys
  responses : db'.surveyResponses = db.surveyResponses
  answers : db'.surveyAnswers = db.surveyAnswers

theorem Inserted.refl (db : Db) : Inserted [] db db :=
  ⟨by simp, by simp, by simp, rfl, rfl, rfl⟩

theorem Inserted.trans {first rest : List SurveyItem} {db'' : Db} (h : Inserted first db db')
    (h' : Inserted rest db' db'') : Inserted (first ++ rest) db db'' where
  questions := by rw [h'.questions, h.questions, List.filterMap_append, List.append_assoc]
  choices := by rw [h'.choices, h.choices, List.filterMap_append, List.append_assoc]
  choiceRoles row := by rw [h'.choiceRoles, h.choiceRoles, List.mem_append, or_assoc]
  surveys := h'.surveys.trans h.surveys
  responses := h'.responses.trans h.responses
  answers := h'.answers.trans h.answers

/-- A row that has been inserted takes its identifier. -/
theorem Inserted.surveyKeyTaken {item : SurveyItem} (h : Inserted [item] db db') :
    db'.surveyKeyTaken = fun key => db.surveyKeyTaken key || decide (item.key? = some key) := by
  have hquestions := h.questions
  have hchoices := h.choices
  funext key
  rw [Bool.eq_iff_iff, Bool.or_eq_true, decide_eq_true_eq]
  cases item with
  | question row =>
      have hsame : db'.surveyChoices = db.surveyChoices :=
        Table.ext (hchoices.trans (List.append_nil _))
      cases key with
      | inl id =>
          show db'.surveyQuestions.has id = true ↔ db.surveyQuestions.has id = true ∨ _
          rw [Table.has_of_append hquestions]
          simp [SurveyItem.key?]
      | inr id =>
          show db'.surveyChoices.has id = true ↔ db.surveyChoices.has id = true ∨ _
          rw [hsame]
          simp [SurveyItem.key?]
  | choice row =>
      have hsame : db'.surveyQuestions = db.surveyQuestions :=
        Table.ext (hquestions.trans (List.append_nil _))
      cases key with
      | inl id =>
          show db'.surveyQuestions.has id = true ↔ db.surveyQuestions.has id = true ∨ _
          rw [hsame]
          simp [SurveyItem.key?]
      | inr id =>
          show db'.surveyChoices.has id = true ↔ db.surveyChoices.has id = true ∨ _
          rw [Table.has_of_append hchoices]
          simp [SurveyItem.key?]
  | role row =>
      have hsame : db'.surveyQuestions = db.surveyQuestions :=
        Table.ext (hquestions.trans (List.append_nil _))
      have hsame' : db'.surveyChoices = db.surveyChoices :=
        Table.ext (hchoices.trans (List.append_nil _))
      rw [Db.surveyKeyTaken, hsame, hsame', ← Db.surveyKeyTaken]
      simp [SurveyItem.key?]

/-- The keys of these rows are taken. -/
def Db.Holds (db : Db) (past : List SurveyItem) : Prop :=
  ∀ item ∈ past, ∀ key ∈ item.key?, db.surveyKeyTaken key = true

theorem insertSurveyQuestion_cases {row : SurveyQuestionRow}
    (hsurvey : db.surveys.has row.surveyId = true) :
    (db.surveyQuestions.has row.id = true ∧ ∃ e, insertSurveyQuestion row db = .error e) ∨
      (db.surveyQuestions.has row.id = false ∧
        ∃ db', insertSurveyQuestion row db = .ok db' ∧ Inserted [.question row] db db') := by
  cases hhas : db.surveyQuestions.has row.id with
  | true =>
      have htaken : db.surveyQuestions.insert? row = none := by
        rwa [Table.insert?_eq_none_iff, ← Table.has_iff]
      refine .inl ⟨rfl, .primaryKey "survey_questions.id", ?_⟩
      rw [insertSurveyQuestion, htaken]
  | false =>
      obtain ⟨table, hinsert, hrows⟩ := Table.insert?_of_free hhas
      refine .inr ⟨rfl, { db with surveyQuestions := table }, ?_, ?_⟩
      · rw [insertSurveyQuestion, hinsert]
        exact if_pos hsurvey
      · exact ⟨hrows, (List.append_nil _).symm, by simp, rfl, rfl, rfl⟩

theorem insertSurveyChoice_cases {row : SurveyChoiceRow}
    (hquestion : db.surveyQuestions.has row.questionId = true) :
    (db.surveyChoices.has row.id = true ∧ ∃ e, insertSurveyChoice row db = .error e) ∨
      (db.surveyChoices.has row.id = false ∧
        ∃ db', insertSurveyChoice row db = .ok db' ∧ Inserted [.choice row] db db') := by
  cases hhas : db.surveyChoices.has row.id with
  | true =>
      have htaken : db.surveyChoices.insert? row = none := by
        rwa [Table.insert?_eq_none_iff, ← Table.has_iff]
      refine .inl ⟨rfl, .primaryKey "survey_choices.id", ?_⟩
      rw [insertSurveyChoice, htaken]
  | false =>
      obtain ⟨table, hinsert, hrows⟩ := Table.insert?_of_free hhas
      refine .inr ⟨rfl, { db with surveyChoices := table }, ?_, ?_⟩
      · rw [insertSurveyChoice, hinsert]
        exact if_pos hquestion
      · exact ⟨(List.append_nil _).symm, hrows, by simp, rfl, rfl, rfl⟩

/-- A role that is there already is not inserted again. -/
theorem insertSurveyChoiceRoleOrIgnore_eq_ok {row : SurveyChoiceRoleRow}
    (hchoice : db.surveyChoices.has row.choiceId = true) :
    ∃ db', insertSurveyChoiceRoleOrIgnore row db = .ok db' ∧ Inserted [.role row] db db' := by
  cases hhas : db.surveyChoiceRoles.has row.key with
  | true =>
      refine ⟨db, ?_, (List.append_nil _).symm, (List.append_nil _).symm, ?_, rfl, rfl, rfl⟩
      · rw [insertSurveyChoiceRoleOrIgnore, if_pos hhas]
      · intro other
        rw [List.mem_singleton]
        refine ⟨.inl, ?_⟩
        rintro (hold | heq)
        · exact hold
        · cases heq
          obtain ⟨old, hold, hkey⟩ := Table.has_iff.mp hhas
          obtain ⟨hc, hr⟩ := Prod.ext_iff.mp hkey
          rw [show row = old from congrArg₂ SurveyChoiceRoleRow.mk hc.symm hr.symm]
          exact hold
  | false =>
      refine ⟨{ db with surveyChoiceRoles := db.surveyChoiceRoles.insertOrIgnore row }, ?_,
        (List.append_nil _).symm, (List.append_nil _).symm, ?_, rfl, rfl, rfl⟩
      · rw [insertSurveyChoiceRoleOrIgnore, if_neg (by simp [hhas]), if_pos hchoice]
      · intro other
        rw [Table.mem_insertOrIgnore, and_iff_right (Table.has_eq_false_iff.mp hhas)]
        simp

/-- A row whose parent is there is refused if its identifier is taken. -/
theorem insert_cases {past : List SurveyItem} {item : SurveyItem}
    (hsurvey : db.surveys.has surveyId = true) (hpast : db.Holds past)
    (hparent : item.HasParent surveyId past) :
    (item.key?.any db.surveyKeyTaken = true ∧ ∃ e, item.insert db = .error e) ∨
      (item.key?.any db.surveyKeyTaken = false ∧
        ∃ db', item.insert db = .ok db' ∧ Inserted [item] db db') := by
  cases item with
  | question row =>
      have hid : row.surveyId = surveyId := hparent
      exact insertSurveyQuestion_cases (hid ▸ hsurvey)
  | choice row =>
      obtain ⟨q, hq, hid⟩ := hparent
      exact insertSurveyChoice_cases (hid ▸ hpast _ hq _ rfl)
  | role row =>
      obtain ⟨c, hc, hid⟩ := hparent
      exact .inr ⟨rfl, insertSurveyChoiceRoleOrIgnore_eq_ok (hid ▸ hpast _ hc _ rfl)⟩

theorem Inserted.holds {past : List SurveyItem} {item : SurveyItem} (h : Inserted [item] db db')
    (hpast : db.Holds past) : db'.Holds (past ++ [item]) := by
  intro other hother key hkey
  rw [h.surveyKeyTaken, Bool.or_eq_true, decide_eq_true_eq]
  rcases List.mem_append.mp hother with hother | hother
  · exact .inl (hpast other hother key hkey)
  · rw [List.mem_singleton.mp hother] at hkey
    exact .inr hkey

/-- The rows are inserted up to the first whose identifier is taken. -/
theorem ends_insertItems {past items : List SurveyItem} (s : AppState)
    (hsurvey : s.db.surveys.has surveyId = true) (hpast : s.db.Holds past)
    (hsupported : Supported surveyId past items) :
    (Prog.each items fun item => execute item.insert).Ends s fun result t =>
      Inserted (untilTaken SurveyItem.key? s.db.surveyKeyTaken items) s.db t.db ∧
        (result.isOk = true ↔ untilTaken SurveyItem.key? s.db.surveyKeyTaken items = items) := by
  induction items generalizing s past with
  | nil => exact ⟨Inserted.refl s.db, by simp [Prog.each, untilTaken, Except.isOk, Except.toBool]⟩
  | cons item rest ih =>
      rw [Prog.Ends, Prog.run_each_cons, untilTaken]
      rcases insert_cases hsurvey hpast hsupported.1 with ⟨htaken, e, hrun⟩ |
        ⟨hfree, db, hrun, hins⟩
      · rw [Prog.run_bind_of_error (run_execute_of_error hrun), if_pos htaken]
        exact ⟨Inserted.refl s.db, by simp [Except.isOk, Except.toBool]⟩
      · rw [Prog.run_bind_of_ok (run_execute_of_ok hrun), if_neg (by simp [hfree]),
          List.cons_inj_right, ← hins.surveyKeyTaken]
        obtain ⟨hrest, hok⟩ :=
          ih (s.withDb db) (hins.surveys ▸ hsurvey) (hins.holds hpast) hsupported.2
        exact ⟨hins.trans hrest, hok⟩

end Insert

end Voxply.Hub
