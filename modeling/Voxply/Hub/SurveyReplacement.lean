/-
# A survey is replaced, or not

A document that is stored as a whole is loaded again question by question and choice by
choice; what is not shown of it depends on its questions alone.  A document that is refused
half way leaves what comes before the identifier that is taken, and that is hardly ever what
was there.
-/

import Voxply.Hub.SurveyEditor

namespace Voxply.Hub

open Voxply.Math

/-! ## Loading what is stored -/

section Load

theorem run_loadChoicesAdmin (rows : List SurveyChoiceRow) (s : AppState) :
    (loadChoicesAdmin rows).run s =
      (.ok (rows.map fun c => c.full (s.db.choiceRoles c.id)), s) := by
  induction rows with
  | nil => rfl
  | cons c rest ih =>
      rw [loadChoicesAdmin, Prog.run_bind_of_ok (run_fetch _ s), Prog.run_bind_of_ok ih]
      rfl

/-- The question with its choices, if it is one that has them. -/
def Db.fullQuestion (db : Db) (q : SurveyQuestionRow) : SurveyQuestionAdmin :=
  q.full (if q.kind = "choice" then
    some ((db.choicesOf q.id).map fun c => c.full (db.choiceRoles c.id)) else none)

theorem run_loadQuestionsAdmin (rows : List SurveyQuestionRow) (s : AppState) :
    (loadQuestionsAdmin rows).run s = (.ok (rows.map s.db.fullQuestion), s) := by
  induction rows with
  | nil => rfl
  | cons q rest ih =>
      rw [loadQuestionsAdmin, List.map_cons, Db.fullQuestion]
      split_ifs
      · rw [Prog.run_bind_of_ok (run_fetch _ s), Prog.run_bind_of_ok (run_loadChoicesAdmin _ s)]
        show ((loadQuestionsAdmin rest) >>= _).run s = _
        rw [Prog.run_bind_of_ok ih]
        rfl
      · show ((loadQuestionsAdmin rest) >>= _).run s = _
        rw [Prog.run_bind_of_ok ih]
        rfl

theorem run_loadSurveyAdmin (surveyId : String) (s : AppState) :
    (loadSurveyAdmin surveyId).run s = (.ok ((s.db.surveys.find? surveyId).map fun survey =>
      ⟨survey.id, decide (survey.enabled ≠ 0), (s.db.questionsOf survey.id).map s.db.fullQuestion⟩),
        s) := by
  rw [loadSurveyAdmin, Prog.run_bind_of_ok (run_fetch _ s)]
  cases s.db.surveys.find? surveyId with
  | none => rfl
  | some survey =>
      dsimp only
      rw [Prog.run_bind_of_ok (run_fetch _ s), Prog.run_bind_of_ok (run_loadQuestionsAdmin _ s)]
      rfl

/-! ### The rows of a document with new identifiers -/

variable {req : SurveyAdmin} {db cleared : Db} {now : Int}

theorem question?_choiceItems (questionId : String) (c : SurveyChoiceAdmin) :
    (c.items questionId).filterMap SurveyItem.question? = [] := by
  rw [List.filterMap_eq_nil_iff]
  intro item hitem
  rcases List.mem_cons.mp hitem with rfl | hrole
  · rfl
  · obtain ⟨roleId, -, rfl⟩ := List.mem_map.mp hrole
    rfl

theorem choice?_choiceItems (questionId : String) (c : SurveyChoiceAdmin) :
    (c.items questionId).filterMap SurveyItem.choice? = [c.row questionId] := by
  rw [SurveyChoiceAdmin.items, List.filterMap_cons_some (SurveyItem.choice?_choice _),
    List.cons_inj_right,
    List.filterMap_eq_nil_iff]
  intro item hrole
  obtain ⟨roleId, -, rfl⟩ := List.mem_map.mp hrole
  rfl

theorem questions_items (req : SurveyAdmin) :
    req.items.filterMap SurveyItem.question? = req.questions.map (·.row req.id) := by
  rw [SurveyAdmin.items, List.filterMap_flatMap, List.map_eq_flatMap]
  congr 1
  funext q
  rw [SurveyQuestionAdmin.items, List.filterMap_cons_some (SurveyItem.question?_question _),
    List.cons_inj_right, List.filterMap_flatMap]
  simp only [question?_choiceItems, List.flatMap_eq_nil_iff, implies_true]

theorem choices_items (req : SurveyAdmin) :
    req.items.filterMap SurveyItem.choice? =
      req.questions.flatMap fun q => q.choiceList.map (·.row q.id) := by
  rw [SurveyAdmin.items, List.filterMap_flatMap]
  congr 1
  funext q
  rw [SurveyQuestionAdmin.items, List.filterMap_cons_none rfl, List.filterMap_flatMap,
    List.map_eq_flatMap]
  simp only [choice?_choiceItems]

theorem role_mem_items {row : SurveyChoiceRoleRow} :
    .role row ∈ req.items ↔ ∃ c ∈ req.allChoices, c.id = row.choiceId ∧ row.roleId ∈ c.roleIds := by
  simp only [SurveyAdmin.items, SurveyAdmin.allChoices, List.mem_flatMap, SurveyQuestionAdmin.items,
    SurveyChoiceAdmin.items, List.mem_cons, List.mem_map, reduceCtorEq, false_or,
    SurveyItem.role.injEq]
  constructor
  · rintro ⟨q, hq, c, hc, roleId, hrole, rfl⟩
    exact ⟨c, ⟨q, hq, hc⟩, rfl, hrole⟩
  · rintro ⟨c, ⟨q, hq, hc⟩, hid, hrole⟩
    exact ⟨q, hq, c, hc, row.roleId, hrole, by rw [hid]⟩

theorem question_mem_iff {items : List SurveyItem} {row : SurveyQuestionRow} :
    row ∈ items.filterMap SurveyItem.question? ↔ .question row ∈ items := by
  rw [List.mem_filterMap]
  constructor
  · rintro ⟨item, hitem, hrow⟩
    cases item <;> cases hrow
    exact hitem
  · exact fun h => ⟨_, h, rfl⟩

theorem choice_mem_iff {items : List SurveyItem} {row : SurveyChoiceRow} :
    row ∈ items.filterMap SurveyItem.choice? ↔ .choice row ∈ items := by
  rw [List.mem_filterMap]
  constructor
  · rintro ⟨item, hitem, hrow⟩
    cases item <;> cases hrow
    exact hitem
  · exact fun h => ⟨_, h, rfl⟩

theorem left_keys_items (req : SurveyAdmin) :
    (req.items.filterMap SurveyItem.key?).filterMap Sum.getLeft? = req.questions.map (·.id) := by
  have hleft : ∀ item : SurveyItem, item.key?.bind Sum.getLeft? = item.question?.map (·.id) := by
    intro item
    cases item <;> rfl
  calc (req.items.filterMap SurveyItem.key?).filterMap Sum.getLeft?
      = req.items.filterMap fun item => item.question?.map (·.id) := by
        rw [List.filterMap_filterMap]
        exact List.filterMap_congr fun item _ => hleft item
    _ = (req.items.filterMap SurveyItem.question?).map (·.id) := List.map_filterMap.symm
    _ = req.questions.map (·.id) := by
        rw [questions_items, List.map_map]
        rfl

theorem right_keys_items (req : SurveyAdmin) :
    (req.items.filterMap SurveyItem.key?).filterMap Sum.getRight? = req.allChoices.map (·.id) := by
  have hright : ∀ item : SurveyItem, item.key?.bind Sum.getRight? = item.choice?.map (·.id) := by
    intro item
    cases item <;> rfl
  calc (req.items.filterMap SurveyItem.key?).filterMap Sum.getRight?
      = req.items.filterMap fun item => item.choice?.map (·.id) := by
        rw [List.filterMap_filterMap]
        exact List.filterMap_congr fun item _ => hright item
    _ = (req.items.filterMap SurveyItem.choice?).map (·.id) := List.map_filterMap.symm
    _ = req.allChoices.map (·.id) := by
        rw [choices_items, SurveyAdmin.allChoices, List.map_flatMap, List.map_flatMap]
        simp only [List.map_map]
        rfl

/-- All rows of the document are inserted exactly if its identifiers are new. -/
theorem firstItems_eq_iff (req : SurveyAdmin) (db : Db) :
    req.firstItems db = req.items ↔ req.Fresh db := by
  rw [SurveyAdmin.firstItems, untilTaken_eq_self_iff, nodup_sum_iff, forall_mem_sum_iff,
    left_keys_items, right_keys_items, List.forall_mem_map, List.forall_mem_map]
  constructor
  · rintro ⟨⟨hquestions, hchoices⟩, hquestionsFree, hchoicesFree⟩
    exact ⟨hquestions, hchoices, hquestionsFree, hchoicesFree⟩
  · intro h
    exact ⟨⟨h.questions, h.choices⟩, h.questionsFree, h.choicesFree⟩

/-- The document is stored: its questions and choices in display order, and its roles. -/
structure SurveyAdmin.StoredIn (req : SurveyAdmin) (db : Db) : Prop where
  questions : db.questionsOf req.id = (questionsInOrder req.questions).map (·.row req.id)
  choices : ∀ q ∈ req.questions,
    db.choicesOf q.id = (choicesInOrder q.choiceList).map (·.row q.id)
  roles : ∀ c ∈ req.allChoices, (db.choiceRoles c.id).Nodup ∧
    ∀ roleId, roleId ∈ db.choiceRoles c.id ↔ roleId ∈ c.roleIds

/-- What a survey leaves behind does not refer to it. -/
theorem surveyId_of_mem_deleteSurvey {surveyId : String} {row : SurveyQuestionRow}
    (h : row ∈ (deleteSurvey surveyId db).surveyQuestions.rows) : row.surveyId ≠ surveyId := by
  have hhas := Table.refers_cascade db.surveyQuestions (fun row => some row.surveyId)
    (db.surveys.keep (·.id ≠ surveyId)) row h row.surveyId rfl
  obtain ⟨survey, hsurvey, hid⟩ := Table.has_iff.mp hhas
  rw [← hid]
  exact of_decide_eq_true (List.mem_filter.mp hsurvey).2

theorem filter_questions
    (hrows : cleared.surveyQuestions.rows = (deleteSurvey req.id db).surveyQuestions.rows ++
      req.items.filterMap SurveyItem.question?) :
    cleared.questionsOf req.id = (questionsInOrder req.questions).map (·.row req.id) := by
  have hold : (deleteSurvey req.id db).surveyQuestions.rows.filter (·.surveyId = req.id) = [] := by
    rw [List.filter_eq_nil_iff]
    intro row hrow
    rw [decide_eq_true_eq]
    exact surveyId_of_mem_deleteSurvey hrow
  have hnew : (req.questions.map (·.row req.id)).filter (·.surveyId = req.id) =
      req.questions.map (·.row req.id) := by
    rw [List.filter_eq_self]
    intro row hrow
    obtain ⟨q, -, rfl⟩ := List.mem_map.mp hrow
    exact decide_eq_true rfl
  rw [Db.questionsOf, hrows, questions_items, List.filter_append, hold, hnew, List.nil_append,
    questionsInOrder]
  symm
  apply List.map_mergeSort
  exact fun _ _ _ _ => rfl

theorem filter_choices (hfresh : req.Fresh db)
    (hrows : cleared.surveyChoices.rows = (deleteSurvey req.id db).surveyChoices.rows ++
      req.items.filterMap SurveyItem.choice?)
    {q : SurveyQuestionAdmin} (hq : q ∈ req.questions) :
    cleared.choicesOf q.id = (choicesInOrder q.choiceList).map (·.row q.id) := by
  have hold : (deleteSurvey req.id db).surveyChoices.rows.filter (·.questionId = q.id) = [] := by
    rw [List.filter_eq_nil_iff]
    intro row hrow
    rw [decide_eq_true_eq]
    intro hid
    have hhas := Table.refers_cascade db.surveyChoices (fun row => some row.questionId)
      (deleteSurvey req.id db).surveyQuestions row hrow row.questionId rfl
    rw [hid, hfresh.questionsFree q hq] at hhas
    cases hhas
  -- The questions of the document as a table.
  have htag : ∀ other : SurveyQuestionAdmin, ∀ row ∈ other.choiceList.map (·.row other.id),
      row.questionId = other.id := by
    intro other row hrow
    obtain ⟨c, -, rfl⟩ := List.mem_map.mp hrow
    rfl
  have hnew := Table.filter_flatMap
    (⟨req.questions, hfresh.questions⟩ : Table SurveyQuestionAdmin SurveyQuestionAdmin.id) htag q.id
  have hfind : (⟨req.questions, hfresh.questions⟩ :
      Table SurveyQuestionAdmin SurveyQuestionAdmin.id).find? q.id = some q :=
    Table.find?_eq_some_iff.mpr ⟨hq, rfl⟩
  rw [hfind] at hnew
  rw [Db.choicesOf, hrows, choices_items, List.filter_append, hold, List.nil_append, hnew,
    choicesInOrder]
  symm
  apply List.map_mergeSort
  exact fun _ _ _ _ => rfl

theorem mem_choiceRoles {db : Db} {choiceId roleId : String} :
    roleId ∈ db.choiceRoles choiceId ↔ ⟨choiceId, roleId⟩ ∈ db.surveyChoiceRoles.rows := by
  simp only [Db.choiceRoles, List.mem_map, List.mem_filter, decide_eq_true_eq]
  constructor
  · rintro ⟨row, ⟨hrow, rfl⟩, rfl⟩
    exact hrow
  · exact fun h => ⟨_, ⟨h, rfl⟩, rfl⟩

/-- Two choices of the document with one identifier are the same. -/
theorem SurveyAdmin.Fresh.eq_of_id (hfresh : req.Fresh db) {c c' : SurveyChoiceAdmin}
    (hc : c ∈ req.allChoices) (hc' : c' ∈ req.allChoices) (hid : c.id = c'.id) : c = c' :=
  List.inj_on_of_nodup_map hfresh.choices hc hc' hid

theorem mem_roles (hfresh : req.Fresh db)
    (hroles : ∀ row, row ∈ cleared.surveyChoiceRoles.rows ↔
      row ∈ (deleteSurvey req.id db).surveyChoiceRoles.rows ∨ .role row ∈ req.items)
    {c : SurveyChoiceAdmin} (hc : c ∈ req.allChoices) (roleId : String) :
    roleId ∈ cleared.choiceRoles c.id ↔ roleId ∈ c.roleIds := by
  have hold : ⟨c.id, roleId⟩ ∉ (deleteSurvey req.id db).surveyChoiceRoles.rows := by
    intro hrow
    have hhas := Table.refers_cascade db.surveyChoiceRoles (fun row => some row.choiceId)
      (deleteSurvey req.id db).surveyChoices _ hrow c.id rfl
    rw [hfresh.choicesFree c hc] at hhas
    cases hhas
  rw [mem_choiceRoles, hroles, or_iff_right hold, role_mem_items]
  constructor
  · rintro ⟨c', hc', hid, hrole⟩
    rwa [hfresh.eq_of_id hc hc' hid.symm]
  · exact fun hrole => ⟨c, hc, rfl, hrole⟩

/-- A choice that is stored is loaded as it was submitted exactly if it brings no role twice. -/
theorem shown_full_iff (hstored : req.StoredIn db) {c : SurveyChoiceAdmin} (hc : c ∈ req.allChoices)
    (questionId : String) :
    c.Shown ((c.row questionId).full (db.choiceRoles c.id)) ↔ c.roleIds.Nodup := by
  obtain ⟨hnodup, hmem⟩ := hstored.roles c hc
  constructor
  · intro h
    exact h.roleIds.nodup_iff.mp hnodup
  · intro h
    exact ⟨rfl, rfl, rfl, (List.perm_ext_iff_of_nodup hnodup h).mpr hmem⟩

/-- A question that is stored is loaded as it was submitted exactly if it has choices as its
kind says and they bring no role twice. -/
theorem shown_fullQuestion_iff (hstored : req.StoredIn db) {q : SurveyQuestionAdmin}
    (hq : q ∈ req.questions) :
    q.Shown (db.fullQuestion (q.row req.id)) ↔
      (q.choices.isSome = true ↔ q.kind = "choice") ∧ ∀ c ∈ q.choiceList, c.roleIds.Nodup := by
  have hrequired : decide ((q.row req.id).required ≠ 0) = q.required := by
    rw [SurveyQuestionAdmin.row]
    cases q.required <;> rfl
  have hshown : q.Shown (db.fullQuestion (q.row req.id)) ↔
      Option.Rel (List.Forall₂ SurveyChoiceAdmin.Shown) (q.choices.map choicesInOrder)
        (db.fullQuestion (q.row req.id)).choices :=
    ⟨fun h => h.choices, fun h => ⟨rfl, rfl, rfl, hrequired, rfl, h⟩⟩
  have hloaded : (db.fullQuestion (q.row req.id)).choices =
      if q.kind = "choice" then some ((db.choicesOf q.id).map fun c => c.full (db.choiceRoles c.id))
      else none := rfl
  rw [hshown, hloaded]
  by_cases hkind : q.kind = "choice"
  · rw [if_pos hkind, hstored.choices q hq, List.map_map]
    cases hchoices : q.choices with
    | none =>
        refine iff_of_false (fun h => by cases h) fun h => ?_
        exact absurd (h.1.mpr hkind) (by simp)
    | some choices =>
        have hlist : q.choiceList = choices := by
          rw [SurveyQuestionAdmin.choiceList, hchoices]
          rfl
        rw [Option.map_some, Option.rel_some_some, hlist, List.forall₂_map_right_iff,
          List.forall₂_same]
        simp only [Option.isSome_some, hkind, iff_self, true_and, choicesInOrder,
          List.mem_mergeSort]
        apply forall₂_congr
        intro c hc
        apply shown_full_iff hstored
        exact List.mem_flatMap.mpr ⟨q, hq, hlist ▸ hc⟩
  · rw [if_neg hkind]
    cases hchoices : q.choices with
    | none =>
        refine iff_of_true .none ⟨by simp [hkind], ?_⟩
        rw [SurveyQuestionAdmin.choiceList, hchoices]
        exact fun c hc => absurd hc List.not_mem_nil
    | some choices =>
        refine iff_of_false (fun h => by cases h) fun h => ?_
        exact hkind (h.1.mp rfl)

/-- A document that is stored is loaded as it was submitted exactly if all its questions are. -/
theorem reloads_iff {t : AppState} (hstored : req.StoredIn t.db)
    (hsurvey : t.db.surveys.find? req.id = some (req.row now)) :
    Reloads req .ok t ↔ req.Showable := by
  have henabled : decide ((req.row now).enabled ≠ 0) = req.enabled := by
    rw [SurveyAdmin.row]
    cases req.enabled <;> rfl
  have hrun : (loadSurveyAdmin req.id).run t = (.ok (some ⟨req.id, req.enabled,
      (questionsInOrder req.questions).map fun q => t.db.fullQuestion (q.row req.id)⟩), t) := by
    rw [run_loadSurveyAdmin, hsurvey, Option.map_some, henabled]
    show (Except.ok (some (⟨req.id, req.enabled,
      (t.db.questionsOf req.id).map t.db.fullQuestion⟩ : SurveyAdmin)), t) = _
    rw [hstored.questions, List.map_map]
    rfl
  have hall : req.Showable ↔ List.Forall₂ SurveyQuestionAdmin.Shown (questionsInOrder req.questions)
      ((questionsInOrder req.questions).map fun q => t.db.fullQuestion (q.row req.id)) := by
    rw [List.forall₂_map_right_iff, List.forall₂_same, SurveyAdmin.Showable]
    simp only [questionsInOrder, List.mem_mergeSort]
    apply forall₂_congr
    exact fun q hq => (shown_fullQuestion_iff hstored hq).symm
  rw [hall]
  constructor
  · rintro ⟨-, loaded, hloaded, hshown⟩
    rw [hrun] at hloaded
    cases hloaded
    exact hshown.questions
  · intro h
    exact ⟨rfl, _, hrun, rfl, rfl, h⟩

end Load

/-! ## The handler -/

section Handler

variable {now : Int} {user : String} {req : SurveyAdmin} {s : AppState} {db u db' : Db}

theorem SameSurveys.refl (s : AppState) : SameSurveys s s :=
  ⟨.refl _, .refl _, .refl _, .refl _, rfl, rfl⟩

/-- What `admin_put_survey` does for an administrator. -/
def putSurvey (now : Int) (req : SurveyAdmin) : Handler StatusCode := do
  write (deleteSurvey req.id)
  .when req.enabled (write disableSurveys)
  execute (insertSurvey (req.row now))
  .each req.questions (putQuestion req.id)
  pure .ok

/-- The rows of the other surveys when the new one is inserted. -/
def SurveyAdmin.others (req : SurveyAdmin) (db : Db) : List SurveyRow :=
  if req.enabled then (deleteSurvey req.id db).surveys.rows.map SurveyRow.disable
  else (deleteSurvey req.id db).surveys.rows

/-- The old survey is deleted and the row of the new one is there. -/
structure SurveyOpened (now : Int) (req : SurveyAdmin) (db u : Db) : Prop where
  surveys : u.surveys.rows = req.others db ++ [req.row now]
  questions : u.surveyQuestions = (deleteSurvey req.id db).surveyQuestions
  choices : u.surveyChoices = (deleteSurvey req.id db).surveyChoices
  choiceRoles : u.surveyChoiceRoles = (deleteSurvey req.id db).surveyChoiceRoles
  responses : u.surveyResponses = db.surveyResponses
  answers : u.surveyAnswers = db.surveyAnswers

theorem id_of_mem_others {row : SurveyRow} (h : row ∈ req.others db) : row.id ≠ req.id := by
  have hkept : ∀ old ∈ (deleteSurvey req.id db).surveys.rows, old.id ≠ req.id :=
    fun old hold => of_decide_eq_true (List.mem_filter.mp hold).2
  unfold SurveyAdmin.others at h
  split_ifs at h
  · obtain ⟨old, hold, rfl⟩ := List.mem_map.mp h
    exact hkept old hold
  · exact hkept row h

/-- The first statements are not refused. -/
theorem run_putSurvey (now : Int) (req : SurveyAdmin) (s : AppState) :
    ∃ u, SurveyOpened now req s.db u ∧
      (putSurvey now req).run s =
        (Prog.each req.items (fun item => execute item.insert) >>= fun _ => pure .ok).run
          (s.withDb u) := by
  have hmid : ∃ v : Db, v.surveys.rows = req.others s.db ∧
      v.surveyQuestions = (deleteSurvey req.id s.db).surveyQuestions ∧
      v.surveyChoices = (deleteSurvey req.id s.db).surveyChoices ∧
      v.surveyChoiceRoles = (deleteSurvey req.id s.db).surveyChoiceRoles ∧
      v.surveyResponses = s.db.surveyResponses ∧ v.surveyAnswers = s.db.surveyAnswers ∧
      (putSurvey now req).run s = (execute (insertSurvey (req.row now)) >>= fun _ =>
        Prog.each req.questions (putQuestion req.id) >>= fun _ => pure .ok).run (s.withDb v) := by
    unfold putSurvey SurveyAdmin.others
    rw [Prog.run_bind_of_ok (run_write _ s)]
    cases req.enabled with
    | true =>
        refine ⟨disableSurveys (deleteSurvey req.id s.db), ?_, rfl, rfl, rfl, rfl, rfl, rfl⟩
        show ((deleteSurvey req.id s.db).surveys.update (fun _ => true) SurveyRow.disable
          SurveyRow.disable_id).rows = _
        rw [Table.rows_update]
        rfl
    | false => exact ⟨deleteSurvey req.id s.db, rfl, rfl, rfl, rfl, rfl, rfl, rfl⟩
  obtain ⟨v, hsurveys, hquestions, hchoices, hroles, hresponses, hanswers, hrun⟩ := hmid
  have hfree : v.surveys.has req.id = false := by
    rw [Table.has_eq_false_iff, hsurveys]
    exact fun row hrow => id_of_mem_others hrow
  obtain ⟨table, hinsert, hrows⟩ := Table.insert?_of_free
    (show v.surveys.has (req.row now).id = false from hfree)
  refine ⟨{ v with surveys := table }, ⟨?_, hquestions, hchoices, hroles, hresponses, hanswers⟩, ?_⟩
  · rw [hrows, hsurveys]
  · have hstored : insertSurvey (req.row now) (s.withDb v).db =
        .ok { v with surveys := table } := by
      rw [insertSurvey, withDb_db, hinsert]
    rw [hrun, Prog.run_bind_of_ok (run_execute_of_ok hstored), putQuestions_eq]
    rfl

theorem SurveyOpened.surveyKeyTaken (h : SurveyOpened now req db u) :
    u.surveyKeyTaken = (deleteSurvey req.id db).surveyKeyTaken := by
  rw [Db.surveyKeyTaken, h.questions, h.choices]
  rfl

theorem SurveyOpened.has_survey (h : SurveyOpened now req db u) : u.surveys.has req.id = true := by
  rw [Table.has_iff, h.surveys]
  exact ⟨_, List.mem_concat_self, rfl⟩

/-- The rows of the document, inserted up to the first that is refused. -/
theorem run_putItems (now : Int) (req : SurveyAdmin) (s : AppState) :
    ∃ (u : Db) (result : Except ApiError Unit) (t : AppState),
      SurveyOpened now req s.db u ∧ Inserted (req.firstItems s.db) u t.db ∧
      (result.isOk = true ↔ req.Fresh s.db) ∧
      (putSurvey now req).run s = (result.map fun _ => .ok, t) := by
  obtain ⟨u, hopened, hrun⟩ := run_putSurvey now req s
  have hnone : (s.withDb u).db.Holds [] := fun item hitem => absurd hitem List.not_mem_nil
  have hends := ends_insertItems (s.withDb u) hopened.has_survey hnone (supported_items req)
  rw [withDb_db, hopened.surveyKeyTaken, Prog.Ends] at hends
  rcases hloop : (Prog.each req.items fun item => execute item.insert).run (s.withDb u) with
    ⟨result, t⟩
  rw [hloop] at hends
  refine ⟨u, result, t, hopened, hends.1, hends.2.trans (firstItems_eq_iff req s.db), ?_⟩
  rw [hrun]
  cases result with
  | error e => exact Prog.run_bind_of_error hloop
  | ok _ =>
      rw [Prog.run_bind_of_ok hloop]
      rfl

/-- A document with new identifiers is stored. -/
theorem SurveyOpened.storedIn (hopened : SurveyOpened now req db u)
    (hinserted : Inserted req.items u db') (hfresh : req.Fresh db) : req.StoredIn db' where
  questions := filter_questions (by rw [hinserted.questions, hopened.questions])
  choices _ hq := filter_choices hfresh (by rw [hinserted.choices, hopened.choices]) hq
  roles c hc := ⟨db'.surveyChoiceRoles.nodup_second c.id,
    mem_roles hfresh (fun row => by rw [hinserted.choiceRoles, hopened.choiceRoles]) hc⟩

theorem SurveyRow.disable_eq_self {row : SurveyRow} (h : row.enabled = 0) : row.disable = row := by
  rw [SurveyRow.disable, ← h]

theorem mem_deleteSurvey {row : SurveyRow} :
    row ∈ (deleteSurvey req.id db).surveys.rows ↔ row ∈ db.surveys.rows ∧ row.id ≠ req.id := by
  show row ∈ (db.surveys.keep (·.id ≠ req.id)).rows ↔ _
  rw [Table.rows_keep, List.mem_filter, decide_eq_true_eq]

/-- The surveys are as they were exactly if the row is the old one, and there was nothing to
disable. -/
theorem SurveyOpened.sameRows_iff (h : SurveyOpened now req db u) :
    db.surveys.SameRows u.surveys ↔ req.row now ∈ db.surveys.rows ∧
      (req.enabled = true → ∀ row ∈ db.surveys.rows, row.id ≠ req.id → row.enabled = 0) := by
  have hmem : ∀ row, row ∈ u.surveys.rows ↔ row ∈ req.others db ∨ row = req.row now := by
    intro row
    rw [h.surveys, List.mem_append, List.mem_singleton]
  constructor
  · intro hsame
    refine ⟨(hsame _).mpr ((hmem _).mpr (.inr rfl)), fun henabled row hrow hne => ?_⟩
    rcases (hmem row).mp ((hsame row).mp hrow) with hother | rfl
    · rw [SurveyAdmin.others, if_pos henabled] at hother
      obtain ⟨old, -, rfl⟩ := List.mem_map.mp hother
      rfl
    · exact absurd rfl hne
  · rintro ⟨hrow, hdisabled⟩ row
    have hothers : row ∈ req.others db ↔ row ∈ db.surveys.rows ∧ row.id ≠ req.id := by
      unfold SurveyAdmin.others
      split_ifs with henabled
      · have hself : (deleteSurvey req.id db).surveys.rows.map SurveyRow.disable =
            (deleteSurvey req.id db).surveys.rows := by
          rw [List.map_congr_left (g := id), List.map_id]
          intro old hold
          obtain ⟨hold, hne⟩ := mem_deleteSurvey.mp hold
          exact SurveyRow.disable_eq_self (hdisabled henabled old hold hne)
        rw [hself, mem_deleteSurvey]
      · exact mem_deleteSurvey
    rw [hmem, hothers]
    constructor
    · intro hold
      by_cases hid : row.id = req.id
      · exact .inr (db.surveys.eq_of_key_eq hold hrow hid)
      · exact .inl ⟨hold, hid⟩
    · rintro (hold | rfl)
      · exact hold.1
      · exact hrow

/-- What a call that is refused half way leaves is what was there exactly if it restores it. -/
theorem sameSurveys_iff {t : AppState} (hopened : SurveyOpened now req s.db u)
    (hinserted : Inserted (req.firstItems s.db) u t.db) :
    SameSurveys s t ↔ req.Restores now s.db := by
  have hquestions : s.db.surveyQuestions.SameRows t.db.surveyQuestions ↔
      ∀ row, row ∈ s.db.surveyQuestions.rows ↔
        row ∈ (deleteSurvey req.id s.db).surveyQuestions.rows ∨
          .question row ∈ req.firstItems s.db := by
    apply forall_congr'
    intro row
    rw [hinserted.questions, hopened.questions, List.mem_append, question_mem_iff]
  have hchoices : s.db.surveyChoices.SameRows t.db.surveyChoices ↔
      ∀ row, row ∈ s.db.surveyChoices.rows ↔
        row ∈ (deleteSurvey req.id s.db).surveyChoices.rows ∨
        .choice row ∈ req.firstItems s.db := by
    apply forall_congr'
    intro row
    rw [hinserted.choices, hopened.choices, List.mem_append, choice_mem_iff]
  have hroles : s.db.surveyChoiceRoles.SameRows t.db.surveyChoiceRoles ↔
      ∀ row, row ∈ s.db.surveyChoiceRoles.rows ↔
        row ∈ (deleteSurvey req.id s.db).surveyChoiceRoles.rows ∨
          .role row ∈ req.firstItems s.db := by
    apply forall_congr'
    intro row
    rw [hinserted.choiceRoles, hopened.choiceRoles]
  constructor
  · intro h
    have hsurveys := h.surveys
    rw [hinserted.surveys, hopened.sameRows_iff] at hsurveys
    exact ⟨hsurveys.1, hsurveys.2, hquestions.mp h.questions, hchoices.mp h.choices,
      hroles.mp h.choiceRoles⟩
  · intro h
    refine ⟨?_, hquestions.mpr h.questions, hchoices.mpr h.choices, hroles.mpr h.choiceRoles,
      hinserted.responses.trans hopened.responses, hinserted.answers.trans hopened.answers⟩
    rw [hinserted.surveys, hopened.sameRows_iff]
    exact ⟨h.survey, h.enabled⟩

/-- Whatever happens, at most the new survey is enabled after an attempt to enable it. -/
theorem SurveyOpened.oneSurveyEnabled (h : SurveyOpened now req db u) (hone : db.OneSurveyEnabled) :
    u.OneSurveyEnabled := by
  have hothers : ∀ row ∈ req.others db, row.enabled = 1 → req.enabled = false ∧
      row ∈ db.surveys.rows := by
    intro row hrow henabled
    unfold SurveyAdmin.others at hrow
    split_ifs at hrow with hreq
    · obtain ⟨old, -, rfl⟩ := List.mem_map.mp hrow
      cases henabled
    · exact ⟨Bool.eq_false_iff.mpr hreq, (mem_deleteSurvey.mp hrow).1⟩
  have hnew : (req.row now).enabled = 1 → req.enabled = true := by
    rw [SurveyAdmin.row]
    cases req.enabled <;> simp
  intro first hfirst second hsecond hone₁ hone₂
  rw [h.surveys, List.mem_append, List.mem_singleton] at hfirst hsecond
  rcases hfirst with hfirst | rfl
  · obtain ⟨hdisabled, hfirst⟩ := hothers first hfirst hone₁
    rcases hsecond with hsecond | rfl
    · exact hone first hfirst second (hothers second hsecond hone₂).2 hone₁ hone₂
    · rw [hnew hone₂] at hdisabled
      cases hdisabled
  · rcases hsecond with hsecond | rfl
    · have hdisabled := (hothers second hsecond hone₂).1
      rw [hnew hone₁] at hdisabled
      cases hdisabled
    · rfl

theorem run_adminPutSurvey (now : Int) (user : String) (req : SurveyAdmin) (s : AppState) :
    (adminPutSurvey now user req).run s =
      (.ofExcept ((s.db.userPermissions user).require admin) >>= fun _ =>
        putSurvey now req).run s :=
  Prog.run_bind_of_ok (run_userPermissions user s)

/-- A call keeps the rule that at most one survey is enabled. -/
theorem PutCall.oneSurveyEnabled (call : PutCall) (hone : s.db.OneSurveyEnabled) :
    (call.exec s).db.OneSurveyEnabled := by
  rw [PutCall.exec, run_adminPutSurvey]
  cases (s.db.userPermissions call.user).require admin with
  | error e => exact hone
  | ok _ =>
      obtain ⟨u, result, t, hopened, hinserted, -, hrun⟩ := run_putItems call.now call.req s
      rw [Prog.run_bind_of_ok (Prog.run_ofExcept _ s), hrun]
      intro first hfirst second hsecond
      rw [hinserted.surveys] at hfirst hsecond
      exact hopened.oneSurveyEnabled hone first hfirst second hsecond

theorem oneSurveyEnabled_runAll (calls : List PutCall) (hone : s.db.OneSurveyEnabled) :
    (runAll PutCall.exec calls s).db.OneSurveyEnabled := by
  induction calls generalizing s with
  | nil => exact hone
  | cons call rest ih => exact ih (call.oneSurveyEnabled hone)

/-- A survey is replaced as a whole exactly if the caller is refused, or the identifiers of the
document are new and it can be shown, or what is inserted before the first identifier that is
taken is what has been deleted. -/
theorem putsWhole_iff (now : Int) (user : String) (req : SurveyAdmin) (s : AppState) :
    PutsWhole now user req s ↔ ((s.db.userPermissions user).require admin = .ok () →
      (req.Fresh s.db → req.Showable) ∧ (¬ req.Fresh s.db → req.Restores now s.db)) := by
  have hwhole : (adminPutSurvey now user req).AllOrNothing (SameSurveys s) (Reloads req) s ↔
      ((s.db.userPermissions user).require admin = .ok () →
        (req.Fresh s.db → req.Showable) ∧ (¬ req.Fresh s.db → req.Restores now s.db)) := by
    rw [Prog.allOrNothing_congr (run_adminPutSurvey now user req s),
      Prog.allOrNothing_ofExcept_bind (.refl s)]
    apply imp_congr_right
    intro _
    obtain ⟨u, result, t, hopened, hinserted, hok, hrun⟩ := run_putItems now req s
    cases result with
    | error e =>
        have hclash : ¬ req.Fresh s.db := fun hfresh => by cases hok.mpr hfresh
        rw [Prog.allOrNothing_iff_of_error hrun, sameSurveys_iff hopened hinserted]
        simp only [hclash, false_imp_iff, true_and, not_false_eq_true, forall_const]
    | ok _ =>
        have hfresh : req.Fresh s.db := hok.mp rfl
        have hsurvey : t.db.surveys.find? req.id = some (req.row now) := by
          rw [Table.find?_eq_some_iff, hinserted.surveys, hopened.surveys]
          exact ⟨List.mem_concat_self, rfl⟩
        rw [(firstItems_eq_iff req s.db).mpr hfresh] at hinserted
        rw [Prog.allOrNothing_iff_of_ok hrun,
          reloads_iff (hopened.storedIn hinserted hfresh) hsurvey]
        simp only [hfresh, true_imp_iff, not_true_eq_false, false_imp_iff, and_true]
  rw [← hwhole]
  exact ⟨fun h => h.whole, fun h => ⟨h, fun hone calls => oneSurveyEnabled_runAll calls hone⟩⟩

end Handler

/-! ## A question that is listed twice -/

/-- A hub with an owner and a survey of one question. -/
def askingHub : AppState where
  db :=
    { users := .single { publicKey := "owner", firstSeenAt := 1, lastSeenAt := 1 }
      roles := .single ⟨"builtin-owner", "Owner", 999999, false, 0⟩
      rolePermissions := .single ⟨"builtin-owner", "admin"⟩
      userRoles := .single ⟨"owner", "builtin-owner", 1⟩
      surveys := .single ⟨"welcome", 1, 5⟩
      surveyQuestions := .single ⟨"why?", "welcome", "Why are you here?", "text", 1, 0⟩ }

/-- A document with two questions of one identifier. -/
def repeatedQuestion : SurveyAdmin :=
  ⟨"welcome", true, [⟨"who?", "Who are you?", "text", true, 0, none⟩,
    ⟨"who?", "Who sent you?", "text", false, 1, none⟩]⟩

/-- The old question is gone, and the call has failed. -/
theorem repeatedQuestion_not_putsWhole : ¬ PutsWhole 9 "owner" repeatedQuestion askingHub := by
  have hrun : ((adminPutSurvey 9 "owner" repeatedQuestion).run askingHub).1.isOk = false ∧
      ((adminPutSurvey 9 "owner" repeatedQuestion).run
        askingHub).2.db.surveyQuestions.has "why?" = false := by
    decide +kernel
  intro h
  rcases hanswer : (adminPutSurvey 9 "owner" repeatedQuestion).run askingHub with ⟨e | status, t⟩
  · rw [hanswer] at hrun
    have hquestion := (h.whole.failed e t hanswer).questions
      ⟨"why?", "welcome", "Why are you here?", "text", 1, 0⟩
    exact Table.has_eq_false_iff.mp hrun.2 _ (hquestion.mp (by decide)) rfl
  · rw [hanswer] at hrun
    cases hrun.1

end Voxply.Hub
