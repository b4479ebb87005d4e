/-
# The depth rule, for new and for moved channels

`create_channel` and `update_channel` ask `node_depth` how deep an item would lie under a
parent.  The first takes the answer as it is, the second adds one to it.  So a move is
refused one level higher than a creation, and nowhere else do the two differ.
-/

import Voxply.Hub.ChannelForest

namespace Voxply.Hub

open Voxply.Math

/-! ## What is to hold -/

/-- The errors of the depth checks. -/
def IsDepthError (e : ApiError) : Prop :=
  e = depthLimitError ∨ e = depthExceeded ∨ e = categoryAtMaxDepth

/-- A request is refused because of the depth. -/
def RefusedForDepth {A : Type} (answer : Except ApiError A) : Prop :=
  ∃ e, IsDepthError e ∧ answer = .error e

/-- The limit is none, or the parent is not at the level from which on an item of this kind
is too deep, to one of the two checks only. A parent at depth `m` gives its children the
depth `m + 1`. -/
def SameRule (db : Db) (parentId : String) (isCategory : Bool) : Prop :=
  db.maxChannelDepth = 0 ∨ ∀ m < 50, HasDepth db.parentOf parentId m →
    m + 2 + (if isCategory then 1 else 0) ≠ db.maxChannelDepth

/-! ## The checks -/

section Checks

variable {s : AppState} {parentId channelId : String}

/-- The loop finds the depth as long as it is below the safety limit. -/
theorem run_nodeDepthLoop {rounds depth m : ℕ} {current : String}
    (hdepth : HasDepth s.db.parentOf current m) (hrounds : m < rounds) (hlimit : depth + m ≤ 50) :
    (nodeDepthLoop rounds depth current).run s = (.ok (depth + m), s) := by
  induction m generalizing rounds depth current with
  | zero =>
      obtain ⟨rounds, rfl⟩ := Nat.exists_eq_succ_of_ne_zero (Nat.pos_iff_ne_zero.mp hrounds)
      rw [nodeDepthLoop, Prog.run_bind_of_ok (run_fetch _ s), hasDepth_zero_iff.mp hdepth]
      rfl
  | succ m ih =>
      obtain ⟨rounds, rfl⟩ := Nat.exists_eq_succ_of_ne_zero (Nat.ne_zero_of_lt hrounds)
      cases hparent : s.db.parentOf current with
      | none =>
          have hroot := hdepth.unique (hasDepth_zero_iff.mpr hparent)
          omega
      | some p =>
          rw [nodeDepthLoop, Prog.run_bind_of_ok (run_fetch _ s), hparent]
          dsimp only
          rw [Prog.run_bind_of_ok (Prog.run_ensure_of_pos (by omega) _ s),
            ih ((hasDepth_succ_iff hparent).mp hdepth) (by omega) (by omega)]
          congr 2
          omega

theorem run_nodeDepth {m : ℕ} (hdepth : HasDepth s.db.parentOf parentId m) (hlimit : m < 50) :
    (nodeDepth (some parentId)).run s = (.ok (m + 1), s) := by
  rw [nodeDepth, run_nodeDepthLoop hdepth hlimit (by omega), Nat.add_comm]

theorem nodeDepthLoop_failsOnly (rounds depth : ℕ) (current : String) :
    (nodeDepthLoop rounds depth current).FailsOnly IsDepthError := by
  induction rounds generalizing depth current with
  | zero => exact Prog.failsOnly_ret _
  | succ rounds ih =>
      refine Prog.FailsOnly.bind (Prog.failsOnly_query _) fun parent => ?_
      cases parent with
      | none => exact Prog.failsOnly_ret _
      | some p =>
          exact Prog.FailsOnly.bind (Prog.failsOnly_ensure (.inl rfl)) fun _ => ih _ p

theorem nodeDepth_failsOnly (link : Option String) : (nodeDepth link).FailsOnly IsDepthError := by
  cases link with
  | none => exact Prog.failsOnly_ret _
  | some p => exact nodeDepthLoop_failsOnly 50 1 p

theorem checkCreateDepth_failsOnly (maxDepth : ℕ) (req : CreateChannelRequest) :
    (checkCreateDepth maxDepth req).FailsOnly IsDepthError :=
  Prog.FailsOnly.bind (nodeDepth_failsOnly _) fun _ =>
    Prog.FailsOnly.bind (Prog.failsOnly_ensure (.inr (.inl rfl))) fun _ =>
      Prog.failsOnly_ensure (.inr (.inr rfl))

/-- A creation passes the check of its depth exactly if the depth is found and fits. -/
theorem checkCreateDepth_ok_iff {req : CreateChannelRequest} {maxDepth : ℕ} :
    ((checkCreateDepth maxDepth req).run s).1 = .ok () ↔
      ∃ n, (nodeDepth req.parentId).run s = (.ok n, s) ∧ n ≤ maxDepth - 1 ∧
        ¬ (req.isCategory = true ∧ maxDepth - 1 ≤ n) := by
  have hreads := nodeDepth_reads req.parentId s
  unfold checkCreateDepth
  rcases hdepth : (nodeDepth req.parentId).run s with ⟨e | n, t⟩
  · rw [Prog.run_bind_of_error hdepth]
    simp
  · have hsame : t = s := by rw [hdepth] at hreads; exact hreads
    subst hsame
    rw [Prog.run_bind_of_ok hdepth]
    by_cases hfits : n ≤ maxDepth - 1
    · rw [Prog.run_bind_of_ok (Prog.run_ensure_of_pos hfits _ _)]
      by_cases hcategory : req.isCategory = true ∧ maxDepth - 1 ≤ n
      · rw [Prog.run_ensure_of_neg (not_not.mpr hcategory)]
        refine iff_of_false (by rintro ⟨⟩) ?_
        rintro ⟨k, hk, -, hroom⟩
        cases hk
        exact hroom hcategory
      · rw [Prog.run_ensure_of_pos hcategory]
        exact iff_of_true rfl ⟨n, rfl, hfits, hcategory⟩
    · rw [Prog.run_bind_of_error (Prog.run_ensure_of_neg hfits _ _)]
      refine iff_of_false (by rintro ⟨⟩) ?_
      rintro ⟨k, hk, hle, -⟩
      cases hk
      exact hfits hle

/-- A move passes the check of its depth exactly if the depth is found and fits, when one is
added to it. -/
theorem checkMoveDepth_ok_iff {maxDepth : ℕ} {isCategory : Bool}
    (hknown : s.db.category channelId = some isCategory) :
    ((checkMoveDepth maxDepth channelId parentId).run s).1 = .ok () ↔
      ∃ n, (nodeDepth (some parentId)).run s = (.ok n, s) ∧ n + 1 ≤ maxDepth - 1 ∧
        ¬ (isCategory = true ∧ maxDepth - 1 ≤ n + 1) := by
  have hreads := nodeDepth_reads (some parentId) s
  unfold checkMoveDepth
  rcases hdepth : (nodeDepth (some parentId)).run s with ⟨e | n, t⟩
  · rw [Prog.run_bind_of_error hdepth]
    simp
  · have hsame : t = s := by rw [hdepth] at hreads; exact hreads
    subst hsame
    rw [Prog.run_bind_of_ok hdepth]
    by_cases hfits : n + 1 ≤ maxDepth - 1
    · rw [Prog.run_bind_of_ok (Prog.run_ensure_of_pos hfits _ _),
        Prog.run_bind_of_ok (run_fetch _ _), hknown]
      dsimp only
      by_cases hcategory : isCategory = true ∧ maxDepth - 1 ≤ n + 1
      · rw [Prog.run_ensure_of_neg (not_not.mpr hcategory)]
        refine iff_of_false (by rintro ⟨⟩) ?_
        rintro ⟨k, hk, -, hroom⟩
        cases hk
        exact hroom hcategory
      · rw [Prog.run_ensure_of_pos hcategory]
        exact iff_of_true rfl ⟨n, rfl, hfits, hcategory⟩
    · rw [Prog.run_bind_of_error (Prog.run_ensure_of_neg hfits _ _)]
      refine iff_of_false (by rintro ⟨⟩) ?_
      rintro ⟨k, hk, hle, -⟩
      cases hk
      exact hfits hle

theorem checkMoveDepth_errors {maxDepth : ℕ} {isCategory : Bool}
    (hknown : s.db.category channelId = some isCategory) {e : ApiError}
    (h : ((checkMoveDepth maxDepth channelId parentId).run s).1 = .error e) : IsDepthError e := by
  have hreads := nodeDepth_reads (some parentId) s
  unfold checkMoveDepth at h
  rcases hdepth : (nodeDepth (some parentId)).run s with ⟨e' | n, t⟩
  · rw [Prog.run_bind_of_error hdepth] at h
    cases h
    exact nodeDepth_failsOnly _ s e (congrArg Prod.fst hdepth)
  · have hsame : t = s := by rw [hdepth] at hreads; exact hreads
    subst hsame
    rw [Prog.run_bind_of_ok hdepth] at h
    by_cases hfits : n + 1 ≤ maxDepth - 1
    · rw [Prog.run_bind_of_ok (Prog.run_ensure_of_pos hfits _ _),
        Prog.run_bind_of_ok (run_fetch _ _), hknown] at h
      exact Prog.failsOnly_ensure (.inr (.inr rfl)) _ e h
    · rw [Prog.run_bind_of_error (Prog.run_ensure_of_neg hfits _ _)] at h
      cases h
      exact .inr (.inl rfl)

end Checks

/-! ## The requests -/

section Requests

variable {s : AppState} {A : Type}

/-- After a check of the depth nothing else is refused because of it. -/
theorem refused_bind_iff {p : Handler Unit} {f : Unit → Handler A} (hp : p.Reads)
    (herrors : ∀ e, (p.run s).1 = .error e → IsDepthError e)
    (hf : ∀ u, (f u).FailsOnly fun e => ¬ IsDepthError e) :
    RefusedForDepth ((p >>= f).run s).1 ↔ (p.run s).1 ≠ .ok () := by
  have hsame := hp s
  rcases hrun : p.run s with ⟨e | u, t⟩
  · rw [Prog.run_bind_of_error hrun]
    refine iff_of_true ⟨e, herrors e (by rw [hrun]), rfl⟩ ?_
    rintro ⟨⟩
  · rw [hrun] at hsame
    cases hsame
    rw [Prog.run_bind_of_ok hrun]
    refine iff_of_false ?_ (not_not.mpr rfl)
    rintro ⟨e, hdepth, he⟩
    exact hf u _ e he hdepth

theorem not_isDepthError_of_status {e : ApiError} (h : e.status ≠ .badRequest) :
    ¬ IsDepthError e := by
  rintro (rfl | rfl | rfl) <;> exact h rfl

theorem executeOr_failsOnly {onError : SqlError → ApiError} {f : Db → Except SqlError Db}
    (h : ∀ e, (onError e).status ≠ .badRequest) :
    (executeOr onError f).FailsOnly fun e => ¬ IsDepthError e := by
  apply Prog.failsOnly_attempt
  intro s e he
  cases hf : f s.db with
  | ok db => simp [hf] at he
  | error e' =>
      rw [hf] at he
      cases he
      exact not_isDepthError_of_status (h e')

theorem channelInsertError_status (name : String) (e : SqlError) :
    (channelInsertError name e).status ≠ .badRequest := by
  unfold channelInsertError
  split_ifs
  · intro h
    cases h
  · intro h
    cases h

theorem channelRenameError_status (e : SqlError) : (channelRenameError e).status ≠ .badRequest := by
  unfold channelRenameError
  split_ifs
  · intro h
    cases h
  · intro h
    cases h

theorem resolveChannelType_failsOnly (req : CreateChannelRequest) (e : ApiError)
    (h : resolveChannelType req = .error e) : ¬ IsDepthError e := by
  have htext : ∀ other : String,
      ¬ IsDepthError ⟨.badRequest, "unknown channel_type: " ++ other⟩ := by
    intro other hdepth
    have hfirst : ("unknown channel_type: " ++ other).toList.head? = some 'u' := by
      rw [String.toList_append]
      rfl
    have hmessage : ∀ message : String, "unknown channel_type: " ++ other = message →
        message.toList.head? = some 'u' := by
      rintro message rfl
      exact hfirst
    rcases hdepth with hdepth | hdepth | hdepth
    · exact absurd (hmessage _ (congrArg ApiError.message hdepth)) (by decide)
    · exact absurd (hmessage _ (congrArg ApiError.message hdepth)) (by decide)
    · exact absurd (hmessage _ (congrArg ApiError.message hdepth)) (by decide)
  unfold resolveChannelType at h
  split_ifs at h
  split at h
  · cases h
  · cases h
  · cases h
  · cases h
    exact htext _

/-- Whether a creation is refused because of its depth. -/
theorem createChannel_refused_iff {id user : String} {now : Int} {req : CreateChannelRequest}
    {parentId : String} (hparent : req.parentId = some parentId)
    (hcategory : s.db.category parentId = some true)
    (hauth : (s.db.userPermissions user).require manageChannels = .ok ()) :
    RefusedForDepth ((createChannel id now user req).run s).1 ↔
      ((Prog.when (0 < s.db.maxChannelDepth)
        (checkCreateDepth s.db.maxChannelDepth req)).run s).1 ≠ .ok () := by
  have hguard : (Prog.whenSome req.parentId requireCategory).run s = (.ok (), s) := by
    rw [hparent, Prog.whenSome, requireCategory, Prog.run_bind_of_ok (run_fetch _ s), hcategory]
    rfl
  unfold createChannel
  rw [Prog.run_bind_of_ok (run_userPermissions user s), hauth]
  rw [Prog.run_bind_of_ok (Prog.run_ofExcept _ s), Prog.run_bind_of_ok hguard,
    Prog.run_bind_of_ok (run_fetch _ s)]
  apply refused_bind_iff (Prog.reads_when (checkCreateDepth_reads _ req))
  · exact fun e h => Prog.failsOnly_when (checkCreateDepth_failsOnly _ req) s e h
  · intro _
    refine Prog.FailsOnly.bind (Prog.failsOnly_ofExcept (resolveChannelType_failsOnly req)) fun _ =>
      ?_
    refine Prog.FailsOnly.bind (Prog.failsOnly_query _) fun _ => ?_
    refine Prog.FailsOnly.bind (executeOr_failsOnly (channelInsertError_status _)) fun _ => ?_
    exact Prog.failsOnly_ret _

/-- A channel without children is not found among the ancestors. -/
theorem run_checkMove {channelId parentId : String} (hne : parentId ≠ channelId)
    (hcategory : s.db.category parentId = some true)
    (hchildless : ∀ child, s.db.parentOf child ≠ some channelId) :
    (checkMove channelId parentId).run s =
      (Prog.when (0 < s.db.maxChannelDepth)
        (checkMoveDepth s.db.maxChannelDepth channelId parentId)).run s := by
  have hguard : (requireCategory parentId).run s = (.ok (), s) := by
    rw [requireCategory, Prog.run_bind_of_ok (run_fetch _ s), hcategory]
    rfl
  have hsearch : (isAncestor channelId parentId).run s = (.ok false, s) := by
    rw [isAncestor, run_isAncestorLoop, decide_eq_false]
    rintro ⟨k, -, hclimb⟩
    exact climb_ne_of_childless hchildless hne (k + 1) hclimb
  unfold checkMove
  rw [Prog.run_bind_of_ok (Prog.run_ensure_of_pos hne _ s), Prog.run_bind_of_ok hguard,
    Prog.run_bind_of_ok hsearch, Prog.run_bind_of_ok (Prog.run_ensure_of_pos rfl _ s),
    Prog.run_bind_of_ok (run_fetch _ s)]

/-- Whether a move is refused because of its depth. -/
theorem updateChannel_refused_iff {user channelId parentId : String} {req : UpdateChannelRequest}
    {isCategory : Bool} (hparent : req.parentId = some (some parentId))
    (hknown : s.db.category channelId = some isCategory) (hne : parentId ≠ channelId)
    (hcategory : s.db.category parentId = some true)
    (hchildless : ∀ child, s.db.parentOf child ≠ some channelId)
    (hauth : req.authorize (s.db.userPermissions user) = .ok ()) :
    RefusedForDepth ((updateChannel user channelId req).run s).1 ↔
      ((Prog.when (0 < s.db.maxChannelDepth)
        (checkMoveDepth s.db.maxChannelDepth channelId parentId)).run s).1 ≠ .ok () := by
  have hpresent : s.db.channels.has channelId = true := by
    by_contra hfree
    rw [Bool.not_eq_true, ← category_eq_none_iff, hknown] at hfree
    cases hfree
  have hmove := run_checkMove hne hcategory hchildless
  unfold updateChannel
  rw [Prog.run_bind_of_ok (run_userPermissions user s), Prog.run_bind_of_ok (run_fetch _ s),
    Prog.run_bind_of_ok (Prog.run_ensure_of_pos hpresent _ s), hauth,
    Prog.run_bind_of_ok (Prog.run_ofExcept _ s), hparent, ← hmove]
  show RefusedForDepth ((checkMove channelId parentId >>= _).run s).1 ↔ _
  apply refused_bind_iff (checkMove_reads channelId parentId)
  · intro e he
    rw [hmove] at he
    unfold Prog.when at he
    split_ifs at he
    · exact checkMoveDepth_errors hknown he
    · cases he
  · intro _
    refine Prog.FailsOnly.bind (Prog.failsOnly_when (executeOr_failsOnly fun _ h => by cases h))
      fun _ => ?_
    refine Prog.FailsOnly.bind (Prog.failsOnly_whenSome fun name => ?_) fun _ =>
      Prog.failsOnly_ret _
    refine Prog.FailsOnly.bind (Prog.failsOnly_ensure ?_) fun _ =>
      executeOr_failsOnly channelRenameError_status
    rintro (h | h | h)
    · exact absurd (congrArg ApiError.message h) (by decide)
    · exact absurd (congrArg ApiError.message h) (by decide)
    · exact absurd (congrArg ApiError.message h) (by decide)

end Requests

/-! ## The rule -/

section Rule

variable {s : AppState} {channelId parentId : String} {isCategory : Bool}

/-- The depth that the checks work with. -/
theorem nodeDepth_ok_iff {n : ℕ} :
    (nodeDepth (some parentId)).run s = (.ok n, s) ↔
      ∃ m < 50, HasDepth s.db.parentOf parentId m ∧ n = m + 1 := by
  constructor
  · intro h
    obtain ⟨⟨m, rfl, hdepth⟩, hle⟩ := nodeDepth_eq_ok (congrArg Prod.fst h)
    exact ⟨m, by omega, hdepth, rfl⟩
  · rintro ⟨m, hlt, hdepth, rfl⟩
    exact run_nodeDepth hdepth hlt

/-- The two checks agree exactly if the parent is not at the level at which they differ. -/
theorem checks_agree_iff {req : CreateChannelRequest} (hparent : req.parentId = some parentId)
    (hknown : s.db.category channelId = some req.isCategory) :
    (((Prog.when (0 < s.db.maxChannelDepth)
        (checkMoveDepth s.db.maxChannelDepth channelId parentId)).run s).1 = .ok () ↔
      ((Prog.when (0 < s.db.maxChannelDepth)
        (checkCreateDepth s.db.maxChannelDepth req)).run s).1 = .ok ()) ↔
      SameRule s.db parentId req.isCategory := by
  generalize hd : s.db.maxChannelDepth = d
  unfold SameRule
  rw [hd]
  by_cases hlimited : 0 < d
  · rw [Prog.when, if_pos hlimited, Prog.when, if_pos hlimited, checkMoveDepth_ok_iff hknown,
      checkCreateDepth_ok_iff, hparent]
    simp only [nodeDepth_ok_iff]
    constructor
    · intro h
      refine .inr fun m hm hdepth heq => ?_
      have hcreate : ∃ n, (∃ m < 50, HasDepth s.db.parentOf parentId m ∧ n = m + 1) ∧ n ≤ d - 1 ∧
          ¬ (req.isCategory = true ∧ d - 1 ≤ n) := by
        refine ⟨m + 1, ⟨m, hm, hdepth, rfl⟩, ?_, ?_⟩
        · split_ifs at heq <;> omega
        · rintro ⟨hcategory, hle⟩
          rw [if_pos hcategory] at heq
          omega
      obtain ⟨n, ⟨m', -, hdepth', rfl⟩, hfits, hroom⟩ := h.mpr hcreate
      rw [hdepth'.unique hdepth] at hfits hroom
      split_ifs at heq with hcategory
      · exact hroom ⟨hcategory, by omega⟩
      · omega
    · rintro (hnone | hlevel)
      · omega
      · constructor
        · rintro ⟨n, hn, hfits, hroom⟩
          exact ⟨n, hn, by omega, fun h => hroom ⟨h.1, by omega⟩⟩
        · rintro ⟨n, ⟨m, hm, hdepth, rfl⟩, hfits, hroom⟩
          have hne := hlevel m hm hdepth
          refine ⟨m + 1, ⟨m, hm, hdepth, rfl⟩, ?_, ?_⟩
          · split_ifs at hne with hcategory
            · have := not_and.mp hroom hcategory
              omega
            · omega
          · rintro ⟨hcategory, hle⟩
            rw [if_pos hcategory] at hne
            have := not_and.mp hroom hcategory
            omega
  · rw [Prog.when, if_neg hlimited, Prog.when, if_neg hlimited]
    exact iff_of_true Iff.rfl (.inl (by omega))

/-- A channel without children is moved under a category exactly if a channel of its kind
may be created there, unless that is the level at which the checks differ. -/
theorem depthRule_iff (s : AppState) (id user channelId parentId : String) (now : Int)
    (create : CreateChannelRequest) (update : UpdateChannelRequest)
    (hupdate : update.parentId = some (some parentId)) (hcreate : create.parentId = some parentId)
    (hkind : s.db.category channelId = some create.isCategory)
    (hcategory : s.db.category parentId = some true) (hne : parentId ≠ channelId)
    (hchildless : ∀ child, s.db.parentOf child ≠ some channelId)
    (hmay : (s.db.userPermissions user).require manageChannels = .ok ())
    (hauthorized : update.authorize (s.db.userPermissions user) = .ok ()) :
    (¬ RefusedForDepth ((updateChannel user channelId update).run s).1 ↔
        ¬ RefusedForDepth ((createChannel id now user create).run s).1) ↔
      SameRule s.db parentId create.isCategory := by
  rw [updateChannel_refused_iff hupdate hkind hne hcategory hchildless hauthorized,
    createChannel_refused_iff hcreate hcategory hmay, not_not, not_not]
  exact checks_agree_iff hcreate hkind

end Rule

/-! ## Two levels -/

/-- A category at the top and a channel beside it, with a limit. -/
def shallowHub (maxDepth : String) : AppState where
  db := { Db.migrated with
    users := ⟨[⟨"owner", 0, 0, .approved, none, false, 0, none, .none, none⟩], by decide⟩
    userRoles := ⟨[⟨"owner", "builtin-owner", 0⟩], by decide⟩
    hubSettings := ⟨[⟨"max_channel_depth", maxDepth⟩], List.nodup_singleton _⟩
    channels := ⟨[
      { id := "top", name := "top", createdBy := "owner", parentId := none, isCategory := true,
        createdAt := 0 },
      { id := "leaf", name := "leaf", createdBy := "owner", parentId := none, createdAt := 0 }],
      by decide⟩ }

def underTop : UpdateChannelRequest :=
  { parentId := some (some "top") }

def newLeaf : CreateChannelRequest :=
  { name := "new", parentId := some "top" }

/-- With three levels there is room for both. -/
theorem depthRule_threeLevels :
    ¬ RefusedForDepth ((updateChannel "owner" "leaf" underTop).run (shallowHub "3")).1 ↔
      ¬ RefusedForDepth ((createChannel "new" 1 "owner" newLeaf).run (shallowHub "3")).1 := by
  refine (depthRule_iff (shallowHub "3") "new" "owner" "leaf" "top" 1 newLeaf underTop rfl rfl
    (by decide +kernel) (by decide +kernel) (by decide) ?_ (by decide +kernel)
    (by decide +kernel)).mpr (.inr ?_)
  · intro child hchild
    obtain ⟨row, hrow, hparent⟩ := Option.bind_eq_some_iff.mp hchild
    have hnone : ∀ row ∈ (shallowHub "3").db.channels.rows, row.parentId ≠ some "leaf" := by
      decide
    exact hnone row (Table.find?_eq_some_iff.mp hrow).1 hparent
  · intro m _ hdepth
    have htop : HasDepth (shallowHub "3").db.parentOf "top" 0 := hasDepth_zero_iff.mpr rfl
    rw [hdepth.unique htop]
    decide +kernel

/-- With two levels a leaf may be created in a category at the top, but not moved there. -/
theorem twoLevels_not_sameRule :
    ¬ (¬ RefusedForDepth ((updateChannel "owner" "leaf" underTop).run (shallowHub "2")).1 ↔
      ¬ RefusedForDepth ((createChannel "new" 1 "owner" newLeaf).run (shallowHub "2")).1) := by
  have hmove : ((updateChannel "owner" "leaf" underTop).run (shallowHub "2")).1 =
      .error depthExceeded := by
    decide +kernel
  have hcreate : ((createChannel "new" 1 "owner" newLeaf).run (shallowHub "2")).1.isOk = true := by
    decide +kernel
  intro h
  have hrefused : RefusedForDepth
      ((updateChannel "owner" "leaf" underTop).run (shallowHub "2")).1 :=
    ⟨depthExceeded, .inr (.inl rfl), hmove⟩
  refine h.mpr ?_ hrefused
  rintro ⟨e, -, he⟩
  rw [he] at hcreate
  cases hcreate

end Voxply.Hub
