/-
# The first owner

The first member of a new hub becomes its owner.  Logins and farm tokens decide
this in the same way: they count the owners in one statement and insert the role
in a later one.  Over every interleaving there is an owner as soon as anybody
has a role.  There is one owner only exactly if every statement that grants the
role still finds nobody holding it, which nothing enforces.
-/

import Voxply.Hub.CanonicalIdentity
import Voxply.Hub.LoginStatements

namespace Voxply.Hub

open Voxply.Math Voxply.Identity

variable {lib : Crates} {s t : AppState}

/-! ## Requests -/

/-- The requests that assign roles to newcomers: a login, and any request that
is authenticated by the extractor. -/
inductive JoinRequest where
  | verify (env : LoginEnv) (req : VerifyRequest)
  | authenticate (authEnv : AuthEnv) (header : AuthRequest)

def JoinRequest.handler (lib : Crates) : JoinRequest → Handler Unit
  | .verify env req => do
      let _ ← Hub.verify lib env req
      pure ()
  | .authenticate authEnv header => do
      let _ ← authUser lib authEnv header
      pure ()

/-- A request that is only let in after its roles were seen to: a login, or a
request with a farm token. -/
def JoinRequest.AssignsRoles : JoinRequest → Prop
  | .verify _ _ => True
  | .authenticate _ header =>
      ∃ token, bearerToken header = .ok token ∧ isFarmToken token = true

abbrev JoinEvent := Event JoinRequest AppState

/-- Follow a schedule of logins and authenticated requests. -/
abbrev joinRun (lib : Crates) (moves : List (Move JoinRequest)) (s : AppState) :
    Server JoinRequest AppState ApiError Unit :=
  serve (JoinRequest.handler lib) moves s

/-! ## Owners -/

def UserRoleRow.IsOwner (row : UserRoleRow) : Prop :=
  row.roleId = "builtin-owner"

instance (row : UserRoleRow) : Decidable row.IsOwner :=
  inferInstanceAs (Decidable (_ = _))

def Db.HasOwner (db : Db) : Prop :=
  ∃ row ∈ db.userRoles.rows, row.IsOwner

/-- All owner rows belong to one user. -/
def Db.OneOwner (db : Db) : Prop :=
  ∀ first ∈ db.userRoles.rows, ∀ second ∈ db.userRoles.rows, first.IsOwner → second.IsOwner →
    first.userPublicKey = second.userPublicKey

instance (db : Db) : Decidable db.OneOwner :=
  inferInstanceAs (Decidable (∀ first ∈ db.userRoles.rows, ∀ second ∈ db.userRoles.rows,
    first.IsOwner → second.IsOwner → first.userPublicKey = second.userPublicKey))

/-- The statement makes somebody an owner. -/
def Grants (e : JoinEvent) : Prop :=
  ∃ granted ∈ e.after.db.userRoles.rows, granted ∉ e.before.db.userRoles.rows ∧ granted.IsOwner

/-- Nobody is made an owner between a job's grant and the statement that the job
has sent last before it, which is its own search for an owner. -/
def GrantsUnraced (history : List JoinEvent) : Prop :=
  ∀ pre read between e post, history = pre ++ read :: between ++ e :: post → read.job = e.job →
    (∀ other ∈ between, other.job ≠ e.job) → Grants e → ∀ other ∈ between, ¬ Grants other

/-- A statement that grants the owner role finds nobody holding it. -/
def GrantsToFirst (e : JoinEvent) : Prop :=
  ∀ granted ∈ e.after.db.userRoles.rows, granted ∉ e.before.db.userRoles.rows →
    granted.IsOwner → ∀ row ∈ e.before.db.userRoles.rows, ¬ row.IsOwner

/-! ## Statements -/

/-- What the two handlers send. -/
def JoinRequest.Sends (lib : Crates) : JoinRequest → List (Sent AppState) → Sent AppState → Prop
  | .verify env req => LoginSent lib env req
  | .authenticate _ _ => RoleSent

theorem JoinRequest.handler_follows (lib : Crates) (request : JoinRequest) :
    (request.handler lib).Follows (request.Sends lib)
      (fun _ past => request.AssignsRoles → SeenOwner past) [] := by
  cases request with
  | verify env req =>
      apply verify_follows.bind
      exact fun _ _ _ hpost _ => hpost.1
  | authenticate authEnv header =>
      apply (authUser_follows authEnv header).bind
      rintro _ past - hpost ⟨token, htoken, hfarm⟩
      exact hpost token htoken hfarm

/-- What a statement does to members, roles and role assignments. -/
inductive RoleEffect (past : List (Sent AppState)) (sent : Sent AppState) : Prop
  | same (h : sent.after.db.userRoles = sent.before.db.userRoles)
  | owner (h : TriedOwner past sent)
  | everyone (canonical : String) (now : Int) (hseen : SeenOwner past)
      (h : sent.statement =
        executed (insertUserRoleOrIgnore ⟨canonical, "builtin-everyone", now⟩))

theorem RoleSent.effect {past : List (Sent AppState)} {sent : Sent AppState}
    (h : RoleSent past sent) : RoleEffect past sent := by
  cases h with
  | quiet h => exact .same h.userRoles
  | owner h => exact .owner h
  | everyone canonical now hseen h => exact .everyone canonical now hseen h

/-- Roles and members are left alone by every statement, up to new members. -/
theorem JoinRequest.Sends.effect {request : JoinRequest} {past : List (Sent AppState)}
    {sent : Sent AppState} (h : request.Sends lib past sent) :
    RoleEffect past sent ∧ sent.after.db.roles = sent.before.db.roles ∧
      ∀ key, sent.before.db.users.has key = true → sent.after.db.users.has key = true := by
  cases request with
  | authenticate authEnv header =>
      have haside := RoleSent.aside h
      exact ⟨RoleSent.effect h, haside.roles, haside.members⟩
  | verify env req =>
      cases h with
      | take hpast h =>
          have hafter : sent.after = sent.before.setChallenge req.publicKey none := by
            rw [Sent.after, h]
          rw [hafter]
          exact ⟨.same (by rw [hafter]; rfl), rfl, fun _ hkey => hkey⟩
      | session canonical hanswered h =>
          have hafter : sent.after =
              executed (insertSession ⟨env.token, canonical, env.now⟩) sent.before := by
            rw [Sent.after, h]
          have hframe : sent.after.db.userRoles = sent.before.db.userRoles ∧
              sent.after.db.roles = sent.before.db.roles ∧
              sent.after.db.users = sent.before.db.users := by
            rw [hafter]
            unfold executed insertSession
            cases sent.before.db.sessions.insert? ⟨env.token, canonical, env.now⟩ with
            | none => exact ⟨rfl, rfl, rfl⟩
            | some sessions =>
                dsimp only
                split_ifs
                · exact ⟨rfl, rfl, rfl⟩
                · exact ⟨rfl, rfl, rfl⟩
          obtain ⟨huserRoles, hroles, husers⟩ := hframe
          exact ⟨.same huserRoles, hroles, fun key hkey => by rwa [husers]⟩
      | other hpast h => exact ⟨h.effect, h.aside.roles, h.aside.members⟩

/-- An insertion adds its row or nothing. -/
theorem executed_insertUserRole_cases (row : UserRoleRow) (s : AppState) :
    executed (insertUserRole row) s = s ∨
      (executed (insertUserRole row) s).db.userRoles.rows = s.db.userRoles.rows ++ [row] := by
  unfold executed insertUserRole
  cases hinsert : s.db.userRoles.insert? row with
  | none => exact .inl rfl
  | some userRoles =>
      dsimp only
      split_ifs
      · exact .inr (Table.insert?_eq_some_iff.mp hinsert).2
      · exact .inl rfl

theorem executed_insertUserRoleOrIgnore (row : UserRoleRow) (s : AppState) :
    executed (insertUserRoleOrIgnore row) s =
      if s.db.userRoles.has row.key then s else executed (insertUserRole row) s := by
  unfold executed insertUserRoleOrIgnore
  split_ifs
  · exact withDb_self s
  · rfl

/-- Role assignments are only ever added, one at a time. -/
theorem RoleEffect.rows {past : List (Sent AppState)} {sent : Sent AppState}
    (h : RoleEffect past sent) :
    sent.after.db.userRoles = sent.before.db.userRoles ∨
      ∃ row, sent.after.db.userRoles.rows = sent.before.db.userRoles.rows ++ [row] := by
  have hinsert : ∀ row, (executed (insertUserRole row) sent.before).db.userRoles =
      sent.before.db.userRoles ∨ ∃ row',
      (executed (insertUserRole row) sent.before).db.userRoles.rows =
        sent.before.db.userRoles.rows ++ [row'] := by
    intro row
    rcases executed_insertUserRole_cases row sent.before with hsame | hrows
    · exact .inl (by rw [hsame])
    · exact .inr ⟨row, hrows⟩
  cases h with
  | same h => exact .inl h
  | owner h =>
      obtain ⟨canonical, now, -, -, h⟩ := h
      rw [Sent.after, h]
      exact hinsert _
  | everyone canonical now _ h =>
      rw [Sent.after, h, executed_insertUserRoleOrIgnore]
      split_ifs
      · exact .inl rfl
      · exact hinsert _

/-- Only the statement that asks for the owner role makes an owner. -/
theorem RoleEffect.tried_of_grants {past : List (Sent AppState)} {e : JoinEvent}
    (h : RoleEffect past e.toSent) (hgrants : Grants e) : TriedOwner past e.toSent := by
  obtain ⟨granted, hafter, hbefore, howner⟩ := hgrants
  cases h with
  | same h => exact absurd (h ▸ hafter) hbefore
  | owner h => exact h
  | everyone canonical now _ h =>
      rw [Sent.after, h, executed_insertUserRoleOrIgnore] at hafter
      split_ifs at hafter
      · exact absurd hafter hbefore
      rcases executed_insertUserRole_cases ⟨canonical, "builtin-everyone", now⟩ e.before with
        hsame | hrows
      · rw [hsame] at hafter
        exact absurd hafter hbefore
      · rw [hrows, List.mem_append, List.mem_singleton] at hafter
        rcases hafter with hold | rfl
        · exact absurd hold hbefore
        · have hrole : "builtin-everyone" = "builtin-owner" := howner
          exact absurd hrole (by decide)

/-- Asking for the owner role leaves an owner, if the member and the role are
there. -/
theorem hasOwner_grantsOwner {canonical : String} {s : AppState} (now : Int)
    (hmember : s.db.users.has canonical = true) (hrole : s.db.roles.has "builtin-owner" = true) :
    (grantsOwner canonical now s).db.HasOwner := by
  unfold grantsOwner executed insertUserRole
  cases hinsert : s.db.userRoles.insert? ⟨canonical, "builtin-owner", now⟩ with
  | none =>
      obtain ⟨old, hold, hkey⟩ := Table.insert?_eq_none_iff.mp hinsert
      exact ⟨old, hold, congrArg Prod.snd hkey⟩
  | some userRoles =>
      dsimp only
      rw [if_pos ⟨hmember, hrole⟩]
      refine ⟨⟨canonical, "builtin-owner", now⟩, ?_, rfl⟩
      rw [withDb_db, (Table.insert?_eq_some_iff.mp hinsert).2]
      simp

/-! ## Runs -/

theorem RoleEffect.grow {past : List (Sent AppState)} {sent : Sent AppState}
    (h : RoleEffect past sent) {row : UserRoleRow} (hrow : row ∈ sent.before.db.userRoles.rows) :
    row ∈ sent.after.db.userRoles.rows := by
  rcases h.rows with hsame | ⟨new, hrows⟩
  · rwa [hsame]
  · rw [hrows]
    exact List.mem_append_left _ hrow

theorem RoleEffect.hasOwner {past : List (Sent AppState)} {sent : Sent AppState}
    (h : RoleEffect past sent) (howner : sent.before.db.HasOwner) : sent.after.db.HasOwner := by
  obtain ⟨row, hrow, hrole⟩ := howner
  exact ⟨row, h.grow hrow, hrole⟩

/-- What keeps an owner in place: the built-in roles are there, and whoever has
a role, had one, or was ever to be made the owner, has seen to an owner. -/
structure Bootstrapped (history : List JoinEvent) (t : AppState) : Prop where
  roles : t.db.roles = Db.migrated.roles
  now : t.db.userRoles.rows ≠ [] → t.db.HasOwner
  before : ∀ e ∈ history, e.before.db.userRoles.rows ≠ [] → t.db.HasOwner
  tried : ∀ pre e post, history = pre ++ e :: post → TriedOwner (sentBy e.job pre) e.toSent →
    t.db.HasOwner

theorem Bootstrapped.of_seenOwner {history : List JoinEvent} (h : Bootstrapped history t)
    {job : ℕ} (hseen : SeenOwner (sentBy job history)) : t.db.HasOwner := by
  obtain ⟨earlier, sent, hsent, hcase⟩ := hseen
  obtain ⟨pre, e, post, hsplit, rfl, rfl, rfl⟩ := exists_event hsent
  rcases hcase with hrows | htried
  · exact h.before e (by simp [hsplit]) hrows
  · exact h.tried pre e post hsplit htried

section Run

variable {history : List JoinEvent} (hrun : Interleaving (JoinRequest.Sends lib) s history t)

include hrun

theorem effect_of_mem {e : JoinEvent} (he : e ∈ history) :
    (∃ past, RoleEffect past e.toSent) ∧
      ∀ key, e.before.db.users.has key = true → e.after.db.users.has key = true := by
  obtain ⟨pre, post, hsplit⟩ := List.append_of_mem he
  obtain ⟨heffect, -, hmembers⟩ := (hrun.split hsplit).2.1.effect
  exact ⟨⟨_, heffect⟩, hmembers⟩

theorem role_kept {e : JoinEvent} (he : e ∈ history) {row : UserRoleRow}
    (hrow : row ∈ e.after.db.userRoles.rows) : row ∈ t.db.userRoles.rows := by
  apply hrun.kept (fun s => row ∈ s.db.userRoles.rows) _ he hrow
  intro e he
  obtain ⟨past, heffect⟩ := (effect_of_mem hrun he).1
  exact heffect.grow

theorem member_kept {e : JoinEvent} (he : e ∈ history) {key : String}
    (hkey : e.after.db.users.has key = true) : t.db.users.has key = true :=
  hrun.kept (fun s => s.db.users.has key = true) (fun _ he => (effect_of_mem hrun he).2 key) he hkey

theorem hasOwner_of_tried {e : JoinEvent} (hbefore : e.before = t)
    (hroles : t.db.roles = Db.migrated.roles) (h : TriedOwner (sentBy e.job history) e.toSent) :
    e.after.db.HasOwner := by
  obtain ⟨canonical, now, ⟨earlier, hearlier, hmember⟩, -, hstatement⟩ := h
  obtain ⟨other, hother, -, rfl⟩ := mem_sentBy.mp hearlier
  rw [Sent.after, hstatement, hbefore]
  apply hasOwner_grantsOwner now (member_kept hrun hother hmember)
  rw [hroles]
  decide

theorem bootstrapped_of_run (hmigrated : s.db = .migrated) : Bootstrapped history t := by
  induction hrun with
  | idle =>
      have hnobody : s.db.userRoles.rows = [] := by
        rw [hmigrated]
        rfl
      exact ⟨by rw [hmigrated], fun h => absurd hnobody h, by simp, by simp⟩
  | @exec history t e hrun hbefore hown hgood ih =>
      obtain ⟨heffect, hroles, -⟩ := hgood.effect
      subst hbefore
      have hnow : e.after.db.userRoles.rows ≠ [] → e.after.db.HasOwner := by
        intro hrows
        cases heffect with
        | same h =>
            have hbefore : e.before.db.HasOwner := ih.now (h ▸ hrows)
            exact (RoleEffect.same h : RoleEffect [] e.toSent).hasOwner hbefore
        | owner h => exact hasOwner_of_tried hrun rfl ih.roles h
        | everyone canonical now hseen h =>
            exact RoleEffect.hasOwner (.everyone canonical now hseen h) (ih.of_seenOwner hseen)
      refine ⟨hroles.trans ih.roles, hnow, ?_, ?_⟩
      · intro other hother hrows
        rcases List.mem_append.mp hother with hother | hother
        · exact heffect.hasOwner (ih.before other hother hrows)
        · rw [List.mem_singleton.mp hother] at hrows
          exact heffect.hasOwner (ih.now hrows)
      · intro pre other post hsplit htried
        rcases snoc_split hsplit with ⟨rfl, rfl, -⟩ | ⟨between, -, hinit⟩
        · exact hasOwner_of_tried hrun rfl ih.roles htried
        · exact heffect.hasOwner (ih.tried pre other between hinit htried)

/-- There is one owner exactly if every grant found none. -/
theorem oneOwner_iff_of_run (hmigrated : s.db = .migrated) :
    t.db.OneOwner ↔ ∀ e ∈ history, GrantsToFirst e := by
  constructor
  · -- Two owners at any time are two owners now.
    intro hone e he granted hgranted hnew howner row hrow hrowOwner
    obtain ⟨past, heffect⟩ := (effect_of_mem hrun he).1
    have hsame := hone granted (role_kept hrun he hgranted) row
      (role_kept hrun he (heffect.grow hrow)) howner hrowOwner
    have hkey : granted.key = row.key :=
      Prod.ext hsame (Eq.trans howner (Eq.symm hrowOwner))
    exact hnew (e.after.db.userRoles.eq_of_key_eq hgranted (heffect.grow hrow) hkey ▸ hrow)
  · intro hfirst
    induction hrun with
    | idle =>
        intro row hrow
        rw [hmigrated] at hrow
        cases hrow
    | @exec history t e hrun hbefore hown hgood ih =>
        subst hbefore
        have hold := ih fun other hother => hfirst other (List.mem_append_left _ hother)
        rcases hgood.effect.1.rows with hsame | ⟨new, hrows⟩
        · rw [Db.OneOwner, hsame]
          exact hold
        · have hgrant := hfirst e (by simp) new (by simp [hrows])
          intro first hfirstRow second hsecondRow howner hsecondOwner
          by_cases hknown : new ∈ e.before.db.userRoles.rows
          · have hall : ∀ row ∈ e.after.db.userRoles.rows, row ∈ e.before.db.userRoles.rows := by
              intro row hrow
              rw [hrows, List.mem_append, List.mem_singleton] at hrow
              exact hrow.elim id fun hnew => hnew ▸ hknown
            exact hold first (hall first hfirstRow) second (hall second hsecondRow) howner
              hsecondOwner
          · rw [hrows, List.mem_append, List.mem_singleton] at hfirstRow hsecondRow
            rcases hfirstRow with hfirstRow | rfl <;> rcases hsecondRow with hsecondRow | rfl
            · exact hold first hfirstRow second hsecondRow howner hsecondOwner
            · exact absurd howner (hgrant hknown hsecondOwner first hfirstRow)
            · exact absurd hsecondOwner (hgrant hknown howner second hsecondRow)
            · rfl

/-- What a job has sent last before it makes an owner is a search that found
none. -/
theorem search_of_grants {pre post : List JoinEvent} {e : JoinEvent}
    (hsplit : history = pre ++ e :: post) (hgrants : Grants e) :
    ∃ early read between, pre = early ++ read :: between ∧ read.job = e.job ∧
      (∀ other ∈ between, other.job ≠ e.job) ∧ ¬ read.after.db.HasOwner := by
  obtain ⟨-, -, -, ⟨s, hlast, hnone⟩, -⟩ :=
    (hrun.split hsplit).2.1.effect.1.tried_of_grants hgrants
  obtain ⟨past, hpast⟩ := List.getLast?_eq_some_iff.mp hlast
  have hprefix : past ++ [⟨id, s⟩] <+: sentBy e.job pre := hpast ▸ List.prefix_rfl
  obtain ⟨early, read, between, rfl, hjob, hsent, hearly⟩ := exists_event hprefix
  refine ⟨early, read, between, rfl, hjob, ?_, ?_⟩
  · have hread : sentBy e.job (read :: between) = read.toSent :: sentBy e.job between := by
      simp [sentBy, hjob]
    have hrest : sentBy e.job between = [] := by
      rw [sentBy_append, hread, hearly, hsent] at hpast
      simpa using hpast
    intro other hother hsame
    have hmem : other.toSent ∈ sentBy e.job between := mem_sentBy.mpr ⟨other, hother, hsame, rfl⟩
    rw [hrest] at hmem
    cases hmem
  · have hafter : read.after = s := by
      rw [hsent]
      rfl
    rintro ⟨row, hrow, howner⟩
    rw [hafter] at hrow
    exact List.any_eq_false.mp hnone row hrow (decide_eq_true howner)

/-- Every grant finds nobody holding the role exactly if none was made since its
own job has searched for an owner. -/
theorem grantsToFirst_iff_of_run :
    (∀ e ∈ history, GrantsToFirst e) ↔ GrantsUnraced history := by
  constructor
  · rintro hfirst pre read between e post hsplit - - ⟨granted, hafter, hbefore, howner⟩ other hother
      ⟨row, hrow, -, hrowOwner⟩
    have he : e ∈ history := by simp [hsplit]
    have hkept : row ∈ e.before.db.userRoles.rows :=
      role_kept (hrun.split hsplit).1 (by simp [hother]) hrow
    exact hfirst e he granted hafter hbefore howner row hkept hrowOwner
  · intro hunraced e he granted hafter hbefore howner row hrow hrowOwner
    obtain ⟨pre, post, hsplit⟩ := List.append_of_mem he
    have hgrants : Grants e := ⟨granted, hafter, hbefore, howner⟩
    obtain ⟨early, read, between, rfl, hjob, hbetween, hnone⟩ :=
      search_of_grants hrun hsplit hgrants
    have hstill : ¬ e.before.db.HasOwner := by
      apply (hrun.split hsplit).1.kept_since (fun t => ¬ t.db.HasOwner) rfl _ hnone
      rintro other hother hnobody ⟨row, hrow, hrowOwner⟩
      apply hunraced early read between e post hsplit hjob hbetween hgrants other hother
      exact ⟨row, hrow, fun hold => hnobody ⟨row, hold, hrowOwner⟩, hrowOwner⟩
    exact hstill ⟨row, hrow, hrowOwner⟩

end Run

/-- On a freshly migrated hub, over every interleaving: there is one owner
exactly if no owner is made between a request's own search for one and its
grant, which is to say that every grant finds nobody holding the role; and there
is an owner as soon as anybody has a role, or anybody has been let in. -/
theorem ownerBootstrap_iff (lib : Crates) (moves : List (Move JoinRequest)) (s : AppState)
    (hmigrated : s.db = .migrated) :
    ((joinRun lib moves s).state.db.OneOwner ↔ GrantsUnraced (joinRun lib moves s).history) ∧
    ((joinRun lib moves s).state.db.OneOwner ↔
      ∀ e ∈ (joinRun lib moves s).history, GrantsToFirst e) ∧
    ((joinRun lib moves s).state.db.userRoles.rows ≠ [] → (joinRun lib moves s).state.db.HasOwner) ∧
    ∀ job request, (joinRun lib moves s).request? job = some request → request.AssignsRoles →
      (joinRun lib moves s).answer? job = some (.ok ()) →
      (joinRun lib moves s).state.db.HasOwner := by
  have hsound := Server.sound_serve (JoinRequest.handler_follows lib) moves s
  have hboot := bootstrapped_of_run hsound.run hmigrated
  have hone := oneOwner_iff_of_run hsound.run hmigrated
  refine ⟨hone.trans (grantsToFirst_iff_of_run hsound.run), hone, hboot.now, ?_⟩
  intro job request hrequest hassigns hanswer
  exact hboot.of_seenOwner (hsound.returned hrequest hanswer hassigns)

def laptopLogin : JoinRequest := .verify (.fixed 10 1) (.ofRecorded laptopAnswer)

def phoneLogin : JoinRequest := .verify (.fixed 10 2) (.ofRecorded phoneAnswer)

/-- The two devices log in one after the other. -/
def firstLogins : List (Move JoinRequest) :=
  .start laptopLogin :: .replicate 25 (.exec 0) ++ .start phoneLogin :: .replicate 25 (.exec 1)

theorem ownerBootstrap_firstLogins :
    (joinRun deviceLib firstLogins newHub).answer? 1 = some (.ok ()) ∧
      (joinRun deviceLib firstLogins newHub).state.db.HasOwner ∧
      GrantsUnraced (joinRun deviceLib firstLogins newHub).history := by
  obtain ⟨hone, -, hnow, -⟩ := ownerBootstrap_iff deviceLib firstLogins newHub rfl
  obtain ⟨hanswer, hroles, howner⟩ :
      (joinRun deviceLib firstLogins newHub).answer? 1 = some (.ok ()) ∧
        (joinRun deviceLib firstLogins newHub).state.db.userRoles.rows ≠ [] ∧
        (joinRun deviceLib firstLogins newHub).state.db.OneOwner := by
    decide +kernel
  exact ⟨hanswer, hnow hroles, hone.mp howner⟩

/-- Both devices have counted the owners before either is made one. -/
def racingLogins : List (Move JoinRequest) :=
  [.start laptopLogin, .start phoneLogin] ++ .replicate 13 (.exec 0) ++ .replicate 25 (.exec 1) ++
    .replicate 25 (.exec 0)

theorem racingLogins_two_owners :
    (joinRun deviceLib racingLogins newHub).answer? 0 = some (.ok ()) ∧
      (joinRun deviceLib racingLogins newHub).answer? 1 = some (.ok ()) ∧
      ¬ (joinRun deviceLib racingLogins newHub).state.db.OneOwner := by
  decide +kernel

end Voxply.Hub
