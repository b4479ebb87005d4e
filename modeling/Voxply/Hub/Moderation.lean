/-
# Bans

A moderator bans a member by two statements: the ban is stored, then the
sessions of the member are deleted.  Lifting a ban deletes the row.
-/

import Voxply.Hub.LoginStatements

namespace Voxply.Hub

open Voxply.Math Voxply.Identity

/-! ## The handlers -/

def banMembers : String := "ban_members"

structure BanRequest where
  targetPublicKey : String
  reason : Option String := none
  deriving DecidableEq

structure BanResponse where
  targetPublicKey : String
  bannedBy : String
  reason : Option String
  createdAt : Int
  deriving DecidableEq

/-- `require_can_moderate`: the actor holds the permission and stands above the
target. -/
def requireCanModerate (actorKey targetKey permission : String) : Handler Unit := do
  let actorPerms ← userPermissions actorKey
  .ofExcept (actorPerms.require permission)
  let targetPerms ← userPermissions targetKey
  .ensure (targetPerms.maxPriority < actorPerms.maxPriority)
    ⟨.forbidden, "Cannot moderate a user with equal or higher priority"⟩

/-- `INSERT OR REPLACE INTO bans`. -/
def replaceBan (row : BanRow) (db : Db) : Except SqlError Db :=
  if db.users.has row.targetPublicKey then .ok { db with bans := db.bans.replace row }
  else .error .foreignKey

/-- `DELETE FROM bans WHERE target_public_key = ?`. -/
def deleteBan (targetKey : String) (db : Db) : Db :=
  { db with bans := db.bans.keep (·.targetPublicKey ≠ targetKey) }

/-- The row that a ban is stored as. -/
def BanRequest.row (req : BanRequest) (user : String) (now : Int) : BanRow :=
  ⟨req.targetPublicKey, user, req.reason, now⟩

/-- `ban_user`. -/
def banUser (now : Int) (user : String) (req : BanRequest) :
    Handler (StatusCode × BanResponse) := do
  requireCanModerate user req.targetPublicKey banMembers
  execute (replaceBan (req.row user now))
  -- Delete their sessions so they're immediately logged out.
  write (deleteSessions req.targetPublicKey)
  pure (.created, ⟨req.targetPublicKey, user, req.reason, now⟩)

/-- `unban_user`. -/
def unbanUser (user targetKey : String) : Handler StatusCode := do
  let perms ← userPermissions user
  .ofExcept (perms.require banMembers)
  write (deleteBan targetKey)
  pure .noContent

/-! ## Statements -/

variable {past : List (Sent AppState)} {sent : Sent AppState}

theorem userPermissions_follows (publicKey : String) :
    (userPermissions publicKey).Follows quietly (fun _ _ => True) past := by
  apply (userPermissions_reads publicKey).mono
  · rintro _ ⟨_, s⟩ _ rfl
    exact quietly_fetch s
  · exact fun _ _ _ _ => trivial

theorem requireCanModerate_follows (actorKey targetKey permission : String) :
    (requireCanModerate actorKey targetKey permission).Follows quietly (fun _ _ => True) past := by
  apply (userPermissions_follows actorKey).bind_any
  intro actorPerms past _
  apply Prog.follows_ofExcept_bind
  intro _ _
  apply (userPermissions_follows targetKey).bind_any
  intro targetPerms past _
  exact Prog.follows_ensure fun _ => trivial

/-- What a statement of `ban_user` or `unban_user` may do. -/
inductive BanSent (targetKey : String) (sent : Sent AppState) : Prop
  | quiet (h : Quiet sent.before sent.after)
  | ban (row : BanRow) (hrow : row.targetPublicKey = targetKey)
      (h : sent.statement = executed (replaceBan row))
  | logout (h : sent.statement = written (deleteSessions targetKey))
  | lift (h : sent.statement = written (deleteBan targetKey))

/-- A ban that is answered ends by deleting the sessions. -/
theorem banUser_follows (now : Int) (user : String) (req : BanRequest) :
    (banUser now user req).Follows (fun _ => BanSent req.targetPublicKey)
      (fun _ past => ∃ earlier s,
        past = earlier ++ [⟨written (deleteSessions req.targetPublicKey), s⟩]) past := by
  apply Prog.Follows.bind_any
  · exact (requireCanModerate_follows user req.targetPublicKey banMembers).mono
      (fun _ _ _ h => .quiet h) fun _ _ _ h => h
  intro _ past' _
  apply follows_execute_bind
  · exact fun s => .ban _ rfl rfl
  intro s db _
  apply follows_write_bind
  · exact fun s => .logout rfl
  · exact fun s => ⟨_, s, rfl⟩

theorem unbanUser_follows (user targetKey : String) :
    (unbanUser user targetKey).Follows (fun _ => BanSent targetKey) (fun _ _ => True) past := by
  apply Prog.Follows.bind_any
  · exact (userPermissions_follows user).mono (fun _ _ _ h => .quiet h) fun _ _ _ h => h
  intro perms past' _
  apply Prog.follows_ofExcept_bind
  intro _ _
  apply follows_write_bind
  · exact fun s => .lift rfl
  · exact fun s => trivial

end Voxply.Hub
