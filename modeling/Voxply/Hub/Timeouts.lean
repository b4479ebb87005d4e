/-
# Timeouts

A timeout is a mute with an end.  Both are stored under the target's key with `INSERT OR
REPLACE`: the new row stands for the old one, whether that was to last longer or not.  The end
is computed from a duration of any size that the type of the request has room for.
-/

import Voxply.Hub.ChannelBans
import Voxply.Hub.FederatedChannels
import Voxply.Hub.Moderation

namespace Voxply.Hub

open Voxply.Math

/-! ## The handlers -/

def timeoutMembers : String := "timeout_members"

structure MuteRequest where
  targetPublicKey : String
  reason : Option String := none
  deriving DecidableEq

structure TimeoutRequest where
  targetPublicKey : String
  reason : Option String := none
  durationSeconds : UInt64
  deriving DecidableEq

structure MuteResponse where
  targetPublicKey : String
  mutedBy : String
  reason : Option String
  expiresAt : Option Int
  createdAt : Int
  deriving DecidableEq

def MuteRow.response (row : MuteRow) : MuteResponse :=
  ⟨row.targetPublicKey, row.mutedBy, row.reason, row.expiresAt, row.createdAt⟩

/-- `INSERT OR REPLACE INTO mutes`. -/
def replaceMute (row : MuteRow) (db : Db) : Except SqlError Db :=
  if db.users.has row.targetPublicKey then .ok { db with mutes := db.mutes.replace row }
  else .error .foreignKey

/-- Store a mute for somebody whom the actor may moderate. The slice is the one of the log line,
which comes after the write. -/
def silence (permission : String) (row : MuteRow) : PeerHandler (StatusCode × MuteResponse) := do
  answering (requireCanModerate row.mutedBy row.targetPublicKey permission)
  answering (execute (replaceMute row))
  let _ ← slice row.targetPublicKey
  pure (.created, row.response)

def muteUser (now : Int64) (user : String) (req : MuteRequest) :
    PeerHandler (StatusCode × MuteResponse) :=
  silence muteMembers ⟨req.targetPublicKey, user, req.reason, none, now.toInt⟩

/-- `now + req.duration_seconds as i64`. -/
def expiry (now : Int64) (durationSeconds : UInt64) : Int64 :=
  now + durationSeconds.toInt64

def TimeoutRequest.row (req : TimeoutRequest) (now : Int64) (user : String) : MuteRow :=
  ⟨req.targetPublicKey, user, req.reason, some (expiry now req.durationSeconds).toInt, now.toInt⟩

def timeoutUser (now : Int64) (user : String) (req : TimeoutRequest) :
    PeerHandler (StatusCode × MuteResponse) :=
  silence timeoutMembers (req.row now user)

/-! ## What a timeout is to do -/

/-- Neither the conversion of the duration nor the sum leaves the range of its type. -/
structure ExactExpiry (now : Int64) (durationSeconds : UInt64) : Prop where
  duration : durationSeconds.toInt64.toInt = durationSeconds.toNat
  sum : (expiry now durationSeconds).toInt = now.toInt + durationSeconds.toInt64.toInt

/-- A timeout that succeeds silences the target for its duration, leaves the silence that was
there, and its end is computed without overflow. -/
structure AddsSilence (now : Int64) (user : String) (req : TimeoutRequest)
    (s : AppState) : Prop where
  kept : ∀ answer t, (timeoutUser now user req).run s = (.ok answer, t) →
    ∀ instant : Int, now.toInt ≤ instant → s.db.isMuted instant req.targetPublicKey = true →
      t.db.isMuted instant req.targetPublicKey = true
  silent : ∀ answer t, (timeoutUser now user req).run s = (.ok answer, t) →
    ∀ instant : Int, now.toInt ≤ instant → instant < now.toInt + req.durationSeconds.toNat →
      t.db.isMuted instant req.targetPublicKey = true
  exact : (timeoutUser now user req).Succeeds s → ExactExpiry now req.durationSeconds

/-- The user may moderate the target, who is a member with a key long enough for the log. -/
structure MaySilence (permission user targetPublicKey : String) (db : Db) : Prop where
  permitted : (db.userPermissions user).require permission = .ok ()
  above : (db.userPermissions targetPublicKey).maxPriority < (db.userPermissions user).maxPriority
  member : db.users.has targetPublicKey = true
  logged : (keyPrefix targetPublicKey).isSome = true

/-- The timeout ends at a time that the type has, and not before the mute that the target has. -/
structure Outlasts (now : Int64) (req : TimeoutRequest) (db : Db) : Prop where
  duration : req.durationSeconds.toNat < 2 ^ 63
  sum : now.toInt + req.durationSeconds.toNat < 2 ^ 63
  mute : ∀ row ∈ db.mutes.find? req.targetPublicKey, ∃ expiresAt ∈ row.expiresAt,
    expiresAt ≤ now.toInt + req.durationSeconds.toNat

/-! ## The end of a timeout -/

theorem toInt_toInt64 (d : UInt64) : d.toInt64.toInt = (d.toNat : Int).bmod (2 ^ 64) := by
  show d.toBitVec.toInt = _
  rw [BitVec.toInt_eq_toNat_bmod]
  rfl

/-- A duration is converted exactly if the other type has it. -/
theorem toInt64_exact_iff (d : UInt64) : d.toInt64.toInt = d.toNat ↔ d.toNat < 2 ^ 63 := by
  have hd := d.toNat_lt
  rw [toInt_toInt64]
  simp only [Int.bmod]
  omega

theorem toInt_expiry (now : Int64) (d : UInt64) :
    (expiry now d).toInt = (now.toInt + d.toInt64.toInt).bmod (2 ^ 64) :=
  Int64.toInt_add now d.toInt64

theorem exactExpiry_iff (now : Int64) (d : UInt64) :
    ExactExpiry now d ↔ d.toNat < 2 ^ 63 ∧ now.toInt + d.toNat < 2 ^ 63 := by
  have hlow := now.le_toInt
  have hhigh := now.toInt_lt
  constructor
  · rintro ⟨hduration, hsum⟩
    refine ⟨(toInt64_exact_iff d).mp hduration, ?_⟩
    have hfits := (expiry now d).toInt_lt
    rwa [hsum, hduration] at hfits
  · rintro ⟨hduration, hsum⟩
    have hexact := (toInt64_exact_iff d).mpr hduration
    refine ⟨hexact, ?_⟩
    rw [toInt_expiry, hexact]
    simp only [Int.bmod]
    omega

/-! ## Running a timeout -/

section Runs

variable {now : Int64} {user target permission : String} {req : TimeoutRequest} {s : AppState}

/-- The target is muted as long as the row says. -/
theorem isMuted_iff {db : Db} {instant : Int} {key : String} :
    db.isMuted instant key = true ↔
      ∃ row ∈ db.mutes.find? key, ∀ expiresAt ∈ row.expiresAt, instant < expiresAt := by
  simp only [Db.isMuted, List.any_eq_true, decide_eq_true_eq, Option.mem_def,
    Table.find?_eq_some_iff]
  constructor
  · rintro ⟨row, hrow, hkey, hall⟩
    refine ⟨row, ⟨hrow, hkey⟩, fun expiresAt hexpires => ?_⟩
    rw [hexpires] at hall
    exact of_decide_eq_true hall
  · rintro ⟨row, ⟨hrow, hkey⟩, hall⟩
    refine ⟨row, hrow, hkey, ?_⟩
    cases hexpires : row.expiresAt with
    | none => rfl
    | some expiresAt => exact decide_eq_true (hall expiresAt hexpires)

theorem isMuted_replaceMute {db db' : Db} {row : MuteRow} (h : db'.mutes = db.mutes.replace row)
    (instant : Int) :
    db'.isMuted instant row.targetPublicKey = true ↔ ∀ expiresAt ∈ row.expiresAt,
    instant < expiresAt := by
  have hfind : db'.mutes.find? row.targetPublicKey = some row := by
    rw [Table.find?_eq_some_iff, h, Table.mem_replace]
    exact ⟨.inr rfl, rfl⟩
  rw [isMuted_iff, hfind]
  simp

/-- The check for the permission and the ranks. -/
theorem run_requireCanModerate (user target permission : String) (s : AppState) :
    ((s.db.userPermissions user).require permission = .ok () ∧
        (s.db.userPermissions target).maxPriority < (s.db.userPermissions user).maxPriority ∧
        (requireCanModerate user target permission).run s = (.ok (), s)) ∨
      (¬ ((s.db.userPermissions user).require permission = .ok () ∧
          (s.db.userPermissions target).maxPriority < (s.db.userPermissions user).maxPriority) ∧
        ∃ e, (requireCanModerate user target permission).run s = (.error e, s)) := by
  unfold requireCanModerate
  rw [Prog.run_bind_of_ok (run_userPermissions user s)]
  cases hpermitted : (s.db.userPermissions user).require permission with
  | error e => exact .inr ⟨fun h => (by cases h.1), e, rfl⟩
  | ok _ =>
      rw [Prog.run_bind_of_ok (Prog.run_ofExcept _ s),
        Prog.run_bind_of_ok (run_userPermissions target s)]
      by_cases habove :
          (s.db.userPermissions target).maxPriority < (s.db.userPermissions user).maxPriority
      · exact .inl ⟨rfl, habove, Prog.run_ensure_of_pos habove _ s⟩
      · exact .inr ⟨fun h => habove h.2, _, Prog.run_ensure_of_neg habove _ s⟩

/-- Whoever may do it replaces the row of the target. -/
theorem run_silence (row : MuteRow)
    (hmay : MaySilence permission row.mutedBy row.targetPublicKey s.db) :
    ∃ t, (silence permission row).run s = (.ok (.created, row.response), t) ∧
      t.db.mutes = s.db.mutes.replace row := by
  rcases run_requireCanModerate row.mutedBy row.targetPublicKey permission s with
    ⟨-, -, hrun⟩ | ⟨hnot, -⟩
  · have hstored : replaceMute row s.db = .ok { s.db with mutes := s.db.mutes.replace row } :=
      if_pos hmay.member
    obtain ⟨start, hstart⟩ := Option.isSome_iff_exists.mp hmay.logged
    refine ⟨s.withDb { s.db with mutes := s.db.mutes.replace row }, ?_, rfl⟩
    rw [silence, Prog.run_bind_of_ok (run_answering_of_ok hrun),
      Prog.run_bind_of_ok (run_answering_of_ok (run_execute_of_ok hstored)), slice, hstart]
    rfl
  · exact absurd ⟨hmay.permitted, hmay.above⟩ hnot

/-- For anybody else the request does not succeed. -/
theorem run_silence_of_not (row : MuteRow)
    (hnot : ¬ MaySilence permission row.mutedBy row.targetPublicKey s.db) :
    ∃ e t, (silence permission row).run s = (.error e, t) := by
  rw [silence]
  rcases run_requireCanModerate row.mutedBy row.targetPublicKey permission s with
    ⟨hpermitted, habove, hrun⟩ | ⟨-, e, hrun⟩
  · rw [Prog.run_bind_of_ok (run_answering_of_ok hrun)]
    cases hstored : replaceMute row s.db with
    | error e =>
        exact ⟨_, _, Prog.run_bind_of_error (run_answering_of_error (run_execute_of_error hstored))⟩
    | ok db =>
        rw [Prog.run_bind_of_ok (run_answering_of_ok (run_execute_of_ok hstored))]
        have hmember : s.db.users.has row.targetPublicKey = true := by
          by_contra hmissing
          rw [replaceMute, if_neg hmissing] at hstored
          cases hstored
        have hlog : keyPrefix row.targetPublicKey = none := by
          rw [← Option.not_isSome_iff_eq_none]
          exact fun hlogged => hnot ⟨hpermitted, habove, hmember, hlogged⟩
        refine ⟨.panicked, s.withDb db, ?_⟩
        rw [slice, hlog]
        rfl
  · exact ⟨_, _, Prog.run_bind_of_error (run_answering_of_error hrun)⟩

end Runs

/-- A timeout only adds silence exactly if it is refused, or its end is computed without overflow
and the mute that the target has ends before. -/
theorem addsSilence_iff (now : Int64) (user : String) (req : TimeoutRequest) (s : AppState) :
    AddsSilence now user req s ↔
      (MaySilence timeoutMembers user req.targetPublicKey s.db → Outlasts now req s.db) := by
  by_cases hmay : MaySilence timeoutMembers user req.targetPublicKey s.db
  · rw [imp_iff_right hmay]
    obtain ⟨t, hrun, hmutes⟩ := run_silence (req.row now user) hmay
    rw [← timeoutUser] at hrun
    have hafter : ∀ instant : Int, t.db.isMuted instant req.targetPublicKey = true ↔
        instant < (expiry now req.durationSeconds).toInt := by
      intro instant
      have hiff := isMuted_replaceMute hmutes instant
      rw [TimeoutRequest.row] at hiff
      rw [hiff]
      simp
    constructor
    · intro h
      have hexact := h.exact ⟨_, congrArg Prod.fst hrun⟩
      obtain ⟨hduration, hsum⟩ := (exactExpiry_iff now req.durationSeconds).mp hexact
      refine ⟨hduration, hsum, fun row hrow => ?_⟩
      -- The second at which the timeout ends.
      have hend : s.db.isMuted (now.toInt + req.durationSeconds.toNat) req.targetPublicKey ≠
          true := by
        intro hmuted
        have hstill := h.kept _ t hrun _ (by omega) hmuted
        rw [hafter, hexact.sum, hexact.duration] at hstill
        omega
      rw [ne_eq, isMuted_iff] at hend
      push Not at hend
      obtain ⟨expiresAt, hexpires, hle⟩ := hend row hrow
      exact ⟨expiresAt, hexpires, hle⟩
    · intro h
      have hexact := (exactExpiry_iff now req.durationSeconds).mpr ⟨h.duration, h.sum⟩
      have hends : (expiry now req.durationSeconds).toInt =
          now.toInt + req.durationSeconds.toNat := by
        rw [hexact.sum, hexact.duration]
      constructor
      · intro answer' t' hrun' instant _ hmuted
        rw [hrun] at hrun'
        cases hrun'
        obtain ⟨row, hrow, hlast⟩ := isMuted_iff.mp hmuted
        obtain ⟨expiresAt, hexpires, hle⟩ := h.mute row hrow
        have hlt := hlast expiresAt hexpires
        rw [hafter, hends]
        omega
      · intro answer' t' hrun' instant _ hlt
        rw [hrun] at hrun'
        cases hrun'
        rw [hafter, hends]
        exact hlt
      · exact fun _ => hexact
  · obtain ⟨e, t, hrun⟩ := run_silence_of_not (req.row now user) hmay
    rw [← timeoutUser] at hrun
    refine iff_of_true ?_ fun h => absurd h hmay
    constructor
    · intro answer t' hrun'
      rw [hrun] at hrun'
      cases hrun'
    · intro answer t' hrun'
      rw [hrun] at hrun'
      cases hrun'
    · rintro ⟨answer, hok⟩
      rw [hrun] at hok
      cases hok

/-- A hub with an owner and a member who is muted without an end. -/
def mutedHub : AppState where
  db :=
    { users := ⟨[{ publicKey := "owner", firstSeenAt := 1, lastSeenAt := 1 },
        { publicKey := "0123456789abcdef", firstSeenAt := 1, lastSeenAt := 1 }], by decide⟩
      roles := .single ⟨"builtin-owner", "Owner", 999999, false, 0⟩
      rolePermissions := .single ⟨"builtin-owner", "admin"⟩
      userRoles := .single ⟨"owner", "builtin-owner", 1⟩
      mutes := .single ⟨"0123456789abcdef", "owner", none, none, 2⟩ }

/-- A timeout of a minute ends the mute. -/
theorem mutedHub_not_addsSilence :
    ¬ AddsSilence 100 "owner" ⟨"0123456789abcdef", none, 60⟩ mutedHub := by
  have hrun : ((timeoutUser 100 "owner" ⟨"0123456789abcdef", none, 60⟩).run mutedHub).1.isOk =
      true ∧
      ((timeoutUser 100 "owner" ⟨"0123456789abcdef", none, 60⟩).run mutedHub).2.db.isMuted 160
        "0123456789abcdef" = false := by
    decide +kernel
  intro h
  rcases hanswer : (timeoutUser 100 "owner" ⟨"0123456789abcdef", none, 60⟩).run mutedHub with
    ⟨e | answer, t⟩
  · rw [hanswer] at hrun
    cases hrun.1
  · rw [hanswer] at hrun
    have hstill := h.kept answer t hanswer 160 (by decide) (by decide)
    rw [hrun.2] at hstill
    cases hstill

end Voxply.Hub
