/-
# Presence

What a hub keeps in memory about its connections is shared by all of them: who is
online, through which connection a bot is reached, who is in which voice channel
and who shares a screen.  All of it is keyed by the user.  A connection writes its
part when it opens and when the client asks for something, and clears it up when it
closes; each write takes one lock, and other connections come in between.

Clearing up goes by the user as well.  What is kept in memory is therefore right as
long as no user has a second connection at the time when one of them closes.  A
screen share is checked for under one lock and entered under another, so that the
rule of one sharer in each channel holds exactly as long as nobody else gets in
between.
-/

import Mathlib.Data.Finset.Basic
import Mathlib.Logic.Function.Basic
import Voxply.Math.Table
import Voxply.Math.Trace

namespace Voxply.Hub

open Voxply.Math

/-! ## What is kept in memory -/

/-- A stream of a screen share. The map is from `stream_id`. It is noted which
connection has started it; the hub does not keep that. -/
structure ScreenStreamMeta where
  streamId : String
  kind : String
  mime : String
  hasAudio : Bool
  sharerPubkey : String
  initChunk : Option (List UInt8) := none
  startedAt : ℕ
  startedBy : ℕ
  deriving DecidableEq

/-- All active streams for one channel and sharer, which are the key of the map. -/
structure ActiveShare where
  channelId : String
  sharer : String
  streams : Table ScreenStreamMeta ScreenStreamMeta.streamId := ∅
  viewers : List String := []
  deriving DecidableEq

def ActiveShare.key (active : ActiveShare) : String × String :=
  (active.channelId, active.sharer)

/-- An entry of `voice_channels`, with the connection that has made it. -/
structure VoiceEntry where
  udpPort : UInt16
  joinedBy : ℕ
  deriving DecidableEq

/-- What the task of a connection does next. -/
inductive SocketTask where
  /-- Enter the user into `online_users`. -/
  | opening
  /-- Enter the sender of a bot into `bot_sessions`. -/
  | registering
  /-- Wait for the client. -/
  | running
  /-- Enter a stream: nobody else was found to share in the channel. -/
  | starting (channelId : String) (stream : ScreenStreamMeta)
  /-- Clear up: leave the voice channel, drop the shares, the sender and the user. -/
  | leavingVoice
  | droppingShares
  | droppingSession
  | goingOffline
  deriving DecidableEq

/-- The task is past its loop. -/
def SocketTask.Closing : SocketTask → Prop
  | .leavingVoice | .droppingShares | .droppingSession | .goingOffline => True
  | _ => False

instance decidableClosing : ∀ task : SocketTask, Decidable task.Closing
  | .opening | .registering | .running | .starting _ _ => inferInstanceAs (Decidable False)
  | .leavingVoice | .droppingShares | .droppingSession | .goingOffline =>
      inferInstanceAs (Decidable True)

structure PresenceConn where
  publicKey : String
  isBot : Bool
  voiceChannel : Option String := none
  task : SocketTask := .opening
  deriving DecidableEq

structure PresenceState where
  onlineUsers : Finset String := ∅
  /-- The sender of a bot belongs to a connection. -/
  botSessions : String → Option ℕ := fun _ => none
  voiceChannels : String → String → Option VoiceEntry := fun _ _ => none
  screenShares : Table ActiveShare ActiveShare.key := ∅
  conns : ℕ → Option PresenceConn := fun _ => none

/-! ## Updates -/

namespace PresenceState

def setConn (s : PresenceState) (conn : ℕ) (value : Option PresenceConn) : PresenceState :=
  { s with conns := Function.update s.conns conn value }

def setVoice (s : PresenceState) (channelId user : String) (entry : Option VoiceEntry) :
    PresenceState :=
  { s with voiceChannels := fun channel other =>
      if channel = channelId ∧ other = user then entry else s.voiceChannels channel other }

/-- The check before a share. -/
def otherSharer (s : PresenceState) (channelId user : String) : Bool :=
  s.screenShares.rows.any fun active => active.channelId = channelId ∧ active.sharer ≠ user

/-- Enter a stream. -/
def startShare (s : PresenceState) (channelId user : String) (stream : ScreenStreamMeta) :
    PresenceState :=
  let active := (s.screenShares.find? (channelId, user)).getD ⟨channelId, user, ∅, []⟩
  { s with
    screenShares := s.screenShares.replace
      { active with streams := active.streams.replace stream } }

/-- Remove a stream, and the share with its last one. -/
def stopShare (s : PresenceState) (channelId user streamId : String) : PresenceState :=
  match s.screenShares.find? (channelId, user) with
  | none => s
  | some active =>
      let streams := active.streams.keep (·.streamId ≠ streamId)
      if streams.rows = [] then
        { s with screenShares := s.screenShares.keep (·.key ≠ (channelId, user)) }
      else { s with screenShares := s.screenShares.replace { active with streams := streams } }

/-- A viewer joins or leaves the share that has the stream. -/
def setViewers (s : PresenceState) (channelId streamId : String)
    (f : List String → List String) : PresenceState :=
  match s.screenShares.rows.find? fun active =>
      active.channelId = channelId ∧ active.streams.has streamId with
  | none => s
  | some found =>
      { s with
        screenShares := s.screenShares.update (·.key = found.key)
          (fun active => { active with viewers := f active.viewers }) fun _ => rfl }

/-- The first piece of a stream is kept for those who come later. -/
def setInitChunk (s : PresenceState) (channelId user streamId : String) (data : List UInt8) :
    PresenceState :=
  { s with
    screenShares := s.screenShares.update (·.key = (channelId, user))
      (fun active =>
        { active with
          streams := active.streams.update (·.streamId = streamId)
            (fun stream => { stream with initChunk := some data }) fun _ => rfl })
      fun _ => rfl }

/-- All shares of the user go, and the user is no viewer any more. -/
def dropShares (s : PresenceState) (user : String) : PresenceState :=
  { s with
    screenShares := (s.screenShares.keep (·.sharer ≠ user)).update (fun _ => true)
      (fun active => { active with viewers := active.viewers.filter (· ≠ user) }) fun _ => rfl }

end PresenceState

/-! ## Moves -/

/-- The frames of a client that write. A join that is refused is no frame, and so is
a viewer that names no share. -/
inductive ClientFrame where
  | voiceJoin (channelId : String) (udpPort : UInt16)
  | voiceLeave (channelId : String)
  | screenShareStart (channelId streamId kind mime : String) (hasAudio : Bool) (now : ℕ)
  | screenShareStop (channelId streamId : String)
  | screenShareViewerJoin (channelId streamId : String)
  | screenShareViewerLeave (channelId streamId : String)
  | screenShareInit (channelId streamId : String) (data : List UInt8)
  deriving DecidableEq

inductive PresenceMove where
  | connect (conn : ℕ) (publicKey : String) (isBot : Bool)
  | client (conn : ℕ) (frame : ClientFrame)
  /-- The client is gone. -/
  | disconnect (conn : ℕ)
  /-- The task takes its next lock. -/
  | resume (conn : ℕ)
  deriving DecidableEq

/-- What a frame does under the first lock. -/
def ClientFrame.handle (conn : ℕ) (c : PresenceConn) : ClientFrame → PresenceState → PresenceState
  | .voiceJoin channelId udpPort, s =>
      (s.setVoice channelId c.publicKey (some ⟨udpPort, conn⟩)).setConn conn
        (some { c with voiceChannel := some channelId })
  | .voiceLeave channelId, s =>
      (s.setVoice channelId c.publicKey none).setConn conn (some { c with voiceChannel := none })
  | .screenShareStart channelId streamId kind mime hasAudio now, s =>
      if s.otherSharer channelId c.publicKey then s
      else
        let stream := ⟨streamId, kind, mime, hasAudio, c.publicKey, none, now, conn⟩
        s.setConn conn (some { c with task := .starting channelId stream })
  | .screenShareStop channelId streamId, s => s.stopShare channelId c.publicKey streamId
  | .screenShareViewerJoin channelId streamId, s =>
      s.setViewers channelId streamId (·.insert c.publicKey)
  | .screenShareViewerLeave channelId streamId, s =>
      s.setViewers channelId streamId (·.filter (· ≠ c.publicKey))
  | .screenShareInit channelId streamId data, s =>
      s.setInitChunk channelId c.publicKey streamId data

/-- What a task does under its next lock. -/
def SocketTask.perform (conn : ℕ) (c : PresenceConn) : SocketTask → PresenceState → PresenceState
  | .opening, s =>
      { s with onlineUsers := insert c.publicKey s.onlineUsers }.setConn conn
        (some { c with task := .registering })
  | .registering, s =>
      (if c.isBot then
        { s with botSessions := Function.update s.botSessions c.publicKey (some conn) }
      else s).setConn conn (some { c with task := .running })
  | .running, s => s
  | .starting channelId stream, s =>
      (s.startShare channelId c.publicKey stream).setConn conn (some { c with task := .running })
  | .leavingVoice, s =>
      (c.voiceChannel.elim s fun channelId => s.setVoice channelId c.publicKey none).setConn conn
        (some { c with task := .droppingShares })
  | .droppingShares, s =>
      (s.dropShares c.publicKey).setConn conn (some { c with task := .droppingSession })
  | .droppingSession, s =>
      (if c.isBot then
        { s with botSessions := Function.update s.botSessions c.publicKey none }
      else s).setConn conn (some { c with task := .goingOffline })
  | .goingOffline, s =>
      { s with onlineUsers := s.onlineUsers.erase c.publicKey }.setConn conn none

/-- The connection, if it waits for its client. -/
def PresenceState.running? (s : PresenceState) (conn : ℕ) : Option PresenceConn :=
  (s.conns conn).filter (·.task = .running)

def PresenceMove.step : PresenceMove → PresenceState → PresenceState
  | .connect conn publicKey isBot, s =>
      match s.conns conn with
      | none => s.setConn conn (some ⟨publicKey, isBot, none, .opening⟩)
      | some _ => s
  | .client conn frame, s => (s.running? conn).elim s fun c => frame.handle conn c s
  | .disconnect conn, s =>
      (s.running? conn).elim s fun c => s.setConn conn (some { c with task := .leavingVoice })
  | .resume conn, s => (s.conns conn).elim s fun c => c.task.perform conn c s

/-! ## One sharer in each channel -/

/-- What the screen shares are meant to be: one sharer in each channel, no share
without a stream, and all streams of a share by its sharer. -/
structure SharesSound (s : PresenceState) : Prop where
  oneSharer : ∀ a ∈ s.screenShares.rows, ∀ b ∈ s.screenShares.rows,
    a.channelId = b.channelId → a.sharer = b.sharer
  streams : ∀ a ∈ s.screenShares.rows, a.streams.rows ≠ []
  sharer : ∀ a ∈ s.screenShares.rows, ∀ stream ∈ a.streams.rows, stream.sharerPubkey = a.sharer

/-- A stream is entered when nobody else shares in the channel. -/
def PresenceMove.Unraced : PresenceMove → PresenceState → Prop
  | .resume conn, s =>
      ∀ c channelId stream, s.conns conn = some c → c.task = .starting channelId stream →
        s.otherSharer channelId c.publicKey = false
  | _, _ => True

/-- A stream that is about to be entered is by the user of its connection. -/
def OwnStreams (s : PresenceState) : Prop :=
  ∀ conn c channelId stream, s.conns conn = some c → c.task = .starting channelId stream →
    stream.sharerPubkey = c.publicKey

section Shares

variable {s t : PresenceState} {conn : ℕ} {c : PresenceConn} {channelId user : String}

theorem otherSharer_eq_false_iff :
    s.otherSharer channelId user = false ↔
      ∀ a ∈ s.screenShares.rows, a.channelId = channelId → a.sharer = user := by
  simp [PresenceState.otherSharer]

/-- What comes of a share keeps its channel and its sharer, and has no new
streams. -/
theorem SharesSound.of_derived (h : SharesSound s)
    (hderived : ∀ a ∈ t.screenShares.rows, a.streams.rows ≠ [] ∧
      ∃ old ∈ s.screenShares.rows, old.key = a.key ∧
        ∀ stream ∈ a.streams.rows, ∃ other ∈ old.streams.rows,
          other.sharerPubkey = stream.sharerPubkey) : SharesSound t where
  oneSharer a ha b hb hsame := by
    rcases hderived a ha with ⟨-, old, hold, hkey, -⟩
    rcases hderived b hb with ⟨-, old', hold', hkey', -⟩
    have hone := h.oneSharer old hold old' hold'
    simp only [ActiveShare.key, Prod.mk.injEq] at hkey hkey'
    rw [hkey.1, hkey'.1, hkey.2, hkey'.2] at hone
    exact hone hsame
  streams a ha := (hderived a ha).1
  sharer a ha stream hstream := by
    rcases hderived a ha with ⟨-, old, hold, hkey, hstreams⟩
    rcases hstreams stream hstream with ⟨other, hother, hsame⟩
    simp only [ActiveShare.key, Prod.mk.injEq] at hkey
    rw [← hsame, ← hkey.2]
    exact h.sharer old hold other hother

theorem SharesSound.of_eq (h : SharesSound s) (heq : t.screenShares = s.screenShares) :
    SharesSound t :=
  h.of_derived fun a ha => by
    rw [heq] at ha
    exact ⟨h.streams a ha, a, ha, rfl, fun stream hstream => ⟨stream, hstream, rfl⟩⟩

theorem SharesSound.stopShare (h : SharesSound s) (channelId user streamId : String) :
    SharesSound (s.stopShare channelId user streamId) := by
  apply h.of_derived
  intro a ha
  have hkept : a ∈ s.screenShares.rows → a.streams.rows ≠ [] ∧
      ∃ old ∈ s.screenShares.rows, old.key = a.key ∧
        ∀ stream ∈ a.streams.rows, ∃ other ∈ old.streams.rows,
          other.sharerPubkey = stream.sharerPubkey :=
    fun hold => ⟨h.streams a hold, a, hold, rfl, fun stream hstream => ⟨stream, hstream, rfl⟩⟩
  unfold PresenceState.stopShare at ha
  split at ha
  · exact hkept ha
  · next active hactive =>
      dsimp only at ha
      split_ifs at ha with hlast
      · exact hkept (List.mem_of_mem_filter ha)
      · rcases Table.mem_replace.mp ha with ⟨hold, -⟩ | rfl
        · exact hkept hold
        · refine ⟨hlast, active, (Table.find?_eq_some_iff.mp hactive).1, rfl, ?_⟩
          exact fun stream hstream => ⟨stream, List.mem_of_mem_filter hstream, rfl⟩

theorem SharesSound.setViewers (h : SharesSound s) (channelId streamId : String)
    (f : List String → List String) : SharesSound (s.setViewers channelId streamId f) := by
  unfold PresenceState.setViewers
  split
  · exact h
  · apply h.of_derived
    intro a ha
    rcases List.mem_map.mp ha with ⟨old, hold, rfl⟩
    have hstreams := h.streams old hold
    split_ifs
    · exact ⟨hstreams, old, hold, rfl, fun stream hstream => ⟨stream, hstream, rfl⟩⟩
    · exact ⟨hstreams, old, hold, rfl, fun stream hstream => ⟨stream, hstream, rfl⟩⟩

theorem SharesSound.setInitChunk (h : SharesSound s) (channelId user streamId : String)
    (data : List UInt8) : SharesSound (s.setInitChunk channelId user streamId data) := by
  apply h.of_derived
  intro a ha
  rcases List.mem_map.mp ha with ⟨old, hold, rfl⟩
  have hstreams := h.streams old hold
  split_ifs
  · refine ⟨?_, old, hold, rfl, ?_⟩
    · rw [Table.rows_update]
      simpa using hstreams
    · intro stream hstream
      rw [Table.rows_update, List.mem_map] at hstream
      rcases hstream with ⟨other, hother, rfl⟩
      refine ⟨other, hother, ?_⟩
      split_ifs <;> rfl
  · exact ⟨hstreams, old, hold, rfl, fun stream hstream => ⟨stream, hstream, rfl⟩⟩

theorem SharesSound.dropShares (h : SharesSound s) (user : String) :
    SharesSound (s.dropShares user) := by
  apply h.of_derived
  intro a ha
  rcases List.mem_map.mp ha with ⟨old, hold, rfl⟩
  have hmem := List.mem_of_mem_filter hold
  exact ⟨h.streams old hmem, old, hmem, rfl, fun stream hstream => ⟨stream, hstream, rfl⟩⟩

/-- Entering a stream keeps the rules exactly if nobody else shares in the
channel. -/
theorem sharesSound_startShare_iff (h : SharesSound s) {stream : ScreenStreamMeta}
    (hown : stream.sharerPubkey = user) :
    SharesSound (s.startShare channelId user stream) ↔ s.otherSharer channelId user = false := by
  rw [otherSharer_eq_false_iff]
  -- The share that the stream goes into.
  have hactive : ∃ active : ActiveShare, active.key = (channelId, user) ∧
      (∀ other ∈ active.streams.rows, other.sharerPubkey = user) ∧
      ∀ a, a ∈ (s.startShare channelId user stream).screenShares.rows ↔
        (a ∈ s.screenShares.rows ∧ a.key ≠ (channelId, user)) ∨
          a = { active with streams := active.streams.replace stream } := by
    unfold PresenceState.startShare
    cases hfound : s.screenShares.find? (channelId, user) with
    | none =>
        refine ⟨⟨channelId, user, ∅, []⟩, rfl, fun _ hother => (by cases hother), fun a => ?_⟩
        exact Table.mem_replace
    | some active =>
        rcases Table.find?_eq_some_iff.mp hfound with ⟨hmem, hkey⟩
        refine ⟨active, hkey, fun other hother => ?_, fun a => ?_⟩
        · rw [h.sharer active hmem other hother]
          exact congrArg Prod.snd hkey
        · rw [← hkey]
          exact Table.mem_replace
  rcases hactive with ⟨active, hkey, hothers, hrows⟩
  simp only [ActiveShare.key, Prod.mk.injEq] at hkey
  constructor
  · intro hsound a ha hchannel
    by_cases hsame : a.key = (channelId, user)
    · exact congrArg Prod.snd hsame
    · have hone := hsound.oneSharer a ((hrows a).mpr (.inl ⟨ha, hsame⟩)) _
        ((hrows _).mpr (.inr rfl))
      rw [← hkey.2]
      exact hone (hchannel.trans hkey.1.symm)
  · intro hnone
    have hchannel : ∀ a ∈ (s.startShare channelId user stream).screenShares.rows,
        a.channelId = channelId → a.sharer = user := by
      intro a ha
      rcases (hrows a).mp ha with ⟨hold, -⟩ | rfl
      · exact hnone a hold
      · exact fun _ => hkey.2
    constructor
    · intro a ha b hb hsame
      by_cases hhere : a.channelId = channelId
      · rw [hchannel a ha hhere, hchannel b hb (hsame ▸ hhere)]
      · have hold : ∀ x ∈ (s.startShare channelId user stream).screenShares.rows,
            x.channelId ≠ channelId → x ∈ s.screenShares.rows := by
          intro x hx hne
          rcases (hrows x).mp hx with ⟨hx, -⟩ | rfl
          · exact hx
          · exact absurd hkey.1 hne
        exact h.oneSharer a (hold a ha hhere) b (hold b hb (hsame ▸ hhere)) hsame
    · intro a ha
      rcases (hrows a).mp ha with ⟨hold, -⟩ | rfl
      · exact h.streams a hold
      · exact List.ne_nil_of_mem (Table.mem_replace.mpr (.inr rfl))
    · intro a ha other hother
      rcases (hrows a).mp ha with ⟨hold, -⟩ | rfl
      · exact h.sharer a hold other hother
      · dsimp only at hother ⊢
        rw [hkey.2]
        rcases Table.mem_replace.mp hother with ⟨hother, -⟩ | rfl
        · exact hothers other hother
        · exact hown

theorem PresenceState.running?_eq_some_iff :
    s.running? conn = some c ↔ s.conns conn = some c ∧ c.task = .running := by
  rw [PresenceState.running?, Option.filter_eq_some_iff, decide_eq_true_iff]

/-- One move keeps the rules exactly if it enters no stream besides another's. -/
theorem sharesSound_step_iff (h : SharesSound s) (hown : OwnStreams s) (move : PresenceMove) :
    SharesSound (move.step s) ↔ move.Unraced s := by
  cases move with
  | connect conn publicKey isBot =>
      refine iff_of_true (h.of_eq ?_) trivial
      simp only [PresenceMove.step]
      split <;> rfl
  | disconnect conn =>
      refine iff_of_true (h.of_eq ?_) trivial
      simp only [PresenceMove.step]
      cases s.running? conn <;> rfl
  | client conn frame =>
      refine iff_of_true ?_ trivial
      simp only [PresenceMove.step]
      cases s.running? conn with
      | none => exact h
      | some c =>
          cases frame with
          | voiceJoin channelId udpPort => exact h.of_eq rfl
          | voiceLeave channelId => exact h.of_eq rfl
          | screenShareStart channelId streamId kind mime hasAudio now =>
              simp only [Option.elim_some, ClientFrame.handle]
              split_ifs
              · exact h
              · exact h.of_eq rfl
          | screenShareStop channelId streamId => exact h.stopShare _ _ _
          | screenShareViewerJoin channelId streamId => exact h.setViewers _ _ _
          | screenShareViewerLeave channelId streamId => exact h.setViewers _ _ _
          | screenShareInit channelId streamId data => exact h.setInitChunk _ _ _ _
  | resume conn =>
      simp only [PresenceMove.step, PresenceMove.Unraced]
      cases hconn : s.conns conn with
      | none => exact iff_of_true h (by simp)
      | some c =>
          have hothers : (∀ channelId stream, c.task ≠ .starting channelId stream) →
              ∀ c' channelId stream, some c = some c' → c'.task = .starting channelId stream →
                s.otherSharer channelId c'.publicKey = false := by
            rintro hnot _ channelId stream ⟨rfl⟩ htask
            exact absurd htask (hnot channelId stream)
          rw [Option.elim_some]
          cases htask : c.task with
          | opening => exact iff_of_true (h.of_eq rfl) (hothers (by simp [htask]))
          | registering =>
              refine iff_of_true (h.of_eq ?_) (hothers (by simp [htask]))
              simp only [SocketTask.perform]
              split_ifs <;> rfl
          | running => exact iff_of_true h (hothers (by simp [htask]))
          | starting channelId stream =>
              have hstart := @sharesSound_startShare_iff s channelId c.publicKey h stream
                (hown conn c channelId stream hconn htask)
              constructor
              · rintro hsound _ channelId' stream' ⟨rfl⟩ htask'
                rw [htask] at htask'
                cases htask'
                exact hstart.mp (hsound.of_eq rfl)
              · intro hnone
                exact (hstart.mpr (hnone c channelId stream rfl htask)).of_eq rfl
          | leavingVoice =>
              refine iff_of_true (h.of_eq ?_) (hothers (by simp [htask]))
              simp only [SocketTask.perform]
              cases c.voiceChannel <;> rfl
          | droppingShares =>
              refine iff_of_true ((h.dropShares c.publicKey).of_eq rfl) (hothers (by simp [htask]))
          | droppingSession =>
              refine iff_of_true (h.of_eq ?_) (hothers (by simp [htask]))
              simp only [SocketTask.perform]
              split_ifs <;> rfl
          | goingOffline => exact iff_of_true (h.of_eq rfl) (hothers (by simp [htask]))

theorem OwnStreams.of_eq (h : OwnStreams s) (heq : t.conns = s.conns) : OwnStreams t := by
  intro other c' channelId stream hc
  rw [heq] at hc
  exact h other c' channelId stream hc

/-- A change of one connection. -/
theorem OwnStreams.of_update (h : OwnStreams s) {value : Option PresenceConn}
    (heq : t.conns = Function.update s.conns conn value)
    (hvalue : ∀ c ∈ value, ∀ channelId stream, c.task = .starting channelId stream →
      stream.sharerPubkey = c.publicKey) : OwnStreams t := by
  intro other c' channelId stream hc
  rw [heq, Function.update_apply] at hc
  split_ifs at hc
  · exact hvalue c' hc channelId stream
  · exact h other c' channelId stream hc

theorem OwnStreams.step (h : OwnStreams s) (move : PresenceMove) : OwnStreams (move.step s) := by
  cases move with
  | connect conn publicKey isBot =>
      simp only [PresenceMove.step]
      split
      · exact h.of_update rfl (by simp)
      · exact h
  | disconnect conn =>
      simp only [PresenceMove.step]
      cases s.running? conn with
      | none => exact h
      | some c => exact h.of_update rfl (by simp)
  | client conn frame =>
      simp only [PresenceMove.step]
      cases hrunning : s.running? conn with
      | none => exact h
      | some c =>
          have htask := (PresenceState.running?_eq_some_iff.mp hrunning).2
          cases frame with
          | voiceJoin channelId udpPort => exact h.of_update rfl (by simp [htask])
          | voiceLeave channelId => exact h.of_update rfl (by simp [htask])
          | screenShareStart channelId streamId kind mime hasAudio now =>
              simp only [Option.elim_some, ClientFrame.handle]
              split_ifs
              · exact h
              · apply h.of_update rfl
                rintro _ ⟨rfl⟩ channelId' stream htask'
                cases htask'
                rfl
          | screenShareStop channelId streamId =>
              apply h.of_eq
              simp only [Option.elim_some, ClientFrame.handle, PresenceState.stopShare]
              split
              · rfl
              · split_ifs <;> rfl
          | screenShareViewerJoin channelId streamId =>
              apply h.of_eq
              simp only [Option.elim_some, ClientFrame.handle, PresenceState.setViewers]
              split <;> rfl
          | screenShareViewerLeave channelId streamId =>
              apply h.of_eq
              simp only [Option.elim_some, ClientFrame.handle, PresenceState.setViewers]
              split <;> rfl
          | screenShareInit channelId streamId data => exact h.of_eq rfl
  | resume conn =>
      simp only [PresenceMove.step]
      cases hconn : s.conns conn with
      | none => exact h
      | some c =>
          rw [Option.elim_some]
          cases htask : c.task with
          | opening => exact h.of_update rfl (by simp)
          | registering =>
              have heq : (SocketTask.perform conn c .registering s).conns =
                  Function.update s.conns conn (some { c with task := .running }) := by
                simp only [SocketTask.perform]
                split_ifs <;> rfl
              exact h.of_update heq (by simp)
          | running => exact h
          | starting channelId stream => exact h.of_update rfl (by simp)
          | leavingVoice =>
              have heq : (SocketTask.perform conn c .leavingVoice s).conns =
                  Function.update s.conns conn (some { c with task := .droppingShares }) := by
                simp only [SocketTask.perform]
                cases c.voiceChannel <;> rfl
              exact h.of_update heq (by simp)
          | droppingShares => exact h.of_update rfl (by simp)
          | droppingSession =>
              have heq : (SocketTask.perform conn c .droppingSession s).conns =
                  Function.update s.conns conn (some { c with task := .goingOffline }) := by
                simp only [SocketTask.perform]
                split_ifs <;> rfl
              exact h.of_update heq (by simp)
          | goingOffline => exact h.of_update rfl (by simp)

end Shares

/-- In every run, the rules for screen shares hold in all states exactly if no stream
is entered in a channel in which somebody else shares by then. -/
theorem sharesSound_iff_unraced (moves : List PresenceMove) :
    (∀ first, first <+: moves → SharesSound (runAll PresenceMove.step first {})) ↔
      Along PresenceMove.step PresenceMove.Unraced moves {} := by
  have hempty : SharesSound {} ∧ OwnStreams {} :=
    ⟨⟨fun _ ha => (by cases ha), fun _ ha => (by cases ha), fun _ ha => (by cases ha)⟩,
      fun _ _ _ _ hc => (by cases hc)⟩
  rw [← Along.invariant_iff (fun s => SharesSound s ∧ OwnStreams s) ?_ hempty]
  · have hown : ∀ first : List PresenceMove, OwnStreams (runAll PresenceMove.step first {}) := by
      intro first
      exact invariant_runAll OwnStreams (fun move s h => h.step move) first hempty.2
    exact ⟨fun h first hfirst => ⟨h first hfirst, hown first⟩, fun h first hfirst =>
      (h first hfirst).1⟩
  · intro move s hs
    rw [← sharesSound_step_iff hs.1 hs.2 move]
    exact and_iff_left (hs.2.step move)

/-- Two users connect and start to share at the same time. -/
def shareRace : List PresenceMove :=
  [.connect 0 "alice" false, .resume 0, .resume 0, .connect 1 "bob" false, .resume 1, .resume 1,
    .client 0 (.screenShareStart "general" "a" "screen" "video/webm" false 0),
    .client 1 (.screenShareStart "general" "b" "screen" "video/webm" false 0),
    .resume 0, .resume 1]

theorem shareRace_not_sharesSound :
    ¬ ∀ moves : List PresenceMove, SharesSound (runAll PresenceMove.step moves {}) := by
  intro h
  have hsharers : (runAll PresenceMove.step shareRace {}).screenShares.rows.map (·.key) =
      [("general", "alice"), ("general", "bob")] := by
    decide +kernel
  have hmem : ∀ key ∈ [("general", "alice"), ("general", "bob")],
      ∃ a ∈ (runAll PresenceMove.step shareRace {}).screenShares.rows, a.key = key := by
    intro key hkey
    rw [← hsharers] at hkey
    exact List.mem_map.mp hkey
  rcases hmem ("general", "alice") (by decide) with ⟨a, ha, hkeya⟩
  rcases hmem ("general", "bob") (by decide) with ⟨b, hb, hkeyb⟩
  have hsame := (h shareRace).oneSharer a ha b hb
    ((congrArg Prod.fst hkeya).trans (congrArg Prod.fst hkeyb).symm)
  rw [show a.sharer = "alice" from congrArg Prod.snd hkeya,
    show b.sharer = "bob" from congrArg Prod.snd hkeyb] at hsame
  exact absurd hsame (by decide)

/-! ## Who is there -/

/-- No task is in the middle of something. -/
def PresenceState.Quiet (s : PresenceState) : Prop :=
  ∀ conn c, s.conns conn = some c → c.task = .running

/-- What is kept in memory agrees with the open connections. -/
structure Present (s : PresenceState) : Prop where
  online : ∀ user, user ∈ s.onlineUsers ↔ ∃ conn c, s.conns conn = some c ∧ c.publicKey = user
  /-- The sender of a bot belongs to an open connection of it. -/
  reachable : ∀ conn c, s.conns conn = some c → c.isBot = true →
    ∃ other c', s.botSessions c.publicKey = some other ∧ s.conns other = some c' ∧
      c'.publicKey = c.publicKey

/-- The connection has started a stream in the channel. -/
def PresenceState.Streams (s : PresenceState) (conn : ℕ) (channelId streamId : String) : Prop :=
  ∃ a ∈ s.screenShares.rows, a.channelId = channelId ∧
    ∃ stream ∈ a.streams.rows, stream.streamId = streamId ∧ stream.startedBy = conn

/-- The connection has brought its user into the voice channel. -/
def PresenceState.Talks (s : PresenceState) (conn : ℕ) (channelId : String) : Prop :=
  ∃ user entry, s.voiceChannels channelId user = some entry ∧ entry.joinedBy = conn

/-- A connection that closes leaves alone what the other open connections of its user
have established. -/
def PresenceMove.Spares (move : PresenceMove) (s : PresenceState) : Prop :=
  ∀ conn c, move = .resume conn → s.conns conn = some c → c.task.Closing →
    ∀ other c', other ≠ conn → s.conns other = some c' → c'.publicKey = c.publicKey →
      ¬ c'.task.Closing →
      (∀ channelId streamId, s.Streams other channelId streamId →
        (move.step s).Streams other channelId streamId) ∧
      ∀ channelId, s.Talks other channelId → (move.step s).Talks other channelId

/-- What is kept in memory is right whenever all is quiet, and connections only clear
up after themselves. -/
def PresenceKept (moves : List PresenceMove) : Prop :=
  (∀ first, first <+: moves → (runAll PresenceMove.step first {}).Quiet →
    Present (runAll PresenceMove.step first {})) ∧
  Along PresenceMove.step PresenceMove.Spares moves {}

/-- A user connects when no connection of theirs is closing, and closes a connection
when it is the only one. -/
def PresenceMove.Single : PresenceMove → PresenceState → Prop
  | .connect _ publicKey _, s =>
      ∀ other c, s.conns other = some c → c.publicKey = publicKey → ¬ c.task.Closing
  | .disconnect conn, s =>
      ∀ c, s.conns conn = some c → ∀ other c', s.conns other = some c' →
        c'.publicKey = c.publicKey → other = conn
  | _, _ => True

/-- The task has entered the sender of a bot and not removed it yet. -/
def SocketTask.Registered : SocketTask → Prop
  | .opening | .registering | .goingOffline => False
  | _ => True

/-- The invariant of such runs. -/
structure PresenceInv (s : PresenceState) : Prop where
  alone : ∀ conn c, s.conns conn = some c → c.task.Closing →
    ∀ other c', s.conns other = some c' → c'.publicKey = c.publicKey → other = conn
  online : ∀ user, user ∈ s.onlineUsers ↔
    ∃ conn c, s.conns conn = some c ∧ c.publicKey = user ∧ c.task ≠ .opening
  live : ∀ user conn, s.botSessions user = some conn →
    ∃ c, s.conns conn = some c ∧ c.publicKey = user ∧ c.isBot = true ∧ c.task.Registered
  session : ∀ conn c, s.conns conn = some c → c.isBot = true → c.task.Registered →
    s.botSessions c.publicKey ≠ none

section Presence

variable {s t : PresenceState} {conn : ℕ} {c : PresenceConn}

theorem PresenceInv.of_eq (h : PresenceInv s) (honline : t.onlineUsers = s.onlineUsers)
    (hsessions : t.botSessions = s.botSessions) (hconns : t.conns = s.conns) : PresenceInv t := by
  constructor
  · rw [hconns]
    exact h.alone
  · rw [honline, hconns]
    exact h.online
  · rw [hsessions, hconns]
    exact h.live
  · rw [hsessions, hconns]
    exact h.session

/-- After a change of one connection. -/
theorem conns_cases {value : Option PresenceConn}
    (hconns : t.conns = Function.update s.conns conn value) {other : ℕ} {d : PresenceConn}
    (hd : t.conns other = some d) :
    (other = conn ∧ value = some d) ∨ (other ≠ conn ∧ s.conns other = some d) := by
  rw [hconns, Function.update_apply] at hd
  split_ifs at hd with hsame
  · exact .inl ⟨hsame, hd⟩
  · exact .inr ⟨hsame, hd⟩

theorem conns_kept {value : Option PresenceConn}
    (hconns : t.conns = Function.update s.conns conn value) {other : ℕ} (hne : other ≠ conn) :
    t.conns other = s.conns other := by
  rw [hconns, Function.update_of_ne hne]

theorem conns_same {value : Option PresenceConn}
    (hconns : t.conns = Function.update s.conns conn value) : t.conns conn = value := by
  rw [hconns, Function.update_self]

/-- Who is online, after the task of a connection that has been opened has gone on. -/
theorem PresenceInv.online_of_update (h : PresenceInv s) (hconn : s.conns conn = some c)
    {c' : PresenceConn} (hconns : t.conns = Function.update s.conns conn (some c'))
    (hkey : c'.publicKey = c.publicKey) (honline : t.onlineUsers = s.onlineUsers)
    (hopening : c'.task = .opening ↔ c.task = .opening) (user : String) :
    user ∈ t.onlineUsers ↔
      ∃ conn c, t.conns conn = some c ∧ c.publicKey = user ∧ c.task ≠ .opening := by
  rw [honline, h.online user]
  constructor
  · rintro ⟨other, d, hd, huser, hnot⟩
    by_cases hother : other = conn
    · subst hother
      rw [hconn] at hd
      cases hd
      exact ⟨other, c', conns_same hconns, hkey.trans huser, fun htask =>
        hnot (hopening.mp htask)⟩
    · exact ⟨other, d, (conns_kept hconns hother).trans hd, huser, hnot⟩
  · rintro ⟨other, d, hd, huser, hnot⟩
    rcases conns_cases hconns hd with ⟨rfl, ⟨rfl⟩⟩ | ⟨-, hd⟩
    · exact ⟨other, c, hconn, hkey.symm.trans huser, fun htask => hnot (hopening.mpr htask)⟩
    · exact ⟨other, d, hd, huser, hnot⟩

/-- The task of one connection goes on, with nothing written about who is there. -/
theorem PresenceInv.retask (h : PresenceInv s) (hconn : s.conns conn = some c) {c' : PresenceConn}
    (hconns : t.conns = Function.update s.conns conn (some c'))
    (hkey : c'.publicKey = c.publicKey) (hbot : c'.isBot = c.isBot)
    (honline : t.onlineUsers = s.onlineUsers) (hsessions : t.botSessions = s.botSessions)
    (hopening : c'.task = .opening ↔ c.task = .opening)
    (hregistered : c'.task.Registered ↔ c.task.Registered)
    (hclosing : c'.task.Closing → ∀ other d, s.conns other = some d →
      d.publicKey = c.publicKey → other = conn) : PresenceInv t := by
  -- The connections before and after are the same up to the task of one.
  have hold : ∀ other d, t.conns other = some d → ∃ d', s.conns other = some d' ∧
      d'.publicKey = d.publicKey := by
    intro other d hd
    rcases conns_cases hconns hd with ⟨rfl, ⟨rfl⟩⟩ | ⟨-, hd⟩
    · exact ⟨c, hconn, hkey.symm⟩
    · exact ⟨d, hd, rfl⟩
  constructor
  · intro other d hd hclose third e he hsame
    rcases hold third e he with ⟨e', he', hkeye⟩
    rcases conns_cases hconns hd with ⟨rfl, ⟨rfl⟩⟩ | ⟨-, hd⟩
    · exact hclosing hclose third e' he' (hkeye.trans (hsame.trans hkey))
    · exact h.alone other d hd hclose third e' he' (hkeye.trans hsame)
  · exact h.online_of_update hconn hconns hkey honline hopening
  · intro user other hsession
    rw [hsessions] at hsession
    rcases h.live user other hsession with ⟨d, hd, huser, hisBot, hreg⟩
    by_cases hother : other = conn
    · subst hother
      rw [hconn] at hd
      cases hd
      exact ⟨c', conns_same hconns, hkey.trans huser, hbot.trans hisBot, hregistered.mpr hreg⟩
    · exact ⟨d, (conns_kept hconns hother).trans hd, huser, hisBot, hreg⟩
  · intro other d hd hisBot hreg
    rw [hsessions]
    rcases conns_cases hconns hd with ⟨rfl, ⟨rfl⟩⟩ | ⟨-, hd⟩
    · rw [hkey]
      exact h.session other c hconn (hbot ▸ hisBot) (hregistered.mp hreg)
    · exact h.session other d hd hisBot hreg

/-- A new connection has written nothing yet. -/
theorem PresenceInv.connect (h : PresenceInv s) (hfree : s.conns conn = none) {publicKey : String}
    {isBot : Bool}
    (hsingle : ∀ other c, s.conns other = some c → c.publicKey = publicKey → ¬ c.task.Closing) :
    PresenceInv (s.setConn conn (some ⟨publicKey, isBot, none, .opening⟩)) := by
  have hconns : (s.setConn conn (some ⟨publicKey, isBot, none, .opening⟩)).conns =
      Function.update s.conns conn (some ⟨publicKey, isBot, none, .opening⟩) := rfl
  have hnew : ∀ other d, s.conns other = some d → other ≠ conn := by
    rintro other d hd rfl
    rw [hfree] at hd
    cases hd
  constructor
  · intro other d hd hclose third e he hsame
    rcases conns_cases hconns hd with ⟨-, ⟨rfl⟩⟩ | ⟨-, hd⟩
    · cases hclose
    · rcases conns_cases hconns he with ⟨-, ⟨rfl⟩⟩ | ⟨-, he⟩
      · exact absurd hclose (hsingle other d hd hsame.symm)
      · exact h.alone other d hd hclose third e he hsame
  · intro user
    rw [show (s.setConn conn _).onlineUsers = s.onlineUsers from rfl, h.online user]
    constructor
    · rintro ⟨other, d, hd, huser, hnot⟩
      exact ⟨other, d, (conns_kept hconns (hnew other d hd)).trans hd, huser, hnot⟩
    · rintro ⟨other, d, hd, huser, hnot⟩
      rcases conns_cases hconns hd with ⟨-, ⟨rfl⟩⟩ | ⟨-, hd⟩
      · exact absurd rfl hnot
      · exact ⟨other, d, hd, huser, hnot⟩
  · intro user other hsession
    rcases h.live user other hsession with ⟨d, hd, hrest⟩
    exact ⟨d, (conns_kept hconns (hnew other d hd)).trans hd, hrest⟩
  · intro other d hd hisBot hreg
    rcases conns_cases hconns hd with ⟨-, ⟨rfl⟩⟩ | ⟨-, hd⟩
    · cases hreg
    · exact h.session other d hd hisBot hreg

/-- The user goes online. -/
theorem PresenceInv.opened (h : PresenceInv s) (hconn : s.conns conn = some c)
    (htask : c.task = .opening) : PresenceInv (SocketTask.perform conn c .opening s) := by
  have hconns : (SocketTask.perform conn c .opening s).conns =
      Function.update s.conns conn (some { c with task := .registering }) := rfl
  constructor
  · intro other d hd hclose third e he hsame
    rcases conns_cases hconns hd with ⟨-, ⟨rfl⟩⟩ | ⟨-, hdold⟩
    · cases hclose
    · rcases conns_cases hconns he with ⟨rfl, ⟨rfl⟩⟩ | ⟨-, heold⟩
      · exact h.alone other d hdold hclose third c hconn hsame
      · exact h.alone other d hdold hclose third e heold hsame
  · intro user
    show user ∈ insert c.publicKey s.onlineUsers ↔ _
    rw [Finset.mem_insert, h.online user]
    constructor
    · rintro (rfl | ⟨other, d, hd, huser, hnot⟩)
      · exact ⟨conn, { c with task := .registering }, conns_same hconns, rfl, by simp⟩
      · refine ⟨other, d, (conns_kept hconns ?_).trans hd, huser, hnot⟩
        rintro rfl
        rw [hconn] at hd
        cases hd
        exact hnot htask
    · rintro ⟨other, d, hd, huser, hnot⟩
      rcases conns_cases hconns hd with ⟨-, ⟨rfl⟩⟩ | ⟨-, hd⟩
      · exact .inl huser.symm
      · exact .inr ⟨other, d, hd, huser, hnot⟩
  · intro user other hsession
    rcases h.live user other hsession with ⟨d, hd, huser, hisBot, hreg⟩
    refine ⟨d, (conns_kept hconns ?_).trans hd, huser, hisBot, hreg⟩
    rintro rfl
    rw [hconn] at hd
    cases hd
    rw [htask] at hreg
    cases hreg
  · intro other d hd hisBot hreg
    rcases conns_cases hconns hd with ⟨-, ⟨rfl⟩⟩ | ⟨-, hd⟩
    · cases hreg
    · exact h.session other d hd hisBot hreg

/-- The sender of a bot is entered. Other connections of the bot are reached through
it from now on. -/
theorem PresenceInv.registered (h : PresenceInv s) (hconn : s.conns conn = some c)
    (htask : c.task = .registering) : PresenceInv (SocketTask.perform conn c .registering s) := by
  have hconns : (SocketTask.perform conn c .registering s).conns =
      Function.update s.conns conn (some { c with task := .running }) := by
    simp only [SocketTask.perform]
    split_ifs <;> rfl
  have honline : (SocketTask.perform conn c .registering s).onlineUsers = s.onlineUsers := by
    simp only [SocketTask.perform]
    split_ifs <;> rfl
  have hsessions : (SocketTask.perform conn c .registering s).botSessions =
      if c.isBot then Function.update s.botSessions c.publicKey (some conn) else s.botSessions := by
    simp only [SocketTask.perform]
    split_ifs <;> rfl
  have hunregistered : ∀ user, s.botSessions user ≠ some conn := by
    intro user hsession
    rcases h.live user conn hsession with ⟨d, hd, -, -, hreg⟩
    rw [hconn] at hd
    cases hd
    rw [htask] at hreg
    cases hreg
  constructor
  · intro other d hd hclose third e he hsame
    rcases conns_cases hconns hd with ⟨-, ⟨rfl⟩⟩ | ⟨-, hdold⟩
    · cases hclose
    · rcases conns_cases hconns he with ⟨rfl, ⟨rfl⟩⟩ | ⟨-, heold⟩
      · exact h.alone other d hdold hclose third c hconn hsame
      · exact h.alone other d hdold hclose third e heold hsame
  · exact h.online_of_update hconn hconns rfl honline (by simp [htask])
  · have hkept : ∀ user other, s.botSessions user = some other →
        ∃ d, (SocketTask.perform conn c .registering s).conns other = some d ∧ d.publicKey = user ∧
          d.isBot = true ∧ d.task.Registered := by
      intro user other hsession
      rcases h.live user other hsession with ⟨d, hd, hrest⟩
      refine ⟨d, (conns_kept hconns ?_).trans hd, hrest⟩
      rintro rfl
      exact hunregistered user hsession
    intro user other hsession
    rw [hsessions] at hsession
    split_ifs at hsession with hisBot
    · rw [Function.update_apply] at hsession
      split_ifs at hsession with huser
      · cases hsession
        exact ⟨_, conns_same hconns, huser.symm, hisBot, trivial⟩
      · exact hkept user other hsession
    · exact hkept user other hsession
  · intro other d hd hisBot hreg
    rw [hsessions]
    rcases conns_cases hconns hd with ⟨rfl, ⟨rfl⟩⟩ | ⟨-, hd⟩
    · rw [if_pos hisBot, Function.update_self]
      simp
    · have hsession := h.session other d hd hisBot hreg
      split_ifs
      · rw [Function.update_apply]
        split_ifs
        · simp
        · exact hsession
      · exact hsession

/-- The sender of a bot is removed. The bot has no other connection. -/
theorem PresenceInv.unregistered (h : PresenceInv s) (hconn : s.conns conn = some c)
    (htask : c.task = .droppingSession) :
    PresenceInv (SocketTask.perform conn c .droppingSession s) := by
  have hconns : (SocketTask.perform conn c .droppingSession s).conns =
      Function.update s.conns conn (some { c with task := .goingOffline }) := by
    simp only [SocketTask.perform]
    split_ifs <;> rfl
  have honline : (SocketTask.perform conn c .droppingSession s).onlineUsers = s.onlineUsers := by
    simp only [SocketTask.perform]
    split_ifs <;> rfl
  have halone : ∀ other d, s.conns other = some d → d.publicKey = c.publicKey → other = conn :=
    h.alone conn c hconn (by rw [htask]; trivial)
  -- Whichever of the two it is, nobody is reached under the key any more.
  have hsessions : ∀ user, (SocketTask.perform conn c .droppingSession s).botSessions user =
      if user = c.publicKey then none else s.botSessions user := by
    intro user
    simp only [SocketTask.perform]
    split_ifs with hisBot huser huser
    · show Function.update s.botSessions c.publicKey none user = none
      rw [huser, Function.update_self]
    · show Function.update s.botSessions c.publicKey none user = s.botSessions user
      rw [Function.update_of_ne huser]
    · show s.botSessions user = none
      by_contra hsome
      rcases Option.ne_none_iff_exists'.mp hsome with ⟨other, hsession⟩
      rcases h.live user other hsession with ⟨d, hd, hkey, hbot, -⟩
      have hother := halone other d hd (hkey.trans huser)
      subst hother
      rw [hconn] at hd
      cases hd
      exact hisBot hbot
    · rfl
  constructor
  · intro other d hd hclose third e he hsame
    rcases conns_cases hconns he with ⟨rfl, ⟨rfl⟩⟩ | ⟨hne, heold⟩
    · rcases conns_cases hconns hd with ⟨rfl, -⟩ | ⟨-, hdold⟩
      · rfl
      · exact (halone other d hdold hsame.symm).symm
    · rcases conns_cases hconns hd with ⟨rfl, ⟨rfl⟩⟩ | ⟨-, hdold⟩
      · exact halone third e heold hsame
      · exact h.alone other d hdold hclose third e heold hsame
  · exact h.online_of_update hconn hconns rfl honline (by simp [htask])
  · intro user other hsession
    rw [hsessions] at hsession
    split_ifs at hsession with huser
    rcases h.live user other hsession with ⟨d, hd, hkey, hrest⟩
    refine ⟨d, (conns_kept hconns ?_).trans hd, hkey, hrest⟩
    rintro rfl
    rw [hconn] at hd
    cases hd
    exact huser hkey.symm
  · intro other d hd hisBot hreg
    rcases conns_cases hconns hd with ⟨-, ⟨rfl⟩⟩ | ⟨hne, hd⟩
    · cases hreg
    · rw [hsessions, if_neg fun hkey => hne (halone other d hd hkey)]
      exact h.session other d hd hisBot hreg

/-- The user goes offline with the last connection. -/
theorem PresenceInv.closed (h : PresenceInv s) (hconn : s.conns conn = some c)
    (htask : c.task = .goingOffline) : PresenceInv (SocketTask.perform conn c .goingOffline s) := by
  have hconns : (SocketTask.perform conn c .goingOffline s).conns =
      Function.update s.conns conn none := rfl
  have halone : ∀ other d, s.conns other = some d → d.publicKey = c.publicKey → other = conn :=
    h.alone conn c hconn (by rw [htask]; trivial)
  have hold : ∀ other d, (SocketTask.perform conn c .goingOffline s).conns other = some d →
      other ≠ conn ∧ s.conns other = some d := by
    intro other d hd
    rcases conns_cases hconns hd with ⟨-, ⟨⟩⟩ | hd
    exact hd
  constructor
  · intro other d hd hclose third e he
    exact h.alone other d (hold other d hd).2 hclose third e (hold third e he).2
  · intro user
    show user ∈ s.onlineUsers.erase c.publicKey ↔ _
    rw [Finset.mem_erase, h.online user]
    constructor
    · rintro ⟨hne, other, d, hd, huser, hnot⟩
      refine ⟨other, d, (conns_kept hconns ?_).trans hd, huser, hnot⟩
      rintro rfl
      rw [hconn] at hd
      cases hd
      exact hne huser.symm
    · rintro ⟨other, d, hd, huser, hnot⟩
      rcases hold other d hd with ⟨hne, hd⟩
      exact ⟨fun hkey => hne (halone other d hd (huser.trans hkey)), other, d, hd, huser, hnot⟩
  · intro user other hsession
    rcases h.live user other hsession with ⟨d, hd, hkey, hisBot, hreg⟩
    refine ⟨d, (conns_kept hconns ?_).trans hd, hkey, hisBot, hreg⟩
    rintro rfl
    rw [hconn] at hd
    cases hd
    rw [htask] at hreg
    cases hreg
  · intro other d hd hisBot hreg
    exact h.session other d (hold other d hd).2 hisBot hreg

theorem PresenceInv.step (h : PresenceInv s) {move : PresenceMove} (hmove : move.Single s) :
    PresenceInv (move.step s) := by
  cases move with
  | connect conn publicKey isBot =>
      simp only [PresenceMove.step]
      split
      · next hfree => exact h.connect hfree hmove
      · exact h
  | disconnect conn =>
      simp only [PresenceMove.step]
      cases hrunning : s.running? conn with
      | none => exact h
      | some c =>
          rcases PresenceState.running?_eq_some_iff.mp hrunning with ⟨hconn, htask⟩
          rw [Option.elim_some]
          refine h.retask hconn rfl rfl rfl rfl rfl ?_ ?_ ?_
          · simp [htask]
          · rw [htask]
            exact Iff.rfl
          · exact fun _ => hmove c hconn
  | client conn frame =>
      simp only [PresenceMove.step]
      cases hrunning : s.running? conn with
      | none => exact h
      | some c =>
          rcases PresenceState.running?_eq_some_iff.mp hrunning with ⟨hconn, htask⟩
          cases frame with
          | voiceJoin channelId udpPort =>
              exact h.retask hconn rfl rfl rfl rfl rfl Iff.rfl Iff.rfl
                (by simp [htask, SocketTask.Closing])
          | voiceLeave channelId =>
              exact h.retask hconn rfl rfl rfl rfl rfl Iff.rfl Iff.rfl
                (by simp [htask, SocketTask.Closing])
          | screenShareStart channelId streamId kind mime hasAudio now =>
              simp only [Option.elim_some, ClientFrame.handle]
              split_ifs
              · exact h
              · refine h.retask hconn rfl rfl rfl rfl rfl ?_ ?_ ?_
                · simp [htask]
                · rw [htask]
                  exact Iff.rfl
                · exact fun hclose => False.elim hclose
          | screenShareStop channelId streamId =>
              simp only [Option.elim_some, ClientFrame.handle, PresenceState.stopShare]
              split
              · exact h
              · split_ifs <;> exact h.of_eq rfl rfl rfl
          | screenShareViewerJoin channelId streamId =>
              simp only [Option.elim_some, ClientFrame.handle, PresenceState.setViewers]
              split <;> exact h.of_eq rfl rfl rfl
          | screenShareViewerLeave channelId streamId =>
              simp only [Option.elim_some, ClientFrame.handle, PresenceState.setViewers]
              split <;> exact h.of_eq rfl rfl rfl
          | screenShareInit channelId streamId data => exact h.of_eq rfl rfl rfl
  | resume conn =>
      simp only [PresenceMove.step]
      cases hconn : s.conns conn with
      | none => exact h
      | some c =>
          rw [Option.elim_some]
          cases htask : c.task with
          | opening => exact h.opened hconn htask
          | registering => exact h.registered hconn htask
          | running => exact h
          | starting channelId stream =>
              simp only [SocketTask.perform]
              refine h.retask hconn rfl rfl rfl rfl rfl ?_ ?_ ?_
              · simp [htask]
              · rw [htask]
                exact Iff.rfl
              · exact fun hclose => False.elim hclose
          | leavingVoice =>
              have halone := h.alone conn c hconn (by rw [htask]; trivial)
              simp only [SocketTask.perform]
              cases c.voiceChannel with
              | none =>
                  refine h.retask hconn rfl rfl rfl rfl rfl ?_ ?_ ?_
                  · simp [htask]
                  · rw [htask]
                    exact Iff.rfl
                  · exact fun _ => halone
              | some channelId =>
                  refine h.retask hconn rfl rfl rfl rfl rfl ?_ ?_ ?_
                  · simp [htask]
                  · rw [htask]
                    exact Iff.rfl
                  · exact fun _ => halone
          | droppingShares =>
              have halone := h.alone conn c hconn (by rw [htask]; trivial)
              simp only [SocketTask.perform]
              refine h.retask hconn rfl rfl rfl rfl rfl ?_ ?_ ?_
              · simp [htask]
              · rw [htask]
                exact Iff.rfl
              · exact fun _ => halone
          | droppingSession => exact h.unregistered hconn htask
          | goingOffline => exact h.closed hconn htask

theorem PresenceInv.empty : PresenceInv {} :=
  ⟨fun _ _ hc => (by cases hc), fun user =>
    ⟨fun hmem => (by cases hmem), fun ⟨_, _, hc, _⟩ => (by cases hc)⟩,
    fun _ _ hsession => (by cases hsession), fun _ _ hc => (by cases hc)⟩

theorem PresenceInv.present (h : PresenceInv s) (hquiet : s.Quiet) : Present s where
  online user := by
    rw [h.online user]
    constructor
    · rintro ⟨conn, c, hc, huser, -⟩
      exact ⟨conn, c, hc, huser⟩
    · rintro ⟨conn, c, hc, huser⟩
      exact ⟨conn, c, hc, huser, by simp [hquiet conn c hc]⟩
  reachable conn c hc hisBot := by
    have hsome := h.session conn c hc hisBot (by rw [hquiet conn c hc]; trivial)
    rcases Option.ne_none_iff_exists'.mp hsome with ⟨other, hsession⟩
    rcases h.live _ other hsession with ⟨d, hd, hkey, -⟩
    exact ⟨other, d, hsession, hd, hkey⟩

end Presence

/-- In every run in which no user has a second connection when one of them closes,
what is kept in memory is right and no connection clears up after another. -/
theorem presenceKept_of_single (moves : List PresenceMove)
    (hmoves : Along PresenceMove.step PresenceMove.Single moves {}) : PresenceKept moves := by
  have hinv : ∀ first rest, moves = first ++ rest →
      PresenceInv (runAll PresenceMove.step first {}) := by
    rintro first rest rfl
    exact hmoves.append.1.invariant PresenceInv (fun _ _ hmove h => h.step hmove) PresenceInv.empty
  constructor
  · rintro first ⟨rest, hsplit⟩ hquiet
    exact (hinv first rest hsplit.symm).present hquiet
  · rw [along_iff_split]
    rintro first move rest hsplit conn c rfl hc hclosing other c' hne hc' hkey
    exact absurd ((hinv first _ hsplit).alone conn c hc hclosing other c' hc' hkey) hne

/-- A bot connects, talks, shares its screen and goes, while a user talks through the second
of two connections. -/
def botVisit : List PresenceMove :=
  [.connect 0 "alice" false, .resume 0, .resume 0, .connect 1 "alice" false, .resume 1,
    .resume 1, .client 1 (.voiceJoin "general" 4000), .connect 2 "bot" true, .resume 2,
    .resume 2, .client 2 (.voiceJoin "general" 4001),
    .client 2 (.screenShareStart "general" "a" "screen" "video/webm" false 0), .resume 2,
    .disconnect 2, .resume 2, .resume 2, .resume 2, .resume 2]

theorem botVisit_presenceKept :
    PresenceKept botVisit ∧
      (runAll PresenceMove.step (botVisit.take 13) {}).onlineUsers = {"alice", "bot"} ∧
      (runAll PresenceMove.step (botVisit.take 13) {}).botSessions "bot" = some 2 ∧
      (runAll PresenceMove.step botVisit {}).onlineUsers = {"alice"} ∧
      (runAll PresenceMove.step botVisit {}).voiceChannels "general" "alice" = some ⟨4000, 1⟩ := by
  refine ⟨presenceKept_of_single botVisit ?_, by decide +kernel, by decide +kernel,
    by decide +kernel, by decide +kernel⟩
  refine ⟨?_, trivial, trivial, ?_, trivial, trivial, trivial, ?_, trivial, trivial, trivial,
    trivial, trivial, ?_, trivial, trivial, trivial, trivial, trivial⟩
  · intro other c hc
    cases hc
  · intro other c hc _ hclosing
    cases other with
    | zero =>
        cases hc
        exact hclosing
    | succ n => cases hc
  · intro other c hc _ hclosing
    rcases other with _ | _ | n
    · cases hc
      exact hclosing
    · cases hc
      exact hclosing
    · cases hc
  · -- The bot has one connection only.
    intro c hc other c' hc' hkey
    cases hc
    rcases other with _ | _ | _ | n
    · cases hc'
      exact absurd hkey (by decide)
    · cases hc'
      exact absurd hkey (by decide)
    · rfl
    · cases hc'

/-- A user opens a second connection and closes it again. -/
def secondTab : List PresenceMove :=
  [.connect 0 "alice" false, .resume 0, .resume 0, .connect 1 "alice" false, .resume 1, .resume 1,
    .disconnect 1, .resume 1, .resume 1, .resume 1, .resume 1]

theorem secondTab_not_presenceKept : ¬ ∀ moves, PresenceKept moves := by
  intro h
  have hquiet : (runAll PresenceMove.step secondTab {}).Quiet := by
    intro conn c hc
    cases conn with
    | zero =>
        cases hc
        rfl
    | succ n =>
        cases n with
        | zero => cases hc
        | succ n => cases hc
  have honline := ((h secondTab).1 secondTab List.prefix_rfl hquiet).online "alice"
  have hopen : (runAll PresenceMove.step secondTab {}).conns 0 =
      some ⟨"alice", false, none, .running⟩ := by
    decide +kernel
  have hmem := honline.mpr ⟨0, _, hopen, rfl⟩
  revert hmem
  decide +kernel

end Voxply.Hub
