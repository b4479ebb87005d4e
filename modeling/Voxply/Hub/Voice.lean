/-
# The voice index

Two maps say who is in which voice channel: one lists the participants of each
channel with their UDP ports, the other leads from a port back to the channel and
the participant, and the relay routes audio by it.  Joining and leaving update
the one and then the other, under separate locks, so that connections can get in
between.

A join does not look at what it overwrites, and a leave takes the channel from
the client.  The maps are inverse to each other in runs in which every connection
is in one channel at a time and no two entries share a port.  The proof gives
every connection a seat; the two maps are what can be seen of the seats.
-/

import Mathlib.Data.Set.Function
import Mathlib.Logic.Function.Basic
import Voxply.Math.Trace

namespace Voxply.Hub

open Voxply.Math

/-! ## Connections -/

/-- The second update of a handler, when the first has been made. -/
inductive VoiceUpdate where
  /-- Enter the port into the reverse index. -/
  | join (channelId : String) (port : UInt16)
  /-- Remove the port of the entry that was found, if there was one, and close
  the connection if it is being cleaned up. -/
  | leave (removed : Option UInt16) (closing : Bool)
  deriving DecidableEq

/-- An open connection: its user, the channel it has joined last, and the update
that its handler still has to make. -/
structure VoiceConn where
  user : String
  voiceChannel : Option String := none
  pending : Option VoiceUpdate := none
  deriving DecidableEq

/-- The two maps and the open connections. The clients run on one address, so that
a port stands for a socket address. -/
structure VoiceState where
  voiceChannels : String → String → Option UInt16 := fun _ _ => none
  voiceAddrMap : UInt16 → Option (String × String) := fun _ => none
  conns : ℕ → Option VoiceConn := fun _ => none

/-- Write an entry of `voice_channels`, or remove it. -/
def VoiceState.setParticipant (s : VoiceState) (channelId user : String) (port : Option UInt16) :
    VoiceState :=
  { s with voiceChannels := fun channel other =>
      if channel = channelId ∧ other = user then port else s.voiceChannels channel other }

def VoiceState.setAddr (s : VoiceState) (port : UInt16) (entry : Option (String × String)) :
    VoiceState :=
  { s with voiceAddrMap := Function.update s.voiceAddrMap port entry }

def VoiceState.setConn (s : VoiceState) (conn : ℕ) (value : Option VoiceConn) : VoiceState :=
  { s with conns := Function.update s.conns conn value }

/-! ## Moves -/

/-- What can happen. A join that is refused for a mute or for want of talk power
changes nothing and is no move. -/
inductive VoiceMove where
  | connect (conn : ℕ) (user : String)
  | voiceJoin (conn : ℕ) (channelId : String) (udpPort : UInt16)
  | voiceLeave (conn : ℕ) (channelId : String)
  | disconnect (conn : ℕ)
  /-- The second update of the handler that a connection is in. -/
  | update (conn : ℕ)
  deriving DecidableEq

/-- The first update of `leave_voice`. -/
def VoiceState.leaveVoice (s : VoiceState) (conn : ℕ) (c : VoiceConn) (channelId : String)
    (closing : Bool) : VoiceState :=
  (s.setParticipant channelId c.user none).setConn conn
    (some { c with pending := some (.leave (s.voiceChannels channelId c.user) closing) })

/-- The second update of a handler. -/
def VoiceState.finish (s : VoiceState) (conn : ℕ) (c : VoiceConn) : VoiceUpdate → VoiceState
  | .join channelId port =>
      (s.setAddr port (some (channelId, c.user))).setConn conn
        (some ⟨c.user, some channelId, none⟩)
  | .leave removed closing =>
      (removed.elim s fun port => s.setAddr port none).setConn conn
        (if closing then none else some ⟨c.user, none, none⟩)

/-- One move. A connection is in one handler at a time. -/
def VoiceMove.step : VoiceMove → VoiceState → VoiceState
  | .connect conn user, s =>
      match s.conns conn with
      | none => s.setConn conn (some ⟨user, none, none⟩)
      | some _ => s
  | .voiceJoin conn channelId udpPort, s =>
      match s.conns conn with
      | some ⟨user, voiceChannel, none⟩ =>
          (s.setParticipant channelId user (some udpPort)).setConn conn
            (some ⟨user, voiceChannel, some (.join channelId udpPort)⟩)
      | _ => s
  | .voiceLeave conn channelId, s =>
      match s.conns conn with
      | some ⟨user, voiceChannel, none⟩ =>
          s.leaveVoice conn ⟨user, voiceChannel, none⟩ channelId false
      | _ => s
  | .disconnect conn, s =>
      match s.conns conn with
      | some ⟨user, some channelId, none⟩ =>
          s.leaveVoice conn ⟨user, some channelId, none⟩ channelId true
      | some ⟨_, none, none⟩ => s.setConn conn none
      | _ => s
  | .update conn, s =>
      match s.conns conn with
      | some ⟨user, voiceChannel, some pending⟩ =>
          s.finish conn ⟨user, voiceChannel, none⟩ pending
      | _ => s

/-! ## The property -/

/-- No handler is between its two updates. -/
def VoiceState.Quiet (s : VoiceState) : Prop :=
  ∀ conn c, s.conns conn = some c → c.pending = none

/-- An open connection of the user. -/
def VoiceState.Online (s : VoiceState) (user : String) (conn : ℕ) : Prop :=
  ∃ c, s.conns conn = some c ∧ c.user = user

/-- What the relay relies on. -/
structure VoiceIndex (s : VoiceState) : Prop where
  inverse : ∀ port channelId user, s.voiceAddrMap port = some (channelId, user) ↔
    s.voiceChannels channelId user = some port
  /-- The channels that a user is in can be told apart by connections of theirs. -/
  onePerConnection : ∀ user, ∃ owner : String → ℕ,
    (∀ channelId, s.voiceChannels channelId user ≠ none → s.Online user (owner channelId)) ∧
      Set.InjOn owner { channelId | s.voiceChannels channelId user ≠ none }
  cleaned : ∀ user, (∀ conn, ¬ s.Online user conn) →
    (∀ channelId, s.voiceChannels channelId user = none) ∧
      ∀ port channelId, s.voiceAddrMap port ≠ some (channelId, user)

/-- A connection joins when it is in no channel, the user is not in this one and
the port is in neither map, or it repeats the join it has made. It leaves the
channel it is in; one that is in no channel may name a channel that its user is
not in. -/
def VoiceMove.Careful : VoiceMove → VoiceState → Prop
  | .voiceJoin conn channelId udpPort, s =>
      ∀ c ∈ s.conns conn, c.pending = none →
        (c.voiceChannel = none ∧ s.voiceChannels channelId c.user = none ∧
          (∀ channel user, s.voiceChannels channel user ≠ some udpPort) ∧
          s.voiceAddrMap udpPort = none) ∨
        (c.voiceChannel = some channelId ∧ s.voiceChannels channelId c.user = some udpPort)
  | .voiceLeave conn channelId, s =>
      ∀ c ∈ s.conns conn, c.pending = none →
        c.voiceChannel = some channelId ∨
          (c.voiceChannel = none ∧ s.voiceChannels channelId c.user = none)
  | _, _ => True

/-! ## Seats -/

/-- Where a connection stands with respect to the two maps. -/
inductive Phase where
  | entering
  | seated
  | leaving
  deriving DecidableEq

structure Seat where
  user : String
  channelId : String
  port : UInt16
  phase : Phase
  deriving DecidableEq

/-- The seat that a connection has. -/
def VoiceConn.Sits (c : VoiceConn) (seat : Option Seat) : Prop :=
  match c.pending with
  | none => (c.voiceChannel = none ∧ seat = none) ∨
      ∃ channelId port, c.voiceChannel = some channelId ∧
        seat = some ⟨c.user, channelId, port, .seated⟩
  | some (.join channelId port) => seat = some ⟨c.user, channelId, port, .entering⟩ ∨
      seat = some ⟨c.user, channelId, port, .seated⟩
  | some (.leave none _) => seat = none
  | some (.leave (some port) _) => ∃ channelId, seat = some ⟨c.user, channelId, port, .leaving⟩

/-- Who enters is listed already. -/
def Listed (seat : Option Seat) (channelId user : String) (port : UInt16) : Prop :=
  seat = some ⟨user, channelId, port, .entering⟩ ∨ seat = some ⟨user, channelId, port, .seated⟩

/-- Who leaves can still be reached. -/
def Routed (seat : Option Seat) (port : UInt16) (channelId user : String) : Prop :=
  seat = some ⟨user, channelId, port, .seated⟩ ∨ seat = some ⟨user, channelId, port, .leaving⟩

/-- The maps are what can be seen of the seats. No two seats share a port, and
none is taken twice. -/
structure Seating (s : VoiceState) (seat : ℕ → Option Seat) : Prop where
  channels : ∀ channelId user port, s.voiceChannels channelId user = some port ↔
    ∃ conn, Listed (seat conn) channelId user port
  addrs : ∀ port channelId user, s.voiceAddrMap port = some (channelId, user) ↔
    ∃ conn, Routed (seat conn) port channelId user
  places : ∀ first second p q, seat first = some p → seat second = some q → p.phase ≠ .leaving →
    q.phase ≠ .leaving → p.user = q.user → p.channelId = q.channelId → first = second
  ports : ∀ first second p q, seat first = some p → seat second = some q → p.port = q.port →
    first = second
  closed : ∀ conn, s.conns conn = none → seat conn = none
  sits : ∀ conn c, s.conns conn = some c → c.Sits (seat conn)

section Seating

variable {s t : VoiceState} {seat : ℕ → Option Seat} {conn : ℕ} {new : Option Seat}
  {value : Option VoiceConn} {channelId user : String} {port : UInt16}

theorem Listed.places (h : Seating s seat) {other : ℕ} {port' : UInt16}
    (hfirst : Listed (seat conn) channelId user port)
    (hsecond : Listed (seat other) channelId user port') : conn = other := by
  rcases hfirst with hfirst | hfirst <;> rcases hsecond with hsecond | hsecond <;>
    exact h.places _ _ _ _ hfirst hsecond (by simp) (by simp) rfl rfl

theorem Routed.ports (h : Seating s seat) {other : ℕ} {channelId' user' : String}
    (hfirst : Routed (seat conn) port channelId user)
    (hsecond : Routed (seat other) port channelId' user') : conn = other := by
  rcases hfirst with hfirst | hfirst <;> rcases hsecond with hsecond | hsecond <;>
    exact h.ports _ _ _ _ hfirst hsecond rfl

/-- One connection takes another seat: each map loses what its old seat showed
and gains what the new one shows. -/
theorem Seating.move (h : Seating s seat)
    (hchannels : ∀ channelId user port, t.voiceChannels channelId user = some port ↔
      Listed new channelId user port ∨
        (s.voiceChannels channelId user = some port ∧ ¬ Listed (seat conn) channelId user port))
    (haddrs : ∀ port channelId user, t.voiceAddrMap port = some (channelId, user) ↔
      Routed new port channelId user ∨
        (s.voiceAddrMap port = some (channelId, user) ∧ ¬ Routed (seat conn) port channelId user))
    (hplaces : ∀ other p q, other ≠ conn → new = some p → seat other = some q →
      p.phase ≠ .leaving → q.phase ≠ .leaving → p.user = q.user → p.channelId ≠ q.channelId)
    (hports : ∀ other p q, other ≠ conn → new = some p → seat other = some q → p.port ≠ q.port)
    (hconns : t.conns = Function.update s.conns conn value)
    (hclosed : value = none → new = none) (hsits : ∀ c, value = some c → c.Sits new) :
    Seating t (Function.update seat conn new) := by
  have hself : Function.update seat conn new conn = new := Function.update_self ..
  have hne : ∀ other, other ≠ conn → Function.update seat conn new other = seat other :=
    fun other hother => Function.update_of_ne hother ..
  constructor
  · intro channelId user port
    rw [hchannels, h.channels]
    constructor
    · rintro (hnew | ⟨⟨other, hother⟩, hold⟩)
      · exact ⟨conn, hself.symm ▸ hnew⟩
      · have hdiff : other ≠ conn := by
          rintro rfl
          exact hold hother
        exact ⟨other, (hne other hdiff).symm ▸ hother⟩
    · rintro ⟨other, hother⟩
      by_cases heq : other = conn
      · subst heq
        rw [hself] at hother
        exact .inl hother
      · rw [hne other heq] at hother
        exact .inr ⟨⟨other, hother⟩, fun hconn => heq (Listed.places h hother hconn)⟩
  · intro port channelId user
    rw [haddrs, h.addrs]
    constructor
    · rintro (hnew | ⟨⟨other, hother⟩, hold⟩)
      · exact ⟨conn, hself.symm ▸ hnew⟩
      · have hdiff : other ≠ conn := by
          rintro rfl
          exact hold hother
        exact ⟨other, (hne other hdiff).symm ▸ hother⟩
    · rintro ⟨other, hother⟩
      by_cases heq : other = conn
      · subst heq
        rw [hself] at hother
        exact .inl hother
      · rw [hne other heq] at hother
        exact .inr ⟨⟨other, hother⟩, fun hconn => heq (Routed.ports h hother hconn)⟩
  · intro first second p q hp hq hpl hql huser hchannel
    by_contra hdiff
    by_cases hfirst : first = conn
    · subst hfirst
      rw [hself] at hp
      rw [hne second (Ne.symm hdiff)] at hq
      exact hplaces second p q (Ne.symm hdiff) hp hq hpl hql huser hchannel
    · rw [hne first hfirst] at hp
      by_cases hsecond : second = conn
      · subst hsecond
        rw [hself] at hq
        exact hplaces first q p hfirst hq hp hql hpl huser.symm hchannel.symm
      · rw [hne second hsecond] at hq
        exact hdiff (h.places first second p q hp hq hpl hql huser hchannel)
  · intro first second p q hp hq hport
    by_contra hdiff
    by_cases hfirst : first = conn
    · subst hfirst
      rw [hself] at hp
      rw [hne second (Ne.symm hdiff)] at hq
      exact hports second p q (Ne.symm hdiff) hp hq hport
    · rw [hne first hfirst] at hp
      by_cases hsecond : second = conn
      · subst hsecond
        rw [hself] at hq
        exact hports first q p hfirst hq hp hport.symm
      · rw [hne second hsecond] at hq
        exact hdiff (h.ports first second p q hp hq hport)
  · intro other hother
    rw [hconns] at hother
    by_cases heq : other = conn
    · subst heq
      rw [hself]
      rw [Function.update_self] at hother
      exact hclosed hother
    · rw [hne other heq]
      rw [Function.update_of_ne heq] at hother
      exact h.closed other hother
  · intro other c hother
    rw [hconns] at hother
    by_cases heq : other = conn
    · subst heq
      rw [hself]
      rw [Function.update_self] at hother
      exact hsits c hother
    · rw [hne other heq]
      rw [Function.update_of_ne heq] at hother
      exact h.sits other c hother

/-- The maps stay and the connection keeps its seat. -/
theorem Seating.keep (h : Seating s seat) (hchannels : t.voiceChannels = s.voiceChannels)
    (haddrs : t.voiceAddrMap = s.voiceAddrMap)
    (hconns : t.conns = Function.update s.conns conn value)
    (hclosed : value = none → seat conn = none)
    (hsits : ∀ c, value = some c → c.Sits (seat conn)) : Seating t seat := by
  constructor
  · rw [hchannels]
    exact h.channels
  · rw [haddrs]
    exact h.addrs
  · exact h.places
  · exact h.ports
  · intro other hother
    rw [hconns] at hother
    by_cases heq : other = conn
    · subst heq
      rw [Function.update_self] at hother
      exact hclosed hother
    · rw [Function.update_of_ne heq] at hother
      exact h.closed other hother
  · intro other c hother
    rw [hconns] at hother
    by_cases heq : other = conn
    · subst heq
      rw [Function.update_self] at hother
      exact hsits c hother
    · rw [Function.update_of_ne heq] at hother
      exact h.sits other c hother

/-! ## What the maps tell about the seats -/

theorem Seating.listed (h : Seating s seat) (hlisted : Listed (seat conn) channelId user port) :
    s.voiceChannels channelId user = some port :=
  (h.channels channelId user port).mpr ⟨conn, hlisted⟩

theorem Seating.routed (h : Seating s seat) (hrouted : Routed (seat conn) port channelId user) :
    s.voiceAddrMap port = some (channelId, user) :=
  (h.addrs port channelId user).mpr ⟨conn, hrouted⟩

/-- A seat that is taken shows in one of the maps. -/
theorem Seating.port_taken (h : Seating s seat) {p : Seat} (hp : seat conn = some p) :
    s.voiceChannels p.channelId p.user = some p.port ∨
      s.voiceAddrMap p.port = some (p.channelId, p.user) := by
  rcases p with ⟨user, channelId, port, phase⟩
  cases phase with
  | entering => exact .inl (h.listed (.inl hp))
  | seated => exact .inl (h.listed (.inr hp))
  | leaving => exact .inr (h.routed (.inr hp))

theorem Seating.place_taken (h : Seating s seat) {p : Seat} (hp : seat conn = some p)
    (hphase : p.phase ≠ .leaving) : s.voiceChannels p.channelId p.user = some p.port := by
  rcases p with ⟨user, channelId, port, phase⟩
  cases phase with
  | entering => exact h.listed (.inl hp)
  | seated => exact h.listed (.inr hp)
  | leaving => exact absurd rfl hphase

/-- A connection that is in no channel has no seat. -/
theorem Seating.unseated (h : Seating s seat) (hconn : s.conns conn = some ⟨user, none, none⟩) :
    seat conn = none := by
  rcases h.sits conn _ hconn with ⟨-, hseat⟩ | ⟨_, _, hchannel, -⟩
  · exact hseat
  · cases hchannel

theorem Seating.seated (h : Seating s seat)
    (hconn : s.conns conn = some ⟨user, some channelId, none⟩) :
    ∃ port, seat conn = some ⟨user, channelId, port, .seated⟩ := by
  rcases h.sits conn _ hconn with ⟨hchannel, -⟩ | ⟨channel, port, hchannel, hseat⟩
  · cases hchannel
  · cases hchannel
    exact ⟨port, hseat⟩

/-! ## The handlers -/

/-- A new entry in the first map. -/
theorem Seating.enter (h : Seating s seat) (hconn : s.conns conn = some ⟨user, none, none⟩)
    (hplace : s.voiceChannels channelId user = none)
    (hport : ∀ channel other, s.voiceChannels channel other ≠ some port)
    (haddr : s.voiceAddrMap port = none) :
    Seating ((s.setParticipant channelId user (some port)).setConn conn
      (some ⟨user, none, some (.join channelId port)⟩))
      (Function.update seat conn (some ⟨user, channelId, port, .entering⟩)) := by
  have hseat : seat conn = none := h.unseated hconn
  apply h.move
  · intro channel other p
    by_cases heq : channel = channelId ∧ other = user
    · rcases heq with ⟨rfl, rfl⟩
      simp [VoiceState.setConn, VoiceState.setParticipant, Listed, hplace]
    · have hnew : ¬ (user = other ∧ channelId = channel ∧ port = p) :=
        fun hall => heq ⟨hall.2.1.symm, hall.1.symm⟩
      simp [VoiceState.setConn, VoiceState.setParticipant, Listed, hseat, heq, hnew]
  · intro p channel other
    simp [VoiceState.setConn, VoiceState.setParticipant, Routed, hseat]
  · intro other p q hother hp hq _ hphase huser hchannel
    cases hp
    have htaken := h.place_taken hq hphase
    rw [← huser, ← hchannel, hplace] at htaken
    cases htaken
  · intro other p q hother hp hq heq
    cases hp
    rcases h.port_taken hq with htaken | htaken
    · exact hport _ _ (heq ▸ htaken)
    · rw [← heq, haddr] at htaken
      cases htaken
  · rfl
  · intro hnone
    cases hnone
  · intro c hc
    cases hc
    exact .inl rfl

/-- The second update of a new entry. -/
theorem Seating.entered (h : Seating s seat)
    (hseat : seat conn = some ⟨user, channelId, port, .entering⟩) :
    Seating ((s.setAddr port (some (channelId, user))).setConn conn
      (some ⟨user, some channelId, none⟩))
      (Function.update seat conn (some ⟨user, channelId, port, .seated⟩)) := by
  have hlisted := h.listed (.inl hseat)
  apply h.move
  · intro channel other p
    simp only [VoiceState.setConn, VoiceState.setAddr, Listed, hseat]
    grind
  · intro p channel other
    by_cases heq : p = port
    · subst heq
      have hfree : ∀ entry, s.voiceAddrMap p ≠ some entry := by
        rintro ⟨channel, other⟩ hentry
        rcases (h.addrs p channel other).mp hentry with ⟨conn', hrouted⟩
        have hconn : conn' = conn := by
          rcases hrouted with hrouted | hrouted <;> exact h.ports _ _ _ _ hrouted hseat rfl
        subst hconn
        simp [Routed, hseat] at hrouted
      simp [VoiceState.setConn, VoiceState.setAddr, Routed, hfree, and_comm]
    · have hnew : ¬ (user = other ∧ channelId = channel ∧ port = p) :=
        fun hall => heq hall.2.2.symm
      simp [VoiceState.setConn, VoiceState.setAddr, Routed, hseat, heq, hnew]
  · intro other p q hother hp hq _ hphase huser hchannel
    cases hp
    exact hother (h.places _ _ _ _ hq hseat hphase (by simp) huser.symm hchannel.symm)
  · intro other p q hother hp hq heq
    cases hp
    exact hother (h.ports _ _ _ _ hq hseat heq.symm)
  · rfl
  · intro hnone
    cases hnone
  · intro c hc
    cases hc
    exact .inr ⟨channelId, port, rfl, rfl⟩

/-- A connection leaves the channel it is in. -/
theorem Seating.leave (h : Seating s seat)
    (hconn : s.conns conn = some ⟨user, some channelId, none⟩) (closing : Bool) :
    ∃ seat', Seating (s.leaveVoice conn ⟨user, some channelId, none⟩ channelId closing) seat' := by
  rcases h.seated hconn with ⟨port, hseat⟩
  have hlisted := h.listed (.inr hseat)
  refine ⟨Function.update seat conn (some ⟨user, channelId, port, .leaving⟩), ?_⟩
  apply h.move
  · intro channel other p
    by_cases heq : channel = channelId ∧ other = user
    · rcases heq with ⟨rfl, rfl⟩
      simp [VoiceState.leaveVoice, VoiceState.setConn, VoiceState.setParticipant, Listed, hlisted,
        hseat]
    · have hold : ¬ (user = other ∧ channelId = channel ∧ port = p) :=
        fun hall => heq ⟨hall.2.1.symm, hall.1.symm⟩
      simp [VoiceState.leaveVoice, VoiceState.setConn, VoiceState.setParticipant, Listed, hseat,
        heq, hold]
  · intro p channel other
    have hrouted := h.routed (.inl hseat)
    simp only [VoiceState.leaveVoice, VoiceState.setConn, VoiceState.setParticipant, Routed, hseat]
    grind
  · intro other p q hother hp hq hphase
    cases hp
    exact absurd rfl hphase
  · intro other p q hother hp hq heq
    cases hp
    exact hother (h.ports _ _ _ _ hq hseat heq.symm)
  · rfl
  · intro hnone
    cases hnone
  · intro c hc
    cases hc
    rw [hlisted]
    exact ⟨channelId, rfl⟩

/-- The second update of a leave. -/
theorem Seating.left (h : Seating s seat) {closing : Bool}
    (hseat : seat conn = some ⟨user, channelId, port, .leaving⟩) :
    Seating ((s.setAddr port none).setConn conn (if closing then none else some ⟨user, none, none⟩))
      (Function.update seat conn none) := by
  apply h.move
  · intro channel other p
    simp [VoiceState.setConn, VoiceState.setAddr, Listed, hseat]
  · intro p channel other
    by_cases heq : p = port
    · subst heq
      have hrouted := h.routed (.inr hseat)
      simp only [VoiceState.setConn, VoiceState.setAddr, Routed, hseat, hrouted]
      grind
    · have hold : ¬ (user = other ∧ channelId = channel ∧ port = p) :=
        fun hall => heq hall.2.2.symm
      simp [VoiceState.setConn, VoiceState.setAddr, Routed, hseat, heq, hold]
  · intro other p q hother hp
    cases hp
  · intro other p q hother hp
    cases hp
  · rfl
  · exact fun _ => rfl
  · intro c hc
    cases closing with
    | true => cases hc
    | false =>
        cases hc
        exact .inl ⟨rfl, rfl⟩

/-- A connection changes what it still has to do, and the maps stay as they are. -/
theorem Seating.pend (h : Seating s seat) (value : VoiceConn) (hsits : value.Sits (seat conn)) :
    Seating (s.setConn conn (some value)) seat := by
  refine h.keep rfl rfl rfl ?_ ?_
  · intro hnone
    cases hnone
  · intro c hc
    cases hc
    exact hsits

/-- Writing what is there changes nothing. -/
theorem VoiceState.setParticipant_self (s : VoiceState) (channelId user : String) :
    s.setParticipant channelId user (s.voiceChannels channelId user) = s := by
  have hmap : (fun channel other => if channel = channelId ∧ other = user
      then s.voiceChannels channelId user else s.voiceChannels channel other) =
      s.voiceChannels := by
    funext channel other
    split
    · next heq => rw [heq.1, heq.2]
    · rfl
  show { s with voiceChannels := _ } = s
  rw [hmap]

theorem VoiceState.setAddr_self (s : VoiceState) (port : UInt16) :
    s.setAddr port (s.voiceAddrMap port) = s := by
  rw [VoiceState.setAddr, Function.update_eq_self]

/-- One careful move: every connection still has a seat that shows in the maps. -/
theorem Seating.step (h : Seating s seat) (m : VoiceMove) (hm : m.Careful s) :
    ∃ seat', Seating (m.step s) seat' := by
  cases m with
  | connect conn user =>
      simp only [VoiceMove.step]
      split
      · next hconn => exact ⟨seat, h.pend _ (.inl ⟨rfl, h.closed conn hconn⟩)⟩
      · exact ⟨seat, h⟩
  | voiceJoin conn channelId udpPort =>
      simp only [VoiceMove.step]
      split
      · next user voiceChannel hconn =>
          rcases hm _ hconn rfl with ⟨hnone, hplace, hport, haddr⟩ | ⟨hchannel, hplace⟩
          · cases hnone
            exact ⟨_, h.enter hconn hplace hport haddr⟩
          · cases hchannel
            rcases h.seated hconn with ⟨port, hseat⟩
            have hsame : some port = some udpPort := (h.listed (.inr hseat)).symm.trans hplace
            cases hsame
            rw [← hplace, s.setParticipant_self]
            exact ⟨seat, h.pend _ (.inr hseat)⟩
      · exact ⟨seat, h⟩
  | voiceLeave conn channelId =>
      simp only [VoiceMove.step]
      split
      · next user voiceChannel hconn =>
          rcases hm _ hconn rfl with hchannel | ⟨hnone, hplace⟩
          · cases hchannel
            exact h.leave hconn false
          · cases hnone
            rw [VoiceState.leaveVoice, hplace, ← hplace, s.setParticipant_self, hplace]
            exact ⟨seat, h.pend _ (h.unseated hconn)⟩
      · exact ⟨seat, h⟩
  | disconnect conn =>
      simp only [VoiceMove.step]
      split
      · next user channelId hconn => exact h.leave hconn true
      · next user hconn =>
          refine ⟨seat, h.keep rfl rfl rfl (fun _ => h.unseated hconn) ?_⟩
          intro c hc
          cases hc
      · exact ⟨seat, h⟩
  | update conn =>
      simp only [VoiceMove.step]
      split
      · next user voiceChannel pending hconn =>
          have hsits := h.sits conn _ hconn
          rcases pending with ⟨channelId, port⟩ | ⟨_ | port, closing⟩
          · rcases hsits with hseat | hseat
            · exact ⟨_, h.entered hseat⟩
            · rw [VoiceState.finish, ← h.routed (.inl hseat), s.setAddr_self]
              exact ⟨seat, h.pend _ (.inr ⟨channelId, port, rfl, hseat⟩)⟩
          · refine ⟨seat, h.keep rfl rfl rfl (fun _ => hsits) ?_⟩
            intro c hc
            cases closing with
            | true => cases hc
            | false =>
                cases hc
                exact .inl ⟨rfl, hsits⟩
          · rcases hsits with ⟨channelId, hseat⟩
            exact ⟨_, h.left hseat⟩
      · exact ⟨seat, h⟩

/-! ## Between the updates -/

/-- When no handler is under way, whoever has a seat is in both maps. -/
theorem Seating.of_quiet (h : Seating s seat) (hquiet : s.Quiet) {p : Seat}
    (hp : seat conn = some p) : p.phase = .seated ∧ s.Online p.user conn := by
  cases hconn : s.conns conn with
  | none => exact absurd (h.closed conn hconn) (by simp [hp])
  | some c =>
      rcases c with ⟨user, voiceChannel, pending⟩
      cases hquiet conn _ hconn
      rcases h.sits conn _ hconn with ⟨-, hseat⟩ | ⟨channelId, port, -, hseat⟩
      · rw [hp] at hseat
        cases hseat
      · rw [hp] at hseat
        cases hseat
        exact ⟨rfl, _, hconn, rfl⟩

theorem Seating.listed_of_quiet (h : Seating s seat) (hquiet : s.Quiet)
    (hplace : s.voiceChannels channelId user = some port) :
    ∃ conn, seat conn = some ⟨user, channelId, port, .seated⟩ ∧ s.Online user conn := by
  rcases (h.channels channelId user port).mp hplace with ⟨conn, hseat | hseat⟩
  · cases (h.of_quiet hquiet hseat).1
  · exact ⟨conn, hseat, (h.of_quiet hquiet hseat).2⟩

theorem Seating.routed_of_quiet (h : Seating s seat) (hquiet : s.Quiet)
    (haddr : s.voiceAddrMap port = some (channelId, user)) :
    ∃ conn, seat conn = some ⟨user, channelId, port, .seated⟩ ∧ s.Online user conn := by
  rcases (h.addrs port channelId user).mp haddr with ⟨conn, hseat | hseat⟩
  · exact ⟨conn, hseat, (h.of_quiet hquiet hseat).2⟩
  · cases (h.of_quiet hquiet hseat).1

theorem Seating.voiceIndex (h : Seating s seat) (hquiet : s.Quiet) : VoiceIndex s := by
  constructor
  · intro port channelId user
    constructor
    · intro haddr
      rcases h.routed_of_quiet hquiet haddr with ⟨conn, hseat, -⟩
      exact h.listed (.inr hseat)
    · intro hplace
      rcases h.listed_of_quiet hquiet hplace with ⟨conn, hseat, -⟩
      exact h.routed (.inl hseat)
  · intro user
    have hseats : ∀ channelId, ∃ conn, s.voiceChannels channelId user ≠ none →
        ∃ port, seat conn = some ⟨user, channelId, port, .seated⟩ ∧ s.Online user conn := by
      intro channelId
      cases hplace : s.voiceChannels channelId user with
      | none => exact ⟨0, fun hne => absurd rfl hne⟩
      | some port =>
          rcases h.listed_of_quiet hquiet hplace with ⟨conn, hseat, honline⟩
          exact ⟨conn, fun _ => ⟨port, hseat, honline⟩⟩
    choose owner howner using hseats
    refine ⟨owner, ?_, ?_⟩
    · intro channelId hne
      rcases howner channelId hne with ⟨port, -, honline⟩
      exact honline
    · -- A connection has one seat, and a seat is in one channel.
      intro first hfirst second hsecond heq
      rcases howner first hfirst with ⟨port, hseat, -⟩
      rcases howner second hsecond with ⟨port', hseat', -⟩
      rw [← heq, hseat] at hseat'
      cases hseat'
      rfl
  · intro user hoffline
    constructor
    · intro channelId
      cases hplace : s.voiceChannels channelId user with
      | none => rfl
      | some port =>
          rcases h.listed_of_quiet hquiet hplace with ⟨conn, -, honline⟩
          exact absurd honline (hoffline conn)
    · intro port channelId haddr
      rcases h.routed_of_quiet hquiet haddr with ⟨conn, -, honline⟩
      exact hoffline conn honline

/-- The empty hub. -/
theorem Seating.empty : Seating {} fun _ => none := by
  constructor
  · intro channelId user port
    simp [Listed]
  · intro port channelId user
    simp [Routed]
  · intro first second p q hp
    cases hp
  · intro first second p q hp
    cases hp
  · exact fun _ _ => rfl
  · intro conn c hc
    cases hc

end Seating

/-! ## Runs -/

/-- In a run of careful moves the two maps are inverse to each other whenever no
handler is between its updates, and they mention nobody who has left. -/
theorem voiceIndex_of_careful (moves : List VoiceMove)
    (hmoves : Along VoiceMove.step VoiceMove.Careful moves {})
    (hquiet : (runAll VoiceMove.step moves {}).Quiet) :
    VoiceIndex (runAll VoiceMove.step moves {}) := by
  have hseating : ∃ seat, Seating (runAll VoiceMove.step moves {}) seat := by
    refine hmoves.invariant (fun s => ∃ seat, Seating s seat) ?_ ⟨_, Seating.empty⟩
    rintro m s hm ⟨seat, h⟩
    exact h.step m hm
  rcases hseating with ⟨seat, h⟩
  exact h.voiceIndex hquiet

/-- Two users talk in one channel; one of them moves on to another and hangs up. -/
def talk : List VoiceMove :=
  [.connect 0 "alice", .connect 1 "bob", .voiceJoin 0 "lobby" 5000, .voiceJoin 1 "lobby" 5001,
    .update 1, .update 0, .voiceLeave 0 "lobby", .update 0, .voiceJoin 0 "stage" 5000, .update 0,
    .disconnect 0, .update 0]

theorem talk_careful : Along VoiceMove.step VoiceMove.Careful talk {} := by
  simp [talk, Along, VoiceMove.Careful, VoiceMove.step, VoiceState.setParticipant,
    VoiceState.setConn, VoiceState.setAddr, VoiceState.leaveVoice, VoiceState.finish]
  grind

theorem talk_quiet : (runAll VoiceMove.step talk {}).Quiet := by
  intro conn c hc
  by_cases h0 : conn = 0
  · subst h0
    cases hc
  · by_cases h1 : conn = 1
    · subst h1
      cases hc
      rfl
    · simp [talk, runAll, VoiceMove.step, VoiceState.setParticipant, VoiceState.setConn,
        VoiceState.setAddr, VoiceState.leaveVoice, VoiceState.finish, h0, h1] at hc

theorem voiceIndex_talk : VoiceIndex (runAll VoiceMove.step talk {}) ∧
    (runAll VoiceMove.step talk {}).voiceAddrMap 5001 = some ("lobby", "bob") :=
  ⟨voiceIndex_of_careful talk talk_careful talk_quiet, by decide +kernel⟩

/-- A user moves on without leaving the first channel, and hangs up. -/
def channelSwitch : List VoiceMove :=
  [.connect 0 "alice", .voiceJoin 0 "lobby" 5000, .update 0, .voiceJoin 0 "stage" 5001, .update 0,
    .disconnect 0, .update 0]

theorem channelSwitch_conns (conn : ℕ) :
    (runAll VoiceMove.step channelSwitch {}).conns conn = none := by
  simp [channelSwitch, runAll, VoiceMove.step, VoiceState.setParticipant, VoiceState.setConn,
    VoiceState.setAddr, VoiceState.leaveVoice, VoiceState.finish]

/-- The first channel still lists the user, and the relay still sends to the port. -/
theorem channelSwitch_not_voiceIndex : ¬ ∀ moves : List VoiceMove,
    (runAll VoiceMove.step moves {}).Quiet → VoiceIndex (runAll VoiceMove.step moves {}) := by
  intro h
  have hquiet : (runAll VoiceMove.step channelSwitch {}).Quiet := by
    intro conn c hc
    rw [channelSwitch_conns] at hc
    cases hc
  have hoffline : ∀ conn, ¬ (runAll VoiceMove.step channelSwitch {}).Online "alice" conn := by
    rintro conn ⟨c, hc, -⟩
    rw [channelSwitch_conns] at hc
    cases hc
  have hlisted : (runAll VoiceMove.step channelSwitch {}).voiceChannels "lobby" "alice" =
      some 5000 := by decide +kernel
  have hcleaned := ((h channelSwitch hquiet).cleaned "alice" hoffline).1 "lobby"
  rw [hlisted] at hcleaned
  cases hcleaned

end Voxply.Hub
