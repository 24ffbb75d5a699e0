import Hdc.ServerMaps

/- The bookkeeping of `TcpMap` (`hdc/src/server.rs`) as its operations leave it, whoever calls them.

   `TcpMapInner` is the `TcpMap` of the server with the marks that keep a channel open after its
   command. Each operation that ends a channel or a session clears some of the maps:

     `end_channel`              the writer and the mark, not the session of the channel
     `take_channel_writer`      the writer and the session, not the mark
     `close_session_channels`   the same, for each channel of the session
     `end_session`              the writer, not the cipher

   So an id is gone exactly if the maps an operation passes over did not have it before
   (`CleanEnd`). What is gone stays gone until an operation registers the id
   (`ChannelGone.reaches`). -/
namespace Hdc
open Rust Lts

/-- With the channels marked keep-alive. -/
structure TcpMapInner extends TcpMap where
  keepAliveChannels : UInt32 → Bool

namespace TcpMapInner

def new : TcpMapInner := ⟨.new, fun _ => false⟩

def startSession (m : TcpMapInner) (id : UInt32) (wr : Nat) : TcpMapInner :=
  { m with toTcpMap := m.toTcpMap.startSession id wr }

def startChannel (m : TcpMapInner) (id : UInt32) : TcpMapInner :=
  { m with toTcpMap := m.toTcpMap.startChannel id }

def endSession (m : TcpMapInner) (id : UInt32) : TcpMapInner :=
  { m with toTcpMap := m.toTcpMap.endSession id }

def endChannel (m : TcpMapInner) (id : UInt32) : TcpMapInner where
  toTcpMap := m.toTcpMap.endChannel id
  keepAliveChannels := Function.update m.keepAliveChannels id false

def setKeepAlive (m : TcpMapInner) (channelId : UInt32) : TcpMapInner :=
  { m with keepAliveChannels := Function.update m.keepAliveChannels channelId true }

def isKeepAlive (m : TcpMapInner) (channelId : UInt32) : Bool :=
  m.keepAliveChannels channelId

def setSessionCipher (m : TcpMapInner) (sessionId : UInt32) (cipher : Nat) : TcpMapInner :=
  { m with toTcpMap := m.toTcpMap.setSessionCipher sessionId cipher }

def takeChannelWriter (m : TcpMapInner) (channelId : UInt32) : TcpMapInner :=
  { m with toTcpMap := m.toTcpMap.takeChannelWriter channelId }

def associateChannelWithSession (m : TcpMapInner) (channelId sessionId : UInt32) : TcpMapInner :=
  { m with toTcpMap := m.toTcpMap.associateChannelWithSession channelId sessionId }

def closeSessionChannels (m : TcpMapInner) (sessionId : UInt32) : TcpMapInner :=
  { m with toTcpMap := m.toTcpMap.closeSessionChannels sessionId }

end TcpMapInner

/-! The operations as steps. -/

inductive TcpOp where
  | startSession (id : UInt32) (wr : Nat)
  | startChannel (id : UInt32)
  | endSession (id : UInt32)
  | endChannel (id : UInt32)
  | setKeepAlive (channelId : UInt32)
  | setSessionCipher (sessionId : UInt32) (cipher : Nat)
  | takeChannelWriter (channelId : UInt32)
  | associateChannelWithSession (channelId sessionId : UInt32)
  | closeSessionChannels (sessionId : UInt32)
  /-- `is_keep_alive`, `get_session_cipher` and the two sends, which leave the maps alone. -/
  | look
  deriving DecidableEq, Repr

def TcpMapInner.apply (m : TcpMapInner) : TcpOp → TcpMapInner
  | .startSession id wr => m.startSession id wr
  | .startChannel id => m.startChannel id
  | .endSession id => m.endSession id
  | .endChannel id => m.endChannel id
  | .setKeepAlive channelId => m.setKeepAlive channelId
  | .setSessionCipher sessionId cipher => m.setSessionCipher sessionId cipher
  | .takeChannelWriter channelId => m.takeChannelWriter channelId
  | .associateChannelWithSession channelId sessionId =>
    m.associateChannelWithSession channelId sessionId
  | .closeSessionChannels sessionId => m.closeSessionChannels sessionId
  | .look => m

def tcpStep (m : TcpMapInner) (op : TcpOp) : Option TcpMapInner := some (m.apply op)

/-- The operation puts the channel in one of the maps. -/
def TcpOp.registersChannel (c : UInt32) : TcpOp → Bool
  | .startChannel id => id == c
  | .setKeepAlive channelId => channelId == c
  | .associateChannelWithSession channelId _ => channelId == c
  | _ => false

def TcpOp.registersSession (s : UInt32) : TcpOp → Bool
  | .startSession id _ => id == s
  | .setSessionCipher sessionId _ => sessionId == s
  | _ => false

/-- The operation ends the channel. -/
def TcpOp.EndsChannel (m : TcpMapInner) (c : UInt32) : TcpOp → Prop
  | .endChannel id => id = c
  | .takeChannelWriter channelId => channelId = c
  | .closeSessionChannels sessionId => m.channelSessions c = some sessionId
  | _ => False

def TcpMapInner.ChannelGone (m : TcpMapInner) (c : UInt32) : Prop :=
  m.channelWriters c = false ∧ m.channelSessions c = none ∧ m.keepAliveChannels c = false

def TcpMapInner.SessionGone (m : TcpMapInner) (s : UInt32) : Prop :=
  m.sessionWriters s = none ∧ m.sessionCiphers s = none

/-- What the operation ends is in none of the maps, until it is registered again. -/
structure BookkeepingEnds (m : TcpMapInner) (op : TcpOp) : Prop where
  channel : ∀ c, op.EndsChannel m c → ∀ m',
    Reaches tcpStep (fun _ o => o.registersChannel c = false) (m.apply op) m' → m'.ChannelGone c
  session : ∀ s, op = .endSession s → ∀ m',
    Reaches tcpStep (fun _ o => o.registersSession s = false) (m.apply op) m' → m'.SessionGone s

/-- The maps an operation passes over do not have what it ends. -/
def CleanEnd (m : TcpMapInner) : TcpOp → Prop
  | .endChannel c => m.channelSessions c = none
  | .takeChannelWriter c => m.keepAliveChannels c = false
  | .closeSessionChannels s => ∀ c, m.channelSessions c = some s → m.keepAliveChannels c = false
  | .endSession s => m.sessionCiphers s = none
  | _ => True

/-! What one operation does to an id it does not register, and what a run of them does. -/

theorem TcpMapInner.ChannelGone.apply {m : TcpMapInner} {c : UInt32} {op : TcpOp}
    (h : m.ChannelGone c) (hop : op.registersChannel c = false) : (m.apply op).ChannelGone c := by
  obtain ⟨hwriter, hsession, hmark⟩ := h
  unfold TcpMapInner.apply
  cases op with
  | startChannel id =>
    have hne : c ≠ id := fun heq => by simp [TcpOp.registersChannel, heq] at hop
    refine ⟨?_, hsession, hmark⟩
    simpa [startChannel, TcpMap.startChannel, Function.update_apply, hne] using hwriter
  | setKeepAlive id =>
    have hne : c ≠ id := fun heq => by simp [TcpOp.registersChannel, heq] at hop
    refine ⟨hwriter, hsession, ?_⟩
    simpa [setKeepAlive, Function.update_apply, hne] using hmark
  | associateChannelWithSession id s =>
    have hne : c ≠ id := fun heq => by simp [TcpOp.registersChannel, heq] at hop
    refine ⟨hwriter, ?_, hmark⟩
    simpa [associateChannelWithSession, TcpMap.associateChannelWithSession, Function.update_apply,
      hne] using hsession
  -- the operations that end channels clear entries
  | endChannel id =>
    refine ⟨?_, hsession, ?_⟩
    · simp [endChannel, TcpMap.endChannel, Function.update_apply, hwriter]
    · simp [endChannel, Function.update_apply, hmark]
  | takeChannelWriter id =>
    refine ⟨?_, ?_, hmark⟩
    · simp [takeChannelWriter, TcpMap.takeChannelWriter, Function.update_apply, hwriter]
    · simp [takeChannelWriter, TcpMap.takeChannelWriter, Function.update_apply, hsession]
  | closeSessionChannels s =>
    refine ⟨?_, ?_, hmark⟩
    · simp [closeSessionChannels, TcpMap.closeSessionChannels, hwriter]
    · simp [closeSessionChannels, TcpMap.closeSessionChannels, hsession]
  | startSession id wr => exact ⟨hwriter, hsession, hmark⟩
  | endSession id => exact ⟨hwriter, hsession, hmark⟩
  | setSessionCipher id cipher => exact ⟨hwriter, hsession, hmark⟩
  | look => exact ⟨hwriter, hsession, hmark⟩

theorem TcpMapInner.SessionGone.apply {m : TcpMapInner} {s : UInt32} {op : TcpOp}
    (h : m.SessionGone s) (hop : op.registersSession s = false) : (m.apply op).SessionGone s := by
  obtain ⟨hwriter, hcipher⟩ := h
  unfold TcpMapInner.apply
  cases op with
  | startSession id wr =>
    have hne : s ≠ id := fun heq => by simp [TcpOp.registersSession, heq] at hop
    refine ⟨?_, hcipher⟩
    simpa [startSession, TcpMap.startSession, Function.update_apply, hne] using hwriter
  | setSessionCipher id cipher =>
    have hne : s ≠ id := fun heq => by simp [TcpOp.registersSession, heq] at hop
    refine ⟨hwriter, ?_⟩
    simpa [setSessionCipher, TcpMap.setSessionCipher, Function.update_apply, hne] using hcipher
  | endSession id =>
    refine ⟨?_, hcipher⟩
    simp [endSession, TcpMap.endSession, Function.update_apply, hwriter]
  | startChannel id => exact ⟨hwriter, hcipher⟩
  | endChannel id => exact ⟨hwriter, hcipher⟩
  | setKeepAlive id => exact ⟨hwriter, hcipher⟩
  | takeChannelWriter id => exact ⟨hwriter, hcipher⟩
  | associateChannelWithSession id s => exact ⟨hwriter, hcipher⟩
  | closeSessionChannels s => exact ⟨hwriter, hcipher⟩
  | look => exact ⟨hwriter, hcipher⟩

theorem TcpMapInner.ChannelGone.reaches {m m' : TcpMapInner} {c : UInt32} (h : m.ChannelGone c)
    (hrun : Reaches tcpStep (fun _ o => o.registersChannel c = false) m m') : m'.ChannelGone c := by
  have hstep : ∀ {t op t'}, TcpMapInner.ChannelGone t c → TcpOp.registersChannel c op = false →
      tcpStep t op = some t' → t'.ChannelGone c := by
    rintro t op _ ht hop ⟨⟩
    exact ht.apply hop
  exact hrun.invariant hstep h

theorem TcpMapInner.SessionGone.reaches {m m' : TcpMapInner} {s : UInt32} (h : m.SessionGone s)
    (hrun : Reaches tcpStep (fun _ o => o.registersSession s = false) m m') : m'.SessionGone s := by
  have hstep : ∀ {t op t'}, TcpMapInner.SessionGone t s → TcpOp.registersSession s op = false →
      tcpStep t op = some t' → t'.SessionGone s := by
    rintro t op _ ht hop ⟨⟩
    exact ht.apply hop
  exact hrun.invariant hstep h

/-! What an operation that ends an id leaves of it. -/

theorem channelGone_endChannel {m : TcpMapInner} {c : UInt32} :
    (m.apply (.endChannel c)).ChannelGone c ↔ m.channelSessions c = none := by
  show (m.endChannel c).ChannelGone c ↔ _
  simp [TcpMapInner.ChannelGone, TcpMapInner.endChannel, TcpMap.endChannel]

theorem channelGone_takeChannelWriter {m : TcpMapInner} {c : UInt32} :
    (m.apply (.takeChannelWriter c)).ChannelGone c ↔ m.keepAliveChannels c = false := by
  show (m.takeChannelWriter c).ChannelGone c ↔ _
  simp [TcpMapInner.ChannelGone, TcpMapInner.takeChannelWriter, TcpMap.takeChannelWriter]

theorem channelGone_closeSessionChannels {m : TcpMapInner} {c s : UInt32}
    (h : m.channelSessions c = some s) :
    (m.apply (.closeSessionChannels s)).ChannelGone c ↔ m.keepAliveChannels c = false := by
  show (m.closeSessionChannels s).ChannelGone c ↔ _
  simp [TcpMapInner.ChannelGone, TcpMapInner.closeSessionChannels,
    TcpMap.closeSessionChannels, h]

theorem sessionGone_endSession {m : TcpMapInner} {s : UInt32} :
    (m.apply (.endSession s)).SessionGone s ↔ m.sessionCiphers s = none := by
  show (m.endSession s).SessionGone s ↔ _
  simp [TcpMapInner.SessionGone, TcpMapInner.endSession, TcpMap.endSession]

theorem cleanEnd_iff_gone {m : TcpMapInner} {op : TcpOp} :
    CleanEnd m op ↔ (∀ c, op.EndsChannel m c → (m.apply op).ChannelGone c) ∧
      ∀ s, op = .endSession s → (m.apply op).SessionGone s := by
  cases op with
  | endChannel c =>
    simp only [CleanEnd, TcpOp.EndsChannel, forall_eq', channelGone_endChannel, reduceCtorEq,
      false_imp_iff, implies_true, and_true]
  | takeChannelWriter c =>
    simp only [CleanEnd, TcpOp.EndsChannel, forall_eq', channelGone_takeChannelWriter, reduceCtorEq,
      false_imp_iff, implies_true, and_true]
  | closeSessionChannels s =>
    simp only [CleanEnd, TcpOp.EndsChannel, reduceCtorEq, false_imp_iff, implies_true, and_true]
    exact forall₂_congr fun c h => (channelGone_closeSessionChannels h).symm
  | endSession s =>
    simp only [CleanEnd, TcpOp.EndsChannel, false_imp_iff, implies_true, true_and,
      TcpOp.endSession.injEq, forall_eq', sessionGone_endSession]
  | startSession id wr => simp [CleanEnd, TcpOp.EndsChannel]
  | startChannel id => simp [CleanEnd, TcpOp.EndsChannel]
  | setKeepAlive id => simp [CleanEnd, TcpOp.EndsChannel]
  | setSessionCipher id cipher => simp [CleanEnd, TcpOp.EndsChannel]
  | associateChannelWithSession c s => simp [CleanEnd, TcpOp.EndsChannel]
  | look => simp [CleanEnd, TcpOp.EndsChannel]

/-- In every state, reachable or not, what an operation ends is gone from all the maps, and stays so
until it is registered again, exactly if the maps that the operation passes over did not have it. -/
theorem bookkeeping_ends_iff (m : TcpMapInner) (op : TcpOp) :
    BookkeepingEnds m op ↔ CleanEnd m op := by
  rw [cleanEnd_iff_gone]
  constructor
  · intro h
    exact ⟨fun c hends => h.channel c hends _ .refl, fun s hends => h.session s hends _ .refl⟩
  · rintro ⟨hchannel, hsession⟩
    exact ⟨fun c hends m' hrun => (hchannel c hends).reaches hrun,
      fun s hends m' hrun => (hsession s hends).reaches hrun⟩

/-- Channel 1 of session 5, with a mark; session 6 with a cipher. -/
def busyTcpMap : TcpMapInner :=
  [TcpOp.startChannel 1, .associateChannelWithSession 1 5, .setKeepAlive 1, .startSession 6 0,
    .setSessionCipher 6 0].foldl TcpMapInner.apply .new

theorem busyTcpMap_reachable : Reaches tcpStep anyStep .new busyTcpMap :=
  Reaches.refl
    |>.tail (a := .startChannel 1) trivial rfl
    |>.tail (a := .associateChannelWithSession 1 5) trivial rfl
    |>.tail (a := .setKeepAlive 1) trivial rfl
    |>.tail (a := .startSession 6 0) trivial rfl
    |>.tail (a := .setSessionCipher 6 0) trivial rfl

/-- Each of the four operations leaves something behind in a reachable state. After `end_channel`,
a client that comes to have the id is closed when the session of the old one ends. -/
theorem bookkeeping_outlives :
    Reaches tcpStep anyStep .new busyTcpMap ∧
      ¬ BookkeepingEnds busyTcpMap (.endChannel 1) ∧
      ¬ BookkeepingEnds busyTcpMap (.takeChannelWriter 1) ∧
      ¬ BookkeepingEnds busyTcpMap (.closeSessionChannels 5) ∧
      ¬ BookkeepingEnds busyTcpMap (.endSession 6) ∧
      ([TcpOp.endChannel 1, .startChannel 1, .closeSessionChannels 5].foldl TcpMapInner.apply
        busyTcpMap).channelWriters 1 = false := by
  refine ⟨busyTcpMap_reachable, fun h => ?_, fun h => ?_, fun h => ?_, fun h => ?_, by decide⟩
  · exact absurd (h.channel 1 rfl _ .refl).2.1 (by decide)
  · exact absurd (h.channel 1 rfl _ .refl).2.2 (by decide)
  · exact absurd (h.channel 1 (by rfl) _ .refl).2.2 (by decide)
  · exact absurd (h.session 6 rfl _ .refl).2 (by decide)

end Hdc
