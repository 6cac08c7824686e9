import OpenDnp3.Link.OutstandingFrames

/-!
# Stations

What an event means to each of the two stations of a link: how a station goes
on, which frames it hands to the transmitter that both share, and which
messages it passes up.
-/

set_option autoImplicit false

namespace OpenDnp3.Link

open OpenDnp3.Library OpenDnp3.Transport
open OpenDnp3.Master (MonotonicTimestamp TimeDuration)

/-! ## Emissions -/

def LinkActivity.begun : LinkActivity → Option LinkFrame
  | .beginTransmit frame => some frame
  | _ => none

def LinkActivity.passed : LinkActivity → Option Message
  | .receive message => some message
  | _ => none

/-- The frames whose transmission has begun. -/
def LinkActivity.allBegun (log : List LinkActivity) : List LinkFrame := log.filterMap begun

/-- The messages that have been passed up. -/
def LinkActivity.allPassed (log : List LinkActivity) : List Message := log.filterMap passed

def LinkActivity.completes : LinkActivity → Bool
  | .postTxReady => true
  | _ => false

/-- How many messages have been completed. -/
def LinkActivity.completions (log : List LinkActivity) : Nat := log.countP completes

/-- A connection is opened or closed. -/
def LinkActivity.connects : LinkActivity → Bool
  | .lowerLayerUp | .lowerLayerDown => true
  | _ => false

theorem Slots.pendingSec_none {mode : LinkTransmitMode} {inFlight : List LinkFrame}
    {pendingPri pendingSec pri : Option LinkFrame}
    (slots : Slots mode inFlight pendingPri pendingSec pri none) : pendingSec = none := by
  cases slots <;> rfl

theorem Slots.pendingPri_eq {mode : LinkTransmitMode} {inFlight : List LinkFrame}
    {pendingPri pendingSec pri sec : Option LinkFrame} {frame : LinkFrame}
    (slots : Slots mode inFlight pendingPri pendingSec pri sec)
    (waits : pendingPri = some frame) : pri = some frame := by
  cases slots with
  | free | primary => cases waits
  | secondary => exact waits

theorem Slots.pendingSec_eq {mode : LinkTransmitMode} {inFlight : List LinkFrame}
    {pendingPri pendingSec pri sec : Option LinkFrame} {frame : LinkFrame}
    (slots : Slots mode inFlight pendingPri pendingSec pri sec)
    (waits : pendingSec = some frame) : sec = some frame := by
  cases slots with
  | free | secondary => cases waits
  | primary => exact waits

def LinkInput.sends : LinkInput → Bool
  | .send _ => true
  | _ => false

/-- The frame that is received. -/
def LinkInput.received : LinkInput → Option LinkFrame
  | .frame _ header userData => some ⟨header, userData⟩
  | _ => none

namespace LinkContext

/-- How many messages are held. -/
def holds (context : LinkContext) : Nat := context.segments.toList.length

/-- The frames that the stations hand to the transmitter, where they may have to wait, and the
messages that are passed up. A message that is not held any more has been completed. -/
def Emits (before : LinkContext) (requests answers : List LinkFrame) (passed : List Message)
    (after : LinkContext) : Prop :=
  after.config = before.config ∧ after.isOnline = before.isOnline ∧
    ∃ activities, after.log = before.log ++ activities ∧
    (LinkActivity.allBegun activities).filter (·.header.func.isPrimary) ++
      after.pendingPriTx.toList = before.pendingPriTx.toList ++ requests ∧
    (LinkActivity.allBegun activities).filter (!·.header.func.isPrimary) ++
      after.pendingSecTx.toList = before.pendingSecTx.toList ++ answers ∧
    LinkActivity.allPassed activities = passed ∧
    LinkActivity.completions activities + after.holds = before.holds ∧
    activities.any LinkActivity.connects = false

theorem holds_of_aside {before after : LinkContext} {activity : LinkActivity}
    (kept : (activity.completes || activity.connects) = false)
    (held : after.holds = before.holds) :
    LinkActivity.completions [activity] + after.holds = before.holds ∧
      [activity].any LinkActivity.connects = false := by
  obtain ⟨completes, connects⟩ := Bool.or_eq_false_iff.mp kept
  simp [LinkActivity.completions, completes, connects, held]

theorem emits_of_same {before after : LinkContext} (config : after.config = before.config)
    (online : after.isOnline = before.isOnline) (log : after.log = before.log)
    (pri : after.pendingPriTx = before.pendingPriTx)
    (sec : after.pendingSecTx = before.pendingSecTx) (held : after.holds = before.holds) :
    Emits before [] [] [] after := by
  refine ⟨config, online, [], by simp [log], ?_, ?_, rfl, ?_, rfl⟩
  · simp [LinkActivity.allBegun, pri]
  · simp [LinkActivity.allBegun, sec]
  · simp [LinkActivity.completions, held]

theorem Emits.refl (context : LinkContext) : Emits context [] [] [] context :=
  emits_of_same rfl rfl rfl rfl rfl rfl

theorem Emits.trans {before middle after : LinkContext}
    {requests answers others more : List LinkFrame} {passed next : List Message}
    (first : Emits before requests answers passed middle)
    (second : Emits middle others more next after) :
    Emits before (requests ++ others) (answers ++ more) (passed ++ next) after := by
  obtain ⟨config, online, activities, log, pri, sec, rfl, held, connected⟩ := first
  obtain ⟨sameConfig, still, later, continued, pending, waiting, rfl, holds, connects⟩ := second
  refine ⟨sameConfig.trans config, still.trans online, activities ++ later, ?_, ?_, ?_, ?_, ?_, ?_⟩
  · rw [continued, log, List.append_assoc]
  · rw [← List.append_assoc, ← pri, List.append_assoc, ← pending, LinkActivity.allBegun,
      List.filterMap_append, List.filter_append, List.append_assoc]
    rfl
  · rw [← List.append_assoc, ← sec, List.append_assoc, ← waiting, LinkActivity.allBegun,
      List.filterMap_append, List.filter_append, List.append_assoc]
    rfl
  · exact List.filterMap_append
  · simp only [LinkActivity.completions, List.countP_append] at held holds ⊢
    omega
  · rw [List.any_append, connected, connects, Bool.or_false]

/-- What goes before and after what the stations hand over. -/
theorem Emits.then {before middle after : LinkContext} {requests answers : List LinkFrame}
    {passed : List Message} (first : Emits before requests answers passed middle)
    (second : Emits middle [] [] [] after) : Emits before requests answers passed after := by
  simpa using first.trans second

theorem Emits.behind {before middle after : LinkContext} {requests answers : List LinkFrame}
    {passed : List Message} (first : Emits before [] [] [] middle)
    (second : Emits middle requests answers passed after) :
    Emits before requests answers passed after := by
  simpa using first.trans second

theorem emits_setPriState (context : LinkContext) (state : PriState) :
    Emits context [] [] [] (context.setPriState state) :=
  emits_of_same rfl rfl rfl rfl rfl rfl

theorem emits_record (context : LinkContext) {activity : LinkActivity}
    (begun : activity.begun = none) (passed : activity.passed = none)
    (kept : (activity.completes || activity.connects) = false) :
    Emits context [] [] [] (context.record activity) := by
  refine ⟨rfl, rfl, [activity], rfl, ?_, ?_, ?_, holds_of_aside kept rfl⟩
  · simp [LinkActivity.allBegun, begun, record]
  · simp [LinkActivity.allBegun, begun, record]
  · simp [LinkActivity.allPassed, passed]

theorem emits_completeSendOperation {context : LinkContext} {segments : TransportTx}
    (held : context.segments = some segments) :
    Emits context [] [] [] context.completeSendOperation := by
  refine ⟨rfl, rfl, [.postTxReady], rfl, ?_, ?_, rfl, ?_, rfl⟩
  · simp [LinkActivity.allBegun, LinkActivity.begun, completeSendOperation, record]
  · simp [LinkActivity.allBegun, LinkActivity.begun, completeSendOperation, record]
  · simp [LinkActivity.completions, LinkActivity.completes, holds, completeSendOperation, record,
      held]

theorem emits_pushDataUp (context : LinkContext) (message : Message) :
    Emits context [] [] [message] (context.pushDataUp message) := by
  refine ⟨rfl, rfl, [.receive message], rfl, ?_, ?_, rfl, ?_⟩
  · simp [LinkActivity.allBegun, LinkActivity.begun, pushDataUp, record]
  · simp [LinkActivity.allBegun, LinkActivity.begun, pushDataUp, record]
  · exact holds_of_aside rfl rfl

/-- A frame waits when another is being transmitted. -/
theorem emits_transmitPrimary {context : LinkContext} {frame : LinkFrame}
    (free : context.pendingPriTx = none) (primary : frame.header.func.isPrimary = true) :
    Emits context [frame] [] [] (context.transmitPrimary frame) := by
  have written : Emits context [] [] [] (context.writePrimary frame) := by
    rw [writePrimary]
    split
    · exact Emits.behind (emits_of_same rfl rfl rfl rfl rfl rfl) (emits_record _ rfl rfl rfl)
    · exact emits_of_same rfl rfl rfl rfl rfl rfl
  have same : (context.writePrimary frame).pendingPriTx = none := by
    rw [writePrimary]
    split <;> exact free
  refine written.behind ?_
  rw [transmitPrimary, queueTransmit]
  split
  · refine ⟨rfl, rfl, [.beginTransmit frame], rfl, ?_, ?_, rfl, holds_of_aside rfl rfl⟩ <;>
      simp [LinkActivity.allBegun, LinkActivity.begun, record, same, primary]
  · refine ⟨rfl, rfl, [], by simp, ?_, ?_, rfl, Nat.zero_add _, rfl⟩ <;>
      simp [LinkActivity.allBegun, same]

theorem emits_transmitSecondary {context : LinkContext} {frame : LinkFrame}
    (free : context.pendingSecTx = none) (secondary : frame.header.func.isPrimary = false) :
    Emits context [] [frame] [] (context.transmitSecondary frame) := by
  have written : Emits context [] [] [] (context.writeSecondary frame) := by
    rw [writeSecondary]
    split
    · exact Emits.behind (emits_of_same rfl rfl rfl rfl rfl rfl) (emits_record _ rfl rfl rfl)
    · exact emits_of_same rfl rfl rfl rfl rfl rfl
  have same : (context.writeSecondary frame).pendingSecTx = none := by
    rw [writeSecondary]
    split <;> exact free
  refine written.behind ?_
  rw [transmitSecondary, queueTransmit]
  split
  · refine ⟨rfl, rfl, [.beginTransmit frame], rfl, ?_, ?_, rfl, holds_of_aside rfl rfl⟩ <;>
      simp [LinkActivity.allBegun, LinkActivity.begun, record, same, secondary]
  · refine ⟨rfl, rfl, [], by simp, ?_, ?_, rfl, Nat.zero_add _, rfl⟩ <;>
      simp [LinkActivity.allBegun, same]

/-- What waits has been handed over before. -/
theorem emits_tryPendingSecTx {context : LinkContext}
    (secondary : ∀ frame, context.pendingSecTx = some frame →
      frame.header.func.isPrimary = false) : Emits context [] [] [] context.tryPendingSecTx := by
  unfold tryPendingSecTx
  split
  · next frame _ waits =>
      refine ⟨rfl, rfl, [.beginTransmit frame], rfl, ?_, ?_, rfl, holds_of_aside rfl rfl⟩ <;>
        simp [LinkActivity.allBegun, LinkActivity.begun, record, waits, secondary frame waits]
  · exact .refl context

theorem emits_tryPendingPriTx {context : LinkContext}
    (primary : ∀ frame, context.pendingPriTx = some frame → frame.header.func.isPrimary = true) :
    Emits context [] [] [] context.tryPendingPriTx := by
  unfold tryPendingPriTx
  split
  · next frame _ waits =>
      refine ⟨rfl, rfl, [.beginTransmit frame], rfl, ?_, ?_, rfl, holds_of_aside rfl rfl⟩ <;>
        simp [LinkActivity.allBegun, LinkActivity.begun, record, waits, primary frame waits]
  · exact .refl context

end LinkContext

/-! ## Primary station -/

/-- What a primary station goes by. -/
structure PrimaryStation where
  state : PriState
  segments : Option TransportTx
  isRemoteReset : Bool
  writeFCB : Bool
deriving DecidableEq

def LinkContext.primaryStation (context : LinkContext) : PrimaryStation :=
  ⟨context.priState, context.segments, context.isRemoteReset, context.nextWriteFCB⟩

/-- What a primary station is told: an answer of the other end, or that there was none. -/
inductive Stimulus where
  | answer (func : LinkFunction)
  | timeout (retries : UInt32)
  | other
deriving DecidableEq

/-- An answer that data do not ask for, or the last timeout. -/
def Stimulus.fails : Stimulus → Bool
  | .answer func => func = .secNack || func = .secLinkStatus || func = .secNotSupported
  | .timeout retries => retries = 0
  | .other => false

/-- The state in which an answer to the frame that is transmitted is awaited. -/
def PriState.waits : PriState → Option PriState
  | .linkResetTransmitWait => some .resetLinkWait
  | .confUserDataTransmitWait => some .confDataWait
  | .requestLinkStatusTransmitWait => some .requestLinkStatusWait
  | _ => none

namespace PrimaryStation

/-- The current segment, as it is sent to be confirmed. -/
def dataFrame (config : LinkLayerConfig) (fcb : Bool) (segments : TransportTx) : LinkFrame :=
  .formatConfirmedUserData config.isMaster fcb segments.message.addresses.destination
    segments.message.addresses.source segments.getSegment.2

/-- The current segment, as it is sent without confirmation. -/
def unconfirmedFrame (config : LinkLayerConfig) (segments : TransportTx) : LinkFrame :=
  .formatUnconfirmedUserData config.isMaster segments.message.addresses.destination
    segments.message.addresses.source segments.getSegment.2

/-- How a primary station goes on when it is told something, and what it sends. -/
inductive Reacts (config : LinkLayerConfig) :
    Stimulus → PrimaryStation → List LinkFrame → PrimaryStation → Prop
  | same {stimulus : Stimulus} {station : PrimaryStation}
      (quiet : stimulus = .answer .secAck → station.state ≠ .confDataWait) :
      Reacts config stimulus station [] station
  | take {station : PrimaryStation} {segments : TransportTx} (free : station.segments = none) :
      Reacts config .other station [] { station with segments := some segments }
  | transmitted {station : PrimaryStation} {state : PriState}
      (waits : station.state.waits = some state) :
      Reacts config .other station [] { station with state }
  | unconfirmedMore {station : PrimaryStation} {segments : TransportTx}
      (state : station.state = .sendUnconfirmedTransmitWait)
      (held : station.segments = some segments) (more : segments.advance.2 = true) :
      Reacts config .other station [unconfirmedFrame config segments.advance.1]
        { station with segments := some segments.advance.1.getSegment.1 }
  | unconfirmedLast {station : PrimaryStation} {segments : TransportTx}
      (state : station.state = .sendUnconfirmedTransmitWait)
      (held : station.segments = some segments) (last : segments.advance.2 = false) :
      Reacts config .other station [] { station with state := .idle, segments := none }
  | resetAcknowledged {station : PrimaryStation} {segments : TransportTx}
      (state : station.state = .resetLinkWait) (held : station.segments = some segments) :
      Reacts config (.answer .secAck) station [dataFrame config true segments]
        ⟨.confUserDataTransmitWait, some segments.getSegment.1, true, true⟩
  | dataAcknowledgedMore {station : PrimaryStation} {segments : TransportTx}
      (state : station.state = .confDataWait) (held : station.segments = some segments)
      (more : segments.advance.2 = true) :
      Reacts config (.answer .secAck) station
        [dataFrame config (!station.writeFCB) segments.advance.1]
        ⟨.confUserDataTransmitWait, some segments.advance.1.getSegment.1, station.isRemoteReset,
          !station.writeFCB⟩
  | dataAcknowledgedLast {station : PrimaryStation} {segments : TransportTx}
      (state : station.state = .confDataWait) (held : station.segments = some segments)
      (last : segments.advance.2 = false) :
      Reacts config (.answer .secAck) station []
        ⟨.idle, none, station.isRemoteReset, !station.writeFCB⟩
  | resetFailed {stimulus : Stimulus} {station : PrimaryStation}
      (state : station.state = .resetLinkWait) (fails : stimulus.fails = true) :
      Reacts config stimulus station [] { station with state := .idle, segments := none }
  | dataFailed {stimulus : Stimulus} {station : PrimaryStation}
      (state : station.state = .confDataWait) (fails : stimulus.fails = true) :
      Reacts config stimulus station [] { station with state := .idle, segments := none }
  | dataRefused {station : PrimaryStation} {frame : LinkFrame}
      (state : station.state = .confDataWait) (func : frame.header.func = .priResetLinkStates) :
      Reacts config (.answer .secNack) station [frame]
        { station with state := .linkResetTransmitWait }
  | resetRepeated {station : PrimaryStation} {retries : UInt32} {frame : LinkFrame}
      (state : station.state = .resetLinkWait) (func : frame.header.func = .priResetLinkStates) :
      Reacts config (.timeout retries) station [frame]
        { station with state := .linkResetTransmitWait }
  | dataRepeated {station : PrimaryStation} {retries : UInt32} {segments : TransportTx}
      (state : station.state = .confDataWait) (held : station.segments = some segments) :
      Reacts config (.timeout retries) station [dataFrame config station.writeFCB segments]
        { station with
          state := .confUserDataTransmitWait, segments := some segments.getSegment.1 }
  | statusDone {stimulus : Stimulus} {station : PrimaryStation}
      (state : station.state = .requestLinkStatusWait) (told : stimulus ≠ .other) :
      Reacts config stimulus station [] { station with state := .idle }

/-- What a primary station starts when it is idle. -/
inductive Starts (config : LinkLayerConfig) :
    PrimaryStation → List LinkFrame → PrimaryStation → Prop
  | nothing (station : PrimaryStation) : Starts config station [] station
  | asks {station : PrimaryStation} {frame : LinkFrame} (idle : station.state = .idle)
      (func : frame.header.func = .priRequestLinkStatus) :
      Starts config station [frame] { station with state := .requestLinkStatusTransmitWait }
  | data {station : PrimaryStation} {segments : TransportTx} (idle : station.state = .idle)
      (held : station.segments = some segments) (reset : station.isRemoteReset = true)
      (confirms : config.useConfirms = true) :
      Starts config station [dataFrame config station.writeFCB segments]
        { station with
          state := .confUserDataTransmitWait, segments := some segments.getSegment.1 }
  | resets {station : PrimaryStation} {segments : TransportTx} {frame : LinkFrame}
      (idle : station.state = .idle) (held : station.segments = some segments)
      (unset : station.isRemoteReset = false)
      (func : frame.header.func = .priResetLinkStates) (confirms : config.useConfirms = true) :
      Starts config station [frame] { station with state := .linkResetTransmitWait }
  | unconfirmed {station : PrimaryStation} {segments : TransportTx}
      (idle : station.state = .idle) (held : station.segments = some segments)
      (unconfirmed : config.useConfirms = false) :
      Starts config station [unconfirmedFrame config segments]
        { station with
          state := .sendUnconfirmedTransmitWait, segments := some segments.getSegment.1 }

theorem Starts.segments_eq_none {config : LinkLayerConfig} {station after : PrimaryStation}
    {frames : List LinkFrame} (starts : Starts config station frames after) :
    after.segments = none ↔ station.segments = none := by
  cases starts with
  | nothing | asks | resets => exact Iff.rfl
  | data idle has | unconfirmed idle has => simp [has]

end PrimaryStation

/-! ## Secondary station -/

/-- What a secondary station goes by. -/
structure SecondaryStation where
  state : SecState
  readFCB : Bool
deriving DecidableEq

def LinkContext.secondaryStation (context : LinkContext) : SecondaryStation :=
  ⟨context.secState, context.nextReadFCB⟩

namespace SecondaryStation

/-- How a secondary station goes on when a frame is received or transmitted, what it answers, and
what it passes up. -/
inductive Reacts :
    Option LinkFrame → SecondaryStation → List LinkFrame → List Message → SecondaryStation → Prop
  | same (frame : Option LinkFrame) (station : SecondaryStation) :
      Reacts frame station [] [] station
  | transmitted {station : SecondaryStation} {state : SecState}
      (waits : station.state = .transmitWaitReset ∧ state = .reset ∨
        station.state = .transmitWaitNotReset ∧ state = .notReset) :
      Reacts none station [] [] { station with state }
  | resets {station : SecondaryStation} {frame answer : LinkFrame}
      (func : frame.header.func = .priResetLinkStates) (ack : answer.header.func = .secAck) :
      Reacts (some frame) station [answer] [] ⟨.transmitWaitReset, true⟩
  | delivers {station : SecondaryStation} {frame answer : LinkFrame}
      (func : frame.header.func = .priConfirmedUserData) (state : station.state = .reset)
      (expected : station.readFCB = frame.header.fcb) (ack : answer.header.func = .secAck) :
      Reacts (some frame) station [answer] [⟨frame.header.toAddresses, frame.userData⟩]
        ⟨.transmitWaitReset, !station.readFCB⟩
  | repeats {station : SecondaryStation} {frame answer : LinkFrame}
      (func : frame.header.func = .priConfirmedUserData) (state : station.state = .reset)
      (unexpected : station.readFCB ≠ frame.header.fcb) (ack : answer.header.func = .secAck) :
      Reacts (some frame) station [answer] [] ⟨.transmitWaitReset, station.readFCB⟩
  | tests {station : SecondaryStation} {frame answer : LinkFrame}
      (func : frame.header.func = .priTestLinkStates) (state : station.state = .reset)
      (ack : answer.header.func = .secAck) :
      Reacts (some frame) station [answer] [] ⟨.transmitWaitReset, !station.readFCB⟩
  | asked {station : SecondaryStation} {frame answer : LinkFrame} {state : SecState}
      (func : frame.header.func = .priRequestLinkStatus)
      (waits : station.state = .reset ∧ state = .transmitWaitReset ∨
        station.state = .notReset ∧ state = .transmitWaitNotReset)
      (status : answer.header.func = .secLinkStatus) :
      Reacts (some frame) station [answer] [] { station with state }
  | unconfirmed {station : SecondaryStation} {frame : LinkFrame}
      (func : frame.header.func = .priUnconfirmedUserData) :
      Reacts (some frame) station [] [⟨frame.header.toAddresses, frame.userData⟩] station

end SecondaryStation

/-! ## Reactions of the primary station -/

namespace LinkContext

variable {context after : LinkContext}

/-- The primary station is told something, and the secondary station is left alone. -/
def Goes (context : LinkContext) (stimulus : Stimulus) (after : LinkContext) : Prop :=
  ∃ requests, Emits context requests [] [] after ∧
    PrimaryStation.Reacts context.config stimulus context.primaryStation requests
      after.primaryStation ∧
    after.secondaryStation = context.secondaryStation

theorem goes_refl {stimulus : Stimulus}
    (quiet : stimulus = .answer .secAck → context.priState ≠ .confDataWait) :
    context.Goes stimulus context :=
  ⟨[], .refl context, .same quiet, rfl⟩

theorem holds_of_some {before after : LinkContext} {one other : TransportTx}
    (held : before.segments = some one) (still : after.segments = some other) :
    after.holds = before.holds := by
  rw [holds, holds, held, still]
  rfl

theorem emits_transmitConfirmed {held : TransportTx} (free : context.pendingPriTx = none)
    (holds : context.segments = some held) (segments : TransportTx) :
    Emits context [PrimaryStation.dataFrame context.config context.nextWriteFCB segments] [] []
      (context.transmitConfirmed segments) := by
  have same : Emits context [] [] [] { context with segments := some segments.getSegment.1 } :=
    emits_of_same rfl rfl rfl rfl rfl (holds_of_some holds rfl)
  refine same.behind ?_
  rw [PrimaryStation.dataFrame, ← TransportTx.message_getSegment segments]
  exact emits_transmitPrimary free rfl

theorem emits_transmitUnconfirmed {held : TransportTx} (free : context.pendingPriTx = none)
    (holds : context.segments = some held) (segments : TransportTx) :
    Emits context [PrimaryStation.unconfirmedFrame context.config segments] [] []
      (context.transmitUnconfirmed segments) := by
  have same : Emits context [] [] [] { context with segments := some segments.getSegment.1 } :=
    emits_of_same rfl rfl rfl rfl rfl (holds_of_some holds rfl)
  refine same.behind ?_
  rw [PrimaryStation.unconfirmedFrame, ← TransportTx.message_getSegment segments]
  exact emits_transmitPrimary free rfl

@[simp] theorem primaryStation_transmitUnconfirmed (segments : TransportTx) :
    (context.transmitUnconfirmed segments).primaryStation =
      { context.primaryStation with segments := some segments.getSegment.1 } := by
  simp [transmitUnconfirmed, primaryStation]

@[simp] theorem secondaryStation_transmitUnconfirmed (segments : TransportTx) :
    (context.transmitUnconfirmed segments).secondaryStation = context.secondaryStation := by
  simp [transmitUnconfirmed, secondaryStation]

theorem emits_failure {segments : TransportTx} (held : context.segments = some segments) :
    Emits context [] [] [] context.failure := by
  refine Emits.behind (emits_of_same rfl rfl rfl rfl rfl rfl) ?_
  exact (@emits_completeSendOperation context.cancelTimer segments held).then
    (emits_setPriState _ _)

theorem goes_failure {stimulus : Stimulus} {segments : TransportTx}
    (held : context.segments = some segments)
    (waits : context.priState = .resetLinkWait ∨ context.priState = .confDataWait)
    (fails : stimulus.fails = true) : context.Goes stimulus context.failure := by
  refine ⟨[], emits_failure held, ?_, rfl⟩
  rcases waits with state | state
  · exact .resetFailed state fails
  · exact .dataFailed state fails

theorem onAck_goes (sound : Sound context) (handled : context.onAck = some after) :
    context.Goes (.answer .secAck) after := by
  unfold onAck at handled
  split at handled
  · next state =>
      obtain ⟨segments, held, rfl⟩ := Option.map_eq_some_iff.mp handled
      let reset : LinkContext :=
        { context with isRemoteReset := true, nextWriteFCB := true }.cancelTimer
      have sent : Emits reset [PrimaryStation.dataFrame context.config true segments] [] []
          (reset.transmitConfirmed segments) :=
        @emits_transmitConfirmed reset _ (sound.free_of state rfl).pendingPriTx_eq held segments
      have told := (@emits_record (reset.transmitConfirmed segments) (.stateChange .reset) rfl
        rfl rfl).then (emits_setPriState _ .confUserDataTransmitWait)
      refine ⟨_, (Emits.behind (emits_of_same rfl rfl rfl rfl rfl rfl) sent).then told, ?_, ?_⟩
      · have station : ((reset.transmitConfirmed segments).onStateChange .reset |>.setPriState
            .confUserDataTransmitWait).primaryStation =
            ⟨.confUserDataTransmitWait, some segments.getSegment.1, true, true⟩ := by
          simp [primaryStation, transmitConfirmed, onStateChange, setPriState, reset, cancelTimer]
        rw [station]
        exact .resetAcknowledged state held
      · simp [secondaryStation, transmitConfirmed, onStateChange, setPriState, cancelTimer]
  · next state =>
      obtain ⟨segments, held, rfl⟩ := Option.map_eq_some_iff.mp handled
      let flipped : LinkContext :=
        { context with nextWriteFCB := !context.nextWriteFCB }.cancelTimer
      have same : Emits context [] [] [] flipped := emits_of_same rfl rfl rfl rfl rfl rfl
      dsimp only
      split
      · next more =>
          have sent : Emits flipped [PrimaryStation.dataFrame context.config
              (!context.nextWriteFCB) segments.advance.1] [] []
              (flipped.transmitConfirmed segments.advance.1) :=
            @emits_transmitConfirmed flipped _ (sound.free_of state rfl).pendingPriTx_eq held _
          refine ⟨_, (same.behind sent).then (emits_setPriState _ _), ?_, ?_⟩
          · have station : ((flipped.transmitConfirmed segments.advance.1).setPriState
                .confUserDataTransmitWait).primaryStation =
                ⟨.confUserDataTransmitWait, some segments.advance.1.getSegment.1,
                  context.isRemoteReset, !context.nextWriteFCB⟩ := by
              simp [primaryStation, transmitConfirmed, setPriState, flipped, cancelTimer]
            rw [station]
            exact .dataAcknowledgedMore state held more
          · simp [secondaryStation, transmitConfirmed, setPriState, cancelTimer]
      · next last =>
          have posted := (@emits_completeSendOperation flipped segments held).then
            (emits_setPriState _ .idle)
          exact ⟨_, same.behind posted,
            .dataAcknowledgedLast state held (by simpa using last), rfl⟩
  · next state =>
      obtain rfl := Option.some.inj handled
      exact goes_refl fun _ => state

theorem onNack_goes {rxBuffFull : Bool} (sound : Sound context)
    (handled : context.onNack rxBuffFull = some after) :
    context.Goes (.answer .secNack) after := by
  unfold onNack at handled
  split at handled
  · next state =>
      obtain rfl := Option.some.inj handled
      obtain ⟨segments, held⟩ := sound.segments_of state rfl
      exact goes_failure held (.inl state) rfl
  · next state =>
      let told := context.onStateChange .unreset
      have emits : Emits context [] [] [] told := emits_record context rfl rfl rfl
      dsimp only at handled
      split at handled
      · obtain rfl := Option.some.inj handled
        obtain ⟨segments, held⟩ := sound.segments_of state rfl
        obtain ⟨requests, sent, reacts, same⟩ :=
          @goes_failure told (.answer .secNack) segments held (.inr state) rfl
        exact ⟨requests, emits.behind sent, reacts, same⟩
      · obtain ⟨segments, held, rfl⟩ := Option.map_eq_some_iff.mp handled
        have free := (sound.free_of state rfl).pendingPriTx_eq
        have sent := @emits_transmitPrimary told.resetRetry.cancelTimer
          (.formatResetLinkStates context.config.isMaster segments.message.addresses.destination
            context.config.localAddr) free rfl
        have retried : Emits told [] [] [] told.resetRetry.cancelTimer :=
          emits_of_same rfl rfl rfl rfl rfl rfl
        refine ⟨_, (emits.behind (retried.behind sent)).then
          (emits_setPriState _ _), ?_, ?_⟩
        · have station : ((told.resetRetry.cancelTimer.queueResetLinks
              segments.message.addresses.destination).setPriState
                .linkResetTransmitWait).primaryStation =
              { context.primaryStation with state := .linkResetTransmitWait } := by
            simp [primaryStation, queueResetLinks, setPriState, told, onStateChange, resetRetry,
              cancelTimer]
          rw [station]
          exact .dataRefused state rfl
        · simp [secondaryStation, queueResetLinks, setPriState, onStateChange, resetRetry,
            cancelTimer]
  · next state =>
      obtain rfl := Option.some.inj handled
      exact ⟨[], emits_of_same rfl rfl rfl rfl rfl rfl, .statusDone state Stimulus.noConfusion, rfl⟩
  · obtain rfl := Option.some.inj handled
    exact goes_refl (by rintro ⟨⟩)

theorem onLinkStatus_goes (sound : Sound context) :
    context.Goes (.answer .secLinkStatus) context.onLinkStatus := by
  unfold onLinkStatus
  split
  · next state =>
      obtain ⟨segments, held⟩ := sound.segments_of state rfl
      exact goes_failure held (.inl state) rfl
  · next state =>
      obtain ⟨segments, held⟩ := sound.segments_of state rfl
      exact goes_failure held (.inr state) rfl
  · next state =>
      have told := (@emits_record context.cancelTimer .keepAliveSuccess rfl rfl rfl).then
        (emits_setPriState _ .idle)
      exact ⟨[], Emits.behind (emits_of_same rfl rfl rfl rfl rfl rfl) told,
        .statusDone state Stimulus.noConfusion, rfl⟩
  · exact goes_refl (by rintro ⟨⟩)

theorem onNotSupported_goes (sound : Sound context) :
    context.Goes (.answer .secNotSupported) context.onNotSupported := by
  unfold onNotSupported
  split
  · next state =>
      obtain ⟨segments, held⟩ := sound.segments_of state rfl
      exact goes_failure held (.inl state) rfl
  · next state =>
      obtain ⟨segments, held⟩ := sound.segments_of state rfl
      exact goes_failure held (.inr state) rfl
  · next state =>
      exact ⟨[], emits_of_same rfl rfl rfl rfl rfl rfl, .statusDone state Stimulus.noConfusion, rfl⟩
  · exact goes_refl (by rintro ⟨⟩)

theorem onTimeout_goes (sound : Sound context)
    (handled : { context with rspTimeoutTimer := false }.onTimeout = some after) :
    context.Goes (.timeout context.numRetryRemaining) after := by
  unfold onTimeout at handled
  have expired : Emits context [] [] [] { context with rspTimeoutTimer := false } :=
    emits_of_same rfl rfl rfl rfl rfl rfl
  let spent : LinkContext :=
    { context with
      rspTimeoutTimer := false, numRetryRemaining := context.numRetryRemaining - 1 }
  have counted : Emits context [] [] [] spent := emits_of_same rfl rfl rfl rfl rfl rfl
  split at handled
  · next state =>
      have free := (sound.free_of state rfl).pendingPriTx_eq
      split at handled
      · obtain rfl := Option.some.inj handled
        have sent := @emits_transmitPrimary spent (.formatResetLinkStates context.config.isMaster
          context.config.remoteAddr context.config.localAddr) free rfl
        refine ⟨_, (counted.behind sent).then (emits_setPriState _ _), ?_, ?_⟩
        · have station : ((spent.queueResetLinks context.config.remoteAddr).setPriState
                .linkResetTransmitWait).primaryStation =
              { context.primaryStation with state := .linkResetTransmitWait } := by
            simp [primaryStation, queueResetLinks, setPriState, spent]
          rw [station]
          exact .resetRepeated state rfl
        · simp [secondaryStation, queueResetLinks, setPriState]
      · next last =>
          obtain rfl := Option.some.inj handled
          obtain ⟨segments, held⟩ := sound.segments_of state rfl
          have posted := (@emits_completeSendOperation { context with rspTimeoutTimer := false }
            segments held).then (emits_setPriState _ .idle)
          have zero : context.numRetryRemaining = 0 :=
            UInt32.le_zero_iff.mp (UInt32.not_lt.mp last)
          exact ⟨[], expired.behind posted, .resetFailed state (decide_eq_true zero), rfl⟩
  · next state =>
      have free := (sound.free_of state rfl).pendingPriTx_eq
      split at handled
      · obtain ⟨segments, held, rfl⟩ := Option.map_eq_some_iff.mp handled
        have sent : Emits spent [PrimaryStation.dataFrame context.config context.nextWriteFCB
            segments] [] [] (spent.transmitConfirmed segments) :=
          @emits_transmitConfirmed spent _ free held segments
        refine ⟨_, (counted.behind sent).then (emits_setPriState _ _), ?_, ?_⟩
        · have station : ((spent.transmitConfirmed segments).setPriState
                .confUserDataTransmitWait).primaryStation =
              { context.primaryStation with
                state := .confUserDataTransmitWait, segments := some segments.getSegment.1 } := by
            simp [primaryStation, transmitConfirmed, setPriState, spent]
          rw [station]
          exact .dataRepeated state held
        · simp [secondaryStation, transmitConfirmed, setPriState]
      · next last =>
          obtain rfl := Option.some.inj handled
          obtain ⟨segments, held⟩ := sound.segments_of state rfl
          have told := emits_record { context with rspTimeoutTimer := false }
            (@rfl _ (LinkActivity.begun (.stateChange .unreset))) rfl rfl
          have posted := (@emits_completeSendOperation
            ({ context with rspTimeoutTimer := false }.onStateChange .unreset)
            segments held).then (emits_setPriState _ .idle)
          have zero : context.numRetryRemaining = 0 :=
            UInt32.le_zero_iff.mp (UInt32.not_lt.mp last)
          exact ⟨[], expired.behind (told.behind posted),
            .dataFailed state (decide_eq_true zero), rfl⟩
  · next state =>
      obtain rfl := Option.some.inj handled
      have told := (@emits_record { context with rspTimeoutTimer := false } .keepAliveFailure rfl
        rfl rfl).then (emits_setPriState _ .idle)
      exact ⟨[], expired.behind told, .statusDone state Stimulus.noConfusion, rfl⟩
  · obtain rfl := Option.some.inj handled
    exact ⟨[], expired, .same (by rintro ⟨⟩), rfl⟩

theorem onPriTxReady_goes (free : context.pendingPriTx = none)
    (handled : context.onPriTxReady = some after) : context.Goes .other after := by
  have timed (state : PriState) :
      Emits context [] [] [] (context.startResponseTimer.setPriState state) := by
    rw [startResponseTimer]
    split
    · exact (emits_record context rfl rfl rfl).then (emits_setPriState _ _)
    · exact emits_of_same rfl rfl rfl rfl rfl rfl
  have waits {state : PriState} (waits : context.priState.waits = some state) :
      context.Goes .other (context.startResponseTimer.setPriState state) := by
    have station : (context.startResponseTimer.setPriState state).primaryStation =
        { context.primaryStation with state } := by
      rw [startResponseTimer]
      split <;> rfl
    refine ⟨[], timed state, station ▸ .transmitted waits, ?_⟩
    rw [startResponseTimer]
    split <;> rfl
  unfold onPriTxReady at handled
  split at handled
  · next state =>
      obtain ⟨segments, held, rfl⟩ := Option.map_eq_some_iff.mp handled
      dsimp only
      split
      · next more =>
          refine ⟨_, emits_transmitUnconfirmed free held segments.advance.1, ?_, by simp⟩
          rw [primaryStation_transmitUnconfirmed]
          exact .unconfirmedMore state held more
      · next last =>
          have posted := (emits_completeSendOperation held).then
            (emits_setPriState _ .idle)
          exact ⟨[], posted, .unconfirmedLast state held (by simpa using last), rfl⟩
  all_goals obtain rfl := Option.some.inj handled
  · next state => exact waits (by rw [state]; rfl)
  · next state => exact waits (by rw [state]; rfl)
  · next state => exact waits (by rw [state]; rfl)
  · exact goes_refl (by rintro ⟨⟩)

/-- What the primary station starts. -/
def Begins (context after : LinkContext) : Prop :=
  ∃ requests, Emits context requests [] [] after ∧
    PrimaryStation.Starts context.config context.primaryStation requests after.primaryStation ∧
    after.secondaryStation = context.secondaryStation

theorem tryStartTransmission_begins (sound : Sound context) :
    context.Begins context.tryStartTransmission := by
  have refl : context.Begins context := ⟨[], .refl context, .nothing _, rfl⟩
  by_cases idle : context.priState = .idle
  · have free := (sound.free_of_idle idle).pendingPriTx_eq
    unfold tryStartTransmission
    cases asks : context.keepAliveTimeout with
    | true =>
        -- the request takes the place of a message
        let quiet : LinkContext := { context with keepAliveTimeout := false }
        have sent := @emits_transmitPrimary quiet (.formatRequestLinkStatus
          context.config.isMaster context.config.remoteAddr context.config.localAddr) free rfl
        have told := (@emits_record (quiet.queueRequestLinkStatus context.config.remoteAddr)
          .keepAliveInitiated rfl rfl rfl).then (emits_setPriState _ .requestLinkStatusTransmitWait)
        have asked : context.Begins context.trySendRequestLinkStatus := by
          rw [trySendRequestLinkStatus, if_pos idle]
          refine ⟨_, (Emits.behind (emits_of_same rfl rfl rfl rfl rfl rfl) sent).then told, ?_, ?_⟩
          · have station : (((quiet.queueRequestLinkStatus context.config.remoteAddr).record
                .keepAliveInitiated).setPriState .requestLinkStatusTransmitWait).primaryStation =
                { context.primaryStation with state := .requestLinkStatusTransmitWait } := by
              simp [primaryStation, queueRequestLinkStatus, setPriState, quiet]
            rw [station]
            exact .asks idle rfl
          · simp [secondaryStation, queueRequestLinkStatus, setPriState]
        have busy : context.trySendRequestLinkStatus.priState ≠ .idle := by
          rw [trySendRequestLinkStatus, if_pos idle]
          simp [setPriState]
        dsimp only
        rw [if_pos rfl]
        split
        · exact asked
        · rw [trySendConfirmed, if_neg busy, trySendUnconfirmed, if_neg busy, ite_self]
          exact asked
    | false =>
        dsimp only
        rw [if_neg Bool.false_ne_true]
        split
        · exact refl
        · next segments held =>
            have held : context.primaryStation.segments = some segments := held
            split
            · next confirms =>
                rw [trySendConfirmed, if_pos idle]
                have retried : Emits context [] [] [] context.resetRetry :=
                  emits_of_same rfl rfl rfl rfl rfl rfl
                split
                · next reset =>
                    have sent := @emits_transmitConfirmed context.resetRetry _ free held segments
                    refine ⟨_, (retried.behind sent).then (emits_setPriState _ _), ?_,
                      by simp [secondaryStation, transmitConfirmed, resetRetry, setPriState]⟩
                    have station : ((context.resetRetry.transmitConfirmed segments).setPriState
                        .confUserDataTransmitWait).primaryStation =
                        { context.primaryStation with
                          state := .confUserDataTransmitWait
                          segments := some segments.getSegment.1 } := by
                      simp [primaryStation, transmitConfirmed, resetRetry, setPriState]
                    rw [station]
                    exact .data idle held reset confirms
                · next unset =>
                    have sent := @emits_transmitPrimary context.resetRetry
                      (.formatResetLinkStates context.config.isMaster
                        segments.message.addresses.destination context.config.localAddr) free rfl
                    refine ⟨_, (retried.behind sent).then (emits_setPriState _ _), ?_,
                      by simp [secondaryStation, queueResetLinks, resetRetry, setPriState]⟩
                    have station : ((context.resetRetry.queueResetLinks
                        segments.message.addresses.destination).setPriState
                          .linkResetTransmitWait).primaryStation =
                        { context.primaryStation with state := .linkResetTransmitWait } := by
                      simp [primaryStation, queueResetLinks, resetRetry, setPriState]
                    rw [station]
                    exact .resets idle held (by simpa [primaryStation] using unset) rfl confirms
            · next unconfirmed =>
                rw [trySendUnconfirmed, if_pos idle]
                have sent := emits_transmitUnconfirmed free held segments
                refine ⟨_, sent.then (emits_setPriState _ _), ?_,
                  by simp [secondaryStation, transmitUnconfirmed, setPriState]⟩
                have station : ((context.transmitUnconfirmed segments).setPriState
                    .sendUnconfirmedTransmitWait).primaryStation =
                    { context.primaryStation with
                      state := .sendUnconfirmedTransmitWait
                      segments := some segments.getSegment.1 } := by
                  simp [primaryStation, transmitUnconfirmed, setPriState]
                rw [station]
                exact .unconfirmed idle held (by simpa using unconfirmed)
  · have same : context.tryStartTransmission = context := by
      unfold tryStartTransmission
      rw [trySendRequestLinkStatus, if_neg idle, ite_self]
      dsimp only
      split
      · rfl
      · rw [trySendConfirmed, if_neg idle, trySendUnconfirmed, if_neg idle, ite_self]
    rw [same]
    exact refl

/-! ## Reactions of the secondary station -/

/-- The secondary station reacts, and the primary station is left alone. -/
def Answers (context : LinkContext) (frame : Option LinkFrame) (after : LinkContext) : Prop :=
  ∃ answers passed, Emits context [] answers passed after ∧
    SecondaryStation.Reacts frame context.secondaryStation answers passed after.secondaryStation ∧
    after.primaryStation = context.primaryStation

theorem answers_refl (context : LinkContext) (frame : Option LinkFrame) :
    context.Answers frame context :=
  ⟨[], [], .refl context, .same frame _, rfl⟩

/-- No answer waits when the station is not transmitting one. -/
theorem Sound.pendingSecTx_eq (sound : Sound context)
    (done : context.secState.transmits = false) : context.pendingSecTx = none := by
  obtain ⟨_, _, queues, _, answers⟩ := sound.frames
  rw [done, Option.isSome_eq_false_iff, Option.isNone_iff_eq_none] at answers
  subst answers
  exact queues.slots.pendingSec_none

theorem emits_queueAck (sound : Sound context) (done : context.secState.transmits = false)
    (source : UInt16) :
    Emits context [] [.formatAck context.config.isMaster false source context.config.localAddr] []
      (context.queueAck source) :=
  emits_transmitSecondary (sound.pendingSecTx_eq done) rfl

theorem onTestLinkStatus_answers (sound : Sound context) {frame : LinkFrame}
    (func : frame.header.func = .priTestLinkStates) :
    context.Answers (some frame)
      (context.onTestLinkStatus frame.header.src frame.header.fcb) := by
  unfold onTestLinkStatus
  split
  · next state =>
      have sent := emits_queueAck sound (by rw [state]; rfl) frame.header.src
      split
      · refine ⟨_, [], sent.then (emits_of_same rfl rfl rfl rfl rfl rfl), ?_,
          by simp [primaryStation, queueAck, setSecState]⟩
        exact .tests func state rfl
      · exact answers_refl context _
  · exact answers_refl context _

theorem onConfirmedUserData_answers (sound : Sound context) {frame : LinkFrame}
    (func : frame.header.func = .priConfirmedUserData) :
    context.Answers (some frame) (context.onConfirmedUserData frame.header.src frame.header.fcb
      ⟨frame.header.toAddresses, frame.userData⟩) := by
  unfold onConfirmedUserData
  split
  · next state =>
      have sent := emits_queueAck sound (by rw [state]; rfl) frame.header.src
      have kept : (context.queueAck frame.header.src).nextReadFCB = context.nextReadFCB := by
        simp [queueAck]
      dsimp only
      split
      · next expected =>
          let flipped : LinkContext :=
            { context.queueAck frame.header.src with
              nextReadFCB := !(context.queueAck frame.header.src).nextReadFCB }
          have passed := (emits_pushDataUp flipped ⟨frame.header.toAddresses, frame.userData⟩).then
            (emits_of_same rfl rfl rfl rfl rfl rfl)
          have answered : Emits context [] _ [] flipped :=
            sent.then (emits_of_same rfl rfl rfl rfl rfl rfl)
          refine ⟨_, _, answered.trans passed, ?_, ?_⟩
          · have station : ((flipped.pushDataUp ⟨frame.header.toAddresses,
                frame.userData⟩).setSecState .transmitWaitReset).secondaryStation =
                ⟨.transmitWaitReset, !context.nextReadFCB⟩ := by
              simp [secondaryStation, pushDataUp, setSecState, flipped, queueAck]
            rw [station]
            exact .delivers func state (kept.symm.trans expected) rfl
          · simp [primaryStation, pushDataUp, setSecState, queueAck]
      · next unexpected =>
          refine ⟨_, [], sent.then (emits_of_same rfl rfl rfl rfl rfl rfl), ?_,
            by simp [primaryStation, queueAck, setSecState]⟩
          have station : ((context.queueAck frame.header.src).setSecState
              .transmitWaitReset).secondaryStation = ⟨.transmitWaitReset, context.nextReadFCB⟩ := by
            simp [secondaryStation, setSecState, queueAck]
          rw [station]
          exact .repeats func state (fun same => unexpected (kept.trans same)) rfl
  · exact answers_refl context _

theorem onResetLinkStates_answers (sound : Sound context) {frame : LinkFrame}
    (func : frame.header.func = .priResetLinkStates) :
    context.Answers (some frame) (context.onResetLinkStates frame.header.src) := by
  have reset (done : context.secState.transmits = false) :
      context.Answers (some frame) (({ context.queueAck frame.header.src with
        nextReadFCB := true } : LinkContext).setSecState .transmitWaitReset) :=
    ⟨_, [], (emits_queueAck sound done frame.header.src).then
      (emits_of_same rfl rfl rfl rfl rfl rfl),
      .resets func rfl, by simp [primaryStation, queueAck, setSecState]⟩
  unfold onResetLinkStates
  split
  · next state => exact reset (by rw [state]; rfl)
  · next state => exact reset (by rw [state]; rfl)
  · exact answers_refl context _

theorem onRequestLinkStatus_answers (sound : Sound context) {frame : LinkFrame}
    (func : frame.header.func = .priRequestLinkStatus) :
    context.Answers (some frame) (context.onRequestLinkStatus frame.header.src) := by
  have told {state : SecState} (waits : context.secState = .reset ∧ state = .transmitWaitReset ∨
      context.secState = .notReset ∧ state = .transmitWaitNotReset) :
      context.Answers (some frame)
        ((context.queueLinkStatus frame.header.src).setSecState state) := by
    have done : context.secState.transmits = false := by
      rcases waits with ⟨here, _⟩ | ⟨here, _⟩ <;> (rw [here]; rfl)
    have sent := @emits_transmitSecondary context (.formatLinkStatus context.config.isMaster false
      frame.header.src context.config.localAddr) (sound.pendingSecTx_eq done) rfl
    refine ⟨_, [], sent.then (emits_of_same rfl rfl rfl rfl rfl rfl), ?_,
      by simp [primaryStation, queueLinkStatus, setSecState]⟩
    have station : ((context.queueLinkStatus frame.header.src).setSecState
        state).secondaryStation = { context.secondaryStation with state } := by
      simp [secondaryStation, setSecState, queueLinkStatus]
    rw [station]
    exact .asked func waits rfl
  unfold onRequestLinkStatus
  split
  · next state => exact told (.inr ⟨state, rfl⟩)
  · next state => exact told (.inl ⟨state, rfl⟩)
  · exact answers_refl context _

theorem onSecTxReady_answers (context : LinkContext) :
    context.Answers none context.onSecTxReady := by
  unfold onSecTxReady
  split
  · next state =>
      exact ⟨[], [], emits_of_same rfl rfl rfl rfl rfl rfl, .transmitted (.inl ⟨state, rfl⟩), rfl⟩
  · next state =>
      exact ⟨[], [], emits_of_same rfl rfl rfl rfl rfl rfl, .transmitted (.inr ⟨state, rfl⟩), rfl⟩
  · exact answers_refl context _

/-! ## Events -/

/-- What an event tells the primary station. -/
def stimulus (context : LinkContext) : LinkInput → Stimulus
  | .frame _ header _ =>
      if context.Accepts header ∧ header.func.isPrimary = false then .answer header.func
      else .other
  | .responseTimeout => .timeout context.numRetryRemaining
  | _ => .other

/-- What comes before the stations react: the connection is opened, or a message is taken. -/
def prepare (context : LinkContext) : LinkInput → LinkContext
  | .lowerLayerUp now => context.onLowerLayerUp now
  | .send segments =>
      if context.isOnline ∧ context.segments = none then
        { context with segments := some segments }.record (.take segments.message.addresses)
      else context
  | _ => context

theorem log_prepare (context : LinkContext) (input : LinkInput) :
    ∃ taken, (context.prepare input).log = context.log ++ taken ∧
      LinkActivity.allBegun taken = [] ∧ LinkActivity.allPassed taken = [] ∧
      (context.isOnline = true → taken.any LinkActivity.connects = false) := by
  have none : ∃ taken, context.log = context.log ++ taken ∧
      LinkActivity.allBegun taken = [] ∧ LinkActivity.allPassed taken = [] ∧
      (context.isOnline = true → taken.any LinkActivity.connects = false) :=
    ⟨[], by simp, rfl, rfl, fun _ => rfl⟩
  cases input with
  | send segments =>
      rw [prepare]
      split
      · exact ⟨[.take segments.message.addresses], rfl, rfl, rfl, fun _ => rfl⟩
      · exact none
  | lowerLayerUp now =>
      rw [prepare, onLowerLayerUp]
      split
      · exact none
      · next offline =>
          refine ⟨[.stateChange .unreset, .lowerLayerUp], ?_, rfl, rfl, fun online => ?_⟩
          · simp [onStateChange, record, startKeepAliveTimer]
          · exact absurd online offline
  | _ => exact none

theorem Emits.of_prepare {before after : LinkContext} {input : LinkInput}
    {requests answers : List LinkFrame} {passed : List Message}
    (emits : (before.prepare input).Emits requests answers passed after) :
    after.config = before.config ∧ (before.isOnline = true → after.isOnline = true) ∧
      ∃ activities, after.log = before.log ++ activities ∧
      (LinkActivity.allBegun activities).filter (·.header.func.isPrimary) ++
        after.pendingPriTx.toList = before.pendingPriTx.toList ++ requests ∧
      (LinkActivity.allBegun activities).filter (!·.header.func.isPrimary) ++
        after.pendingSecTx.toList = before.pendingSecTx.toList ++ answers ∧
      LinkActivity.allPassed activities = passed ∧
      (before.isOnline = true → activities.any LinkActivity.connects = false) := by
  obtain ⟨taken, same, begun, pass, connects⟩ := before.log_prepare input
  have kept : (before.prepare input).config = before.config ∧
      (before.isOnline = true → (before.prepare input).isOnline = true) ∧
      (before.prepare input).pendingPriTx = before.pendingPriTx ∧
      (before.prepare input).pendingSecTx = before.pendingSecTx := by
    cases input with
    | send segments =>
        rw [prepare]
        split <;> exact ⟨rfl, id, rfl, rfl⟩
    | lowerLayerUp now =>
        rw [prepare, onLowerLayerUp]
        split
        · exact ⟨rfl, id, rfl, rfl⟩
        · exact ⟨rfl, fun _ => rfl, rfl, rfl⟩
    | _ => exact ⟨rfl, id, rfl, rfl⟩
  obtain ⟨config, online, priTx, secTx⟩ := kept
  obtain ⟨sameConfig, still, activities, log, pri, sec, rfl, _, open_⟩ := emits
  refine ⟨sameConfig.trans config, still.trans ∘ online, taken ++ activities, ?_, ?_, ?_, ?_, ?_⟩
  · rw [log, same, List.append_assoc]
  · rw [LinkActivity.allBegun, List.filterMap_append, ← LinkActivity.allBegun,
      ← LinkActivity.allBegun, begun, List.nil_append, pri, priTx]
  · rw [LinkActivity.allBegun, List.filterMap_append, ← LinkActivity.allBegun,
      ← LinkActivity.allBegun, begun, List.nil_append, sec, secTx]
  · rw [LinkActivity.allPassed, List.filterMap_append, ← LinkActivity.allPassed,
      ← LinkActivity.allPassed, pass, List.nil_append]
  · intro connected
    rw [List.any_append, connects connected, open_, Bool.or_false]

/-- What an event comes to: the stations react, and then the primary station may start something. -/
def Moves (context : LinkContext) (input : LinkInput) (after : LinkContext) : Prop :=
  ∃ reacted started answers passed middle,
    Emits (context.prepare input) (reacted ++ started) answers passed after ∧
    PrimaryStation.Reacts context.config (context.stimulus input) context.primaryStation reacted
      middle ∧
    (input.sends = true → middle = (context.prepare input).primaryStation) ∧
    PrimaryStation.Starts context.config middle started after.primaryStation ∧
    SecondaryStation.Reacts input.received context.secondaryStation answers passed
      after.secondaryStation

variable {input : LinkInput} {middle : LinkContext}

theorem moves_of_goes (none : context.prepare input = context) (other : input.sends = false)
    (goes : context.Goes (context.stimulus input) middle) (begins : middle.Begins after) :
    context.Moves input after := by
  obtain ⟨reacted, first, reacts, kept⟩ := goes
  obtain ⟨started, second, starts, left⟩ := begins
  refine ⟨reacted, started, [], [], _, none.symm ▸ first.trans second, reacts, ?_, ?_, ?_⟩
  · intro sends
    cases other.symm.trans sends
  · rwa [first.1] at starts
  · rw [left, kept]
    exact .same _ _

theorem moves_of_answers (none : context.prepare input = context)
    (quiet : context.stimulus input ≠ .answer .secAck)
    (answered : context.Answers input.received middle) (begins : middle.Begins after) :
    context.Moves input after := by
  obtain ⟨answers, passed, first, reacts, kept⟩ := answered
  obtain ⟨started, second, starts, left⟩ := begins
  refine ⟨[], started, answers, passed, context.primaryStation, ?_, ?_, ?_, ?_, ?_⟩
  · rw [none]
    simpa using first.trans second
  · exact .same fun acknowledged => absurd acknowledged quiet
  · exact fun _ => none.symm ▸ rfl
  · rwa [first.1, kept] at starts
  · rwa [left]

theorem moves_of_same (none : context.prepare input = context)
    (quiet : context.stimulus input ≠ .answer .secAck) (emits : Emits context [] [] [] after)
    (primary : after.primaryStation = context.primaryStation)
    (secondary : after.secondaryStation = context.secondaryStation) :
    context.Moves input after := by
  refine ⟨[], [], [], [], context.primaryStation, none.symm ▸ emits, ?_, ?_, ?_, ?_⟩
  · exact .same fun acknowledged => absurd acknowledged quiet
  · exact fun _ => none.symm ▸ rfl
  · rw [primary]
    exact .nothing _
  · rw [secondary]
    exact .same _ _

theorem onFrame_moves {now : MonotonicTimestamp} {header : LinkHeaderFields}
    {userData : List UInt8} (sound : Sound context)
    (handled : context.onFrame now header userData = some after) :
    context.Moves (.frame now header userData) after := by
  by_cases accepts : context.Accepts header
  · rw [onFrame_of_accepts accepts] at handled
    obtain ⟨middle, dispatched, rfl⟩ := Option.map_eq_some_iff.mp handled
    let timed : LinkContext := { context with lastMessageTimestamp := now }
    have kept : Sound timed := ⟨sound.frames, sound.timer, sound.segments⟩
    obtain ⟨other, again, sounds⟩ := dispatch_sound kept header userData
    obtain rfl := Option.some.inj (dispatched.symm.trans again)
    have begins := tryStartTransmission_begins sounds
    have goes (answer : header.func.isPrimary = false)
        (goes : timed.Goes (.answer header.func) middle) :
        context.Goes (context.stimulus (.frame now header userData)) middle := by
      rw [stimulus, if_pos ⟨accepts, answer⟩]
      exact goes
    have quiet (request : header.func.isPrimary = true) :
        context.stimulus (.frame now header userData) ≠ .answer .secAck := by
      rw [stimulus, if_neg (by simp [request])]
      exact Stimulus.noConfusion
    unfold dispatch at dispatched
    split at dispatched
    · next func =>
        have reacts := func ▸ onAck_goes kept dispatched
        exact moves_of_goes rfl rfl (goes (by rw [func]; rfl) reacts) begins
    · next func =>
        have reacts := func ▸ onNack_goes kept dispatched
        exact moves_of_goes rfl rfl (goes (by rw [func]; rfl) reacts) begins
    all_goals obtain rfl := Option.some.inj dispatched
    · next func =>
        have reacts := func ▸ onLinkStatus_goes kept
        exact moves_of_goes rfl rfl (goes (by rw [func]; rfl) reacts) begins
    · next func =>
        have reacts := func ▸ onNotSupported_goes kept
        exact moves_of_goes rfl rfl (goes (by rw [func]; rfl) reacts) begins
    · next func =>
        exact moves_of_answers rfl (quiet (by rw [func]; rfl))
          (@onTestLinkStatus_answers timed kept ⟨header, userData⟩ func) begins
    · next func =>
        exact moves_of_answers rfl (quiet (by rw [func]; rfl))
          (@onResetLinkStates_answers timed kept ⟨header, userData⟩ func) begins
    · next func =>
        exact moves_of_answers rfl (quiet (by rw [func]; rfl))
          (@onRequestLinkStatus_answers timed kept ⟨header, userData⟩ func) begins
    · next func =>
        exact moves_of_answers rfl (quiet (by rw [func]; rfl))
          (@onConfirmedUserData_answers timed kept ⟨header, userData⟩ func) begins
    · next func =>
        have passed : timed.Answers (some ⟨header, userData⟩)
            (timed.pushDataUp ⟨header.toAddresses, userData⟩) :=
          ⟨[], _, emits_pushDataUp timed _, .unconfirmed func, rfl⟩
        exact moves_of_answers rfl (quiet (by rw [func]; rfl)) passed begins
    · next func =>
        have goesOn : timed.Goes (.answer header.func) timed :=
          goes_refl (by rw [func]; rintro ⟨⟩)
        exact moves_of_goes rfl rfl (goes (by rw [func]; rfl) goesOn) begins
  · have quiet : context.stimulus (.frame now header userData) ≠ .answer .secAck := by
      rw [stimulus, if_neg (fun both => accepts both.1)]
      exact Stimulus.noConfusion
    obtain same | same | same := onFrame_of_not_accepts accepts now userData
    all_goals
      rw [same] at handled
      obtain rfl := Option.some.inj handled
    · exact moves_of_same rfl quiet (.refl context) rfl rfl
    · exact moves_of_same rfl quiet (emits_record context rfl rfl rfl) rfl rfl
    · exact moves_of_same rfl quiet (emits_record context rfl rfl rfl) rfl rfl

theorem onTxReady_moves (sound : Sound context) (handled : context.onTxReady = some after) :
    context.Moves .txReady after := by
  have quiet : context.stimulus .txReady ≠ .answer .secAck := Stimulus.noConfusion
  obtain ⟨pri, sec, queues, awaits, answers⟩ := sound.frames
  let done : LinkContext := { context.record .txReady with txMode := .idle }
  have finished : Emits context [] [] [] done.tryPendingSecTx.tryPendingPriTx := by
    have first : Emits context [] [] [] done :=
      (emits_record context rfl rfl rfl).then (emits_of_same rfl rfl rfl rfl rfl rfl)
    refine (first.then (emits_tryPendingSecTx fun frame waits => ?_)).then
      (emits_tryPendingPriTx fun frame waits => ?_)
    · exact queues.secondary frame (queues.slots.pendingSec_eq waits)
    · refine queues.primary frame (queues.slots.pendingPri_eq (waits ▸ ?_))
      rw [tryPendingSecTx]
      split <;> rfl
  have primary : done.tryPendingSecTx.tryPendingPriTx.primaryStation = context.primaryStation := by
    simp [primaryStation, done]
  have secondary : done.tryPendingSecTx.tryPendingPriTx.secondaryStation =
      context.secondaryStation := by
    simp [secondaryStation, done]
  unfold onTxReady at handled
  dsimp only at handled
  split at handled
  · obtain rfl := Option.some.inj handled
    exact moves_of_same rfl quiet (emits_record context rfl rfl rfl) rfl rfl
  · next mode =>
      obtain ⟨middle, ready, rfl⟩ := Option.map_eq_some_iff.mp handled
      have slots := queues.slots
      rw [show context.txMode = .primary from mode] at slots
      have waits : context.priState.transmits.isSome = true := by
        rw [← awaits, Option.isSome_map]
        exact slots.done_primary.2.2.2
      have landed := queues.txReady_primary mode
      obtain ⟨other, again, sounds⟩ := @onPriTxReady_sound done.tryPendingSecTx.tryPendingPriTx
        ⟨sec, landed, by simpa [done] using answers⟩ (by simpa [done] using sound.timer)
        (by simpa [done] using sound.segments) (by simpa [done] using waits)
      obtain rfl := Option.some.inj (ready.symm.trans again)
      obtain ⟨requests, sent, reacts, kept⟩ :=
        onPriTxReady_goes landed.slots.pendingPri_none ready
      have goes : context.Goes .other middle := by
        refine ⟨requests, finished.behind sent, ?_, kept.trans secondary⟩
        rwa [finished.1, primary] at reacts
      exact moves_of_goes rfl rfl goes (tryStartTransmission_begins sounds)
  · next mode =>
      obtain rfl := Option.some.inj handled
      have slots := queues.slots
      rw [show context.txMode = .secondary from mode] at slots
      have waits := slots.done_secondary.2.2.2
      have sounds : Sound done.tryPendingSecTx.tryPendingPriTx.onSecTxReady := by
        refine onSecTxReady_sound ⟨pri, queues.txReady_secondary mode, ?_⟩ ?_ ?_ ?_
        · simpa [done] using awaits
        · simpa [done] using sound.timer
        · simpa [done] using sound.segments
        · simpa [done, ← answers] using waits
      obtain ⟨sent, passed, emits, reacts, kept⟩ :=
        onSecTxReady_answers done.tryPendingSecTx.tryPendingPriTx
      have answered : context.Answers none done.tryPendingSecTx.tryPendingPriTx.onSecTxReady := by
        refine ⟨sent, passed, finished.behind emits, ?_, kept.trans primary⟩
        rwa [secondary] at reacts
      exact moves_of_answers rfl quiet answered (tryStartTransmission_begins sounds)

theorem receive_moves (sound : Sound context) (connected : input ≠ .lowerLayerDown)
    (received : context.receive input = some after) : context.Moves input after := by
  cases input with
  | lowerLayerUp now =>
      obtain rfl := Option.some.inj received
      refine ⟨[], [], [], [], _, .refl _, .same Stimulus.noConfusion, nofun, ?_, ?_⟩
      · have same : (context.onLowerLayerUp now).primaryStation = context.primaryStation := by
          rw [onLowerLayerUp]
          split <;> rfl
        exact same ▸ .nothing _
      · have same : (context.onLowerLayerUp now).secondaryStation = context.secondaryStation := by
          rw [onLowerLayerUp]
          split <;> rfl
        exact same ▸ .same _ _
  | lowerLayerDown => exact absurd rfl connected
  | send segments =>
      obtain rfl := Option.some.inj received
      unfold send
      split
      · next free =>
          have updated : Sound { context with segments := some segments } :=
            ⟨sound.frames, sound.timer, by simp⟩
          obtain ⟨started, emits, starts, left⟩ := tryStartTransmission_begins
            (@Sound.record _ (.take segments.message.addresses) updated rfl)
          have taken : context.prepare (.send segments) = _ := if_pos free
          exact ⟨[], started, [], [], _, taken ▸ emits, .take free.2, fun _ => taken ▸ rfl, starts,
            left ▸ .same none _⟩
      · next busy =>
          exact moves_of_same (if_neg busy) Stimulus.noConfusion (.refl context) rfl rfl
  | txReady => exact onTxReady_moves sound received
  | frame now header userData => exact onFrame_moves sound received
  | responseTimeout =>
      simp only [receive] at received
      split at received
      · next active =>
          obtain ⟨middle, expired, rfl⟩ := Option.map_eq_some_iff.mp received
          obtain ⟨other, again, sounds⟩ := onTimeout_sound sound active
          obtain rfl := Option.some.inj (expired.symm.trans again)
          exact moves_of_goes rfl rfl (onTimeout_goes sound expired)
            (tryStartTransmission_begins sounds)
      · cases received
  | keepAliveTimeout now =>
      simp only [receive] at received
      split at received
      · obtain rfl := Option.some.inj received
        unfold onKeepAliveTimeout
        dsimp only
        have refreshed {other : LinkContext} (emits : Emits context [] [] [] other)
            (sounds : Sound other) (primary : other.primaryStation = context.primaryStation)
            (secondary : other.secondaryStation = context.secondaryStation) :
            context.Moves (.keepAliveTimeout now) other.tryStartTransmission := by
          refine moves_of_goes rfl rfl ⟨[], emits, ?_, secondary⟩
            (tryStartTransmission_begins sounds)
          rw [primary]
          exact .same Stimulus.noConfusion
        split
        · exact refreshed (emits_of_same rfl rfl rfl rfl rfl rfl)
            ⟨sound.frames, sound.timer, sound.segments⟩ rfl rfl
        · exact refreshed (emits_of_same rfl rfl rfl rfl rfl rfl)
            ⟨sound.frames, sound.timer, sound.segments⟩ rfl rfl
      · cases received

theorem Sound.receive (sound : Sound context) (received : context.receive input = some after) :
    Sound after := by
  obtain ⟨other, again, sounds⟩ := receive_sound sound (due_of_receive received)
  exact Option.some.inj (received.symm.trans again) ▸ sounds

/-! ## Connections -/

/-- Nothing is left of a connection when there is none. -/
structure Rests (context : LinkContext) : Prop where
  txMode : context.isOnline = false → context.txMode = .idle
  pendingPriTx : context.isOnline = false → context.pendingPriTx = none
  pendingSecTx : context.isOnline = false → context.pendingSecTx = none
  timer : context.isOnline = false → context.rspTimeoutTimer = false
  keepAlive : context.isOnline = false → context.keepAliveTimer = none
  segments : context.isOnline = false → context.segments = none

theorem rests_of_online (online : context.isOnline = true) : context.Rests := by
  have never {claim : Prop} (offline : context.isOnline = false) : claim := by
    cases online.symm.trans offline
  exact ⟨never, never, never, never, never, never⟩

theorem rests_onLowerLayerDown (rests : context.Rests) : context.onLowerLayerDown.Rests := by
  unfold onLowerLayerDown
  split
  · exact ⟨fun _ => rfl, fun _ => rfl, fun _ => rfl, fun _ => rfl, fun _ => rfl, fun _ => rfl⟩
  · exact rests

/-- Hardly anything happens when there is no connection. -/
theorem Rests.receive_offline {input : LinkInput} (rests : context.Rests)
    (offline : context.isOnline = false) (closed : ∀ now, input ≠ .lowerLayerUp now)
    (received : context.receive input = some after) :
    after = context ∨ after = context.record .txReady := by
  cases input with
  | lowerLayerUp now => exact absurd rfl (closed now)
  | lowerLayerDown =>
      obtain rfl := Option.some.inj received
      exact .inl (if_neg (by simp [offline]))
  | send segments =>
      obtain rfl := Option.some.inj received
      exact .inl (if_neg (by simp [offline]))
  | txReady =>
      simp only [LinkContext.receive, onTxReady, show (context.record .txReady).txMode = .idle
        from rests.txMode offline] at received
      exact .inr (Option.some.inj received).symm
  | frame now header userData =>
      simp only [LinkContext.receive, onFrame, offline] at received
      exact .inl (Option.some.inj received).symm
  | responseTimeout =>
      have active : context.rspTimeoutTimer = true := due_of_receive received
      cases (rests.timer offline).symm.trans active
  | keepAliveTimeout now =>
      have active : context.keepAliveTimer.any (· ≤ now) = true := due_of_receive received
      rw [rests.keepAlive offline] at active
      cases active

theorem Rests.receive {input : LinkInput} (rests : context.Rests) (sound : Sound context)
    (received : context.receive input = some after) : after.Rests := by
  by_cases down : input = .lowerLayerDown
  · subst down
    obtain rfl := Option.some.inj received
    exact rests_onLowerLayerDown rests
  cases online : context.isOnline with
  | true =>
      obtain ⟨_, _, _, _, _, emits, _⟩ := receive_moves sound down received
      exact rests_of_online (emits.of_prepare.2.1 online)
  | false =>
      by_cases up : ∃ now, input = .lowerLayerUp now
      · obtain ⟨now, rfl⟩ := up
        obtain rfl := Option.some.inj received
        rw [onLowerLayerUp, if_neg (by simp [online])]
        exact rests_of_online rfl
      · rcases rests.receive_offline online (not_exists.mp up) received with rfl | rfl
        · exact rests
        · exact ⟨rests.txMode, rests.pendingPriTx, rests.pendingSecTx, rests.timer,
            rests.keepAlive, rests.segments⟩

theorem rests_initial (config : LinkLayerConfig) (now : MonotonicTimestamp) :
    (initial config now).Rests :=
  ⟨fun _ => rfl, fun _ => rfl, fun _ => rfl, fun _ => rfl, fun _ => rfl, fun _ => rfl⟩

end LinkContext

end OpenDnp3.Link
