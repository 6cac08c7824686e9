import OpenDnp3.Link.LinkSteps

/-!
# Reports of the link status

The listener is told when the other end is reset and when it is not any more.
Data that are refused, and data that are not answered when no retries are left,
are told without the flag that decides about the next message.
-/

set_option autoImplicit false

namespace OpenDnp3.Link

open OpenDnp3.Library OpenDnp3.Transport
open OpenDnp3.Master (MonotonicTimestamp TimeDuration)

def LinkActivity.status : LinkActivity → Option LinkStatus
  | .stateChange status => some status
  | _ => none

namespace LinkContext

/-- What the listener has been told, in order. -/
def statuses (log : List LinkActivity) : List LinkStatus := log.filterMap LinkActivity.status

@[simp] theorem statuses_append (log more : List LinkActivity) :
    statuses (log ++ more) = statuses log ++ statuses more :=
  List.filterMap_append

@[simp] theorem statuses_cons (activity : LinkActivity) (log : List LinkActivity) :
    statuses (activity :: log) = activity.status.toList ++ statuses log := by
  cases told : activity.status <;> simp [statuses, told]

@[simp] theorem statuses_nil : statuses [] = [] := rfl

/-! ## Transmission -/

@[simp] theorem statuses_queueTransmit (context : LinkContext) (frame : LinkFrame)
    (primary : Bool) : statuses (context.queueTransmit frame primary).log = statuses context.log := by
  unfold queueTransmit
  split
  · simp [LinkActivity.status]
  · split <;> rfl

@[simp] theorem statuses_transmitPrimary (context : LinkContext) (frame : LinkFrame) :
    statuses (context.transmitPrimary frame).log = statuses context.log := by
  rw [transmitPrimary, statuses_queueTransmit, writePrimary]
  split
  · simp [LinkActivity.status]
  · rfl

@[simp] theorem statuses_transmitSecondary (context : LinkContext) (frame : LinkFrame) :
    statuses (context.transmitSecondary frame).log = statuses context.log := by
  rw [transmitSecondary, statuses_queueTransmit, writeSecondary]
  split
  · simp [LinkActivity.status]
  · rfl

@[simp] theorem statuses_tryPendingSecTx (context : LinkContext) :
    statuses context.tryPendingSecTx.log = statuses context.log := by
  unfold tryPendingSecTx
  split
  · simp [LinkActivity.status]
  · rfl

@[simp] theorem statuses_tryPendingPriTx (context : LinkContext) :
    statuses context.tryPendingPriTx.log = statuses context.log := by
  unfold tryPendingPriTx
  split
  · simp [LinkActivity.status]
  · rfl

/-! ## Stations -/

/-- Nothing is told, and the flag is as it was. -/
structure Silent (before after : LinkContext) : Prop where
  isOnline : after.isOnline = before.isOnline
  isRemoteReset : after.isRemoteReset = before.isRemoteReset
  statuses : statuses after.log = statuses before.log

theorem Silent.refl (context : LinkContext) : Silent context context := ⟨rfl, rfl, rfl⟩

theorem Silent.trans {before middle after : LinkContext} (left : Silent before middle)
    (right : Silent middle after) : Silent before after :=
  ⟨right.isOnline.trans left.isOnline, right.isRemoteReset.trans left.isRemoteReset,
    right.statuses.trans left.statuses⟩

theorem silent_record {context : LinkContext} {activity : LinkActivity}
    (other : activity.status = none) : Silent context (context.record activity) :=
  ⟨rfl, rfl, by simp [other]⟩

@[simp] theorem silent_transmitPrimary (context : LinkContext) (frame : LinkFrame) :
    Silent context (context.transmitPrimary frame) := by
  constructor <;> simp

theorem silent_failure (context : LinkContext) : Silent context context.failure := by
  constructor <;>
    simp [failure, cancelTimer, completeSendOperation, setPriState, LinkActivity.status]

theorem silent_transmitUnconfirmed (context : LinkContext) (segments : TransportTx) :
    Silent context (context.transmitUnconfirmed segments) := by
  constructor <;> simp [transmitUnconfirmed]

theorem silent_startResponseTimer (context : LinkContext) :
    Silent context context.startResponseTimer := by
  unfold startResponseTimer
  split
  · exact silent_record rfl
  · exact ⟨rfl, rfl, rfl⟩

theorem silent_onLinkStatus (context : LinkContext) : Silent context context.onLinkStatus := by
  unfold onLinkStatus
  split
  · exact silent_failure context
  · exact silent_failure context
  · constructor <;> simp [cancelTimer, setPriState, LinkActivity.status]
  · exact .refl context

theorem silent_onNotSupported (context : LinkContext) :
    Silent context context.onNotSupported := by
  unfold onNotSupported
  split
  · exact silent_failure context
  · exact silent_failure context
  · exact ⟨rfl, rfl, rfl⟩
  · exact .refl context

theorem silent_onPriTxReady {context after : LinkContext} (ready : context.onPriTxReady = some after) :
    Silent context after := by
  unfold onPriTxReady at ready
  split at ready
  · obtain ⟨segments, _, rfl⟩ := Option.map_eq_some_iff.mp ready
    dsimp only
    split
    · exact silent_transmitUnconfirmed context _
    · constructor <;> simp [completeSendOperation, setPriState, LinkActivity.status]
  all_goals
    obtain rfl := Option.some.inj ready
  · exact (silent_startResponseTimer context).trans ⟨rfl, rfl, rfl⟩
  · exact (silent_startResponseTimer context).trans ⟨rfl, rfl, rfl⟩
  · exact (silent_startResponseTimer context).trans ⟨rfl, rfl, rfl⟩
  · exact .refl context

theorem silent_tryStartTransmission (context : LinkContext) :
    Silent context context.tryStartTransmission := by
  refine tryStartTransmission_keeps (.refl context) ?_ ?_ ?_
  · intro before silent idle
    refine silent.trans ?_
    rw [trySendRequestLinkStatus, if_pos idle]
    constructor <;> simp [queueRequestLinkStatus, setPriState, LinkActivity.status]
  · intro before segments silent idle _
    refine silent.trans ?_
    rw [trySendConfirmed, if_pos idle]
    split
    · constructor <;> simp [transmitConfirmed, resetRetry, setPriState]
    · constructor <;> simp [queueResetLinks, resetRetry, setPriState]
  · intro before segments silent idle _
    refine silent.trans ?_
    rw [trySendUnconfirmed, if_pos idle]
    constructor <;> simp [transmitUnconfirmed, setPriState]

theorem silent_onTestLinkStatus (context : LinkContext) (source : UInt16) (fcb : Bool) :
    Silent context (context.onTestLinkStatus source fcb) := by
  unfold onTestLinkStatus
  split
  · split
    · constructor <;> simp [queueAck, setSecState]
    · exact .refl context
  · exact .refl context

theorem silent_onConfirmedUserData (context : LinkContext) (source : UInt16) (fcb : Bool)
    (message : Message) : Silent context (context.onConfirmedUserData source fcb message) := by
  unfold onConfirmedUserData
  split
  · dsimp only
    split
    · constructor <;> simp [queueAck, setSecState, pushDataUp, LinkActivity.status]
    · constructor <;> simp [queueAck, setSecState]
  · exact .refl context

theorem silent_onResetLinkStates (context : LinkContext) (source : UInt16) :
    Silent context (context.onResetLinkStates source) := by
  unfold onResetLinkStates
  split
  · constructor <;> simp [queueAck, setSecState]
  · constructor <;> simp [queueAck, setSecState]
  · exact .refl context

theorem silent_onRequestLinkStatus (context : LinkContext) (source : UInt16) :
    Silent context (context.onRequestLinkStatus source) := by
  unfold onRequestLinkStatus
  split
  · constructor <;> simp [queueLinkStatus, setSecState]
  · constructor <;> simp [queueLinkStatus, setSecState]
  · exact .refl context

theorem silent_onSecTxReady (context : LinkContext) : Silent context context.onSecTxReady := by
  unfold onSecTxReady
  split
  · exact ⟨rfl, rfl, rfl⟩
  · exact ⟨rfl, rfl, rfl⟩
  · exact .refl context

theorem silent_onTxReady {context after : LinkContext} (ready : context.onTxReady = some after) :
    Silent context after := by
  unfold onTxReady at ready
  have done : Silent context (context.record .txReady) := silent_record rfl
  have pending : Silent (context.record .txReady)
      { context.record .txReady with txMode := .idle }.tryPendingSecTx.tryPendingPriTx := by
    constructor <;> simp
  dsimp only at ready
  split at ready
  · obtain rfl := Option.some.inj ready
    exact done
  · obtain ⟨middle, handled, rfl⟩ := Option.map_eq_some_iff.mp ready
    exact ((done.trans pending).trans (silent_onPriTxReady handled)).trans
      (silent_tryStartTransmission middle)
  · obtain rfl := Option.some.inj ready
    exact ((done.trans pending).trans (silent_onSecTxReady _)).trans
      (silent_tryStartTransmission _)

/-! ## Runs -/

/-- The flag is what the listener has been told last. -/
structure Reported (context : LinkContext) : Prop where
  offline : context.isOnline = false → context.isRemoteReset = false
  status : context.isRemoteReset = true ↔ (statuses context.log).getLast? = some .reset

theorem Silent.reported {before after : LinkContext} (silent : Silent before after)
    (reported : Reported before) : Reported after where
  offline := by
    rw [silent.isOnline, silent.isRemoteReset]
    exact reported.offline
  status := by
    rw [silent.isRemoteReset, silent.statuses]
    exact reported.status

/-- Data that wait for an answer are not refused, and they are answered before the last
timeout. -/
def AnswersData (context : LinkContext) : LinkInput → Prop
  | .frame _ header _ =>
      ¬ (context.Accepts header ∧ header.func = .secNack ∧ context.priState = .confDataWait)
  | .responseTimeout => ¬ (context.priState = .confDataWait ∧ context.numRetryRemaining = 0)
  | _ => True

instance : DecidableRel AnswersData
  | _, .frame _ _ _ => inferInstanceAs (Decidable (¬ _))
  | _, .responseTimeout => inferInstanceAs (Decidable (¬ _))
  | _, .lowerLayerUp _ | _, .lowerLayerDown | _, .send _ | _, .txReady | _, .keepAliveTimeout _ =>
      .isTrue trivial

theorem onAck_reported {context after : LinkContext} (reported : Reported context)
    (online : context.isOnline = true) (handled : context.onAck = some after) : Reported after := by
  unfold onAck at handled
  split at handled
  · obtain ⟨segments, _, rfl⟩ := Option.map_eq_some_iff.mp handled
    -- the flag is set, and the listener is told
    constructor
    · simp [online, setPriState, onStateChange, cancelTimer, transmitConfirmed]
    · simp [setPriState, onStateChange, cancelTimer, transmitConfirmed, LinkActivity.status]
  · obtain ⟨segments, _, rfl⟩ := Option.map_eq_some_iff.mp handled
    dsimp only
    split
    · refine Silent.reported ?_ reported
      constructor <;> simp [transmitConfirmed, cancelTimer, setPriState]
    · refine Silent.reported ?_ reported
      constructor <;> simp [completeSendOperation, cancelTimer, setPriState, LinkActivity.status]
  · obtain rfl := Option.some.inj handled
    exact reported

theorem silent_onNack {context after : LinkContext} {rxBuffFull : Bool}
    (other : context.priState ≠ .confDataWait) (handled : context.onNack rxBuffFull = some after) :
    Silent context after := by
  unfold onNack at handled
  split at handled
  · obtain rfl := Option.some.inj handled
    exact silent_failure context
  · rename_i waits
    exact absurd waits other
  · obtain rfl := Option.some.inj handled
    exact ⟨rfl, rfl, rfl⟩
  · obtain rfl := Option.some.inj handled
    exact .refl context

theorem silent_onTimeout {context after : LinkContext}
    (retries : ¬ (context.priState = .confDataWait ∧ context.numRetryRemaining = 0))
    (handled : context.onTimeout = some after) : Silent context after := by
  unfold onTimeout at handled
  split at handled
  · split at handled
    · obtain rfl := Option.some.inj handled
      constructor <;> simp [queueResetLinks, setPriState]
    · obtain rfl := Option.some.inj handled
      constructor <;> simp [completeSendOperation, setPriState, LinkActivity.status]
  · rename_i waits
    split at handled
    · obtain ⟨segments, _, rfl⟩ := Option.map_eq_some_iff.mp handled
      constructor <;> simp [transmitConfirmed, setPriState]
    · rename_i last
      exact absurd ⟨waits, UInt32.not_lt.mp last |> UInt32.le_zero_iff.mp⟩ retries
  · obtain rfl := Option.some.inj handled
    constructor <;> simp [setPriState, LinkActivity.status]
  · obtain rfl := Option.some.inj handled
    exact .refl context

theorem dispatch_reported {context after : LinkContext} {header : LinkHeaderFields}
    {userData : List UInt8} (reported : Reported context) (online : context.isOnline = true)
    (answers : ¬ (header.func = .secNack ∧ context.priState = .confDataWait))
    (handled : context.dispatch header userData = some after) : Reported after := by
  unfold dispatch at handled
  split at handled
  case h_1 => exact onAck_reported reported online handled
  case h_2 nack =>
    exact (silent_onNack (fun waits => answers ⟨nack, waits⟩) handled).reported reported
  all_goals
    obtain rfl := Option.some.inj handled
  · exact (silent_onLinkStatus context).reported reported
  · exact (silent_onNotSupported context).reported reported
  · exact (silent_onTestLinkStatus context _ _).reported reported
  · exact (silent_onResetLinkStates context _).reported reported
  · exact (silent_onRequestLinkStatus context _).reported reported
  · exact (silent_onConfirmedUserData context _ _ _).reported reported
  · exact (silent_record rfl).reported reported
  · exact reported

theorem onFrame_reported {context after : LinkContext} {now : MonotonicTimestamp}
    {header : LinkHeaderFields} {userData : List UInt8} (reported : Reported context)
    (answers : context.AnswersData (.frame now header userData))
    (handled : context.onFrame now header userData = some after) : Reported after := by
  by_cases accepts : context.Accepts header
  · rw [onFrame_of_accepts accepts] at handled
    obtain ⟨middle, dispatched, rfl⟩ := Option.map_eq_some_iff.mp handled
    have kept : Reported { context with lastMessageTimestamp := now } :=
      ⟨reported.offline, reported.status⟩
    exact (silent_tryStartTransmission middle).reported
      (dispatch_reported kept accepts.1 (fun nack => answers ⟨accepts, nack⟩) dispatched)
  · obtain same | same | same := onFrame_of_not_accepts accepts now userData
    all_goals
      rw [same] at handled
      obtain rfl := Option.some.inj handled
    · exact reported
    · exact (silent_record rfl).reported reported
    · exact (silent_record rfl).reported reported

theorem receive_reported {context after : LinkContext} {input : LinkInput}
    (reported : Reported context) (answers : context.AnswersData input)
    (received : context.receive input = some after) : Reported after := by
  cases input with
  | lowerLayerUp now =>
      obtain rfl := Option.some.inj received
      unfold onLowerLayerUp
      split
      · exact reported
      · rename_i offline
        have unset := reported.offline (by simpa using offline)
        constructor
        · simp [onStateChange, startKeepAliveTimer]
        · simp [onStateChange, startKeepAliveTimer, unset, LinkActivity.status]
  | lowerLayerDown =>
      obtain rfl := Option.some.inj received
      unfold onLowerLayerDown
      split
      · constructor <;> simp [onStateChange, LinkActivity.status]
      · exact reported
  | send segments =>
      obtain rfl := Option.some.inj received
      unfold send
      split
      · refine (silent_tryStartTransmission _).reported (Silent.reported ?_ reported)
        constructor <;> simp [LinkActivity.status]
      · exact reported
  | txReady => exact (silent_onTxReady received).reported reported
  | frame now header userData => exact onFrame_reported reported answers received
  | responseTimeout =>
      simp only [receive] at received
      split at received
      · obtain ⟨middle, handled, rfl⟩ := Option.map_eq_some_iff.mp received
        have stopped : Silent context { context with rspTimeoutTimer := false } := ⟨rfl, rfl, rfl⟩
        exact ((stopped.trans (silent_onTimeout answers handled)).trans
          (silent_tryStartTransmission middle)).reported reported
      · cases received
  | keepAliveTimeout now =>
      simp only [receive] at received
      split at received
      · obtain rfl := Option.some.inj received
        unfold onKeepAliveTimeout
        refine (silent_tryStartTransmission _).reported (Silent.reported ?_ reported)
        dsimp only
        split <;> exact ⟨rfl, rfl, rfl⟩
      · cases received

/-- As long as no data are refused and none are without an answer in the end, the other end is
taken to be reset when the listener has been told so. -/
theorem reported_of_reachesWhile {config : LinkLayerConfig} {now : MonotonicTimestamp}
    {context : LinkContext}
    (reached : machine.ReachesWhile AnswersData (initial config now) context) :
    context.isRemoteReset = true ↔ (statuses context.log).getLast? = some .reset := by
  refine Reported.status (reached.invariant ?_ ?_)
  · constructor
    · intro _
      rfl
    · simp [initial, statuses]
  · intro before after input _ reported answers stepped
    obtain ⟨received, same, next⟩ := Option.map_eq_some_iff.mp stepped
    obtain ⟨rfl, _⟩ := Prod.mk.inj next
    exact receive_reported reported answers same

private def confirming : LinkLayerConfig :=
  { isMaster := true, useConfirms := true, localAddr := 1, remoteAddr := 10 }

private def acknowledgement : LinkHeaderFields := ⟨.secAck, false, false, false, 1, 10⟩

/-- A link is reset for a message, and the data are sent and answered. -/
private def confirmed : List LinkInput :=
  [.lowerLayerUp 0, .send { message := ⟨⟨1, 10⟩, [0xC0]⟩ }, .txReady, .frame 0 acknowledgement [],
    .txReady]

theorem reported_confirmed :
    ∃ context, machine.Reaches (initial confirming 0) context ∧ context.priState = .idle ∧
      context.isRemoteReset = true ∧ (statuses context.log).getLast? = some .reset := by
  obtain ⟨context, reached, check⟩ := @Machine.exists_reachesWhile_of_runWhile _ _ _ machine
    AnswersData _ (initial confirming 0)
    (fun context => context.priState = .idle && context.isRemoteReset)
    (confirmed ++ [.frame 0 acknowledgement []]) (by decide +kernel)
  obtain ⟨idle, reset⟩ := Bool.and_eq_true_iff.mp check
  exact ⟨context, reached.reaches, of_decide_eq_true idle, reset,
    (reported_of_reachesWhile reached).mp reset⟩

/-- Data are not answered, and no retries are left. -/
theorem not_reported :
    ∃ context, machine.Reaches (initial confirming 0) context ∧
      ¬ (context.isRemoteReset = true ↔ (statuses context.log).getLast? = some .reset) := by
  obtain ⟨context, reached, check⟩ := @Machine.exists_reaches_of_run _ _ _ machine
    (initial confirming 0) (fun context => context.isRemoteReset &&
      (statuses context.log).getLast? = some .unreset) (confirmed ++ [.responseTimeout])
    (by decide +kernel)
  obtain ⟨reset, told⟩ := Bool.and_eq_true_iff.mp check
  refine ⟨context, reached, fun same => ?_⟩
  rw [of_decide_eq_true told] at same
  cases same.mp reset

end LinkContext

end OpenDnp3.Link
