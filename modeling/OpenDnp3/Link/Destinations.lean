import OpenDnp3.Library.History
import OpenDnp3.Link.Stations

/-!
# Destinations

The frames of a message go where the message goes. A link reset that is sent
again because it has not been answered goes to the other end that is configured.
-/

set_option autoImplicit false

namespace OpenDnp3.Link

open OpenDnp3.Library OpenDnp3.Transport
open OpenDnp3.Master (MonotonicTimestamp TimeDuration)

/-- Whether a frame with the function is a part of the transmission of a message. -/
def LinkFunction.carries : LinkFunction → Bool
  | .priResetLinkStates | .priConfirmedUserData | .priUnconfirmedUserData => true
  | _ => false

/-- The addresses of the message that is transmitted. -/
def LinkActivity.sending : Option Addresses → LinkActivity → Option Addresses
  | _, .take addresses => some addresses
  | _, .postTxReady | _, .lowerLayerDown => none
  | addresses, _ => addresses

/-- A frame of a message goes to the destination of the message. -/
def LinkActivity.Addressed (before : List LinkActivity) : LinkActivity → Prop
  | .beginTransmit frame => frame.header.func.carries = true →
      ∀ addresses, before.foldl LinkActivity.sending none = some addresses →
        frame.header.dest = addresses.destination
  | _ => True

/-- An activity that neither transmits nor is about a message. -/
def LinkActivity.aside : LinkActivity → Bool
  | .beginTransmit _ | .take _ | .postTxReady | .lowerLayerDown => false
  | _ => true

theorem LinkActivity.foldl_sending (log : List LinkActivity) (activity : LinkActivity) :
    (log ++ [activity]).foldl LinkActivity.sending none =
      activity.sending (log.foldl LinkActivity.sending none) := by
  rw [List.foldl_append, List.foldl_cons, List.foldl_nil]

namespace LinkContext

variable {context : LinkContext} {frame : LinkFrame}

/-- A frame goes where the message goes that is held. -/
def Directed (context : LinkContext) (frame : LinkFrame) : Prop :=
  frame.header.func.carries = true → ∃ segments, context.segments = some segments ∧
    frame.header.dest = segments.message.addresses.destination

/-- The frames so far went where their messages go, and so will those that are pending. -/
structure Bound (context : LinkContext) : Prop where
  sending : context.log.foldl LinkActivity.sending none =
    context.segments.map (·.message.addresses)
  addressed : Lawful LinkActivity.Addressed context.log
  pendingPri : ∀ frame, context.pendingPriTx = some frame → context.Directed frame
  pendingSec : ∀ frame, context.pendingSecTx = some frame → frame.header.func.carries = false

/-! ## Transmission -/

theorem Bound.record {activity : LinkActivity} (bound : Bound context)
    (aside : activity.aside = true) : Bound (context.record activity) where
  sending := by
    rw [record_log, LinkActivity.foldl_sending, bound.sending]
    cases activity <;> first | rfl | cases aside
  addressed := by
    refine bound.addressed.concat ?_
    cases activity <;> trivial
  pendingPri := bound.pendingPri
  pendingSec := bound.pendingSec

theorem Bound.beginTransmit (bound : Bound context) (directed : context.Directed frame) :
    Bound (context.record (.beginTransmit frame)) where
  sending := by
    rw [record_log, LinkActivity.foldl_sending, bound.sending]
    rfl
  addressed := by
    refine bound.addressed.concat ?_
    intro carries addresses current
    obtain ⟨segments, held, same⟩ := directed carries
    rw [bound.sending, held] at current
    rw [same, ← Option.some.inj current]
  pendingPri := bound.pendingPri
  pendingSec := bound.pendingSec

theorem directed_of_other (other : frame.header.func.carries = false) : context.Directed frame := by
  intro carries
  cases other.symm.trans carries

theorem Bound.queueTransmit {primary : Bool} (bound : Bound context)
    (directed : context.Directed frame)
    (answer : primary = false → frame.header.func.carries = false) :
    Bound (context.queueTransmit frame primary) := by
  unfold LinkContext.queueTransmit
  split
  · have moded : Bound { context with txMode := if primary then .primary else .secondary } :=
      ⟨bound.sending, bound.addressed, bound.pendingPri, bound.pendingSec⟩
    exact moded.beginTransmit directed
  · split
    · refine ⟨bound.sending, bound.addressed, ?_, bound.pendingSec⟩
      rintro _ ⟨⟩
      exact directed
    · rename_i secondary
      refine ⟨bound.sending, bound.addressed, bound.pendingPri, ?_⟩
      rintro _ ⟨⟩
      exact answer (by simpa using secondary)

theorem Bound.transmitPrimary (bound : Bound context) (directed : context.Directed frame) :
    Bound (context.transmitPrimary frame) := by
  have written : Bound { context with priTxBuffer := some frame } :=
    ⟨bound.sending, bound.addressed, bound.pendingPri, bound.pendingSec⟩
  refine Bound.queueTransmit ?_ ?_ (by rintro ⟨⟩)
  · unfold writePrimary
    split
    · exact written.record rfl
    · exact written
  · simpa [Directed] using directed

theorem Bound.transmitSecondary (bound : Bound context) (answer : frame.header.func.carries = false) :
    Bound (context.transmitSecondary frame) := by
  have written : Bound { context with secTxBuffer := some frame } :=
    ⟨bound.sending, bound.addressed, bound.pendingPri, bound.pendingSec⟩
  refine Bound.queueTransmit ?_ (directed_of_other answer) fun _ => answer
  unfold writeSecondary
  split
  · exact written.record rfl
  · exact written

theorem Bound.tryPendingSecTx (bound : Bound context) : Bound context.tryPendingSecTx := by
  unfold LinkContext.tryPendingSecTx
  split
  · rename_i frame _ held
    have taken : Bound { context with pendingSecTx := none, txMode := .secondary } :=
      ⟨bound.sending, bound.addressed, bound.pendingPri, by rintro _ ⟨⟩⟩
    exact taken.beginTransmit (directed_of_other (bound.pendingSec frame held))
  · exact bound

theorem Bound.tryPendingPriTx (bound : Bound context) : Bound context.tryPendingPriTx := by
  unfold LinkContext.tryPendingPriTx
  split
  · rename_i frame _ held
    have taken : Bound { context with pendingPriTx := none, txMode := .primary } :=
      ⟨bound.sending, bound.addressed, by rintro _ ⟨⟩, bound.pendingSec⟩
    exact taken.beginTransmit (bound.pendingPri frame held)
  · exact bound

/-- The message that is held goes to the same addresses. -/
theorem Bound.updates {segments other : TransportTx} (bound : Bound context)
    (held : context.segments = some segments)
    (same : other.message.addresses = segments.message.addresses) :
    Bound { context with segments := some other } := by
  have directed : ∀ {frame}, context.Directed frame →
      Directed { context with segments := some other } frame := by
    intro frame directed carries
    obtain ⟨current, holds, dest⟩ := directed carries
    rw [held] at holds
    obtain rfl := Option.some.inj holds
    exact ⟨other, rfl, by rw [dest, same]⟩
  refine ⟨?_, bound.addressed, fun frame pending => directed (bound.pendingPri frame pending),
    bound.pendingSec⟩
  rw [bound.sending, held]
  exact congrArg some same.symm

theorem Bound.transmitConfirmed {segments other : TransportTx} (bound : Bound context)
    (held : context.segments = some segments)
    (same : other.message.addresses = segments.message.addresses) :
    Bound (context.transmitConfirmed other) := by
  have kept : other.getSegment.1.message.addresses = segments.message.addresses := by
    rw [TransportTx.message_getSegment, same]
  exact (bound.updates held kept).transmitPrimary fun _ => ⟨_, rfl, rfl⟩

theorem Bound.transmitUnconfirmed {segments other : TransportTx} (bound : Bound context)
    (held : context.segments = some segments)
    (same : other.message.addresses = segments.message.addresses) :
    Bound (context.transmitUnconfirmed other) := by
  have kept : other.getSegment.1.message.addresses = segments.message.addresses := by
    rw [TransportTx.message_getSegment, same]
  exact (bound.updates held kept).transmitPrimary fun _ => ⟨_, rfl, rfl⟩

theorem addresses_advance (segments : TransportTx) :
    segments.advance.1.message.addresses = segments.message.addresses := rfl

/-- A message is done with when none of its frames is pending. -/
theorem Bound.completes (bound : Bound context) (idle : context.pendingPriTx = none) :
    Bound context.completeSendOperation where
  sending := by
    rw [completeSendOperation, record_log, LinkActivity.foldl_sending]
    rfl
  addressed := bound.addressed.concat trivial
  pendingPri := by
    intro frame pending
    cases idle.symm.trans pending
  pendingSec := bound.pendingSec

/-! ## Stations -/

theorem Bound.setPriState (bound : Bound context) (state : PriState) :
    Bound (context.setPriState state) :=
  ⟨bound.sending, bound.addressed, bound.pendingPri, bound.pendingSec⟩

theorem Bound.setSecState (bound : Bound context) (state : SecState) :
    Bound (context.setSecState state) :=
  ⟨bound.sending, bound.addressed, bound.pendingPri, bound.pendingSec⟩

theorem Bound.cancelTimer (bound : Bound context) : Bound context.cancelTimer :=
  ⟨bound.sending, bound.addressed, bound.pendingPri, bound.pendingSec⟩

theorem Bound.startResponseTimer (bound : Bound context) : Bound context.startResponseTimer := by
  unfold LinkContext.startResponseTimer
  split
  · exact bound.record rfl
  · exact ⟨bound.sending, bound.addressed, bound.pendingPri, bound.pendingSec⟩

theorem Bound.failure (bound : Bound context) (idle : context.pendingPriTx = none) :
    Bound context.failure :=
  (bound.cancelTimer.completes idle).setPriState .idle

theorem Sound.pendingPriTx_eq {state : PriState} (sound : Sound context)
    (current : context.priState = state) (done : state.transmits = none) :
    context.pendingPriTx = none :=
  (sound.free_of current done).pendingPriTx_eq

theorem onAck_bound {after : LinkContext} (sound : Sound context) (bound : Bound context)
    (handled : context.onAck = some after) : Bound after := by
  unfold onAck at handled
  split at handled
  · obtain ⟨segments, held, rfl⟩ := Option.map_eq_some_iff.mp handled
    have updated : Bound { context with isRemoteReset := true, nextWriteFCB := true }.cancelTimer :=
      ⟨bound.sending, bound.addressed, bound.pendingPri, bound.pendingSec⟩
    exact ((updated.transmitConfirmed held rfl).record rfl).setPriState _
  · rename_i state
    obtain ⟨segments, held, rfl⟩ := Option.map_eq_some_iff.mp handled
    have updated : Bound { context with nextWriteFCB := !context.nextWriteFCB }.cancelTimer :=
      ⟨bound.sending, bound.addressed, bound.pendingPri, bound.pendingSec⟩
    dsimp only
    split
    · exact (updated.transmitConfirmed held (addresses_advance segments)).setPriState _
    · exact (updated.completes (sound.pendingPriTx_eq state rfl)).setPriState _
  · obtain rfl := Option.some.inj handled
    exact bound

theorem onNack_bound {after : LinkContext} {rxBuffFull : Bool} (sound : Sound context)
    (bound : Bound context) (handled : context.onNack rxBuffFull = some after) : Bound after := by
  unfold onNack at handled
  split at handled
  · rename_i state
    obtain rfl := Option.some.inj handled
    exact bound.failure (sound.pendingPriTx_eq state rfl)
  · rename_i state
    have told : Bound (context.onStateChange .unreset) := bound.record rfl
    dsimp only at handled
    split at handled
    · obtain rfl := Option.some.inj handled
      exact told.failure (sound.pendingPriTx_eq state rfl)
    · obtain ⟨segments, held, rfl⟩ := Option.map_eq_some_iff.mp handled
      have updated : Bound (context.onStateChange .unreset).resetRetry.cancelTimer :=
        ⟨told.sending, told.addressed, told.pendingPri, told.pendingSec⟩
      exact (updated.transmitPrimary fun _ => ⟨segments, held, rfl⟩).setPriState _
  · obtain rfl := Option.some.inj handled
    exact bound.cancelTimer.setPriState _
  · obtain rfl := Option.some.inj handled
    exact bound

theorem onLinkStatus_bound (sound : Sound context) (bound : Bound context) :
    Bound context.onLinkStatus := by
  unfold onLinkStatus
  split
  · rename_i state
    exact bound.failure (sound.pendingPriTx_eq state rfl)
  · rename_i state
    exact bound.failure (sound.pendingPriTx_eq state rfl)
  · exact (bound.cancelTimer.record rfl).setPriState _
  · exact bound

theorem onNotSupported_bound (sound : Sound context) (bound : Bound context) :
    Bound context.onNotSupported := by
  unfold onNotSupported
  split
  · rename_i state
    exact bound.failure (sound.pendingPriTx_eq state rfl)
  · rename_i state
    exact bound.failure (sound.pendingPriTx_eq state rfl)
  · exact bound.cancelTimer.setPriState _
  · exact bound

/-- A link reset that is not answered is sent again to the other end that is configured, and the
message goes there. -/
theorem onTimeout_bound {after : LinkContext} (sound : Sound context) (bound : Bound context)
    (same : context.priState = .resetLinkWait → 0 < context.numRetryRemaining →
      ∀ segments, context.segments = some segments →
        segments.message.addresses.destination = context.config.remoteAddr)
    (handled : { context with rspTimeoutTimer := false }.onTimeout = some after) : Bound after := by
  have stopped : Bound { context with rspTimeoutTimer := false } := bound.cancelTimer
  have retried : Bound { context with
      rspTimeoutTimer := false
      numRetryRemaining := context.numRetryRemaining - 1 } :=
    ⟨bound.sending, bound.addressed, bound.pendingPri, bound.pendingSec⟩
  unfold onTimeout at handled
  dsimp only at handled
  split at handled
  · rename_i state
    split at handled
    · rename_i retries
      obtain rfl := Option.some.inj handled
      obtain ⟨segments, held⟩ := sound.segments_of state rfl
      refine (retried.transmitPrimary fun _ => ⟨segments, held, ?_⟩).setPriState _
      exact (same state retries segments held).symm
    · obtain rfl := Option.some.inj handled
      exact (stopped.completes (sound.pendingPriTx_eq state rfl)).setPriState _
  · rename_i state
    split at handled
    · obtain ⟨segments, held, rfl⟩ := Option.map_eq_some_iff.mp handled
      exact (retried.transmitConfirmed held rfl).setPriState _
    · obtain rfl := Option.some.inj handled
      exact (Bound.completes (stopped.record rfl) (sound.pendingPriTx_eq state rfl)).setPriState _
  · obtain rfl := Option.some.inj handled
    exact (stopped.record rfl).setPriState _
  · obtain rfl := Option.some.inj handled
    exact stopped

theorem tryStartTransmission_bound (bound : Bound context) : Bound context.tryStartTransmission := by
  refine tryStartTransmission_keeps bound ?_ ?_ ?_
  · intro before bound idle
    rw [trySendRequestLinkStatus, if_pos idle]
    have updated : Bound { before with keepAliveTimeout := false } :=
      ⟨bound.sending, bound.addressed, bound.pendingPri, bound.pendingSec⟩
    exact ((updated.transmitPrimary (directed_of_other rfl)).record rfl).setPriState _
  · intro before segments bound idle held
    rw [trySendConfirmed, if_pos idle]
    have updated : Bound before.resetRetry :=
      ⟨bound.sending, bound.addressed, bound.pendingPri, bound.pendingSec⟩
    split
    · exact (updated.transmitConfirmed held rfl).setPriState _
    · exact (updated.transmitPrimary fun _ => ⟨segments, held, rfl⟩).setPriState _
  · intro before segments bound idle held
    rw [trySendUnconfirmed, if_pos idle]
    exact (bound.transmitUnconfirmed held rfl).setPriState _

theorem onPriTxReady_bound {after : LinkContext} (bound : Bound context)
    (idle : context.pendingPriTx = none) (handled : context.onPriTxReady = some after) :
    Bound after := by
  unfold onPriTxReady at handled
  split at handled
  · obtain ⟨segments, held, rfl⟩ := Option.map_eq_some_iff.mp handled
    dsimp only
    split
    · exact bound.transmitUnconfirmed held (addresses_advance segments)
    · exact (bound.completes idle).setPriState _
  all_goals
    obtain rfl := Option.some.inj handled
  · exact bound.startResponseTimer.setPriState _
  · exact bound.startResponseTimer.setPriState _
  · exact bound.startResponseTimer.setPriState _
  · exact bound

theorem onTxReady_bound {after : LinkContext} (sound : Sound context) (bound : Bound context)
    (handled : context.onTxReady = some after) : Bound after := by
  obtain ⟨pri, sec, queues, _, _⟩ := sound.frames
  have done : Bound (context.record .txReady) := bound.record rfl
  have moded : Bound { context.record .txReady with txMode := .idle } :=
    ⟨done.sending, done.addressed, done.pendingPri, done.pendingSec⟩
  have pending := moded.tryPendingSecTx.tryPendingPriTx
  unfold onTxReady at handled
  dsimp only at handled
  split at handled
  · obtain rfl := Option.some.inj handled
    exact done
  · rename_i mode
    obtain ⟨middle, ready, rfl⟩ := Option.map_eq_some_iff.mp handled
    exact tryStartTransmission_bound (onPriTxReady_bound pending
      (queues.txReady_primary mode).slots.pendingPri_none ready)
  · obtain rfl := Option.some.inj handled
    refine tryStartTransmission_bound ?_
    unfold onSecTxReady
    split
    · exact pending.setSecState _
    · exact pending.setSecState _
    · exact pending

/-! ## Runs -/

/-- No link reset is sent again to the configured end when the message goes to another. -/
def ResendsReset (context : LinkContext) : LinkInput → Prop
  | .responseTimeout =>
      context.priState = .resetLinkWait → 0 < context.numRetryRemaining →
        ∀ segments ∈ context.segments,
          segments.message.addresses.destination = context.config.remoteAddr
  | _ => True

instance : DecidableRel ResendsReset
  | context, .responseTimeout =>
      inferInstanceAs (Decidable (context.priState = .resetLinkWait → _ →
        ∀ segments ∈ context.segments,
          segments.message.addresses.destination = context.config.remoteAddr))
  | _, .lowerLayerUp _ | _, .lowerLayerDown | _, .send _ | _, .txReady | _, .frame _ _ _
  | _, .keepAliveTimeout _ => .isTrue trivial

theorem dispatch_bound {after : LinkContext} {header : LinkHeaderFields} {userData : List UInt8}
    (sound : Sound context) (bound : Bound context)
    (handled : context.dispatch header userData = some after) : Bound after := by
  unfold dispatch at handled
  split at handled
  case h_1 => exact onAck_bound sound bound handled
  case h_2 => exact onNack_bound sound bound handled
  all_goals
    obtain rfl := Option.some.inj handled
  · exact onLinkStatus_bound sound bound
  · exact onNotSupported_bound sound bound
  · unfold onTestLinkStatus
    split
    · split
      · have answered : Bound (context.queueAck header.src) := bound.transmitSecondary rfl
        exact ⟨answered.sending, answered.addressed, answered.pendingPri, answered.pendingSec⟩
      · exact bound
    · exact bound
  · have answered : Bound (context.queueAck header.src) := bound.transmitSecondary rfl
    unfold onResetLinkStates
    split
    · exact ⟨answered.sending, answered.addressed, answered.pendingPri, answered.pendingSec⟩
    · exact ⟨answered.sending, answered.addressed, answered.pendingPri, answered.pendingSec⟩
    · exact bound
  · have answered : Bound (context.queueLinkStatus header.src) := bound.transmitSecondary rfl
    unfold onRequestLinkStatus
    split
    · exact answered.setSecState _
    · exact answered.setSecState _
    · exact bound
  · have answered : Bound (context.queueAck header.src) := bound.transmitSecondary rfl
    unfold onConfirmedUserData
    split
    · dsimp only
      split
      · have updated : Bound { context.queueAck header.src with
            nextReadFCB := !(context.queueAck header.src).nextReadFCB } :=
          ⟨answered.sending, answered.addressed, answered.pendingPri, answered.pendingSec⟩
        exact Bound.setSecState (updated.record rfl) _
      · exact answered.setSecState _
    · exact bound
  · exact bound.record rfl
  · exact bound

theorem receive_bound {after : LinkContext} {input : LinkInput} (sound : Sound context)
    (bound : Bound context) (same : context.ResendsReset input)
    (received : context.receive input = some after) : Bound after := by
  cases input with
  | lowerLayerUp now =>
      obtain rfl := Option.some.inj received
      unfold onLowerLayerUp
      split
      · exact bound
      · have updated : Bound ({ context with
            isOnline := true, lastMessageTimestamp := now }.startKeepAliveTimer
            (now.add context.config.keepAliveTimeout)) :=
          ⟨bound.sending, bound.addressed, bound.pendingPri, bound.pendingSec⟩
        exact Bound.record (@Bound.record _ (.stateChange .unreset) updated rfl) rfl
  | lowerLayerDown =>
      obtain rfl := Option.some.inj received
      unfold onLowerLayerDown
      split
      · refine ⟨?_, ?_, by rintro _ ⟨⟩, by rintro _ ⟨⟩⟩
        · rw [record_log, LinkActivity.foldl_sending]
          rfl
        · have told : Bound (context.onStateChange .unreset) := bound.record rfl
          exact told.addressed.concat trivial
      · exact bound
  | send segments =>
      obtain rfl := Option.some.inj received
      unfold send
      split
      · rename_i accepted
        refine tryStartTransmission_bound ⟨?_, bound.addressed.concat trivial, ?_,
          bound.pendingSec⟩
        · rw [record_log, LinkActivity.foldl_sending]
          rfl
        · intro frame pending carries
          obtain ⟨current, held, _⟩ := bound.pendingPri frame pending carries
          cases accepted.2.symm.trans held
      · exact bound
  | txReady => exact onTxReady_bound sound bound received
  | frame now header userData =>
      by_cases accepts : context.Accepts header
      · rw [receive, onFrame_of_accepts accepts] at received
        obtain ⟨middle, dispatched, rfl⟩ := Option.map_eq_some_iff.mp received
        have kept : Sound { context with lastMessageTimestamp := now } :=
          ⟨sound.frames, sound.timer, sound.segments⟩
        exact tryStartTransmission_bound (dispatch_bound kept
          ⟨bound.sending, bound.addressed, bound.pendingPri, bound.pendingSec⟩ dispatched)
      · rw [receive] at received
        obtain same | same | same := onFrame_of_not_accepts accepts now userData
        all_goals
          rw [same] at received
          obtain rfl := Option.some.inj received
        · exact bound
        · exact bound.record rfl
        · exact bound.record rfl
  | responseTimeout =>
      simp only [receive] at received
      split at received
      · obtain ⟨middle, handled, rfl⟩ := Option.map_eq_some_iff.mp received
        exact tryStartTransmission_bound (onTimeout_bound sound bound same handled)
      · cases received
  | keepAliveTimeout now =>
      simp only [receive] at received
      split at received
      · obtain rfl := Option.some.inj received
        unfold onKeepAliveTimeout
        refine tryStartTransmission_bound ?_
        dsimp only
        split <;> exact ⟨bound.sending, bound.addressed, bound.pendingPri, bound.pendingSec⟩
      · cases received

/-- As long as no link reset is sent again for a message to another end than the one configured,
every frame of a message has gone to its destination. -/
theorem addressed_of_reachesWhile {config : LinkLayerConfig} {now : MonotonicTimestamp}
    (reached : machine.ReachesWhile ResendsReset (initial config now) context) :
    Lawful LinkActivity.Addressed context.log := by
  have both := @Machine.ReachesWhile.invariant _ _ _ _ _ _ _
    (fun context => Sound context ∧ Bound context) reached
  refine (both ⟨sound_of_reaches .start, rfl, .nil, by rintro _ ⟨⟩, by rintro _ ⟨⟩⟩ ?_).2.addressed
  rintro before after input _ ⟨sound, bound⟩ same stepped
  obtain ⟨received, accepted, next⟩ := Option.map_eq_some_iff.mp stepped
  obtain ⟨rfl, _⟩ := Prod.mk.inj next
  obtain ⟨other, again, sounds⟩ := receive_sound sound (due_of_receive accepted)
  obtain rfl := Option.some.inj (accepted.symm.trans again)
  exact ⟨sounds, receive_bound sound bound same accepted⟩

private def retrying : LinkLayerConfig :=
  { isMaster := false, useConfirms := true, numRetry := 1, localAddr := 10, remoteAddr := 1,
    respondToAnySource := true }

/-- A link reset for a message is not answered. -/
private def unanswered (destination : UInt16) : List LinkInput :=
  [.lowerLayerUp 0, .send { message := ⟨⟨10, destination⟩, [0xC0]⟩ }, .txReady, .responseTimeout]

theorem addressed_resent :
    ∃ context, machine.Reaches (initial retrying 0) context ∧
      LinkActivity.allBegun context.log =
        [.formatResetLinkStates false 1 10, .formatResetLinkStates false 1 10] ∧
      Lawful LinkActivity.Addressed context.log := by
  obtain ⟨context, reached, check⟩ := @Machine.exists_reachesWhile_of_runWhile _ _ _ machine
    ResendsReset _ (initial retrying 0)
    (fun context => LinkActivity.allBegun context.log =
      [.formatResetLinkStates false 1 10, .formatResetLinkStates false 1 10])
    (unanswered 1) (by decide +kernel)
  exact ⟨context, reached.reaches, of_decide_eq_true check, addressed_of_reachesWhile reached⟩

/-- A message goes to 2, and the second link reset for it to the configured 1. -/
theorem not_addressed :
    ∃ context, machine.Reaches (initial retrying 0) context ∧
      ¬ Lawful LinkActivity.Addressed context.log := by
  obtain ⟨context, reached, check⟩ := @Machine.exists_reaches_of_run _ _ _ machine
    (initial retrying 0)
    (fun context => context.log = [.stateChange .unreset, .lowerLayerUp, .take ⟨10, 2⟩,
      .beginTransmit (.formatResetLinkStates false 2 10), .txReady,
      .beginTransmit (.formatResetLinkStates false 1 10)])
    (unanswered 2) (by decide +kernel)
  refine ⟨context, reached, fun lawful => ?_⟩
  rw [of_decide_eq_true check] at lawful
  have wrong := lawful [.stateChange .unreset, .lowerLayerUp, .take ⟨10, 2⟩,
    .beginTransmit (.formatResetLinkStates false 2 10), .txReady]
    (.beginTransmit (.formatResetLinkStates false 1 10)) (List.prefix_refl _) rfl ⟨10, 2⟩ rfl
  exact absurd wrong (by decide)

end LinkContext

end OpenDnp3.Link
