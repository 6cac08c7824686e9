import OpenDnp3.Link.LinkContext

/-!
# Steps of a link

What a transmission leaves alone, and what a frame does when it is accepted and
when it is not.
-/

set_option autoImplicit false

namespace OpenDnp3.Link

open OpenDnp3.Library OpenDnp3.Transport
open OpenDnp3.Master (MonotonicTimestamp TimeDuration)

namespace LinkContext

/-! ## Transmission -/

/-- What a transmission does not touch. -/
abbrev SameStations (before after : LinkContext) : Prop :=
  after.config = before.config ∧ after.segments = before.segments ∧
    after.numRetryRemaining = before.numRetryRemaining ∧
    after.rspTimeoutTimer = before.rspTimeoutTimer ∧
    after.keepAliveTimer = before.keepAliveTimer ∧ after.nextReadFCB = before.nextReadFCB ∧
    after.nextWriteFCB = before.nextWriteFCB ∧ after.isOnline = before.isOnline ∧
    after.isRemoteReset = before.isRemoteReset ∧
    after.keepAliveTimeout = before.keepAliveTimeout ∧ after.priState = before.priState ∧
    after.secState = before.secState

@[simp] theorem record_same (context : LinkContext) (activity : LinkActivity) :
    SameStations context (context.record activity) := by
  simp [SameStations, record]

@[simp] theorem queueTransmit_same (context : LinkContext) (frame : LinkFrame) (primary : Bool) :
    SameStations context (context.queueTransmit frame primary) := by
  unfold queueTransmit
  split
  · simp [SameStations]
  · split <;> simp [SameStations]

@[simp] theorem writePrimary_same (context : LinkContext) (frame : LinkFrame) :
    SameStations context (context.writePrimary frame) := by
  unfold writePrimary
  split <;> simp [SameStations]

@[simp] theorem writeSecondary_same (context : LinkContext) (frame : LinkFrame) :
    SameStations context (context.writeSecondary frame) := by
  unfold writeSecondary
  split <;> simp [SameStations]

@[simp] theorem transmitPrimary_same (context : LinkContext) (frame : LinkFrame) :
    SameStations context (context.transmitPrimary frame) := by
  simp [SameStations, transmitPrimary]

@[simp] theorem transmitSecondary_same (context : LinkContext) (frame : LinkFrame) :
    SameStations context (context.transmitSecondary frame) := by
  simp [SameStations, transmitSecondary]

@[simp] theorem tryPendingPriTx_same (context : LinkContext) :
    SameStations context context.tryPendingPriTx := by
  unfold tryPendingPriTx
  split <;> simp [SameStations]

@[simp] theorem tryPendingSecTx_same (context : LinkContext) :
    SameStations context context.tryPendingSecTx := by
  unfold tryPendingSecTx
  split <;> simp [SameStations]

@[simp] theorem record_log (context : LinkContext) (activity : LinkActivity) :
    (context.record activity).log = context.log ++ [activity] := rfl

/-- What each start of a transmission keeps, when the primary station is idle, is kept when one
is tried. -/
theorem tryStartTransmission_keeps {Holds : LinkContext → Prop} {context : LinkContext}
    (holds : Holds context)
    (asks : ∀ {context : LinkContext}, Holds context → context.priState = .idle →
      Holds context.trySendRequestLinkStatus)
    (confirms : ∀ {context : LinkContext} {segments : TransportTx}, Holds context →
      context.priState = .idle → context.segments = some segments →
      Holds (context.trySendConfirmed segments))
    (sends : ∀ {context : LinkContext} {segments : TransportTx}, Holds context →
      context.priState = .idle → context.segments = some segments →
      Holds (context.trySendUnconfirmed segments)) :
    Holds context.tryStartTransmission := by
  have asked : Holds
      (if context.keepAliveTimeout then context.trySendRequestLinkStatus else context) := by
    split
    · by_cases idle : context.priState = .idle
      · exact asks holds idle
      · rwa [trySendRequestLinkStatus, if_neg idle]
    · exact holds
  unfold tryStartTransmission
  generalize (if context.keepAliveTimeout then context.trySendRequestLinkStatus
    else context) = context at asked
  cases held : context.segments with
  | none => simpa only [held] using asked
  | some segments =>
      simp only [held]
      by_cases idle : context.priState = .idle
      · split
        · exact confirms asked idle held
        · exact sends asked idle held
      · rw [trySendConfirmed, if_neg idle, trySendUnconfirmed, if_neg idle, ite_self]
        exact asked

/-! ## Frames -/

/-- Whether a frame is for this end and from an end that it listens to. -/
def Accepts (context : LinkContext) (header : LinkHeaderFields) : Prop :=
  context.isOnline = true ∧ header.isFromMaster ≠ context.config.isMaster ∧
    header.dest = context.config.localAddr ∧
    (header.src = context.config.remoteAddr ∨ context.config.respondToAnySource = true)

instance (context : LinkContext) (header : LinkHeaderFields) :
    Decidable (context.Accepts header) :=
  inferInstanceAs (Decidable (_ ∧ _))

theorem onFrame_of_accepts {context : LinkContext} {header : LinkHeaderFields}
    (accepts : context.Accepts header) (now : MonotonicTimestamp) (userData : List UInt8) :
    context.onFrame now header userData =
      ({ context with lastMessageTimestamp := now }.dispatch header userData).map
        tryStartTransmission := by
  obtain ⟨online, direction, destination, source⟩ := accepts
  have known : ¬ (header.src ≠ context.config.remoteAddr ∧
      (!context.config.respondToAnySource) = true) := by
    rintro ⟨other, no⟩
    obtain same | yes := source
    · exact other same
    · rw [yes] at no
      cases no
  rw [onFrame, if_neg (by simp [online]), if_neg direction, if_neg (by simpa using destination),
    if_neg known]

/-- Nothing but an address that is not known comes of a frame that is not accepted. -/
theorem onFrame_of_not_accepts {context : LinkContext} {header : LinkHeaderFields}
    (refused : ¬ context.Accepts header) (now : MonotonicTimestamp) (userData : List UInt8) :
    context.onFrame now header userData = some context ∨
      context.onFrame now header userData = some (context.record (.unknownDestination header.dest)) ∨
      context.onFrame now header userData = some (context.record (.unknownSource header.src)) := by
  unfold onFrame
  split
  · exact .inl rfl
  · rename_i online
    split
    · exact .inl rfl
    · rename_i direction
      split
      · exact .inr (.inl rfl)
      · rename_i destination
        split
        · exact .inr (.inr rfl)
        · rename_i source
          refine absurd ⟨by simpa using online, direction, by simpa using destination, ?_⟩ refused
          by_contra neither
          exact source (by simpa [not_or] using neither)

end LinkContext

end OpenDnp3.Link
