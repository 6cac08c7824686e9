import OpenDnp3.Outstation.OutstationFrames

/-!
# Written events

The events that are marked as written are those of the fragment that waits for
a confirm, unless a wait is given up without putting them back.
-/

set_option autoImplicit false

namespace OpenDnp3.Outstation

open OpenDnp3.App OpenDnp3.Library

namespace OContext

/-- The events that wait for a confirm. -/
def awaited (context : OContext) : List Nat :=
  match context.state with
  | .idle => []
  | .solicitedConfirmWait => context.sol.tx.carried
  | .unsolicitedConfirmWait => if context.unsol.completedNull then context.unsol.tx.carried else []

/-- Some event is marked as written. -/
def HasWritten (context : OContext) : Prop :=
  ∃ record ∈ context.eventBuffer.records, record.state = .written

/-- What is deferred while nothing is transmitted is a READ. -/
def Holds (context : OContext) : Prop :=
  context.isTransmitting = false →
    ∀ request, context.deferred = some request → request.header.function = .read

/-- A new request that is not a READ takes over while events wait for a solicited confirm. -/
def Abandons (context : OContext) (request : ParsedRequest) : Prop :=
  context.HasWritten ∧ context.Requests request false false .solicitedConfirmWait

/-- The request that an event is about: the one that is received, or that was deferred while
something was transmitted. -/
def requestOf (context : OContext) : Input → Option ParsedRequest
  | .receive message =>
      if context.isOnline && !context.isTransmitting then
        (context.acceptMessage message).filter (!·.header.function.isNoAckFuncCode)
      else none
  | .txReady => if context.isOnline && context.isTransmitting then context.deferred else none
  | _ => none

/-- An event ends the wait for a solicited confirm and leaves events marked as written. -/
def HidesEvents (context : OContext) (input : Input) : Prop :=
  (input = .confirmTimeout ∧ context.HasWritten ∧ context.state = .solicitedConfirmWait) ∨
    ∃ request, context.requestOf input = some request ∧ context.Abandons request

section steps

variable [FloatOps] {config : EventBufferConfig} {environment : Environment}
  {request : ParsedRequest} {context after : OContext}

omit [FloatOps] in
theorem RespondsWithData.awaited {destination : UInt16} {seq : AppSeqNum}
    (responds : RespondsWithData config destination seq context after) :
    after.eventBuffer.Marks config after.awaited := by
  have marks := responds.marks
  rcases responds.waits with ⟨waiting, _⟩ | ⟨idle, _, none, _⟩
  · rw [OContext.awaited, waiting]
    exact marks
  · rw [none] at marks
    rw [OContext.awaited, idle]
    exact marks

omit [FloatOps] in
theorem marks_nil_of_not_hasWritten {serials : List Nat}
    (marks : context.eventBuffer.Marks config serials) (none : ¬context.HasWritten) :
    context.eventBuffer.Marks config [] :=
  ⟨marks.valid, fun record member written => absurd ⟨record, member, written⟩ none⟩

/-- A request that does not abandon events leaves only those marked that wait for a confirm. -/
theorem awaited_of_handles (marks : context.eventBuffer.Marks config context.awaited)
    (keeps : ¬context.Abandons request) (handles : Handles environment request context after) :
    after.eventBuffer.Marks config after.awaited := by
  cases handles with
  | ignored => exact marks
  | confirmedLast awaits done => exact marks.clearWritten
  | confirmedMore awaits more continued =>
      exact (continueMultiFragResponse_responds marks.clearWritten continued).awaited
  | confirmedEvents awaits completed => exact marks.clearWritten
  | confirmedNull awaits open_ =>
      rw [awaited, awaits.state] at marks
      simp only [open_, Bool.false_eq_true, if_false] at marks
      exact marks
  | readIdle requests responded =>
      have same : (context.numbered request).eventBuffer.Marks config context.awaited := marks
      exact (respondToReadRequest_responds same responded).awaited
  | readWaiting requests responded =>
      have same : (context.numbered request).cancelConfirmTimer.eventBuffer.Marks config
        context.awaited := marks
      exact (respondToReadRequest_responds same responded).awaited
  | readHeld requests => exact marks
  | nonReadIdle requests =>
      have responds :=
        respondToNonReadRequest_responds environment (context.numbered request) request
      rw [awaited, requests.state] at marks
      rw [awaited, responds.state, responds.eventBuffer]
      simp only [numbered, requests.state]
      exact marks.isOverflown
  | nonReadWaiting requests =>
      have none := marks_nil_of_not_hasWritten marks fun written => keeps ⟨written, requests⟩
      have responds := respondToNonReadRequest_responds environment
        (context.numbered request).cancelConfirmTimer request
      have buffer : (setState ((context.numbered request).cancelConfirmTimer.respondToNonReadRequest
        environment request) .idle).eventBuffer = _ := responds.eventBuffer
      rw [buffer]
      exact none.isOverflown
  | nonReadUnsolicited requests =>
      have responds := respondToNonReadRequest_responds environment
        { context.numbered request with deferred := none } request
      rw [awaited, requests.state] at marks
      rw [awaited, responds.state, responds.eventBuffer, responds.unsol]
      simp only [numbered, requests.state]
      exact marks.isOverflown
  | repeatReadIdle requests => exact marks
  | repeatReadWaiting requests => exact marks
  | repeatReadHeld requests => exact marks
  | repeatNonReadIdle requests => exact marks
  | repeatNonReadWaiting requests => exact marks
  | repeatNonReadUnsolicited requests => exact marks

/-- What is held back after a request is a READ. -/
theorem holds_of_handles {serials : List Nat}
    (marks : context.eventBuffer.Marks config serials) (holds : context.Holds)
    (handles : Handles environment request context after) : after.Holds := by
  have kept {other : OContext} (deferred : other.deferred = context.deferred)
      (free : other.isTransmitting = context.isTransmitting) : other.Holds := by
    intro idle request held
    exact holds (free.symm.trans idle) request (deferred.symm.trans held)
  have busy {other : OContext} (transmitting : other.isTransmitting = true) : other.Holds := by
    intro idle
    rw [transmitting] at idle
    cases idle
  have deferred {other : OContext} (isRead : request.header.function = .read)
      (slot : other.deferred = some (request.copyTo context.params.maxRxFragSize)) :
      other.Holds := by
    intro _ held same
    obtain rfl := Option.some.inj (slot.symm.trans same)
    exact isRead
  cases handles with
  | ignored => exact holds
  | confirmedLast awaits done => exact kept rfl rfl
  | confirmedMore awaits more continued =>
      exact busy (continueMultiFragResponse_responds marks.clearWritten continued).isTransmitting
  | confirmedEvents awaits completed => exact kept rfl rfl
  | confirmedNull awaits open_ => exact kept rfl rfl
  | readIdle requests responded =>
      have same : (context.numbered request).eventBuffer.Marks config serials := marks
      exact busy (respondToReadRequest_responds same responded).isTransmitting
  | readWaiting requests responded =>
      have same : (context.numbered request).cancelConfirmTimer.eventBuffer.Marks config serials :=
        marks
      exact busy (respondToReadRequest_responds same responded).isTransmitting
  | readHeld requests => exact deferred (of_decide_eq_true requests.isRead.symm) rfl
  | nonReadIdle requests => exact busy rfl
  | nonReadWaiting requests => exact busy rfl
  | nonReadUnsolicited requests => exact busy rfl
  | repeatReadIdle requests => exact busy rfl
  | repeatReadWaiting requests => exact busy rfl
  | repeatReadHeld requests => exact deferred (of_decide_eq_true requests.isRead.symm) rfl
  | repeatNonReadIdle requests => exact busy rfl
  | repeatNonReadWaiting requests => exact busy rfl
  | repeatNonReadUnsolicited requests => exact busy rfl

/-! ## Runs -/

/-- Only events that wait for a confirm are marked, and only a READ is held back. -/
structure Settled (config : EventBufferConfig) (context : OContext) : Prop where
  marks : context.eventBuffer.Marks config context.awaited
  holds : context.Holds

/-- A deferred request that does not abandon events leaves the outstation settled. -/
theorem settled_of_resumes (marks : context.eventBuffer.Marks config context.awaited)
    (keeps : context.canTransmit = true →
      ∀ request, context.deferred = some request → ¬context.Abandons request)
    (offline : context.isOnline = false → context.Holds)
    (resumes : Resumes environment context after) : after.Settled config := by
  cases resumes with
  | blocked cannot =>
      refine ⟨marks, fun free => ?_⟩
      rw [canTransmit, free] at cannot
      exact offline (by simpa using cannot) free
  | none none =>
      refine ⟨marks, fun _ request held => ?_⟩
      rw [none] at held
      cases held
  | kept deferred isRead busy =>
      refine ⟨marks, fun _ request held => ?_⟩
      obtain rfl := Option.some.inj (deferred.symm.trans held)
      exact isRead
  | handled can deferred free handles =>
      have handled := awaited_of_handles marks (keeps can _ deferred) handles
      exact ⟨handled, fun _ _ held => nomatch held⟩

theorem settled_of_reports (settled : context.Settled config)
    (reports : Reports environment context after) : after.Settled config := by
  have busy {other : OContext} (transmitting : other.isTransmitting = true) : other.Holds := by
    intro idle
    rw [transmitting] at idle
    cases idle
  cases reports with
  | nothing => exact settled
  | null can idle open_ =>
      have marks := settled.marks
      have responds := sendUnsolicited_responds environment context none
      refine ⟨?_, busy rfl⟩
      rw [awaited, idle] at marks
      rw [awaited, responds.state]
      simp only [responds.completedNull, open_, Bool.false_eq_true, if_false]
      exact marks_sendUnsolicited_none marks
  | events can idle completed some =>
      have responds := sendUnsolicited_responds environment context
        (.some context.params.unsolClassMask)
      refine ⟨?_, busy rfl⟩
      rw [awaited, responds.state]
      simp only [responds.completedNull, completed, if_true]
      exact marks_sendUnsolicited_some settled.marks

theorem settled_of_starts (settled : context.Settled config)
    (starts : Starts environment context after) : after.Settled config := by
  obtain ⟨resumed, resumes, reports⟩ := starts
  refine settled_of_reports (settled_of_resumes settled.marks ?_ (fun _ => settled.holds)
    resumes) reports
  intro can request deferred abandons
  have isRead := abandons.2.isRead
  simp only [canTransmit, Bool.and_eq_true, Bool.not_eq_true'] at can
  rw [settled.holds can.2 request deferred] at isRead
  cases isRead

theorem settled_of_change (settled : context.Settled config) {update : DatabaseUpdate}
    (changed : context.change update = some after) : after.Settled config := by
  obtain ⟨buffer, stored, rfl⟩ := Option.map_eq_some_iff.mp changed
  exact ⟨settled.marks.updateAll stored, settled.holds⟩

theorem settled_of_changeAll {updates : List DatabaseUpdate} (settled : context.Settled config)
    (changed : changeAll updates context = some after) : after.Settled config := by
  induction updates generalizing context with
  | nil =>
      cases changed
      exact settled
  | cons update updates ih =>
      obtain ⟨next, first, others⟩ := Option.bind_eq_some_iff.mp changed
      exact ih (settled_of_change settled first) others

omit [FloatOps] in
theorem settled_of_timeout (settled : context.Settled config)
    (keeps : ¬(context.HasWritten ∧ context.state = .solicitedConfirmWait)) :
    context.cancelConfirmTimer.onConfirmTimeout.Settled config := by
  have marks := settled.marks
  have state : context.cancelConfirmTimer.state = context.state := rfl
  rw [onConfirmTimeout, state]
  cases waits : context.state with
  | idle => exact ⟨settled.marks, settled.holds⟩
  | solicitedConfirmWait =>
      exact ⟨marks_nil_of_not_hasWritten marks fun written => keeps ⟨written, waits⟩,
        settled.holds⟩
  | unsolicitedConfirmWait =>
      rw [awaited, waits] at marks
      have null : context.cancelConfirmTimer.unsol.completedNull =
        context.unsol.completedNull := rfl
      simp only [null]
      cases completed : context.unsol.completedNull with
      | true => exact ⟨marks.unselect, settled.holds⟩
      | false =>
          rw [completed] at marks
          exact ⟨marks, settled.holds⟩

theorem settled_of_reacts {input : Input} (settled : context.Settled config)
    (keeps : ¬context.HidesEvents input) (sent : input ≠ .txReady)
    (reacts : Reacts environment context input after) : after.Settled config := by
  cases reacts with
  | up offline => exact ⟨settled.marks, settled.holds⟩
  | ignored online refused => exact settled
  | @noAck message request online accepted noAck =>
      have kept : Undisturbed context (context.processRequestNoAck environment request) :=
        processRequestNoAck_undisturbed request
      refine ⟨?_, ?_⟩
      · rw [awaited, kept.eventBuffer, kept.state, kept.sol, kept.unsol]
        exact settled.marks
      · rw [Holds, kept.isTransmitting, kept.deferred]
        exact settled.holds
  | deferred online accepted acked busy =>
      refine ⟨settled.marks, fun free => ?_⟩
      rw [show (context.defer _).isTransmitting = context.isTransmitting from rfl, busy] at free
      cases free
  | @handled message request _ online accepted acked free handles =>
      have about : context.requestOf (.receive message) = some request := by
        simp [requestOf, online, free, accepted, Option.filter, acked]
      exact ⟨awaited_of_handles settled.marks (fun abandons => keeps (.inr ⟨_, about, abandons⟩))
        handles, holds_of_handles settled.marks settled.holds handles⟩
  | txReady online busy => exact absurd rfl sent
  | timeout active =>
      exact settled_of_timeout settled fun hidden => keeps (.inl ⟨rfl, hidden⟩)
  | apply nonempty changed => exact settled_of_changeAll settled changed

/-- A step that hides no events leaves the outstation settled. -/
theorem settled_of_steps {input : Input} (settled : context.Settled config)
    (keeps : ¬context.HidesEvents input) (steps : Steps environment context input after) :
    after.Settled config := by
  cases steps with
  | nothing => exact settled
  | down online =>
      rw [onLowerLayerDown, if_neg (by simp [online])]
      refine ⟨settled.marks.unselect, fun _ _ held => ?_⟩
      cases held
  | setRestartIIN => exact ⟨settled.marks, settled.holds⟩
  | @starts _ reacted _ reacts starts =>
      by_cases sent : input = .txReady
      · subst sent
        obtain ⟨resumed, resumes, reports⟩ := starts
        cases reacts with
        | txReady online busy =>
            have marks : EventBuffer.Marks config (awaited { context with isTransmitting := false })
              context.eventBuffer := settled.marks
            refine settled_of_reports (settled_of_resumes marks ?_ ?_ resumes) reports
            · rintro _ request deferred ⟨written, requests⟩
              have about : context.requestOf .txReady = some request := by
                simpa [requestOf, online, busy] using deferred
              exact keeps (.inr ⟨request, about, written, requests.isRequest, requests.solicited,
                requests.isRead, requests.isRepeat, requests.state⟩)
            · intro offline
              rw [show OContext.isOnline { context with isTransmitting := false } =
                context.isOnline from rfl, online] at offline
              cases offline
      · exact settled_of_starts (settled_of_reacts settled keeps sent reacts) starts

omit [FloatOps] in
theorem settled_initial (addresses : Addresses) (params : OutstationParams)
    (config : EventBufferConfig) (database : DatabaseBuffers) :
    (initial addresses params config database).Settled config :=
  ⟨.create, fun _ _ held => nomatch held⟩

/-- As long as no step hides events, none is marked as written while the outstation is idle, and
the classes that it reports are those of its events. -/
theorem events_available_of_reaches {addresses : Addresses} {params : OutstationParams}
    {config : EventBufferConfig} {database : DatabaseBuffers} {context : OContext}
    (reached : machine.ReachesWhile (fun context input => ¬context.HidesEvents input.2)
      (initial addresses params config database) context)
    (idle : context.state = .idle) :
    (∀ record ∈ context.eventBuffer.records, record.state ≠ .written) ∧
      ∀ clazz, context.eventBuffer.unwrittenClassField.hasEventType clazz = true ↔
        ∃ record ∈ context.eventBuffer.records, record.clazz = clazz := by
  have settled : context.Settled config := by
    refine reached.invariant (settled_initial addresses params config database) ?_
    intro before after input output settled keeps success
    obtain ⟨_, stepped, same⟩ := Option.map_eq_some_iff.mp success
    obtain ⟨rfl, _⟩ := Prod.mk.inj same
    exact settled_of_steps settled keeps (steps_of_step stepped)
  have marks := settled.marks
  rw [awaited, idle] at marks
  exact ⟨fun record member written =>
    List.not_mem_nil (marks.written record member written), marks.hasEventType⟩

end steps

/-- A READ of events of class 1 whose response is not confirmed. The event stays marked, and no
class is reported. -/
theorem not_events_available :
    ¬∀ context : OContext, (@machine .atZero).Reaches (.onePoint {}) context →
      context.state = .idle → context.isTransmitting = false →
        (∀ record ∈ context.eventBuffer.records, record.state ≠ .written) ∧
          ∀ clazz, context.eventBuffer.unwrittenClassField.hasEventType clazz = true ↔
            ∃ record ∈ context.eventBuffer.records, record.clazz = clazz := by
  intro available
  obtain ⟨context, reached, checked⟩ :=
    @Machine.exists_reaches_of_run _ _ _ (@machine .atZero) (.onePoint {})
      (fun context => context.state == .idle && !context.isTransmitting &&
        context.eventBuffer.records.any (·.state == .written))
      (List.map (Environment.atZero, ·)
        [.lowerLayerUp, .binaryEvent, .fragment [0xC0, 1, 60, 2, 6], .txReady, .confirmTimeout])
      (by decide +kernel)
  simp only [Bool.and_eq_true, beq_iff_eq, Bool.not_eq_true', List.any_eq_true] at checked
  obtain ⟨⟨idle, quiet⟩, record, member, written⟩ := checked
  exact (available context reached idle quiet).1 record member written

instance (context : OContext) : Decidable context.HasWritten :=
  inferInstanceAs (Decidable (∃ record ∈ context.eventBuffer.records, record.state = .written))

instance (context : OContext) : DecidablePred context.Abandons := fun request =>
  decidable_of_iff (context.HasWritten ∧ request.header.function ≠ .confirm ∧
      request.header.control.uns = false ∧ request.header.function ≠ .read ∧
      context.isRepeat request = false ∧ context.state = .solicitedConfirmWait)
    ⟨fun ⟨written, isRequest, solicited, isRead, isRepeat, state⟩ =>
      ⟨written, isRequest, solicited, (decide_eq_false isRead).symm, isRepeat.symm, state⟩,
    fun ⟨written, requests⟩ => ⟨written, requests.isRequest, requests.solicited,
      of_decide_eq_false requests.isRead.symm, requests.isRepeat.symm, requests.state⟩⟩

instance (context : OContext) : DecidablePred context.HidesEvents := fun input =>
  decidable_of_iff ((input matches .confirmTimeout) = true ∧ context.HasWritten ∧
      context.state = .solicitedConfirmWait ∨
        ∃ request ∈ context.requestOf input, context.Abandons request)
    (or_congr (and_congr_left' (by cases input <;> simp)) Iff.rfl)

/-- One event is read and confirmed. Another one is read too, but before that is confirmed something
else is read. -/
def abandonedRead : List Input :=
  [.lowerLayerUp, .binaryEvent, .binaryEvent, .fragment [0xC0, 1, 60, 2, 7, 1], .txReady,
    .fragment [0xC0, 0], .fragment [0xC1, 1, 60, 2, 6], .txReady, .fragment [0xC2, 1, 60, 3, 6],
    .txReady]

/-- The event that was not confirmed is available again. -/
theorem events_available_abandonedRead :
    ∃ context : OContext,
      (@machine .atZero).ReachesWhile
          (fun context input => ¬context.HidesEvents input.2) (.onePoint {}) context ∧
        context.state = .idle ∧ context.eventBuffer.records.length = 1 ∧
        (∀ record ∈ context.eventBuffer.records, record.state ≠ .written) ∧
        ∀ clazz, context.eventBuffer.unwrittenClassField.hasEventType clazz = true ↔
          ∃ record ∈ context.eventBuffer.records, record.clazz = clazz := by
  obtain ⟨context, reached, checked⟩ :=
    @Machine.exists_reachesWhile_of_runWhile _ _ _ (@machine .atZero)
      (fun context input => ¬context.HidesEvents input.2) _ (.onePoint {})
      (fun context => context.state == .idle && context.eventBuffer.records.length == 1)
      (abandonedRead.map (Environment.atZero, ·)) (by decide +kernel)
  simp only [Bool.and_eq_true, beq_iff_eq] at checked
  exact ⟨context, reached, checked.1, checked.2,
    @events_available_of_reaches .atZero _ _ _ _ _ reached checked.1⟩

end OContext

end OpenDnp3.Outstation
