import OpenDnp3.Outstation.OutstationContext

/-!
# Outstation steps

What each event leads to: a request that is handled at once or after a
transmission, and then whatever may be started.
-/

set_option autoImplicit false

namespace OpenDnp3.Outstation

open OpenDnp3.App OpenDnp3.Library

namespace OContext

variable [FloatOps]

/-! ## Requests -/

section handling

variable (environment : Environment) (request : ParsedRequest) (context : OContext)

/-- The request's sequence number is taken over. -/
def numbered : OContext :=
  { context with
    sol :=
      { context.sol with
        seq := { context.sol.seq with num := ⟨request.header.control.seq⟩ } } }

/-- The confirm is the one that a solicited response asks for. -/
structure AwaitsSolicited : Prop where
  isConfirm : request.header.function = .confirm
  state : context.state = .solicitedConfirmWait
  solicited : request.header.control.uns = false
  seq : context.sol.seq.confirmNum.seq = request.header.control.seq

/-- The confirm is the one that an unsolicited response asks for. -/
structure AwaitsUnsolicited : Prop where
  isConfirm : request.header.function = .confirm
  state : context.state = .unsolicitedConfirmWait
  unsolicited : request.header.control.uns = true
  seq : context.unsol.seq.confirmNum.seq = request.header.control.seq

/-- A confirm that is not waited for, or a request that says it answers something unsolicited. -/
inductive Ignores : Prop
  | confirm (isConfirm : request.header.function = .confirm)
      (solicited : ¬context.AwaitsSolicited request)
      (unsolicited : ¬context.AwaitsUnsolicited request)
  | unsolicited (isRequest : request.header.function ≠ .confirm)
      (unsolicited : request.header.control.uns = true)

/-- A request that is new, or the one that was processed last. -/
structure Requests (isRead isRepeat : Bool) (state : OutstationState) : Prop where
  isRequest : request.header.function ≠ .confirm
  solicited : request.header.control.uns = false
  isRead : isRead = decide (request.header.function = .read)
  isRepeat : isRepeat = context.isRepeat request
  state : context.state = state

/-- What a confirm leaves before anything else is sent. -/
def confirmed : OContext := context.resetHistory.cancelConfirmTimer

/-- What happens to a request or a confirm that is handled while nothing is transmitted. -/
inductive Handles : OContext → Prop
  | ignored (ignores : context.Ignores request) : Handles context
  | confirmedLast (awaits : context.AwaitsSolicited request)
      (done : context.confirmed.clearWritten.hasSelection = false) :
      Handles (context.confirmed.clearWritten.setState .idle)
  | confirmedMore {after : OContext} (awaits : context.AwaitsSolicited request)
      (more : context.confirmed.clearWritten.hasSelection = true)
      (continued : context.confirmed.clearWritten.continueMultiFragResponse environment
        request.addresses (SequenceNum.mk request.header.control.seq).next = some after) :
      Handles after
  | confirmedEvents (awaits : context.AwaitsUnsolicited request)
      (completed : context.unsol.completedNull = true) :
      Handles (context.confirmed.clearWritten.setState .idle)
  | confirmedNull (awaits : context.AwaitsUnsolicited request)
      (open_ : context.unsol.completedNull = false) :
      Handles ({ context.confirmed with
        unsol := { context.unsol with completedNull := true } }.setState .idle)
  | readIdle {after : OContext} (requests : context.Requests request true false .idle)
      (responded : (context.numbered request).respondToReadRequest environment request =
        some after) :
      Handles after
  | readWaiting {after : OContext}
      (requests : context.Requests request true false .solicitedConfirmWait)
      (responded : (context.numbered request).cancelConfirmTimer.respondToReadRequest environment
        request = some after) :
      Handles after
  | readHeld (requests : context.Requests request true false .unsolicitedConfirmWait) :
      Handles ((context.numbered request).defer request)
  | nonReadIdle (requests : context.Requests request false false .idle) :
      Handles ((context.numbered request).respondToNonReadRequest environment request)
  | nonReadWaiting (requests : context.Requests request false false .solicitedConfirmWait) :
      Handles (((context.numbered request).cancelConfirmTimer.respondToNonReadRequest environment
        request).setState .idle)
  | nonReadUnsolicited
      (requests : context.Requests request false false .unsolicitedConfirmWait) :
      Handles ({ context.numbered request with deferred := none }.respondToNonReadRequest
        environment request)
  | repeatReadIdle (requests : context.Requests request true true .idle) :
      Handles (context.repeatResponseTx request.addresses.source)
  | repeatReadWaiting (requests : context.Requests request true true .solicitedConfirmWait) :
      Handles (context.restartConfirmTimer.repeatResponseTx request.addresses.source)
  | repeatReadHeld (requests : context.Requests request true true .unsolicitedConfirmWait) :
      Handles (context.defer request)
  | repeatNonReadIdle (requests : context.Requests request false true .idle) :
      Handles (context.repeatResponseTx request.addresses.source)
  | repeatNonReadWaiting
      (requests : context.Requests request false true .solicitedConfirmWait) :
      Handles (context.cancelConfirmTimer.repeatResponseTx request.addresses.source)
  | repeatNonReadUnsolicited
      (requests : context.Requests request false true .unsolicitedConfirmWait) :
      Handles (context.repeatResponseTx request.addresses.source)

end handling

variable {environment : Environment} {request : ParsedRequest} {context after : OContext}

theorem handles_of_onConfirm (isConfirm : request.header.function = .confirm)
    (success : context.onConfirm environment request = some after) :
    Handles environment request context after := by
  have unsolicitedOnly (waits : context.state ≠ .unsolicitedConfirmWait)
      (other : ¬context.AwaitsSolicited request) : context.Ignores request :=
    .confirm isConfirm other fun awaits => waits awaits.state
  rw [onConfirm] at success
  split at success
  · next idle =>
      cases success
      refine .ignored (unsolicitedOnly (by simp [idle]) fun awaits => ?_)
      cases idle.symm.trans awaits.state
  · next waiting =>
      have ignores := unsolicitedOnly (by simp [waiting])
      rw [onConfirmSolicited] at success
      split at success
      · next unsolicited =>
          cases success
          exact .ignored (ignores fun awaits => by simp [awaits.solicited] at unsolicited)
      · next solicited =>
          split at success
          · next other =>
              cases success
              exact .ignored (ignores fun awaits => other awaits.seq)
          · next same =>
              have awaits : context.AwaitsSolicited request :=
                ⟨isConfirm, waiting, by simpa using solicited, not_not.mp same⟩
              by_cases more : context.confirmed.clearWritten.hasSelection = true
              · exact .confirmedMore awaits more ((if_pos more).symm.trans success)
              · obtain rfl := Option.some.inj ((if_neg more).symm.trans success)
                exact .confirmedLast awaits (by simpa using more)
  · next waiting =>
      have ignores (other : ¬context.AwaitsUnsolicited request) : context.Ignores request :=
        .confirm isConfirm (fun awaits => by cases waiting.symm.trans awaits.state) other
      obtain rfl := Option.some.inj success
      rw [onConfirmUnsolicited]
      split
      · next solicited =>
          exact .ignored (ignores fun awaits => by simp [awaits.unsolicited] at solicited)
      · next unsolicited =>
          split
          · next other => exact .ignored (ignores fun awaits => other awaits.seq)
          · next same =>
              have awaits : context.AwaitsUnsolicited request :=
                ⟨isConfirm, waiting, by simpa using unsolicited, not_not.mp same⟩
              have null : context.resetHistory.cancelConfirmTimer.unsol.completedNull =
                context.unsol.completedNull := rfl
              by_cases completed : context.unsol.completedNull = true
              · simp only [null, if_pos completed]
                exact .confirmedEvents awaits completed
              · simp only [null, if_neg completed]
                exact .confirmedNull awaits (by simpa using completed)

theorem handles_of_processRequest (isRequest : request.header.function ≠ .confirm)
    (success : context.processRequest environment request = some after) :
    Handles environment request context after := by
  rw [processRequest] at success
  split at success
  · next unsolicited =>
      cases success
      exact .ignored (.unsolicited isRequest unsolicited)
  · next solicited =>
      have not_unsolicited : request.header.control.uns = false := by simpa using solicited
      rw [onReceiveSolRequest] at success
      by_cases repeated : context.isRepeat request = true
      · rw [if_pos repeated] at success
        by_cases isRead : request.header.function = .read
        · rw [if_pos isRead] at success
          obtain rfl := Option.some.inj success
          have requests (state : OutstationState) (here : context.state = state) :
              context.Requests request true true state :=
            ⟨isRequest, not_unsolicited, (decide_eq_true isRead).symm, repeated.symm, here⟩
          rw [onRepeatReadRequest]
          split
          · next here => exact .repeatReadIdle (requests _ here)
          · next here => exact .repeatReadWaiting (requests _ here)
          · next here => exact .repeatReadHeld (requests _ here)
        · rw [if_neg isRead] at success
          obtain rfl := Option.some.inj success
          have requests (state : OutstationState) (here : context.state = state) :
              context.Requests request false true state :=
            ⟨isRequest, not_unsolicited, (decide_eq_false isRead).symm, repeated.symm, here⟩
          rw [onRepeatNonReadRequest]
          split
          · next here => exact .repeatNonReadIdle (requests _ here)
          · next here => exact .repeatNonReadUnsolicited (requests _ here)
          · next here => exact .repeatNonReadWaiting (requests _ here)
      · rw [if_neg repeated] at success
        have new : context.isRepeat request = false := by simpa using repeated
        by_cases isRead : request.header.function = .read
        · have requests (state : OutstationState) (here : context.state = state) :
              context.Requests request true false state :=
            ⟨isRequest, not_unsolicited, (decide_eq_true isRead).symm, new.symm, here⟩
          have handled : (context.numbered request).onNewReadRequest environment request =
              some after := (if_pos isRead).symm.trans success
          rw [onNewReadRequest] at handled
          split at handled
          · next here => exact .readIdle (requests _ here) handled
          · next here => exact .readWaiting (requests _ here) handled
          · next here =>
              obtain rfl := Option.some.inj handled
              exact .readHeld (requests _ here)
        · have requests (state : OutstationState) (here : context.state = state) :
              context.Requests request false false state :=
            ⟨isRequest, not_unsolicited, (decide_eq_false isRead).symm, new.symm, here⟩
          have handled : some ((context.numbered request).onNewNonReadRequest environment request) =
              some after := (if_neg isRead).symm.trans success
          obtain rfl := Option.some.inj handled
          rw [onNewNonReadRequest]
          split
          · next here => exact .nonReadIdle (requests _ here)
          · next here => exact .nonReadWaiting (requests _ here)
          · next here => exact .nonReadUnsolicited (requests _ here)

/-! ## Starting -/

/-- What happens to a deferred request when something may be transmitted. -/
inductive Resumes (environment : Environment) (context : OContext) : OContext → Prop
  | blocked (cannot : context.canTransmit = false) : Resumes environment context context
  | none (none : context.deferred = none) : Resumes environment context context
  | kept {request : ParsedRequest} (deferred : context.deferred = some request)
      (isRead : request.header.function = .read) (busy : context.state ≠ .idle) :
      Resumes environment context context
  | handled {request : ParsedRequest} {after : OContext} (can : context.canTransmit = true)
      (deferred : context.deferred = some request)
      (free : request.header.function = .read → context.state = .idle)
      (handles : Handles environment request context after) :
      Resumes environment context { after with deferred := Option.none }

theorem resumes_of_checkForDeferredRequest
    (success : context.checkForDeferredRequest environment = some after) :
    Resumes environment context after := by
  rw [checkForDeferredRequest] at success
  split at success
  · next can =>
      split at success
      · next none =>
          obtain rfl := Option.some.inj success
          exact .none none
      · next request deferred =>
          obtain ⟨⟨handled, processed⟩, done, rfl⟩ := Option.map_eq_some_iff.mp success
          rw [processDeferredRequest] at done
          split at done
          · next isConfirm =>
              obtain ⟨step, rfl⟩ : _ = some handled ∧ processed = true := by simpa using done
              refine .handled can deferred (fun isRead => ?_) (handles_of_onConfirm isConfirm step)
              rw [isConfirm] at isRead
              cases isRead
          · next isRequest =>
              split at done
              · next isRead =>
                  split at done
                  · next idle =>
                      obtain ⟨step, rfl⟩ : _ = some handled ∧ processed = true := by simpa using done
                      exact .handled can deferred (fun _ => idle)
                        (handles_of_processRequest isRequest step)
                  · next busy =>
                      cases done
                      exact .kept deferred isRead busy
              · next notRead =>
                  obtain ⟨step, rfl⟩ : _ = some handled ∧ processed = true := by simpa using done
                  exact .handled can deferred (fun isRead => absurd isRead notRead)
                    (handles_of_processRequest isRequest step)
  · next cannot =>
      obtain rfl := Option.some.inj success
      exact .blocked (by simpa using cannot)

/-- What an unsolicited response is sent for: for the first time nothing, and then events. -/
inductive Reports (environment : Environment) (context : OContext) : OContext → Prop
  | nothing : Reports environment context context
  | null (can : context.canTransmit = true) (idle : context.state = .idle)
      (open_ : context.unsol.completedNull = false) :
      Reports environment context (context.sendUnsolicited environment none)
  | events (can : context.canTransmit = true) (idle : context.state = .idle)
      (completed : context.unsol.completedNull = true)
      (some : context.params.unsolClassMask.intersects
        context.eventBuffer.unwrittenClassField = true) :
      Reports environment context
        (context.sendUnsolicited environment (.some context.params.unsolClassMask))

theorem reports_checkForUnsolicited :
    Reports environment context (context.checkForUnsolicited environment) := by
  rw [checkForUnsolicited]
  split
  · next may =>
      split
      · next completed =>
          split
          · next some => exact .events may.1 may.2.1 completed some
          · exact .nothing
      · next open_ => exact .null may.1 may.2.1 (by simpa using open_)
  · exact .nothing

/-- What may be started: a deferred request, and then an unsolicited response. -/
def Starts (environment : Environment) (context after : OContext) : Prop :=
  ∃ resumed, Resumes environment context resumed ∧ Reports environment resumed after

theorem starts_of_checkForTaskStart
    (success : context.checkForTaskStart environment = some after) :
    Starts environment context after := by
  obtain ⟨resumed, done, rfl⟩ := Option.map_eq_some_iff.mp success
  exact ⟨resumed, resumes_of_checkForDeferredRequest done, reports_checkForUnsolicited⟩

/-- What is held back is a READ. -/
def HoldsRead (context : OContext) : Prop :=
  ∀ request, context.deferred = some request → request.header.function = .read

/-- Nothing is started while a confirm is awaited and a READ is held back. -/
theorem Starts.eq_of_waits (starts : Starts environment context after)
    (waits : context.state ≠ .idle) (reads : context.canTransmit = true → context.HoldsRead) :
    after = context := by
  obtain ⟨resumed, resumes, reports⟩ := starts
  have same : resumed = context := by
    cases resumes with
    | blocked _ | none _ | kept _ _ _ => rfl
    | handled can deferred free _ => exact absurd (free (reads can _ deferred)) waits
  subst same
  cases reports with
  | nothing => rfl
  | null _ idle _ | events _ idle _ _ => exact absurd idle waits

/-! ## Events -/

/-- What an event does before anything is started. -/
inductive Reacts (environment : Environment) (context : OContext) : Input → OContext → Prop
  | up (offline : context.isOnline = false) :
      Reacts environment context .lowerLayerUp { context with isOnline := true }
  | ignored {message : Message} (online : context.isOnline = true)
      (refused : context.acceptMessage message = none) :
      Reacts environment context (.receive message) context
  | noAck {message : Message} {request : ParsedRequest} (online : context.isOnline = true)
      (accepted : context.acceptMessage message = some request)
      (noAck : request.header.function.isNoAckFuncCode = true) :
      Reacts environment context (.receive message)
        (context.processRequestNoAck environment request)
  | deferred {message : Message} {request : ParsedRequest} (online : context.isOnline = true)
      (accepted : context.acceptMessage message = some request)
      (acked : request.header.function.isNoAckFuncCode = false)
      (busy : context.isTransmitting = true) :
      Reacts environment context (.receive message) (context.defer request)
  | handled {message : Message} {request : ParsedRequest} {after : OContext}
      (online : context.isOnline = true)
      (accepted : context.acceptMessage message = some request)
      (acked : request.header.function.isNoAckFuncCode = false)
      (free : context.isTransmitting = false)
      (handles : Handles environment request context after) :
      Reacts environment context (.receive message) after
  | txReady (online : context.isOnline = true) (busy : context.isTransmitting = true) :
      Reacts environment context .txReady { context with isTransmitting := false }
  | timeout (active : context.confirmTimer = true) :
      Reacts environment context .confirmTimeout context.cancelConfirmTimer.onConfirmTimeout
  | apply {updates : List DatabaseUpdate} {after : OContext} (nonempty : updates ≠ [])
      (changed : changeAll updates context = some after) :
      Reacts environment context (.apply updates) after

/-- Events that change nothing. -/
inductive Ineffective (context : OContext) : Input → Prop
  | up (online : context.isOnline = true) : Ineffective context .lowerLayerUp
  | down (offline : context.isOnline = false) : Ineffective context .lowerLayerDown
  | receive {message : Message} (offline : context.isOnline = false) :
      Ineffective context (.receive message)
  | txReady (idle : (context.isOnline && context.isTransmitting) = false) :
      Ineffective context .txReady
  | apply : Ineffective context (.apply [])

/-- What an event leads to. -/
inductive Steps (environment : Environment) (context : OContext) : Input → OContext → Prop
  | nothing {input : Input} (ineffective : Ineffective context input) :
      Steps environment context input context
  | down (online : context.isOnline = true) :
      Steps environment context .lowerLayerDown context.onLowerLayerDown
  | setRestartIIN : Steps environment context .setRestartIIN
      { context with staticIIN := context.staticIIN.setBit .deviceRestart }
  | starts {input : Input} {reacted after : OContext}
      (reacts : Reacts environment context input reacted)
      (starts : Starts environment reacted after) : Steps environment context input after

theorem reacts_of_processMessage {message : Message} (online : context.isOnline = true)
    (processed : context.processMessage environment message = some after) :
    Reacts environment context (.receive message) after := by
  rw [processMessage] at processed
  cases accepted : context.acceptMessage message with
  | none =>
      rw [accepted] at processed
      cases processed
      exact .ignored online accepted
  | some request =>
      simp only [accepted, processObjects] at processed
      cases noAck : request.header.function.isNoAckFuncCode with
      | true =>
          rw [noAck, if_pos rfl] at processed
          cases processed
          exact .noAck online accepted noAck
      | false =>
          rw [noAck, if_neg Bool.false_ne_true] at processed
          by_cases busy : context.isTransmitting = true
          · rw [if_pos busy] at processed
            cases processed
            exact .deferred online accepted noAck busy
          · have free : context.isTransmitting = false := by simpa using busy
            rw [if_neg busy] at processed
            by_cases isConfirm : request.header.function = .confirm
            · rw [if_pos isConfirm] at processed
              exact .handled online accepted noAck free (handles_of_onConfirm isConfirm processed)
            · rw [if_neg isConfirm] at processed
              exact .handled online accepted noAck free
                (handles_of_processRequest isConfirm processed)

theorem steps_of_step {input : Input} (success : context.step environment input = some after) :
    Steps environment context input after := by
  cases input with
  | lowerLayerUp =>
      simp only [step, onLowerLayerUp] at success
      split at success
      · next online =>
          cases success
          exact .nothing (.up online)
      · next offline =>
          exact .starts (.up (by simpa using offline)) (starts_of_checkForTaskStart success)
  | lowerLayerDown =>
      obtain rfl := Option.some.inj success
      by_cases online : context.isOnline = true
      · exact .down online
      · rw [onLowerLayerDown, if_pos (by simpa using online)]
        exact .nothing (.down (by simpa using online))
  | receive message =>
      simp only [step, onReceive] at success
      split at success
      · next offline =>
          cases success
          exact .nothing (.receive (by simpa using offline))
      · next offline =>
          have online : context.isOnline = true := by simpa using offline
          obtain ⟨handled, processed, started⟩ := Option.bind_eq_some_iff.mp success
          exact .starts (reacts_of_processMessage online processed)
            (starts_of_checkForTaskStart started)
  | txReady =>
      simp only [step, onTxReady] at success
      split at success
      · next idle =>
          cases success
          simp only [Bool.or_eq_true, Bool.not_eq_true'] at idle
          exact .nothing (.txReady (Bool.and_eq_false_iff.mpr idle))
      · next busy =>
          simp only [Bool.or_eq_true, Bool.not_eq_true', not_or, Bool.not_eq_false] at busy
          exact .starts (.txReady busy.1 busy.2) (starts_of_checkForTaskStart success)
  | confirmTimeout =>
      simp only [step, onTimeout] at success
      split at success
      · next active => exact .starts (.timeout active) (starts_of_checkForTaskStart success)
      · cases success
  | apply updates =>
      simp only [step] at success
      split at success
      · next empty =>
          cases success
          obtain rfl := List.isEmpty_iff.mp empty
          exact .nothing .apply
      · next nonempty =>
          obtain ⟨changed, made, started⟩ := Option.bind_eq_some_iff.mp success
          exact .starts (.apply (by simpa using nonempty) made)
            (starts_of_checkForTaskStart started)
  | setRestartIIN =>
      obtain rfl := Option.some.inj success
      exact .setRestartIIN

omit [FloatOps] in
/-- A timeout ends the wait, and changes nothing else but the events. -/
theorem onConfirmTimeout_eq (context : OContext) :
    context.cancelConfirmTimer.onConfirmTimeout =
      { context with
        confirmTimer := false
        state := .idle
        eventBuffer := context.cancelConfirmTimer.onConfirmTimeout.eventBuffer } := by
  rw [onConfirmTimeout]
  split
  · next idle =>
      cases context
      cases idle
      rfl
  · rfl
  · split <;> rfl

/-! ## Taking steps -/

theorem machine_step {input : Input} (success : context.step environment input = some after) :
    machine.step context (environment, input) =
      some (after, after.log.drop context.log.length) := by
  rw [machine]
  exact congrArg (Option.map _) success

theorem checkForTaskStart_blocked (cannot : context.canTransmit = false) :
    context.checkForTaskStart environment = some context := by
  simp [checkForTaskStart, checkForDeferredRequest, checkForUnsolicited, cannot]

theorem checkForTaskStart_quiet (quiet : context.deferred = none)
    (solicited : context.params.allowUnsolicited = false) :
    context.checkForTaskStart environment = some context := by
  simp [checkForTaskStart, checkForDeferredRequest, checkForUnsolicited, quiet, solicited]

end OContext

end OpenDnp3.Outstation
