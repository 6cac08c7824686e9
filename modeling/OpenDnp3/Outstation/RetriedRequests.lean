import OpenDnp3.Outstation.ConfirmSources

/-!
# Retried requests

A request that is received again is answered with the same response as before, as long as
the outstation has processed nothing else and has not been given the confirm it waits for.
-/

set_option autoImplicit false

namespace OpenDnp3.Outstation

open OpenDnp3.App OpenDnp3.Library

/-- A request that is answered, and is neither a READ nor a confirm. -/
structure ParsedRequest.Answerable (request : ParsedRequest) : Prop where
  isRequest : request.header.function ≠ .confirm
  notRead : request.header.function ≠ .read
  acked : request.header.function.isNoAckFuncCode = false
  solicited : request.header.control.uns = false

namespace OContext

/-- Only confirms are received, and the lower layer stays up. -/
def OnlyConfirms (context : OContext) : Input → Prop
  | .lowerLayerDown => False
  | .receive message =>
      ∀ request ∈ context.acceptMessage message, request.header.function = .confirm
  | _ => True

/-- Only confirms are received, and none that the outstation waits for. -/
structure Unconfirmed (context : OContext) (input : Input) : Prop where
  only : context.OnlyConfirms input
  unawaited : ∀ request, ¬context.Honours input request

/-- The transmission goes on, and only what needs no response is received. -/
structure StillTransmits (context : OContext) (input : Input) : Prop where
  stays : input ≠ .lowerLayerDown
  busy : input ≠ .txReady
  unanswered : ∀ message request, input = .receive message →
    context.acceptMessage message = some request →
      request.header.function.isNoAckFuncCode = true

variable [FloatOps]

/-- The response is sent again, and that is all. -/
def SendsAgain (context : OContext) (input : Input) (destination : UInt16) (fragment : List UInt8)
    (carried : List Nat) : Prop :=
  ∀ environment, ∃ after,
    machine.step context (environment, input) =
      some (after, [.beginTransmit destination fragment carried]) ∧
    after.database = context.database

/-- A request that is received again leads to the same response and to nothing else: at once, or
when the transmission is done. -/
structure Echoes (context : OContext) (message : Message) (destination : UInt16)
    (fragment : List UInt8) (carried : List Nat) : Prop where
  atOnce : context.isTransmitting = false →
    context.SendsAgain (.receive message) destination fragment carried
  later : context.isTransmitting = true → ∀ environment, ∃ held,
    machine.step context (environment, .receive message) = some (held, []) ∧
      held.database = context.database ∧
      ∀ {waiting : OContext},
        machine.ReachesWhile (fun context input => context.StillTransmits input.2) held waiting →
          waiting.SendsAgain .txReady destination fragment carried

/-! ## What is remembered -/

/-- The request is the one that was processed last, and the response is still there. -/
structure Remembered (request : ParsedRequest) (fragment : List UInt8) (carried : List Nat)
    (context : OContext) : Prop where
  isRepeat : context.isRepeat request = true
  fragment : context.sol.tx.lastResponse = fragment
  carried : context.sol.tx.carried = carried
  online : context.isOnline = true
  space : request.objects.length ≤ context.params.maxRxFragSize
  state : context.state ≠ .solicitedConfirmWait

section remembered

variable {config : EventBufferConfig} {environment : Environment} {request other : ParsedRequest}
  {context after : OContext} {fragment : List UInt8} {carried : List Nat}

omit [FloatOps]

theorem Remembered.of_eq (remembered : Remembered request fragment carried context)
    (sol : after.sol = context.sol) (history : after.history = context.history)
    (online : after.isOnline = context.isOnline)
    (space : after.params.maxRxFragSize = context.params.maxRxFragSize)
    (state : after.state ≠ .solicitedConfirmWait) :
    Remembered request fragment carried after where
  isRepeat := by
    rw [OContext.isRepeat, sol, history]
    exact remembered.isRepeat
  fragment := by rw [sol, remembered.fragment]
  carried := by rw [sol, remembered.carried]
  online := online.trans remembered.online
  space := space ▸ remembered.space
  state := state

/-- Where a request comes from does not matter. -/
theorem isRepeat_of_eq (header : other.header = request.header)
    (objects : other.objects = request.objects) :
    context.isRepeat other = context.isRepeat request := by
  rw [isRepeat, isRepeat, header, objects]

theorem isRepeat_of_recorded (num : after.sol.seq.num = ⟨request.header.control.seq⟩)
    (history : after.history = .recordLastProcessedRequest request.header request.objects) :
    after.isRepeat request = true := by
  rw [isRepeat, num, history]
  simp [RequestHistory.recordLastProcessedRequest, RequestHistory.fullyEqualsLastRequest,
    RequestHistory.equalsLastObjects, APDUHeader.equals]

end remembered

section handling

variable {config : EventBufferConfig} {environment : Environment} {request other : ParsedRequest}
  {context after : OContext} {fragment : List UInt8} {carried : List Nat}

/-- What a request is answered with is remembered. -/
structure AnswersLast (request : ParsedRequest) (context after : OContext) : Prop where
  isRepeat : after.isRepeat request = true
  state : after.state ≠ .solicitedConfirmWait
  isTransmitting : after.isTransmitting = true
  log : ∃ more, after.log = context.log ++ more ++ [.beginTransmit request.addresses.source
    after.sol.tx.lastResponse after.sol.tx.carried]

omit [FloatOps] in
theorem RespondsToNonRead.answersLast (responds : RespondsToNonRead request context after)
    (num : context.sol.seq.num = ⟨request.header.control.seq⟩)
    (state : context.state ≠ .solicitedConfirmWait) : AnswersLast request context after where
  isRepeat := isRepeat_of_recorded
    ((congrArg OutstationSeqNum.num responds.seq).trans num) responds.history
  state := responds.state ▸ state
  isTransmitting := responds.isTransmitting
  log := by
    obtain ⟨calls, log, _⟩ := responds.said
    exact ⟨calls, log.trans (List.append_assoc ..).symm⟩

theorem answersLast_of_handles (regular : context.Regular config) (answerable : request.Answerable)
    (handles : Handles environment request context after) : AnswersLast request context after := by
  have notRead {isRepeat : Bool} {state : OutstationState}
      (requests : context.Requests request true isRepeat state) :
      AnswersLast request context after :=
    absurd (of_decide_eq_true requests.isRead.symm) answerable.notRead
  have repeats (requests : context.Requests request false true context.state)
      (state : context.state ≠ .solicitedConfirmWait) :
      AnswersLast request context (context.repeatResponseTx request.addresses.source) :=
    ⟨requests.isRepeat.symm, state, rfl, [], (List.append_nil _).symm ▸ rfl⟩
  cases handles with
  | ignored ignores =>
      cases ignores with
      | confirm isConfirm _ _ => exact absurd isConfirm answerable.isRequest
      | unsolicited _ unsolicited => cases answerable.solicited.symm.trans unsolicited
  | confirmedLast awaits _ | confirmedMore awaits _ _ | confirmedEvents awaits _
  | confirmedNull awaits _ => exact absurd awaits.isConfirm answerable.isRequest
  | readIdle requests _ | readWaiting requests _ | readHeld requests | repeatReadIdle requests
  | repeatReadWaiting requests | repeatReadHeld requests => exact notRead requests
  | nonReadIdle requests =>
      have responds := respondToNonReadRequest_responds environment (context.numbered request) request
      have answers := responds.answersLast rfl (ne_of_eq_of_ne requests.state (by decide))
      exact ⟨answers.isRepeat, answers.state, rfl, answers.log⟩
  | nonReadWaiting requests =>
      have responds := respondToNonReadRequest_responds environment
        (context.numbered request).cancelConfirmTimer request
      obtain ⟨calls, log, _⟩ := responds.said
      exact ⟨isRepeat_of_recorded (congrArg OutstationSeqNum.num responds.seq) responds.history,
        by rintro ⟨⟩, responds.isTransmitting, calls, log.trans (List.append_assoc ..).symm⟩
  | nonReadUnsolicited requests =>
      have responds := respondToNonReadRequest_responds environment
        { context.numbered request with deferred := none } request
      have answers := responds.answersLast rfl (ne_of_eq_of_ne requests.state (by decide))
      exact ⟨answers.isRepeat, answers.state, rfl, answers.log⟩
  | repeatNonReadIdle requests | repeatNonReadUnsolicited requests =>
      have state := requests.state
      exact repeats ⟨requests.isRequest, requests.solicited, requests.isRead, requests.isRepeat, rfl⟩
        (by simp [state])
  | repeatNonReadWaiting requests =>
      have repeated := requests.isRepeat.symm
      have isRead := regular.awaitsRead requests.state (isRepeat_hasLast repeated)
      exact absurd ((isRepeat_function repeated).symm.trans isRead) answerable.notRead

/-- A confirm that is not waited for changes nothing. -/
theorem eq_of_unawaited (isConfirm : request.header.function = .confirm)
    (unawaited : ¬context.Awaits request) (handles : Handles environment request context after) :
    after = context := by
  cases handles with
  | ignored _ => rfl
  | confirmedLast awaits _ | confirmedMore awaits _ _ => exact absurd (.inl awaits) unawaited
  | confirmedEvents awaits _ | confirmedNull awaits _ => exact absurd (.inr awaits) unawaited
  | readIdle requests _ | readWaiting requests _ | readHeld requests | nonReadIdle requests
  | nonReadWaiting requests | nonReadUnsolicited requests | repeatReadIdle requests
  | repeatReadWaiting requests | repeatReadHeld requests | repeatNonReadIdle requests
  | repeatNonReadWaiting requests | repeatNonReadUnsolicited requests =>
      exact absurd isConfirm requests.isRequest

/-! ## Until it is received again -/

/-- What is held back is a confirm. -/
def HoldsConfirm (context : OContext) : Prop :=
  ∀ held, context.deferred = some held → held.header.function = .confirm

omit [FloatOps] in
theorem Remembered.responds (remembered : Remembered request fragment carried context)
    (responds : RespondsUnsolicited context after) :
    Remembered request fragment carried after :=
  remembered.of_eq responds.sol responds.history responds.isOnline
    (congrArg OutstationParams.maxRxFragSize responds.params)
    (ne_of_eq_of_ne responds.state (by decide))

theorem Remembered.reports (remembered : Remembered request fragment carried context)
    (reports : Reports environment context after) :
    Remembered request fragment carried after := by
  cases reports with
  | nothing => exact remembered
  | null _ _ _ | events _ _ _ _ => exact remembered.responds (sendUnsolicited_responds ..)

theorem Remembered.reacts {input : Input}
    (remembered : Remembered request fragment carried context) (held : context.HoldsConfirm)
    (unconfirmed : context.Unconfirmed input)
    (reacts : Reacts environment context input after) :
    Remembered request fragment carried after ∧ after.HoldsConfirm := by
  cases reacts with
  | up offline => cases offline.symm.trans remembered.online
  | ignored _ _ => exact ⟨remembered, held⟩
  | noAck _ accepted noAck =>
      have isConfirm := unconfirmed.only _ accepted
      rw [isConfirm] at noAck
      cases noAck
  | deferred _ accepted _ _ =>
      refine ⟨remembered.of_eq rfl rfl rfl rfl remembered.state, ?_⟩
      rintro _ ⟨⟩
      have isConfirm := unconfirmed.only _ accepted
      exact isConfirm
  | @handled message other _ online accepted acked free handles =>
      have isConfirm := unconfirmed.only _ accepted
      have about : context.requestOf (.receive message) = some other := by
        simp [requestOf, online, free, accepted, acked]
      obtain rfl := eq_of_unawaited isConfirm
        (fun awaits => unconfirmed.unawaited other ⟨about, awaits⟩) handles
      exact ⟨remembered, held⟩
  | txReady _ _ => exact ⟨remembered.of_eq rfl rfl rfl rfl remembered.state, held⟩
  | timeout _ =>
      rw [onConfirmTimeout_eq]
      exact ⟨remembered.of_eq rfl rfl rfl rfl (by rintro ⟨⟩), held⟩
  | apply _ changed =>
      rw [session_changeAll changed]
      exact ⟨remembered.of_eq rfl rfl rfl rfl remembered.state, held⟩

theorem Remembered.resumes (remembered : Remembered request fragment carried context)
    (held : context.HoldsConfirm)
    (unawaited : ∀ other, context.canTransmit = true → context.deferred = some other →
      ¬context.Awaits other)
    (resumes : Resumes environment context after) :
    Remembered request fragment carried after ∧ after.HoldsConfirm := by
  cases resumes with
  | blocked _ | none _ | kept _ _ _ => exact ⟨remembered, held⟩
  | handled can deferred _ handles =>
      obtain rfl := eq_of_unawaited (held _ deferred) (unawaited _ can deferred) handles
      refine ⟨remembered.of_eq rfl rfl rfl rfl remembered.state, ?_⟩
      rintro _ ⟨⟩

theorem Remembered.steps {input : Input} (heldBack : context.HeldBack)
    (regular : context.Regular config)
    (remembered : Remembered request fragment carried context) (held : context.HoldsConfirm)
    (unconfirmed : context.Unconfirmed input)
    (steps : Steps environment context input after) :
    Remembered request fragment carried after ∧ after.HoldsConfirm := by
  cases steps with
  | nothing _ => exact ⟨remembered, held⟩
  | down _ => exact unconfirmed.only.elim
  | setRestartIIN => exact ⟨remembered.of_eq rfl rfl rfl rfl remembered.state, held⟩
  | @starts _ reacted _ reacts starts =>
      obtain ⟨resumed, resumes, reports⟩ := starts
      obtain ⟨kept, holds⟩ := remembered.reacts held unconfirmed reacts
      have unawaited (other : ParsedRequest) (can : reacted.canTransmit = true)
          (deferred : reacted.deferred = some other) : ¬reacted.Awaits other := by
        by_cases ready : input = .txReady
        · subst ready
          cases reacts with
          | txReady online busy =>
              have about : context.requestOf .txReady = some other := by
                simpa [requestOf, online, busy] using deferred
              intro awaits
              refine unconfirmed.unawaited other ⟨about, awaits.imp ?_ ?_⟩
              · exact fun waits => ⟨waits.isConfirm, waits.state, waits.solicited, waits.seq⟩
              · exact fun waits => ⟨waits.isConfirm, waits.state, waits.unsolicited, waits.seq⟩
        · have isRead := holds_of_reacts heldBack regular ready reacts (canTransmit_iff.mp can).2
            other deferred
          exact not_awaits_of_read isRead
      obtain ⟨still, holding⟩ := kept.resumes holds unawaited resumes
      refine ⟨still.reports reports, ?_⟩
      cases reports with
      | nothing | null _ _ _ | events _ _ _ _ => exact holding

/-! ## When it is received -/

theorem AnswersLast.remembered {serials : List Nat}
    (marks : context.eventBuffer.Marks config serials) (online : context.isOnline = true)
    (space : request.objects.length ≤ context.params.maxRxFragSize)
    (handles : Handles environment request context after)
    (answers : AnswersLast request context after) :
    Remembered request after.sol.tx.lastResponse after.sol.tx.carried after := by
  have kept := Keeps.handles marks handles
  refine ⟨answers.isRepeat, rfl, rfl, kept.isOnline.trans online, ?_, answers.state⟩
  rw [kept.params]
  exact space

/-- The request that an event is about is answered, and what it is answered with is remembered. -/
theorem remembered_of_steps {input : Input} (regular : context.Regular config)
    (about : context.requestOf input = some request) (answerable : request.Answerable)
    (space : request.objects.length ≤ context.params.maxRxFragSize)
    (steps : Steps environment context input after) :
    Remembered request after.sol.tx.lastResponse after.sol.tx.carried after ∧
      ∃ more, after.log = context.log ++ more ++ [.beginTransmit request.addresses.source
        after.sol.tx.lastResponse after.sol.tx.carried] := by
  obtain ⟨serials, marks⟩ := regular.marks
  cases steps with
  | nothing ineffective =>
      cases ineffective with
      | up _ | down _ | apply => cases about
      | receive offline => simp [requestOf, offline] at about
      | txReady idle => simp [requestOf, idle] at about
  | down _ | setRestartIIN => cases about
  | @starts _ reacted _ reacts starts =>
      cases reacts with
      | up _ | timeout _ | apply _ _ => cases about
      | ignored _ refused => simp [requestOf, refused] at about
      | noAck _ accepted noAck => simp [requestOf, accepted, Option.filter, noAck] at about
      | deferred _ _ _ busy => simp [requestOf, busy] at about
      | @handled message other _ online accepted acked free handles =>
          have same : context.requestOf (.receive message) = some other := by
            simp [requestOf, online, free, accepted, acked]
          obtain rfl := Option.some.inj (same.symm.trans about)
          have answers := answersLast_of_handles regular answerable handles
          obtain rfl := starts.eq_of_busy answers.isTransmitting
          exact ⟨answers.remembered marks online space handles, answers.log⟩
      | txReady online busy =>
          have held : context.deferred = some request := by
            simpa [requestOf, online, busy] using about
          obtain ⟨resumed, resumes, reports⟩ := starts
          cases resumes with
          | blocked cannot => simp [canTransmit, online] at cannot
          | none none => cases none.symm.trans held
          | kept deferred isRead _ =>
              obtain rfl := Option.some.inj (deferred.symm.trans held)
              exact absurd isRead answerable.notRead
          | @handled _ answered _ deferred _ handles =>
              obtain rfl := Option.some.inj (deferred.symm.trans held)
              have cleared : Reacts environment context .txReady
                  { context with isTransmitting := false } := .txReady online busy
              have ready := regular.reacts cleared
              have answers := answersLast_of_handles ready answerable handles
              have transmits : ({ answered with deferred := none } : OContext).isTransmitting =
                  true := answers.isTransmitting
              obtain rfl := reports.eq_of_busy transmits
              obtain ⟨_, marked⟩ := ready.marks
              have remembered := answers.remembered marked online space handles
              exact ⟨remembered.of_eq rfl rfl rfl rfl remembered.state, answers.log⟩

/-! ## When it is received again -/

/-- A request that is received again has the same header and objects. -/
structure Retries (request retry : ParsedRequest) : Prop where
  header : retry.header = request.header
  objects : retry.objects = request.objects

theorem Remembered.processRequest {retry : ParsedRequest}
    (remembered : Remembered request fragment carried context)
    (answerable : request.Answerable) (retries : Retries request retry) :
    context.processRequest environment retry =
      some (context.repeatResponseTx retry.addresses.source) := by
  have repeated : context.isRepeat retry = true :=
    (isRepeat_of_eq retries.header retries.objects).trans remembered.isRepeat
  have notRead : retry.header.function ≠ .read := retries.header ▸ answerable.notRead
  rw [OContext.processRequest, if_neg (by simp [retries.header, answerable.solicited]),
    onReceiveSolRequest, if_pos repeated, if_neg notRead, onRepeatNonReadRequest]
  split
  · rfl
  · rfl
  · next waiting => exact absurd waiting remembered.state

theorem Remembered.sendsAgain {message : Message} {retry : ParsedRequest}
    (remembered : Remembered request fragment carried context)
    (answerable : request.Answerable) (retries : Retries request retry)
    (accepted : context.acceptMessage message = some retry)
    (free : context.isTransmitting = false) :
    context.SendsAgain (.receive message) retry.addresses.source fragment carried := by
  intro environment
  have processed : context.processMessage environment message =
      some (context.repeatResponseTx retry.addresses.source) := by
    rw [processMessage, accepted]
    simp only [processObjects]
    rw [if_neg (by simp [retries.header, answerable.acked]), if_neg (by simp [free]),
      if_neg (by simp [retries.header, answerable.isRequest])]
    exact remembered.processRequest answerable retries
  have success : context.step environment (.receive message) =
      some (context.repeatResponseTx retry.addresses.source) := by
    rw [step, onReceive, if_neg (by simp [remembered.online]), processed]
    exact checkForTaskStart_blocked (Bool.and_false _)
  refine ⟨context.repeatResponseTx retry.addresses.source, (machine_step success).trans ?_, rfl⟩
  have log : (context.repeatResponseTx retry.addresses.source).log = context.log ++
      [.beginTransmit retry.addresses.source fragment carried] := by
    rw [← remembered.fragment, ← remembered.carried]
    rfl
  rw [log, List.drop_left]

/-- The request is held back until the transmission is done. -/
structure WaitsToEcho (request : ParsedRequest) (fragment : List UInt8) (carried : List Nat)
    (destination : UInt16) (context : OContext) : Prop where
  remembered : Remembered request fragment carried context
  busy : context.isTransmitting = true
  held : ∃ retry, context.deferred = some retry ∧ Retries request retry ∧
    retry.addresses.source = destination

theorem WaitsToEcho.sendsAgain {destination : UInt16} (answerable : request.Answerable)
    (waits : WaitsToEcho request fragment carried destination context) :
    context.SendsAgain .txReady destination fragment carried := by
  intro environment
  obtain ⟨retry, deferred, retries, rfl⟩ := waits.held
  have remembered := waits.remembered
  let ready : OContext := { context with isTransmitting := false }
  have kept : Remembered request fragment carried ready :=
    remembered.of_eq rfl rfl rfl rfl remembered.state
  have can : ready.canTransmit = true := canTransmit_iff.mpr ⟨remembered.online, rfl⟩
  have processed : ready.processDeferredRequest environment retry =
      some (ready.repeatResponseTx retry.addresses.source, true) := by
    rw [processDeferredRequest, if_neg (by simp [retries.header, answerable.isRequest]),
      if_neg (by simp [retries.header, answerable.notRead]),
      kept.processRequest answerable retries]
    rfl
  have resumed : ready.checkForDeferredRequest environment =
      some { ready.repeatResponseTx retry.addresses.source with deferred := none } := by
    have held : ready.deferred = some retry := deferred
    rw [checkForDeferredRequest, if_pos can, held]
    simp only [processed]
    rfl
  have success : context.step environment .txReady =
      some { ready.repeatResponseTx retry.addresses.source with deferred := none } := by
    have started : ready.checkForTaskStart environment =
        some { ready.repeatResponseTx retry.addresses.source with deferred := none } := by
      rw [checkForTaskStart, resumed]
      refine congrArg some ?_
      refine if_neg ?_
      rintro ⟨can, _⟩
      cases (canTransmit_iff.mp can).2
    rw [step, onTxReady, if_neg (by simp [remembered.online, waits.busy])]
    exact started
  refine ⟨{ ready.repeatResponseTx retry.addresses.source with deferred := none },
    (machine_step success).trans ?_, rfl⟩
  have log : (ready.repeatResponseTx retry.addresses.source).log = context.log ++
      [.beginTransmit retry.addresses.source fragment carried] := by
    rw [← remembered.fragment, ← remembered.carried]
    rfl
  simp only [log, List.drop_left]

theorem WaitsToEcho.steps {input : Input} {destination : UInt16}
    (waits : WaitsToEcho request fragment carried destination context)
    (still : context.StillTransmits input)
    (steps : Steps environment context input after) :
    WaitsToEcho request fragment carried destination after := by
  obtain ⟨remembered, busy, held⟩ := waits
  cases steps with
  | nothing _ => exact ⟨remembered, busy, held⟩
  | down _ => exact absurd rfl still.stays
  | setRestartIIN =>
      exact ⟨remembered.of_eq rfl rfl rfl rfl remembered.state, busy, held⟩
  | @starts _ reacted _ reacts starts =>
      have waits : WaitsToEcho request fragment carried destination reacted := by
        cases reacts with
        | up offline => cases offline.symm.trans remembered.online
        | ignored _ _ => exact ⟨remembered, busy, held⟩
        | @noAck message other _ _ _ =>
            have kept : Undisturbed context (context.processRequestNoAck environment other) :=
              processRequestNoAck_undisturbed other
            refine ⟨remembered.of_eq kept.sol kept.history kept.isOnline ?_ ?_,
              kept.isTransmitting.trans busy, kept.deferred ▸ held⟩
            · rw [kept.params]
            · rw [kept.state]
              exact remembered.state
        | deferred _ accepted acked _ | handled _ accepted acked _ _ =>
            cases acked.symm.trans (still.unanswered _ _ rfl accepted)
        | txReady _ _ => exact absurd rfl still.busy
        | timeout _ =>
            rw [onConfirmTimeout_eq]
            exact ⟨remembered.of_eq rfl rfl rfl rfl (by rintro ⟨⟩), busy, held⟩
        | apply _ changed =>
            rw [session_changeAll changed]
            exact ⟨remembered.of_eq rfl rfl rfl rfl remembered.state, busy, held⟩
      obtain rfl := starts.eq_of_busy waits.busy
      exact waits

theorem Remembered.echoes {message : Message} {retry : ParsedRequest}
    (remembered : Remembered request fragment carried context)
    (answerable : request.Answerable) (retries : Retries request retry)
    (accepted : context.acceptMessage message = some retry) :
    context.Echoes message retry.addresses.source fragment carried := by
  refine ⟨remembered.sendsAgain answerable retries accepted, fun busy environment => ?_⟩
  have kept : retry.copyTo context.params.maxRxFragSize = retry := by
    rw [ParsedRequest.copyTo, if_neg (Nat.not_lt.mpr (retries.objects ▸ remembered.space))]
  have success : context.step environment (.receive message) = some (context.defer retry) := by
    have blocked : (context.defer retry).canTransmit = false := by
      simp [canTransmit, defer, busy]
    have processed : context.processMessage environment message = some (context.defer retry) := by
      rw [processMessage, accepted]
      simp only [processObjects]
      rw [if_neg (by simp [retries.header, answerable.acked]), if_pos busy]
    rw [step, onReceive, if_neg (by simp [remembered.online]), processed]
    exact checkForTaskStart_blocked blocked
  refine ⟨context.defer retry, (machine_step success).trans ?_, rfl, ?_⟩
  · have same : (context.defer retry).log = context.log := rfl
    rw [same, List.drop_length]
  · intro waiting reached
    refine WaitsToEcho.sendsAgain answerable (@Machine.ReachesWhile.invariant _ _ _ _ _ _ _
      (WaitsToEcho request fragment carried retry.addresses.source) reached ?_ ?_)
    · refine ⟨remembered.of_eq rfl rfl rfl rfl remembered.state, busy, retry, ?_, retries, rfl⟩
      rw [defer, kept]
    · intro before after input output waits still success
      obtain ⟨_, stepped, same⟩ := Option.map_eq_some_iff.mp success
      obtain ⟨rfl, _⟩ := Prod.mk.inj same
      exact waits.steps still (steps_of_step stepped)

/-- Until the request is received again it stays remembered. -/
theorem Remembered.between {later : OContext} (heldBack : context.HeldBack)
    (regular : context.Regular config)
    (remembered : Remembered request fragment carried context) (none : context.deferred = none)
    (between : machine.ReachesWhile (fun context input => context.Unconfirmed input.2) context
      later) :
    Remembered request fragment carried later := by
  have all := @Machine.ReachesWhile.invariant _ _ _ _ _ _ _
    (fun context => (context.HeldBack ∧ context.Regular config) ∧
      Remembered request fragment carried context ∧ context.HoldsConfirm) between
    ⟨⟨heldBack, regular⟩, remembered, fun _ held => by cases none.symm.trans held⟩ ?_
  · exact all.2.1
  · rintro before after input output ⟨⟨heldBack, regular⟩, remembered, held⟩ unconfirmed success
    refine ⟨⟨heldBack.step regular success, regular.step success⟩, ?_⟩
    obtain ⟨_, stepped, same⟩ := Option.map_eq_some_iff.mp success
    obtain ⟨rfl, _⟩ := Prod.mk.inj same
    exact remembered.steps heldBack regular held unconfirmed (steps_of_step stepped)

/-- A request that was answered, with nothing held back, is answered with the same response when it
is the next one that is received, and nothing else is done for it. -/
theorem echoes_of_reaches {addresses : Addresses} {params : OutstationParams}
    {database : DatabaseBuffers} {later : OContext} {input : Environment × Input}
    {output : List Activity} {message : Message} {retry : ParsedRequest}
    (reached : machine.Reaches (initial addresses params config database) context)
    (about : context.requestOf input.2 = some request) (answerable : request.Answerable)
    (space : request.objects.length ≤ context.params.maxRxFragSize)
    (success : machine.step context input = some (after, output))
    (none : after.deferred = none)
    (between : machine.ReachesWhile (fun context input => context.Unconfirmed input.2) after later)
    (accepted : later.acceptMessage message = some retry) (retries : Retries request retry) :
    ∃ fragment carried,
      .beginTransmit request.addresses.source fragment carried ∈ output ∧
        later.Echoes message retry.addresses.source fragment carried := by
  have regular := regular_of_reaches reached
  have heldBack := (heldBack_of_reaches reached).step regular success
  have regularly := regular.step success
  obtain ⟨_, stepped, same⟩ := Option.map_eq_some_iff.mp success
  obtain ⟨rfl, rfl⟩ := Prod.mk.inj same
  obtain ⟨first, more, log⟩ := remembered_of_steps regular about answerable space
    (steps_of_step stepped)
  refine ⟨_, _, ?_, (first.between heldBack regularly none between).echoes answerable retries
    accepted⟩
  rw [log, List.append_assoc, List.drop_left]
  exact List.mem_append_right _ List.mem_cons_self

end handling

end OContext

/-! ## A confirm in between -/

/-- Close the first relay for 100 ms, at once. -/
def directOperation : ParsedRequest where
  addresses := ⟨1024, 1⟩
  header := ⟨⟨true, true, false, false, 0⟩, .directOperate⟩
  objects := [0x0C, 0x01, 0x28, 0x01, 0x00, 0x00, 0x00, 0x41, 0x01, 0x64, 0x00, 0x00, 0x00, 0x64,
    0x00, 0x00, 0x00, 0x00]

def directOperationMessage : Message := ⟨⟨1024, 1⟩, 0xC0 :: 0x05 :: directOperation.objects⟩

theorem answerable_directOperation : directOperation.Answerable := by
  constructor <;> decide

namespace OContext

instance (context : OContext) : DecidablePred context.OnlyConfirms := fun input => by
  cases input <;> unfold OnlyConfirms <;> infer_instance

/-- The request is answered, an unsolicited response is confirmed, and the request is carried out
again. -/
def operatesAgain (context : OContext) : Bool :=
  decide (context.requestOf (.receive directOperationMessage) = some directOperation) &&
    decide (directOperation.objects.length ≤ context.params.maxRxFragSize) &&
    ((@machine .atZero).step context (.accepting, .receive directOperationMessage)).any
      fun (after, _) => after.deferred.isNone &&
        ((@machine .atZero).runWhile (fun context input => context.OnlyConfirms input.2) after
          [(.accepting, .txReady), (.accepting, .fragment [0xD0, 0x00])]).any fun later =>
            decide (later.acceptMessage directOperationMessage = some directOperation) &&
              !later.isTransmitting &&
              ((@machine .atZero).step later (.accepting, .receive directOperationMessage)).any
                fun (_, output) => decide (1 < output.length)

/-- With the confirm of an unsolicited response in between, the request is carried out again. -/
theorem not_echoes_of_confirmed :
    ∃ (context after later : OContext) (input : Environment × Input) (output : List Activity),
      (@machine .atZero).Reaches (onePoint { allowUnsolicited := true }) context ∧
        context.requestOf input.2 = some directOperation ∧ directOperation.Answerable ∧
        directOperation.objects.length ≤ context.params.maxRxFragSize ∧
        (@machine .atZero).step context input = some (after, output) ∧ after.deferred = none ∧
        (@machine .atZero).ReachesWhile (fun context input => context.OnlyConfirms input.2) after
          later ∧
        later.acceptMessage directOperationMessage = some directOperation ∧
        ¬∃ fragment carried,
          .beginTransmit directOperation.addresses.source fragment carried ∈ output ∧
            @Echoes .atZero later directOperationMessage directOperation.addresses.source fragment
              carried := by
  obtain ⟨context, reached, again⟩ :=
    @Machine.exists_reaches_of_run _ _ _ (@machine .atZero) (onePoint { allowUnsolicited := true })
      operatesAgain [(.accepting, .lowerLayerUp), (.accepting, .txReady)] (by decide +kernel)
  simp only [operatesAgain, Bool.and_eq_true, decide_eq_true_eq] at again
  obtain ⟨⟨about, space⟩, again⟩ := again
  obtain ⟨⟨after, output⟩, success, again⟩ := (Option.any_eq_true _ _).mp again
  obtain ⟨none, again⟩ := Bool.and_eq_true_iff.mp again
  obtain ⟨later, between, check⟩ := Machine.exists_reachesWhile_of_runWhile _ again
  simp only [Bool.and_eq_true, decide_eq_true_eq, Bool.not_eq_true'] at check
  obtain ⟨⟨accepted, free⟩, check⟩ := check
  obtain ⟨⟨last, sent⟩, carriedOut, long⟩ := (Option.any_eq_true _ _).mp check
  refine ⟨context, after, later, _, output, reached, about, answerable_directOperation, space,
    success, Option.isNone_iff_eq_none.mp none, between, accepted, ?_⟩
  rintro ⟨fragment, carried, _, echoes⟩
  obtain ⟨_, echoed, _⟩ := @Echoes.atOnce .atZero _ _ _ _ _ echoes free .accepting
  obtain ⟨_, rfl⟩ := Prod.mk.inj (Option.some.inj (carriedOut.symm.trans echoed))
  simp at long

/-- The request is answered and transmitted, and can be received again. -/
def answersOnce (context : OContext) : Bool :=
  decide (context.requestOf (.receive directOperationMessage) = some directOperation) &&
    decide (directOperation.objects.length ≤ context.params.maxRxFragSize) &&
    ((@machine .atZero).step context (.accepting, .receive directOperationMessage)).any
      fun (after, _) => after.deferred.isNone &&
        ((@machine .atZero).step after (.accepting, .txReady)).any fun (later, _) =>
          decide (later.acceptMessage directOperationMessage = some directOperation)

/-- With nothing but the end of the transmission in between, the first response is sent again. -/
theorem echoes_of_reaches_directOperation :
    ∃ (context after later : OContext) (output silent : List Activity),
      (@machine .atZero).Reaches (onePoint {}) context ∧
        (@machine .atZero).step context (.accepting, .receive directOperationMessage) =
          some (after, output) ∧
        (@machine .atZero).step after (.accepting, .txReady) = some (later, silent) ∧
        ∃ fragment carried,
          .beginTransmit directOperation.addresses.source fragment carried ∈ output ∧
            @Echoes .atZero later directOperationMessage directOperation.addresses.source fragment
              carried := by
  obtain ⟨context, reached, answers⟩ :=
    @Machine.exists_reaches_of_run _ _ _ (@machine .atZero) (onePoint {}) answersOnce
      [(.accepting, .lowerLayerUp)] (by decide +kernel)
  simp only [answersOnce, Bool.and_eq_true, decide_eq_true_eq] at answers
  obtain ⟨⟨about, space⟩, answers⟩ := answers
  obtain ⟨⟨after, output⟩, success, answers⟩ := (Option.any_eq_true _ _).mp answers
  obtain ⟨free, answers⟩ := Bool.and_eq_true_iff.mp answers
  have none := Option.isNone_iff_eq_none.mp free
  obtain ⟨⟨later, _⟩, done, accepted⟩ := (Option.any_eq_true _ _).mp answers
  have unconfirmed : after.Unconfirmed .txReady := by
    refine ⟨trivial, ?_⟩
    rintro request ⟨about, _⟩
    simp only [requestOf, Option.ite_none_right_eq_some] at about
    cases none.symm.trans about.2
  exact ⟨context, after, later, output, _, reached, success, done,
    @echoes_of_reaches .atZero _ _ _ _ _ _ _ _ _ _ _ _ reached about answerable_directOperation
      space success none (.step .start unconfirmed done) (of_decide_eq_true accepted) ⟨rfl, rfl⟩⟩

end OContext

end OpenDnp3.Outstation
