import OpenDnp3.Master.MasterConfirms

/-!
# Intake of responses

Which fragments are taken in, and which of them are confirmed.
-/

set_option autoImplicit false

namespace OpenDnp3.Master

open OpenDnp3.App OpenDnp3.Library

variable [FloatOps]

/-! ## Tasks that refuse a response -/

/-- A poll refuses a fragment out of order, and one whose objects it cannot parse. -/
def PollTaskBase.refuses (rxCount : RxCount) (header : APDUResponseHeader)
    (objects : List UInt8) : Bool :=
  header.control.fir == (rxCount > 0) || !(MeasurementHandler.processMeasurements objects).isOk

def CommandTask.refuses (header : APDUResponseHeader) (objects : List UInt8) : Bool :=
  !validateSingleResponse header || !(APDUParser.parse true commandWhiteList objects).isOk

def RestartOperationTask.refuses (header : APDUResponseHeader) (objects : List UInt8) : Bool :=
  !validateSingleResponse header || !validateInternalIndications header || objects.isEmpty ||
    !(APDUParser.parse true isAllowed objects).isOk

def SerialTimeSyncTask.refuses (task : SerialTimeSyncTask) (header : APDUResponseHeader)
    (objects : List UInt8) : Bool :=
  if task.delay < 0 then
    !validateSingleResponse header ||
      ((APDUParser.parse true TimeSyncHandler.isAllowed objects).toOption.bind
        TimeSyncHandler.getTimeDelay).isNone
  else !validateNullResponse header objects

namespace MasterTask

/-- The responses that a task refuses. -/
def refuses (header : APDUResponseHeader) (objects : List UInt8) : MasterTask → Bool
  | .command _ => CommandTask.refuses header objects
  | .userPoll _ _ rxCount | .startupIntegrity _ rxCount | .eventScan _ rxCount =>
      PollTaskBase.refuses rxCount header objects
  | .restartOperation _ => RestartOperationTask.refuses header objects
  | .clearRestart => !(validateSingleResponse header && !header.iin.isSet .deviceRestart)
  | .serialTimeSync task => task.refuses header objects
  | .emptyResponse _ _ | .assignClass | .disableUnsolicited | .enableUnsolicited _
  | .lanTimeSync _ => !validateNullResponse header objects

/-- The tasks that ask for measurements. -/
def expectsMeasurements : MasterTask → Bool
  | .userPoll _ _ _ | .startupIntegrity _ _ | .eventScan _ _ => true
  | _ => false

end MasterTask

omit [FloatOps] in
theorem finalIf_eq (accepted : Bool) :
    finalIf accepted = .errorBadResponse ↔ accepted = false := by
  cases accepted <;> decide

theorem PollTaskBase.processResponse_refuses (rxCount : RxCount) (header : APDUResponseHeader)
    (objects : List UInt8) :
    (processResponse rxCount header objects).2.2 = .errorBadResponse ↔
      refuses rxCount header objects = true := by
  have parsed : (processMeasurements rxCount header objects).2.2 = .errorBadResponse ↔
      (MeasurementHandler.processMeasurements objects).isOk = false := by
    rw [processMeasurements]
    cases MeasurementHandler.processMeasurements objects with
    | ok calls => cases header.control.fin <;> simp [Except.isOk, Except.toBool]
    | error problem => simp [Except.isOk, Except.toBool]
  rw [processResponse, refuses]
  by_cases first : header.control.fir = true
  · by_cases received : rxCount > 0
    · simp [first, received]
    · simp [first, received, parsed]
  · by_cases received : rxCount > 0
    · simp [first, received, parsed]
    · simp [first, received]

theorem CommandSet.processSelectResponse_failParse (set : CommandSet) (objects : List UInt8) :
    (set.processSelectResponse objects).2 = .failParse ↔
      (APDUParser.parse true commandWhiteList objects).isOk = false := by
  rw [processSelectResponse]
  cases APDUParser.parse true commandWhiteList objects with
  | error problem => simp [Except.isOk, Except.toBool]
  | ok headers =>
      dsimp only
      split <;> simp [Except.isOk, Except.toBool]

theorem CommandSet.processOperateResponse_failParse (set : CommandSet) (objects : List UInt8) :
    (set.processOperateResponse objects).2 = .failParse ↔
      (APDUParser.parse true commandWhiteList objects).isOk = false := by
  rw [processOperateResponse]
  cases APDUParser.parse true commandWhiteList objects <;> simp [Except.isOk, Except.toBool]

theorem CommandTask.processObjects_refuses (task : CommandTask) (objects : List UInt8) :
    (task.processObjects objects).2 = .errorBadResponse ↔
      (APDUParser.parse true commandWhiteList objects).isOk = false := by
  rw [processObjects]
  split
  · rw [← task.commands.processOperateResponse_failParse, finalIf_eq]
    cases (task.commands.processOperateResponse objects).2 <;> decide
  · rw [← task.commands.processSelectResponse_failParse]
    dsimp only
    cases (task.commands.processSelectResponse objects).2 <;> simp

theorem CommandTask.processResponse_refuses (task : CommandTask) (header : APDUResponseHeader)
    (objects : List UInt8) :
    (task.processResponse header objects).2 = .errorBadResponse ↔
      refuses header objects = true := by
  rw [processResponse, refuses]
  by_cases single : validateSingleResponse header = true
  · rw [if_pos single, task.processObjects_refuses]
    simp [single]
  · rw [if_neg single]
    simp [single]

theorem RestartOperationTask.processResponse_refuses (task : RestartOperationTask)
    (header : APDUResponseHeader) (objects : List UInt8) :
    (task.processResponse header objects).2 = .errorBadResponse ↔
      refuses header objects = true := by
  rw [processResponse, refuses]
  cases validateSingleResponse header with
  | false => simp
  | true =>
      cases validateInternalIndications header with
      | false => simp
      | true =>
          by_cases empty : objects.isEmpty = true
          · simp [empty]
          · cases APDUParser.parse true isAllowed objects <;>
              simp [empty, Except.isOk, Except.toBool]

omit [FloatOps] in
theorem LANTimeSyncTask.processResponse_refuses (task : LANTimeSyncTask)
    (header : APDUResponseHeader) (objects : List UInt8) :
    (task.processResponse header objects).2 = .errorBadResponse ↔
      (!validateNullResponse header objects) = true := by
  rw [processResponse]
  cases task.state with
  | recordCurrentTime => cases validateNullResponse header objects <;> simp
  | writeTime => cases validateNullResponse header objects <;> simp [finalIf]

theorem SerialTimeSyncTask.processResponse_refuses (task : SerialTimeSyncTask)
    (application : IMasterApplication) (header : APDUResponseHeader) (objects : List UInt8) :
    (task.processResponse application header objects).2 = .errorBadResponse ↔
      task.refuses header objects = true := by
  rw [processResponse, refuses]
  by_cases measuring : task.delay < 0
  · rw [if_pos measuring, if_pos measuring, onResponseDelayMeas]
    cases validateSingleResponse header with
    | false => simp
    | true =>
        cases APDUParser.parse true TimeSyncHandler.isAllowed objects with
        | error problem => simp [Except.toOption]
        | ok headers =>
            rcases delay : TimeSyncHandler.getTimeDelay headers with _ | turnAround <;>
              simp [Except.toOption, delay]
  · rw [if_neg measuring, if_neg measuring, finalIf_eq]
    simp

/-- A task answers with an error exactly when it refuses the response. -/
theorem MasterTask.processResponse_refuses (task : MasterTask) (application : IMasterApplication)
    (header : APDUResponseHeader) (objects : List UInt8) :
    (task.processResponse application header objects).2.2 = .errorBadResponse ↔
      task.refuses header objects = true := by
  cases task with
  | command task => exact task.processResponse_refuses header objects
  | userPoll builder recurring rxCount =>
      exact PollTaskBase.processResponse_refuses rxCount header objects
  | startupIntegrity classes rxCount =>
      exact PollTaskBase.processResponse_refuses rxCount header objects
  | eventScan classes rxCount =>
      exact PollTaskBase.processResponse_refuses rxCount header objects
  | restartOperation task => exact task.processResponse_refuses header objects
  | lanTimeSync task => exact task.processResponse_refuses header objects
  | serialTimeSync task => exact task.processResponse_refuses application header objects
  | clearRestart =>
      rw [processResponse, refuses, finalIf_eq, Bool.not_eq_true']
  | emptyResponse function format =>
      rw [processResponse, refuses, finalIf_eq, Bool.not_eq_true']
  | assignClass => rw [processResponse, refuses, finalIf_eq, Bool.not_eq_true']
  | disableUnsolicited => rw [processResponse, refuses, finalIf_eq, Bool.not_eq_true']
  | enableUnsolicited enabledClasses =>
      rw [processResponse, refuses, finalIf_eq, Bool.not_eq_true']

/-! ## What a master takes in -/

variable {Runner : Type} [DecidableEq Runner]

/-- Measurements that are delivered, and confirms that are queued. -/
def Event.isIntake : Event Runner → Bool
  | .measurements .. | .queueConfirm .. => true
  | _ => false

/-- What is taken in and confirmed of a response that a master waits for. -/
def answerIntake (runner : Runner) (header : APDUResponseHeader) (calls : List SOECall) :
    List (Event Runner) :=
  .measurements runner calls ::
    if header.control.con then [.queueConfirm runner (.solicitedConfirm header.control.seq)] else []

/-- What is taken in and confirmed of an unsolicited response. -/
def unsolicitedIntake (runner : Runner) (header : APDUResponseHeader) (objects : List UInt8) :
    List (Event Runner) :=
  let result := MeasurementHandler.processMeasurements objects
  .measurements runner (result.toOption.getD []) ::
    if result.isOk && header.control.con then
      [.queueConfirm runner (.unsolicitedConfirm header.control.seq)]
    else []

namespace Session

variable {runner : Runner} (session : Session Runner) (environment : Environment Runner)

omit [FloatOps] [DecidableEq Runner] in
/-- What a session has taken in. -/
def intake (session : Session Runner) : List (Event Runner) :=
  session.common.history.filter Event.isIntake

omit [FloatOps] [DecidableEq Runner] in
theorem intake_log (event : Event Runner) :
    (session.log event).intake = session.intake ++ [event].filter Event.isIntake := by
  rw [intake, log, Common.log, List.filter_append]
  rfl

omit [FloatOps] [DecidableEq Runner] in
theorem intake_checkConfirmTransmit :
    (session.checkConfirmTransmit runner).intake = session.intake := by
  rw [checkConfirmTransmit]
  split
  · rfl
  · split
    · rfl
    · exact (intake_log _ _).trans (List.append_nil _)

omit [FloatOps] in
theorem history_completeActiveTask :
    (session.completeActiveTask runner).common.history = session.common.history := by
  rw [completeActiveTask]
  split
  · rfl
  · have ledger := session.common.ledger_completeCurrentFor runner
    have history := session.common.ledger.history_release runner
    rw [← ledger] at history
    exact history

omit [FloatOps] in
theorem intake_completeActiveTask :
    (session.completeActiveTask runner).intake = session.intake :=
  congrArg (List.filter Event.isIntake) session.history_completeActiveTask

omit [FloatOps] in
theorem history_completeTask (common : Common Runner) (now : MonotonicTimestamp)
    (id : TaskId Runner) (result : TaskCompletion) :
    (common.completeTask now id result).history =
      common.history ++ [.onTaskComplete id result ((common.body id).onTaskComplete result)] :=
  congrArg Ledger.history (common.ledger_completeTask id now result)

omit [FloatOps] in
theorem intake_resumeActiveTask :
    (session.resumeActiveTask runner environment).1.intake = session.intake := by
  rw [resumeActiveTask]
  split
  · rfl
  · dsimp only
    split
    · exact (intake_log _ _).trans (List.append_nil _)
    · rw [intake_completeActiveTask, intake, history_completeTask, List.filter_append]
      exact List.append_nil _

omit [FloatOps] in
theorem intake_processIIN (iin : IINField) :
    (session.processIIN runner iin).intake = session.intake := by
  have history : (session.processIIN runner iin).common.history =
      session.common.history ++ [.onReceiveIIN runner iin] :=
    congrArg (fun view : View Runner => view.2.history) (session.view_processIIN iin)
  rw [intake, history, List.filter_append]
  exact List.append_nil _

omit [FloatOps] [DecidableEq Runner] in
theorem intake_confirmSolicited (header : APDUResponseHeader) :
    (session.confirmSolicited runner header).intake =
      session.intake ++
        if header.control.con then
          [.queueConfirm runner (.solicitedConfirm header.control.seq)]
        else [] := by
  rw [confirmSolicited]
  split
  · rw [queueConfirm, intake_checkConfirmTransmit, intake_log]
    rfl
  · rw [List.append_nil]

omit [FloatOps] in
theorem intake_afterOnResponse (header : APDUResponseHeader) (result : ResponseResult) :
    (assignState (session.afterOnResponse runner environment header result)).intake =
      session.intake ++
        if header.control.con then
          [.queueConfirm runner (.solicitedConfirm header.control.seq)]
        else [] := by
  rw [← intake_confirmSolicited]
  cases result with
  | okContinue => rfl
  | okRepeat =>
      rw [afterOnResponse, startTaskTaskReady]
      split
      · rfl
      · exact intake_resumeActiveTask _ environment
  | okFinal | errorBadResponse => exact intake_completeActiveTask _

theorem intake_taskOnResponse (id : TaskId Runner) (header : APDUResponseHeader)
    (objects : List UInt8) :
    (session.taskOnResponse runner environment id header objects).1.intake =
      session.intake ++
        [.measurements runner ((session.common.body id).processResponse
          (environment.application id.context) header objects).2.1] := by
  rw [taskOnResponse, intake]
  dsimp only
  split
  · rw [history_completeTask, List.filter_append, Common.log, List.filter_append]
    exact List.append_nil _
  · rw [Common.log, List.filter_append]
    rfl

omit [FloatOps] [DecidableEq Runner] in
/-- The task that waits for a response. -/
def awaiting (session : Session Runner) (header : APDUResponseHeader) : Option (TaskId Runner) :=
  if session.context.tstate = .waitForResponse ∧
      header.control.seq = session.context.solSeq.seq then
    session.context.activeTask
  else none

theorem onResponseEvent_eq (header : APDUResponseHeader) (objects : List UInt8) :
    session.onResponseEvent runner environment header objects =
      match session.awaiting header with
      | none => (session, session.context.tstate)
      | some id =>
          let (session, result) := { session with
            context :=
              { session.context with
                responseTimer := false
                solSeq := session.context.solSeq.next } }.taskOnResponse runner environment id
                  header objects
          session.afterOnResponse runner environment header result := by
  rw [onResponseEvent, awaiting]
  split
  · next waiting =>
    rw [onResponseWaitForResponse]
    by_cases seq : header.control.seq = session.context.solSeq.seq
    · rw [if_neg (not_not.mpr seq), if_pos ⟨waiting, seq⟩]
      cases session.context.activeTask with
      | none => exact congrArg (session, ·) waiting.symm
      | some id => rfl
    · rw [if_pos seq, if_neg fun awaited => seq awaited.2, waiting]
  · next other => rw [if_neg fun awaited => other awaited.1]

/-- What is taken in of a solicited response. -/
def solicitedIntake (runner : Runner) (session : Session Runner)
    (environment : Environment Runner) (header : APDUResponseHeader) (objects : List UInt8) :
    List (Event Runner) :=
  match session.awaiting header with
  | none => []
  | some id =>
      answerIntake runner header ((session.common.body id).processResponse
        (environment.application id.context) header objects).2.1

theorem intake_onResponseEvent (header : APDUResponseHeader) (objects : List UInt8) :
    (assignState (session.onResponseEvent runner environment header objects)).intake =
      session.intake ++ session.solicitedIntake runner environment header objects := by
  rw [onResponseEvent_eq, solicitedIntake]
  cases session.awaiting header with
  | none => exact (List.append_nil _).symm
  | some id =>
      let waiting : Session Runner :=
        { session with
          context :=
            { session.context with
              responseTimer := false
              solSeq := session.context.solSeq.next } }
      have measured : (waiting.taskOnResponse runner environment id header objects).1.intake = _ :=
        intake_taskOnResponse waiting environment id header objects
      change (assignState (Session.afterOnResponse runner
        (waiting.taskOnResponse runner environment id header objects).1 environment header
        (waiting.taskOnResponse runner environment id header objects).2)).intake = _
      rw [intake_afterOnResponse, measured, List.append_assoc]
      rfl

theorem intake_processUnsolicitedResponse (header : APDUResponseHeader) (objects : List UInt8) :
    (session.processUnsolicitedResponse runner header objects).intake =
      session.intake ++
        if header.control.uns then unsolicitedIntake runner header objects else [] := by
  rw [processUnsolicitedResponse]
  cases header.control.uns with
  | false => exact (List.append_nil _).symm
  | true =>
      rw [if_neg (by decide), if_pos rfl, intake_processIIN, unsolicitedIntake]
      split
      · rw [queueConfirm, intake_checkConfirmTransmit, intake_log]
        change (session.log _).intake ++ _ = _
        rw [intake_log, List.append_assoc]
        rfl
      · exact intake_log _ _

/-- What is taken in of a message. -/
def messageIntake (runner : Runner) (session : Session Runner) (environment : Environment Runner)
    (message : Message) : List (Event Runner) :=
  if session.context.isOnline ∧ message.addresses.destination = session.context.addresses.source ∧
      message.addresses.source = session.context.addresses.destination then
    match APDUHeader.parseResponse message.payload with
    | none => []
    | some (header, objects) =>
        match header.function with
        | .unsolicitedResponse =>
            if header.control.uns then unsolicitedIntake runner header objects else []
        | .response => session.solicitedIntake runner environment header objects
        | _ => []
  else []

theorem intake_onReceive (message : Message) :
    (session.onReceive runner environment message).intake =
      session.intake ++ session.messageIntake runner environment message := by
  rw [onReceive, messageIntake]
  by_cases online : session.context.isOnline = true
  · by_cases destination : message.addresses.destination = session.context.addresses.source
    · by_cases source : message.addresses.source = session.context.addresses.destination
      · rw [if_neg (by simp [online]), if_neg (not_not.mpr destination),
          if_neg (not_not.mpr source), if_pos ⟨online, destination, source⟩]
        cases APDUHeader.parseResponse message.payload with
        | none => exact (List.append_nil _).symm
        | some parsed =>
            obtain ⟨header, objects⟩ := parsed
            have received : (session.log (.received runner header objects)).intake =
                session.intake := (intake_log _ _).trans (List.append_nil _)
            dsimp only
            rw [processAPDU]
            generalize function : header.function = code
            cases code with
            | unsolicitedResponse =>
                exact (intake_processUnsolicitedResponse _ header objects).trans (by rw [received])
            | response =>
                refine (intake_processIIN _ header.iin).trans
                  ((intake_onResponseEvent _ environment header objects).trans ?_)
                rw [received]
                rfl
            | _ => exact received.trans (List.append_nil _).symm
      · rw [if_neg (by simp [online]), if_neg (not_not.mpr destination), if_pos source,
          if_neg fun all => source all.2.2, List.append_nil]
    · rw [if_neg (by simp [online]), if_pos destination, if_neg fun all => destination all.2.1,
        List.append_nil]
  · rw [if_pos (by simp [online]), if_neg fun all => online all.1, List.append_nil]

end Session

/-! ## What is confirmed -/

/-- A poll that accepts a fragment has its measurements. -/
theorem PollTaskBase.processResponse_delivers {rxCount : RxCount} {header : APDUResponseHeader}
    {objects : List UInt8}
    (accepted : (processResponse rxCount header objects).2.2 ≠ .errorBadResponse) :
    MeasurementHandler.processMeasurements objects =
      .ok (processResponse rxCount header objects).2.1 := by
  have delivers (accepted : (processMeasurements rxCount header objects).2.2 ≠ .errorBadResponse) :
      MeasurementHandler.processMeasurements objects =
        .ok (processMeasurements rxCount header objects).2.1 := by
    rw [processMeasurements] at accepted ⊢
    cases parsed : MeasurementHandler.processMeasurements objects with
    | ok calls => rfl
    | error problem =>
        rw [parsed] at accepted
        exact absurd rfl accepted
  rw [processResponse] at accepted ⊢
  split_ifs at accepted ⊢
  · exact absurd rfl accepted
  · exact delivers accepted
  · exact delivers accepted
  · exact absurd rfl accepted

theorem MasterTask.processResponse_delivers {task : MasterTask}
    {application : IMasterApplication} {header : APDUResponseHeader} {objects : List UInt8}
    (accepted : (task.processResponse application header objects).2.2 ≠ .errorBadResponse)
    (expects : task.expectsMeasurements = true) :
    MeasurementHandler.processMeasurements objects =
      .ok (task.processResponse application header objects).2.1 := by
  cases task with
  | userPoll | startupIntegrity | eventScan => exact PollTaskBase.processResponse_delivers accepted
  | _ => cases expects

namespace Channel

variable (channel : Channel Runner) (environment : Environment Runner) (runner : Runner)
  (message : Message)

/-- The events that an input leads to. -/
def newEvents (input : Input Runner) : List (Event Runner) :=
  (channel.step environment input).common.history.drop channel.common.history.length

/-- The objects of a fragment were parsed, and their measurements delivered. -/
def Delivers (objects : List UInt8) : Prop :=
  ∃ calls, MeasurementHandler.processMeasurements objects = .ok calls ∧
    .measurements runner calls ∈ channel.newEvents environment (.receive runner message)

/-- The active task accepts a fragment, and the measurements that it expects are delivered. -/
def Accepts (header : APDUResponseHeader) (objects : List UInt8) : Prop :=
  ∃ id, (channel.master runner).activeTask = some id ∧
    ((channel.common.body id).processResponse (environment.application id.context) header
      objects).2.2 ≠ .errorBadResponse ∧
    ((channel.common.body id).expectsMeasurements = true →
      channel.Delivers environment runner message objects)

/-- A message is a response fragment that is taken in. -/
def TakesIn : Prop :=
  ∃ header objects, APDUHeader.parseResponse message.payload = some (header, objects) ∧
    (header.function = .unsolicitedResponse ∧
        channel.Delivers environment runner message objects ∨
      header.function = .response ∧ channel.Accepts environment runner message header objects)

/-- A confirm is queued for a message only if it is taken in. -/
def ConfirmsTakenIn : Prop :=
  ∀ confirm, .queueConfirm runner confirm ∈ channel.newEvents environment (.receive runner message) →
    channel.TakesIn environment runner message

/-- A message is a response with CON=1 that the master waits for, and that its task refuses. -/
def Refuses : Prop :=
  ∃ id header objects, (channel.master runner).Awaits message id header objects ∧
    header.control.con = true ∧ (channel.common.body id).refuses header objects = true

variable {channel environment runner message}

/-- What is taken in of a message is among the new events. -/
theorem mem_newEvents {event : Event Runner} (intake : event.isIntake = true) :
    event ∈ channel.newEvents environment (.receive runner message) ↔
      event ∈ Session.messageIntake runner ⟨channel.master runner, channel.common⟩ environment
        message := by
  obtain ⟨events, history⟩ := channel.history_prefix environment (.receive runner message)
  have taken : (channel.step environment (.receive runner message)).common.history.filter
      Event.isIntake = _ :=
    Session.intake_onReceive ⟨channel.master runner, channel.common⟩ environment message
  rw [← history, List.filter_append] at taken
  have same := List.append_cancel_left taken
  rw [newEvents, ← history, List.drop_left, ← same, List.mem_filter]
  exact ⟨fun member => ⟨member, intake⟩, And.left⟩

omit [DecidableEq Runner] in
theorem messageIntake_of_awaits {id : TaskId Runner} {header : APDUResponseHeader}
    {objects : List UInt8} (awaits : (channel.master runner).Awaits message id header objects) :
    Session.messageIntake runner ⟨channel.master runner, channel.common⟩ environment message =
      answerIntake runner header ((channel.common.body id).processResponse
        (environment.application id.context) header objects).2.1 := by
  have awaiting : Session.awaiting ⟨channel.master runner, channel.common⟩ header = some id := by
    rw [Session.awaiting, if_pos ⟨awaits.tstate, awaits.seq⟩]
    exact awaits.activeTask
  rw [Session.messageIntake, if_pos ⟨awaits.isOnline, awaits.destination, awaits.source⟩,
    awaits.parsed]
  simp only [awaits.function]
  rw [Session.solicitedIntake, awaiting]

/-- A response that is refused is confirmed all the same. -/
theorem not_confirmsTakenIn_of_refuses (refuses : channel.Refuses runner message) :
    ¬channel.ConfirmsTakenIn environment runner message := by
  intro confirms
  obtain ⟨id, header, objects, awaits, con, refused⟩ := refuses
  have queued : .queueConfirm runner (.solicitedConfirm header.control.seq) ∈
      channel.newEvents environment (.receive runner message) := by
    rw [mem_newEvents rfl, messageIntake_of_awaits awaits, answerIntake, if_pos con]
    simp
  obtain ⟨other, rest, parsed, taken⟩ := confirms _ queued
  obtain ⟨rfl, rfl⟩ := Prod.mk.inj (Option.some.inj (parsed.symm.trans awaits.parsed))
  rcases taken with ⟨function, _⟩ | ⟨_, otherId, active, accepted, _⟩
  · rw [awaits.function] at function
    cases function
  · obtain rfl := Option.some.inj (active.symm.trans awaits.activeTask)
    exact accepted (((channel.common.body otherId).processResponse_refuses _ _ _).mpr refused)

omit [DecidableEq Runner] in
/-- What is taken in is an unsolicited response, or a response that the master waits for. -/
theorem messageIntake_cases (channel : Channel Runner) (environment : Environment Runner)
    (runner : Runner) (message : Message) :
    let intake := Session.messageIntake runner ⟨channel.master runner, channel.common⟩ environment
      message
    intake = [] ∨
      (∃ header objects, APDUHeader.parseResponse message.payload = some (header, objects) ∧
        header.function = .unsolicitedResponse ∧
        intake = unsolicitedIntake runner header objects) ∨
      ∃ id header objects, (channel.master runner).Awaits message id header objects ∧
        intake = answerIntake runner header ((channel.common.body id).processResponse
          (environment.application id.context) header objects).2.1 := by
  dsimp only
  rw [Session.messageIntake]
  split
  · next addressed =>
    cases parsed : APDUHeader.parseResponse message.payload with
    | none => exact .inl rfl
    | some parts =>
        obtain ⟨header, objects⟩ := parts
        dsimp only
        split
        · next function =>
          split
          · exact .inr (.inl ⟨header, objects, rfl, function, rfl⟩)
          · exact .inl rfl
        · next function =>
          rw [Session.solicitedIntake]
          split
          · exact .inl rfl
          · next id awaiting =>
            rw [Session.awaiting] at awaiting
            split at awaiting
            · next waiting =>
              exact .inr (.inr ⟨id, header, objects, ⟨addressed.1, addressed.2.1, addressed.2.2,
                parsed, function, waiting.1, awaiting, waiting.2⟩, rfl⟩)
            · cases awaiting
        · exact .inl rfl
  · exact .inl rfl

/-- The confirms that are queued belong to fragments that are taken in, or that are refused. -/
theorem takesIn_of_queued {confirm : APDUHeader}
    (queued : .queueConfirm runner confirm ∈
      channel.newEvents environment (.receive runner message)) :
    channel.TakesIn environment runner message ∨ channel.Refuses runner message := by
  rw [mem_newEvents rfl] at queued
  rcases channel.messageIntake_cases environment runner message with
    empty | ⟨header, objects, parsed, function, taken⟩ | ⟨id, header, objects, awaits, taken⟩
  · rw [empty] at queued
    cases queued
  · rw [taken, unsolicitedIntake] at queued
    refine .inl ⟨header, objects, parsed, .inl ⟨function, ?_⟩⟩
    cases result : MeasurementHandler.processMeasurements objects with
    | error problem => simp [result, Except.isOk, Except.toBool] at queued
    | ok calls =>
        refine ⟨calls, result, (mem_newEvents rfl).mpr ?_⟩
        rw [taken, unsolicitedIntake, result]
        exact List.mem_cons_self
  · rw [taken, answerIntake] at queued
    have con : header.control.con = true := by
      by_contra unasked
      simp [unasked] at queued
    cases refused : (channel.common.body id).refuses header objects with
    | true => exact .inr ⟨id, header, objects, awaits, con, refused⟩
    | false =>
        have accepted : ((channel.common.body id).processResponse
            (environment.application id.context) header objects).2.2 ≠ .errorBadResponse := by
          rw [Ne, MasterTask.processResponse_refuses, refused]
          decide
        refine .inl ⟨header, objects, awaits.parsed, .inr ⟨awaits.function, id, awaits.activeTask,
          accepted, fun expects => ?_⟩⟩
        refine ⟨_, MasterTask.processResponse_delivers accepted expects, (mem_newEvents rfl).mpr ?_⟩
        rw [taken]
        exact List.mem_cons_self

/-- Confirms are queued for fragments that are taken in, unless a response is refused. -/
theorem confirmsTakenIn_iff (channel : Channel Runner) (environment : Environment Runner)
    (runner : Runner) (message : Message) :
    channel.ConfirmsTakenIn environment runner message ↔ ¬channel.Refuses runner message := by
  constructor
  · intro confirms refuses
    exact not_confirmsTakenIn_of_refuses refuses confirms
  · intro accepts confirm queued
    exact (takesIn_of_queued queued).resolve_right accepts

omit [FloatOps] in
/-- An integrity poll is answered by objects that cannot be parsed, and the master confirms
them. -/
theorem refused_response_is_confirmed :
    ∃ channel : Channel Unit,
      (@machine Unit _ .atZero).Reaches
        (initial (fun _ => ⟨1, 10⟩) fun _ => { disableUnsolOnStartup := false }) channel ∧
      ¬@ConfirmsTakenIn .atZero Unit _ channel .atZero () ⟨⟨10, 1⟩, [0xE0, 0x81, 0, 0, 0xFF]⟩ := by
  have reached := @reaches_after Unit _ .atZero
    (initial (fun _ => ⟨1, 10⟩) fun _ => { disableUnsolOnStartup := false })
    [(.atZero, .lowerLayerUp ()), (.atZero, .runPosted)]
  refine ⟨_, reached, @not_confirmsTakenIn_of_refuses .atZero Unit _ _ _ _ _ ?_⟩
  refine ⟨.own () .startupIntegrity, ⟨⟨.ofByte 0xE0, .response⟩, ⟨0, 0⟩⟩, [0xFF], ?_, rfl, ?_⟩
  · exact ⟨by decide +kernel, by decide +kernel, by decide +kernel, by decide +kernel, rfl,
      by decide +kernel, by decide +kernel, by decide +kernel⟩
  · decide +kernel

end Channel

end OpenDnp3.Master
