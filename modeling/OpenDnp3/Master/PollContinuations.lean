import OpenDnp3.Master.MasterConfirms
import OpenDnp3.Master.PollResponses

/-!
# Continuations of polls

A poll that waits for a fragment takes it in. It confirms the fragment and waits
for the one behind it, or it is done.
-/

set_option autoImplicit false

namespace OpenDnp3.Master

open OpenDnp3.App OpenDnp3.Library

variable {Runner : Type}

/-! ## Histories -/

def Event.delivered : Event Runner → List Measurement
  | .measurements _ calls => calls.flatMap SOECall.measurements
  | _ => []

/-- The measurements that a history hands over. -/
def delivered (history : List (Event Runner)) : List Measurement :=
  history.flatMap Event.delivered

def Event.fragment? : Event Runner → Option (List UInt8)
  | .beginTransmit _ _ apdu => some apdu
  | _ => none

/-- The fragments that are sent in a history. -/
def fragmentsOf (history : List (Event Runner)) : List (List UInt8) :=
  history.filterMap Event.fragment?

theorem delivered_append (history events : List (Event Runner)) :
    delivered (history ++ events) = delivered history ++ delivered events :=
  List.flatMap_append

/-- A poll has been done since a history, and what was delivered before that is known. -/
def CompletesWith (id : TaskId Runner) (measurements : List Measurement)
    (start history : List (Event Runner)) : Prop :=
  ∃ before report later, history = before ++ .onTaskComplete id .success report :: later ∧
    start <+: before ∧ delivered before = measurements

theorem CompletesWith.mono {id : TaskId Runner} {measurements : List Measurement}
    {start history earlier longer : List (Event Runner)}
    (completes : CompletesWith id measurements start history) (since : earlier <+: start)
    (grown : history <+: longer) : CompletesWith id measurements earlier longer := by
  obtain ⟨before, report, later, rfl, after, known⟩ := completes
  obtain ⟨events, rfl⟩ := grown
  exact ⟨before, report, later ++ events, by rw [List.append_assoc, List.cons_append],
    since.trans after, known⟩

namespace Session

variable [DecidableEq Runner] {runner : Runner} {session after : Session Runner}

/-- What a step hands over, and what it sends. -/
def Adds (session after : Session Runner) (measurements : List Measurement)
    (fragments : List (List UInt8)) : Prop :=
  ∃ events, after.common.history = session.common.history ++ events ∧
    delivered events = measurements ∧ fragmentsOf events = fragments

omit [DecidableEq Runner] in
theorem Adds.fragments {measurements : List Measurement} {fragments : List (List UInt8)}
    (adds : session.Adds after measurements fragments) :
    fragmentsOf (after.common.history.drop session.common.history.length) = fragments := by
  obtain ⟨events, grown, _, sent⟩ := adds
  rw [grown, List.drop_left]
  exact sent

omit [DecidableEq Runner] in
theorem Adds.delivered {measurements : List Measurement} {fragments : List (List UInt8)}
    (adds : session.Adds after measurements fragments) :
    Master.delivered after.common.history =
      Master.delivered session.common.history ++ measurements := by
  obtain ⟨events, grown, known, _⟩ := adds
  rw [grown, delivered_append, known]

theorem history_onReceive [FloatOps] (session : Session Runner) (environment : Environment Runner)
    (message : Message) :
    session.common.history <+: (session.onReceive runner environment message).common.history :=
  Channel.history_prefix ⟨fun _ => session.context, session.common⟩ environment
    (.receive runner message)

theorem history_onTxReady [FloatOps] (session : Session Runner)
    (environment : Environment Runner) :
    session.common.history <+: (session.onTxReady runner environment).common.history :=
  Channel.history_prefix ⟨fun _ => session.context, session.common⟩ environment (.txReady runner)

/-! ## Waiting -/

/-- A poll has taken in a number of fragments and waits for the one with some number. -/
structure WaitsFor (session : Session Runner) (addresses : Addresses) (id : TaskId Runner)
    (count : RxCount) (seq : AppSeqNum) : Prop where
  addresses : session.context.addresses = addresses
  isOnline : session.context.isOnline = true
  tstate : session.context.tstate = .waitForResponse
  activeTask : session.context.activeTask = some id
  solSeq : session.context.solSeq = seq
  rxCount : (session.common.body id).rxCount? = some count

theorem context_processIIN (session : Session Runner) (iin : IINField) :
    (session.processIIN runner iin).context = session.context := by
  have demand (session : Session Runner) (task : OwnTask) :
      (session.demandTask runner task).context = session.context := by
    rw [demandTask]
    split <;> rfl
  have evaluates (session : Session Runner) (demanded : Bool) (task : OwnTask) :
      (session.demandAndEvaluate runner demanded task).context = session.context := by
    rw [demandAndEvaluate]
    split
    · exact demand session task
    · rfl
  simp only [processIIN, log]
  rw [evaluates, evaluates, evaluates]
  split
  · change (session.onRestartDetected runner).context = session.context
    rw [onRestartDetected, demand, demand, demand, demand]
  · rfl

/-! ## Fragments -/

/-- A message is a fragment with measurements. -/
structure Carries [FloatOps] (addresses : Addresses) (control : AppControlField)
    (measurements : List Measurement) (message : Message) : Prop where
  source : message.addresses.source = addresses.destination
  destination : message.addresses.destination = addresses.source
  delivers : ∃ iin objects calls,
    APDUHeader.parseResponse message.payload = some (⟨⟨control, .response⟩, iin⟩, objects) ∧
    MeasurementHandler.processMeasurements objects = .ok calls ∧
    calls.flatMap SOECall.measurements = measurements

end Session

variable [FloatOps]

/-- A poll takes in the next fragment. -/
theorem MasterTask.processResponse_next {task : MasterTask} {count : RxCount}
    {header : APDUResponseHeader} {objects : List UInt8} {calls : List SOECall}
    (application : IMasterApplication) (counts : task.rxCount? = some count)
    (fir : header.control.fir = decide (count = 0))
    (processed : MeasurementHandler.processMeasurements objects = .ok calls) :
    ∃ body, task.processResponse application header objects =
        (body, calls, if header.control.fin then .okFinal else .okContinue) ∧
      body.rxCount? = some (count + 1) := by
  rcases response : task.processResponse application header objects with ⟨body, given, result⟩
  obtain ⟨next, known, same⟩ := processResponse_of_rxCount response counts
  rcases PollTaskBase.processResponse_cases same with ⟨_, rfl, parsed, rfl⟩ | ⟨_, rfl⟩
  · obtain rfl := Except.ok.inj (processed.symm.trans parsed)
    exact ⟨body, rfl, known⟩
  · have refused := PollTaskBase.processResponse_refuses count header objects
    rw [same, PollTaskBase.refuses_eq_false fir processed] at refused
    simp at refused

namespace Session

variable [DecidableEq Runner] {runner : Runner} {session : Session Runner} {addresses : Addresses}
  {id : TaskId Runner} {count : RxCount} {seq : AppSeqNum} {control : AppControlField}
  {measurements : List Measurement} {message : Message}

omit [DecidableEq Runner] in
theorem WaitsFor.awaits {iin : IINField} {objects : List UInt8}
    (waits : session.WaitsFor addresses id count seq)
    (carries : Carries addresses control measurements message) (number : control.seq = seq.seq)
    (parsed : APDUHeader.parseResponse message.payload =
      some (⟨⟨control, .response⟩, iin⟩, objects)) :
    session.context.Awaits message id ⟨⟨control, .response⟩, iin⟩ objects where
  isOnline := waits.isOnline
  destination := carries.destination.trans (congrArg Addresses.source waits.addresses.symm)
  source := carries.source.trans (congrArg Addresses.destination waits.addresses.symm)
  parsed := parsed
  function := rfl
  tstate := waits.tstate
  activeTask := waits.activeTask
  seq := number.trans (congrArg SequenceNum.seq waits.solSeq.symm)

omit [DecidableEq Runner] [FloatOps] in
/-- A confirm is sent at once, or waits until the master is free. -/
theorem confirmSolicited_eq {header : APDUResponseHeader}
    (quiet : session.context.confirmQueue = []) (con : header.control.con = true) :
    (session.confirmSolicited runner header).context =
        { session.context with
          isSending := true
          confirmQueue :=
            if session.context.isSending then [.solicitedConfirm header.control.seq] else []
          txBuffer := (session.confirmSolicited runner header).context.txBuffer } ∧
      (session.confirmSolicited runner header).common.body = session.common.body ∧
      (session.confirmSolicited runner header).common.history =
        session.common.history ++ .queueConfirm runner (.solicitedConfirm header.control.seq) ::
          if session.context.isSending then []
          else
            [.beginTransmit runner none (confirmBytes (.solicitedConfirm header.control.seq))] := by
  simp only [confirmSolicited, con, if_true, queueConfirm, quiet, List.nil_append,
    checkConfirmTransmit, log]
  cases sending : session.context.isSending with
  | true => exact ⟨by simp, rfl, rfl⟩
  | false => exact ⟨rfl, rfl, List.append_assoc _ _ _⟩

/-- What a fragment leads to that is not the last one. -/
structure Continued (runner : Runner) (session after : Session Runner) (id : TaskId Runner)
    (body : MasterTask) (header : APDUResponseHeader) (objects : List UInt8)
    (calls : List SOECall) : Prop where
  context : after.context =
    { session.context with
      responseTimer := true
      solSeq := session.context.solSeq.next
      tstate := .waitForResponse
      isSending := true
      confirmQueue :=
        if session.context.isSending then [.solicitedConfirm header.control.seq] else []
      txBuffer := after.context.txBuffer }
  body : after.common.body id = body
  history : after.common.history = session.common.history ++
    (.received runner header objects :: .measurements runner calls ::
      .queueConfirm runner (.solicitedConfirm header.control.seq) ::
        ((if session.context.isSending then []
          else
            [.beginTransmit runner none (confirmBytes (.solicitedConfirm header.control.seq))]) ++
          [.onReceiveIIN runner header.iin]))

theorem onReceive_of_continues {environment : Environment Runner} {header : APDUResponseHeader}
    {objects : List UInt8} {body : MasterTask} {calls : List SOECall}
    (awaits : session.context.Awaits message id header objects)
    (quiet : session.context.confirmQueue = []) (con : header.control.con = true)
    (response : (session.common.body id).processResponse (environment.application id.context)
      header objects = (body, calls, .okContinue)) :
    session.Continued runner (session.onReceive runner environment message) id body header objects
      calls := by
  rw [onReceive_of_awaits session environment awaits]
  obtain ⟨taken, answered, context, ledger, _⟩ := @taskOnResponse_eq _ _ _ runner
    { context :=
        { session.context with
          responseTimer := false
          solSeq := session.context.solSeq.next }
      common := session.common.log (.received runner header objects) }
    environment id _ _ _ _ _ response
  have ledger := ledger rfl
  rw [answered]
  dsimp only
  have goesOn : assignState (taken.afterOnResponse runner environment header .okContinue) =
      (taken.confirmSolicited runner header).startResponseTimer.setState .waitForResponse := rfl
  have empty : taken.context.confirmQueue = [] := by rw [context]; exact quiet
  obtain ⟨confirming, kept, logs⟩ := @confirmSolicited_eq _ runner taken header empty con
  rw [goesOn]
  generalize taken.confirmSolicited runner header = confirmed at confirming kept logs ⊢
  have indicated := @context_processIIN _ _ runner
    (confirmed.startResponseTimer.setState .waitForResponse) header.iin
  have logged := congrArg Prod.snd (@view_processIIN _ _ runner
    (confirmed.startResponseTimer.setState .waitForResponse) header.iin)
  generalize processIIN runner (confirmed.startResponseTimer.setState .waitForResponse)
    header.iin = after at indicated logged ⊢
  constructor
  · rw [indicated, setState, startResponseTimer, confirming, context]
  · have same : after.common.body = taken.common.body :=
      (congrArg Ledger.body logged).trans kept
    have changed : taken.common.body = Function.update session.common.body id body :=
      congrArg Ledger.body ledger
    rw [same, changed, Function.update_self]
  · have before : taken.common.history = session.common.history ++
        [.received runner header objects] ++ [.measurements runner calls] :=
      congrArg Ledger.history ledger
    have last : after.common.history = confirmed.common.history ++
        [.onReceiveIIN runner header.iin] := congrArg Ledger.history logged
    rw [last, logs, before, context]
    simp

/-- A master goes on with a poll, and its confirm is sent or waits to be sent. -/
structure Confirms (session after : Session Runner) (confirm : APDUHeader)
    (measurements : List Measurement) : Prop where
  isSending : after.context.isSending = true
  queued : session.context.isSending = true →
    after.context.confirmQueue = [confirm] ∧ session.Adds after measurements []
  sent : session.context.isSending = false →
    after.context.confirmQueue = [] ∧ session.Adds after measurements [confirmBytes confirm]

/-- A fragment that is not the last one is confirmed, and the next one is expected. -/
theorem WaitsFor.receive (waits : session.WaitsFor addresses id count seq)
    (environment : Environment Runner) (quiet : session.context.confirmQueue = [])
    (carries : Carries addresses control measurements message) (number : control.seq = seq.seq)
    (fir : control.fir = decide (count = 0)) (fin : control.fin = false)
    (con : control.con = true) :
    (session.onReceive runner environment message).WaitsFor addresses id (count + 1) seq.next ∧
      session.Confirms (session.onReceive runner environment message) (.solicitedConfirm seq.seq)
        measurements := by
  obtain ⟨iin, objects, calls, parsed, processed, same⟩ := carries.delivers
  obtain ⟨body, response, counts⟩ := @MasterTask.processResponse_next _ _ _
    ⟨⟨control, .response⟩, iin⟩ _ _ (environment.application id.context) waits.rxCount fir processed
  rw [if_neg (by simp [fin])] at response
  have continued : session.Continued runner (session.onReceive runner environment message) id body
      ⟨⟨control, .response⟩, iin⟩ objects calls :=
    onReceive_of_continues (waits.awaits carries number parsed) quiet con response
  obtain ⟨context, known, history⟩ := continued
  generalize session.onReceive runner environment message = after at context known history ⊢
  refine ⟨⟨?_, ?_, ?_, ?_, ?_, known ▸ counts⟩, ?_, fun sending => ⟨?_, _, history, ?_⟩,
    fun free => ⟨?_, _, history, ?_⟩⟩
  · rw [context]
    exact waits.addresses
  · rw [context]
    exact waits.isOnline
  · rw [context]
  · rw [context]
    exact waits.activeTask
  · rw [context]
    exact congrArg SequenceNum.next waits.solSeq
  · rw [context]
  · rw [context, ← number]
    exact if_pos sending
  · simp [Master.delivered, Event.delivered, fragmentsOf, Event.fragment?, sending, same]
  · rw [context]
    exact if_neg (by simp [free])
  · rw [if_neg (by simp [free])]
    exact ⟨by simp [Master.delivered, Event.delivered, same], by rw [number]; rfl⟩

/-- The last fragment completes the poll. -/
theorem WaitsFor.finishes (waits : session.WaitsFor addresses id count seq) (runner : Runner)
    (environment : Environment Runner)
    (carries : Carries addresses control measurements message) (number : control.seq = seq.seq)
    (fir : control.fir = decide (count = 0)) (fin : control.fin = true) :
    CompletesWith id (Master.delivered session.common.history ++ measurements)
      session.common.history (session.onReceive runner environment message).common.history := by
  obtain ⟨iin, objects, calls, parsed, processed, rfl⟩ := carries.delivers
  obtain ⟨body, response, _⟩ := @MasterTask.processResponse_next _ _ _
    ⟨⟨control, .response⟩, iin⟩ _ _ (environment.application id.context) waits.rxCount fir processed
  rw [if_pos (by simp [fin])] at response
  obtain ⟨_, report, events, history⟩ := session.onReceive_of_completes environment
    (waits.awaits carries number parsed) response rfl
  refine ⟨_, report, events, history, ?_, ?_⟩
  · rw [List.append_assoc]
    exact List.prefix_append _ _
  · simp [Master.delivered, Event.delivered]

omit [FloatOps] in
/-- A confirm that had to wait is sent when the master is free. -/
theorem WaitsFor.txReady (waits : session.WaitsFor addresses id count seq) (runner : Runner)
    (environment : Environment Runner) :
    (session.onTxReady runner environment).WaitsFor addresses id count seq ∧
      (session.context.confirmQueue = [] →
        (session.onTxReady runner environment).context.confirmQueue = [] ∧
          session.Adds (session.onTxReady runner environment) [] []) ∧
      ∀ confirm, session.context.confirmQueue = [confirm] → session.context.isSending = true →
        (session.onTxReady runner environment).context.confirmQueue = [] ∧
          session.Adds (session.onTxReady runner environment) [] [confirmBytes confirm] := by
  rw [onTxReady]
  cases sending : session.context.isSending with
  | false =>
      rw [if_pos (by simp)]
      exact ⟨waits, fun quiet => ⟨quiet, [], (List.append_nil _).symm, rfl, rfl⟩, by simp⟩
  | true =>
      rw [if_neg (by simp [waits.isOnline])]
      have same : assignState (({ session with
          context := { session.context with isSending := false } }.log (.txReady runner)
            ).onTransmitComplete runner environment) =
          { session with
            context := { session.context with isSending := false, tstate := .waitForResponse }
          }.log (.txReady runner) := by
        have tstate : ({ session with
            context := { session.context with isSending := false } }.log
              (.txReady runner)).context.tstate = .waitForResponse := waits.tstate
        rw [onTransmitComplete, tstate]
        rfl
      rw [same, checkConfirmTransmit, if_neg (by simp [log])]
      simp only [log]
      cases session.context.confirmQueue with
      | nil =>
          exact ⟨⟨waits.addresses, waits.isOnline, rfl, waits.activeTask, waits.solSeq,
            waits.rxCount⟩, fun _ => ⟨rfl, [.txReady runner], rfl, rfl, rfl⟩, by simp⟩
      | cons first confirms =>
          refine ⟨⟨waits.addresses, waits.isOnline, rfl, waits.activeTask, waits.solSeq,
            waits.rxCount⟩, by simp, fun confirm only _ => ?_⟩
          obtain ⟨rfl, rfl⟩ := List.cons_eq_cons.mp only
          exact ⟨rfl, [.txReady runner, .beginTransmit runner none (confirmBytes first)],
            List.append_assoc _ _ _, rfl, rfl⟩

end Session

end OpenDnp3.Master
