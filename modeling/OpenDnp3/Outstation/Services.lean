import OpenDnp3.Outstation.OutstationFrames
import OpenDnp3.Outstation.OutstationSteps
import OpenDnp3.Outstation.Selections
import OpenDnp3.Outstation.Transmissions

/-!
# Services

Which requests an outstation processes, one after the other, and what becomes of the
state that later requests depend on: the selection, the recorded time, and what is
remembered of the last request.
-/

set_option autoImplicit false

namespace OpenDnp3.Outstation

open OpenDnp3.App OpenDnp3.Library

/-- A request that is processed, with what the outstation is like then. -/
structure Service where
  environment : Environment
  request : ParsedRequest
  context : OContext

namespace OContext

/-- What later requests depend on is the same. -/
structure SameSession (context after : OContext) : Prop where
  control : after.control = context.control
  time : after.time = context.time
  history : after.history = context.history

theorem SameSession.refl (context : OContext) : context.SameSession context := ⟨rfl, rfl, rfl⟩

theorem SameSession.trans {context after last : OContext} (first : context.SameSession after)
    (second : after.SameSession last) : context.SameSession last :=
  ⟨second.control.trans first.control, second.time.trans first.time,
    second.history.trans first.history⟩

/-- What the outstation is like when it processes a request that is new. -/
def prepared (context : OContext) (request : ParsedRequest) : OContext :=
  match context.state with
  | .idle => context.numbered request
  | .solicitedConfirmWait => (context.numbered request).cancelConfirmTimer
  | .unsolicitedConfirmWait => { context.numbered request with deferred := none }

/-- A request is processed unless it is a confirm, a repeat, or a READ that has to wait. -/
def processed (environment : Environment) (context : OContext) (request : ParsedRequest) :
    List Service :=
  if request.header.function = .confirm ∨ request.header.control.uns = true then []
  else if context.isRepeat request then []
  else if request.header.function = .read ∧ context.state = .unsolicitedConfirmWait then []
  else [⟨environment, request, context.prepared request⟩]

/-- What is processed of an input at once. -/
def received (environment : Environment) (context : OContext) : Input → List Service
  | .receive message =>
      match context.acceptMessage message with
      | none => []
      | some request =>
          if !context.isOnline || request.header.function.isNoAckFuncCode ||
              context.isTransmitting then []
          else context.processed environment request
  | _ => []

/-- What is processed of a request that was deferred. -/
def resumed (environment : Environment) (context : OContext) : List Service :=
  if context.canTransmit then
    match context.deferred with
    | none => []
    | some request =>
        if request.header.function = .read ∧ context.state ≠ .idle then []
        else context.processed environment request
  else []

end OContext

namespace Service

variable [FloatOps]

/-- The outstation as it remembers the request. -/
def start (service : Service) : OContext :=
  { service.context with
    history := .recordLastProcessedRequest service.request.header service.request.objects }

/-- A READ is not handled in a way that lasts. -/
def result (service : Service) : OContext :=
  if service.request.header.function = .read then service.start
  else (service.context.handled service.environment service.request).2.2

/-- The state in which a service leaves the outstation. -/
structure Leaves (service : Service) (after : OContext) : Prop where
  numbered : service.context.sol.seq.num = ⟨service.request.header.control.seq⟩
  control : after.control = service.result.control
  time : after.time = service.result.time
  history : after.history =
    .recordLastProcessedRequest service.request.header service.request.objects

end Service

namespace OContext

variable [FloatOps] {environment : Environment} {request : ParsedRequest}
  {context after : OContext}

/-- What a part of a step comes to: nothing that lasts, or a service. -/
inductive Passes (context : OContext) : List Service → OContext → Prop
  | same {after : OContext} (same : context.SameSession after) : Passes context [] after
  | forgets {after : OContext} (same : context.resetHistory.SameSession after) :
      Passes context [] after
  | serves {service : Service} {after : OContext} (same : context.SameSession service.context)
      (leaves : service.Leaves after) : Passes context [service] after

theorem Passes.then {services : List Service} {last : OContext}
    (passes : context.Passes services after) (same : after.SameSession last) :
    context.Passes services last := by
  cases passes with
  | same first => exact .same (first.trans same)
  | forgets first => exact .forgets (first.trans same)
  | serves first leaves =>
      exact .serves first ⟨leaves.numbered, same.control.trans leaves.control,
        same.time.trans leaves.time, same.history.trans leaves.history⟩

/-! ## Handling -/

theorem sameSession_loadResponse {writer : HeaderWriter} {loaded : Loaded}
    (success : context.loadResponse writer = some loaded) :
    context.SameSession loaded.context := by
  rw [loadResponse] at success
  dsimp only at success
  split at success
  · obtain ⟨_, _, rfl⟩ := Option.map_eq_some_iff.mp success
    exact ⟨rfl, rfl, rfl⟩
  · cases success
    exact ⟨rfl, rfl, rfl⟩

theorem sameSession_handleRead {objects : List UInt8} {writer : HeaderWriter}
    {result : IINField × Loaded} (success : context.handleRead objects writer = some result) :
    context.SameSession result.2.context := by
  rw [handleRead] at success
  dsimp only at success
  split at success
  · cases success
    exact ⟨rfl, rfl, rfl⟩
  · obtain ⟨_, loaded, rfl⟩ := Option.map_eq_some_iff.mp success
    obtain same := sameSession_loadResponse loaded
    exact ⟨same.control, same.time, same.history⟩

omit [FloatOps] in
theorem sameSession_sendLoaded {loaded : Loaded} {destination : UInt16} {seq : AppSeqNum}
    {iin : IINField} {response : APDUResponse} :
    loaded.context.SameSession (sendLoaded environment loaded destination seq iin response) := by
  rw [sendLoaded]
  dsimp only
  split <;> exact ⟨rfl, rfl, rfl⟩

theorem sameSession_continueMultiFragResponse {addresses : Addresses} {seq : AppSeqNum}
    (continued : context.continueMultiFragResponse environment addresses seq = some after) :
    context.SameSession after := by
  obtain ⟨loaded, success, rfl⟩ := Option.map_eq_some_iff.mp continued
  exact (sameSession_loadResponse success).trans sameSession_sendLoaded

theorem leaves_of_respondToReadRequest (isRead : request.header.function = .read)
    (numbered : context.sol.seq.num = ⟨request.header.control.seq⟩)
    (responded : context.respondToReadRequest environment request = some after) :
    Service.Leaves ⟨environment, request, context⟩ after := by
  obtain ⟨⟨iin, loaded⟩, handled, rfl⟩ := Option.map_eq_some_iff.mp responded
  have read := sameSession_handleRead handled
  refine ⟨numbered, ?_, ?_, (read.trans sameSession_sendLoaded).history⟩
  · rw [Service.result, if_pos isRead]
    exact (read.trans sameSession_sendLoaded).control
  · rw [Service.result, if_pos isRead]
    exact (read.trans sameSession_sendLoaded).time

theorem leaves_of_respondToNonReadRequest (notRead : request.header.function ≠ .read)
    (numbered : context.sol.seq.num = ⟨request.header.control.seq⟩) :
    Service.Leaves ⟨environment, request, context⟩
      (context.respondToNonReadRequest environment request) := by
  have responds := respondToNonReadRequest_responds environment context request
  refine ⟨numbered, ?_, ?_, responds.history⟩
  · rw [Service.result, if_neg notRead]
    rfl
  · rw [Service.result, if_neg notRead]
    rfl

section processed

omit [FloatOps]

theorem processed_of_new {isRead : Bool} {state : OutstationState}
    (requests : context.Requests request isRead false state)
    (free : isRead = true → state ≠ .unsolicitedConfirmWait) :
    context.processed environment request =
      [⟨environment, request, context.prepared request⟩] := by
  have isNew := requests.isRepeat.symm
  have isRequest : ¬(request.header.function = .confirm ∨ request.header.control.uns = true) := by
    simp [requests.isRequest, requests.solicited]
  have notHeld : ¬(request.header.function = .read ∧ context.state = .unsolicitedConfirmWait) := by
    rintro ⟨read, held⟩
    have isRead := requests.isRead.trans (decide_eq_true read)
    exact free isRead (requests.state.symm.trans held)
  rw [processed, if_neg isRequest, if_neg (by simp [isNew]), if_neg notHeld]

theorem processed_of_repeat {isRead : Bool} {state : OutstationState}
    (requests : context.Requests request isRead true state) :
    context.processed environment request = [] := by
  rw [processed]
  split
  · rfl
  · rw [if_pos requests.isRepeat.symm]

theorem processed_of_held (requests : context.Requests request true false .unsolicitedConfirmWait) :
    context.processed environment request = [] := by
  have isRead := of_decide_eq_true requests.isRead.symm
  rw [processed]
  split
  · rfl
  · split
    · rfl
    · rw [if_pos ⟨isRead, requests.state⟩]

theorem processed_of_confirm (isConfirm : request.header.function = .confirm) :
    context.processed environment request = [] := by
  rw [processed, if_pos (.inl isConfirm)]

end processed

/-- What is handled is processed or leaves what is remembered alone. -/
theorem passes_of_handles (handles : Handles environment request context after) :
    context.Passes (context.processed environment request) after := by
  cases handles with
  | ignored ignores =>
      cases ignores with
      | confirm isConfirm _ _ =>
          rw [processed_of_confirm isConfirm]
          exact .same (.refl context)
      | unsolicited _ unsolicited =>
          rw [processed, if_pos (.inr unsolicited)]
          exact .same (.refl context)
  | confirmedLast awaits _ | confirmedEvents awaits _ | confirmedNull awaits _ =>
      rw [processed_of_confirm awaits.isConfirm]
      exact .forgets ⟨rfl, rfl, rfl⟩
  | confirmedMore awaits _ continued =>
      rw [processed_of_confirm awaits.isConfirm]
      have same := sameSession_continueMultiFragResponse continued
      exact .forgets ⟨same.control, same.time, same.history⟩
  | readIdle requests responded =>
      rw [processed_of_new requests (by simp), prepared, requests.state]
      exact .serves ⟨rfl, rfl, rfl⟩
        (leaves_of_respondToReadRequest (of_decide_eq_true requests.isRead.symm) rfl responded)
  | readWaiting requests responded =>
      rw [processed_of_new requests (by simp), prepared, requests.state]
      exact .serves ⟨rfl, rfl, rfl⟩
        (leaves_of_respondToReadRequest (of_decide_eq_true requests.isRead.symm) rfl responded)
  | readHeld requests =>
      rw [processed_of_held requests]
      exact .same ⟨rfl, rfl, rfl⟩
  | nonReadIdle requests =>
      rw [processed_of_new requests (by simp), prepared, requests.state]
      exact .serves ⟨rfl, rfl, rfl⟩
        (leaves_of_respondToNonReadRequest (of_decide_eq_false requests.isRead.symm) rfl)
  | nonReadWaiting requests =>
      rw [processed_of_new requests (by simp), prepared, requests.state]
      have notRead := of_decide_eq_false requests.isRead.symm
      refine Passes.then (.serves ⟨rfl, rfl, rfl⟩ (leaves_of_respondToNonReadRequest notRead rfl)) ?_
      exact ⟨rfl, rfl, rfl⟩
  | nonReadUnsolicited requests =>
      rw [processed_of_new requests (by simp), prepared, requests.state]
      exact .serves ⟨rfl, rfl, rfl⟩
        (leaves_of_respondToNonReadRequest (of_decide_eq_false requests.isRead.symm) rfl)
  | repeatReadIdle requests | repeatReadWaiting requests | repeatReadHeld requests
  | repeatNonReadIdle requests | repeatNonReadWaiting requests
  | repeatNonReadUnsolicited requests =>
      rw [processed_of_repeat requests]
      exact .same ⟨rfl, rfl, rfl⟩

theorem sameSession_handleDirectOperate (objects : List UInt8) (opType : OperateType)
    (writer : Option HeaderWriter) :
    context.SameSession (context.handleDirectOperate environment objects opType writer).2.2 := by
  rw [handleDirectOperate]
  split <;> exact ⟨rfl, rfl, rfl⟩

theorem sameSession_processRequestNoAck :
    context.SameSession (context.processRequestNoAck environment request) := by
  rw [processRequestNoAck]
  split
  · exact sameSession_handleDirectOperate ..
  · exact .refl context

/-! ## Requests that are not a READ -/

theorem sameSession_handleOperate (objects : List UInt8) (writer : HeaderWriter) :
    context.SameSession (context.handleOperate environment objects writer).2.2 := by
  rw [handleOperate]
  split
  · exact .refl context
  · split <;> exact ⟨rfl, rfl, rfl⟩

omit [FloatOps] in
theorem sameSession_handleRestart (objects : List UInt8) (isWarmRestart : Bool)
    (writer : HeaderWriter) :
    context.SameSession (context.handleRestart environment objects isWarmRestart writer).2.2 := by
  simp only [handleRestart]
  generalize (if isWarmRestart = true then environment.ask context.log .warmRestartSupport
    else environment.ask context.log .coldRestartSupport :
      RestartMode × List Activity) = support
  split
  · exact .refl context
  · split <;> exact ⟨rfl, rfl, rfl⟩

theorem sameSession_handleAssignClass (objects : List UInt8) :
    context.SameSession (context.handleAssignClass environment objects).2 := by
  simp only [handleAssignClass]
  split
  · exact ⟨rfl, rfl, rfl⟩
  · split <;> exact ⟨rfl, rfl, rfl⟩

theorem sameSession_handleUnsolicitedClasses (objects : List UInt8)
    (change : ClassField → ClassField → ClassField) :
    context.SameSession (context.handleUnsolicitedClasses objects change).2 := by
  rw [handleUnsolicitedClasses]
  split <;> exact ⟨rfl, rfl, rfl⟩

/-- Whether a request may change the recorded time. -/
def ChangesTime (function : FunctionCode) (objects : List UInt8) : Prop :=
  function = .write ∨ function = .recordCurrentTime ∧ objects.isEmpty = true

/-- The requests that change what later ones depend on. -/
inductive Changes (environment : Environment) (context : OContext) (function : FunctionCode)
    (objects : List UInt8) : OContext → Prop
  | same {after : OContext} (same : context.SameSession after)
      (other : ¬ChangesTime function objects) :
      Changes environment context function objects after
  | write (isWrite : function = .write) :
      Changes environment context function objects (context.handleWrite environment objects).2
  | select {after : OContext} (isSelect : function = .select)
      (control : after.control =
        ControlState.select context.sol.seq.num environment.now objects)
      (time : after.time = context.time) : Changes environment context function objects after
  | record (isRecord : function = .recordCurrentTime) (alone : objects.isEmpty = true) :
      Changes environment context function objects
        (context.handleRecordCurrentTime environment)

theorem changes_handleSelect (objects : List UInt8) (writer : HeaderWriter) :
    Changes environment context .select objects
      (context.handleSelect environment objects writer).2.2 := by
  have other : ¬ChangesTime .select objects := by simp [ChangesTime]
  simp only [handleSelect]
  split
  · exact .same (.refl context) other
  · split
    · exact .select rfl rfl rfl
    · exact .same ⟨rfl, rfl, rfl⟩ other

theorem changes_handleNonReadResponse (header : APDUHeader) (objects : List UInt8)
    (writer : HeaderWriter) :
    Changes environment context header.function objects
      (context.handleNonReadResponse environment header objects writer).2.2 := by
  rw [handleNonReadResponse]
  split
  · rename_i isWrite
    exact .write isWrite
  · rename_i isSelect
    rw [isSelect]
    exact changes_handleSelect objects writer
  · exact .same (sameSession_handleOperate ..) (by simp [ChangesTime, *])
  · exact .same (sameSession_handleDirectOperate ..) (by simp [ChangesTime, *])
  · exact .same (sameSession_handleRestart ..) (by simp [ChangesTime, *])
  · exact .same (sameSession_handleRestart ..) (by simp [ChangesTime, *])
  · exact .same (sameSession_handleAssignClass ..) (by simp [ChangesTime, *])
  · exact .same (.refl context) (by simp [ChangesTime, *])
  · split
    · rename_i isRecord alone
      exact .record isRecord alone
    · exact .same (.refl context) (by simp [ChangesTime, *])
  · split
    · exact .same (sameSession_handleUnsolicitedClasses ..) (by simp [ChangesTime, *])
    · exact .same (.refl context) (by simp [ChangesTime, *])
  · split
    · exact .same (sameSession_handleUnsolicitedClasses ..) (by simp [ChangesTime, *])
    · exact .same (.refl context) (by simp [ChangesTime, *])
  · rename_i notWrite _ _ _ _ _ _ _ notRecord _ _
    refine .same (.refl context) ?_
    rintro (isWrite | ⟨isRecord, _⟩)
    · exact notWrite isWrite
    · exact notRecord isRecord

theorem changes_result (service : Service) :
    Changes service.environment service.start service.request.header.function
      service.request.objects service.result := by
  rw [Service.result]
  split
  · rename_i isRead
    exact .same (.refl _) (by simp [ChangesTime, isRead])
  · exact changes_handleNonReadResponse ..

/-! ## Steps -/

theorem passes_of_reacts {input : Input} (reacts : Reacts environment context input after)
    (notUp : input ≠ .lowerLayerUp) :
    context.Passes (context.received environment input) after := by
  cases reacts with
  | up _ => exact absurd rfl notUp
  | ignored _ refused =>
      rw [received, refused]
      exact .same (.refl context)
  | noAck _ accepted noAck =>
      simp only [received, accepted, noAck, Bool.or_true, Bool.true_or, if_true]
      exact .same sameSession_processRequestNoAck
  | deferred _ accepted _ busy =>
      simp only [received, accepted, busy, Bool.or_true, if_true]
      exact .same ⟨rfl, rfl, rfl⟩
  | handled online accepted acked free handles =>
      simp only [received, accepted, online, acked, free, Bool.not_true, Bool.or_false,
        Bool.false_eq_true, if_false]
      exact passes_of_handles handles
  | txReady _ _ => exact .same ⟨rfl, rfl, rfl⟩
  | timeout _ =>
      rw [onConfirmTimeout]
      split
      · exact .same ⟨rfl, rfl, rfl⟩
      · exact .same ⟨rfl, rfl, rfl⟩
      · split <;> exact .same ⟨rfl, rfl, rfl⟩
  | apply _ changed =>
      rw [session_changeAll changed]
      exact .same ⟨rfl, rfl, rfl⟩

theorem passes_of_resumes (resumes : Resumes environment context after) :
    context.Passes (context.resumed environment) after := by
  cases resumes with
  | blocked cannot =>
      rw [resumed, if_neg (by simp [cannot])]
      exact .same (.refl context)
  | none none =>
      rw [resumed, none]
      split <;> exact .same (.refl context)
  | kept deferred isRead busy =>
      simp only [resumed, deferred, if_pos (And.intro isRead busy), ite_self]
      exact .same (.refl context)
  | handled can deferred free handles =>
      have idle : ¬(_ ∧ context.state ≠ .idle) := fun held => held.2 (free held.1)
      simp only [resumed, deferred, can, if_true, if_neg idle]
      exact (passes_of_handles handles).then ⟨rfl, rfl, rfl⟩

omit [FloatOps] in
theorem sameSession_onLowerLayerDown (online : context.isOnline = true) :
    context.resetHistory.SameSession context.onLowerLayerDown := by
  rw [onLowerLayerDown, if_neg (by simp [online])]
  exact ⟨rfl, rfl, rfl⟩

theorem sameSession_of_reports (reports : Reports environment context after) :
    context.SameSession after := by
  cases reports with
  | nothing => exact .refl context
  | null _ _ _ | events _ _ _ _ => exact ⟨rfl, rfl, rfl⟩

/-- What is processed in a step, and in which order. -/
inductive Serves (context : OContext) : Environment × Input → List Service → OContext → Prop
  | nothing {input : Environment × Input} (ineffective : Ineffective context input.2) :
      Serves context input [] context
  | down {environment : Environment} (online : context.isOnline = true) :
      Serves context (environment, .lowerLayerDown) [] context.onLowerLayerDown
  | setRestartIIN {environment : Environment} : Serves context (environment, .setRestartIIN) []
      { context with staticIIN := context.staticIIN.setBit .deviceRestart }
  | starts {environment : Environment} {input : Input} {reacted after : OContext}
      (reacts : Reacts environment context input reacted)
      (starts : Starts environment reacted after) :
      Serves context (environment, input)
        (context.received environment input ++ reacted.resumed environment) after

theorem exists_serves_of_step {input : Environment × Input} {output : List Activity}
    (success : machine.step context input = some (after, output)) :
    ∃ services, context.Serves input services after := by
  obtain ⟨_, stepped, same⟩ := Option.map_eq_some_iff.mp success
  obtain ⟨rfl, _⟩ := Prod.mk.inj same
  obtain ⟨environment, input⟩ := input
  cases steps_of_step stepped with
  | nothing ineffective => exact ⟨_, .nothing ineffective⟩
  | down online => exact ⟨_, .down online⟩
  | setRestartIIN => exact ⟨_, .setRestartIIN⟩
  | starts reacts starts => exact ⟨_, .starts reacts starts⟩

/-- What is received is processed first. -/
theorem Serves.received {input : Environment × Input} {services : List Service}
    (serves : context.Serves input services after) :
    ∃ more, services = context.received input.1 input.2 ++ more := by
  obtain ⟨environment, input⟩ := input
  cases serves with
  | nothing ineffective =>
      refine ⟨[], ?_⟩
      cases ineffective with
      | receive offline =>
          rw [OContext.received]
          split
          · rfl
          · rw [offline]
            rfl
      | up _ | down _ | txReady _ | apply => rfl
  | down _ | setRestartIIN => exact ⟨[], rfl⟩
  | starts reacts _ => exact ⟨_, rfl⟩

/-! ## Runs -/

/-- A run with everything that is processed in it. -/
inductive Serving (start : OContext) : List Service → OContext → Prop
  | start : Serving start [] start
  | step {services more : List Service} {context after : OContext} {input : Environment × Input}
      {output : List Activity} (serving : Serving start services context)
      (success : machine.step context input = some (after, output))
      (serves : context.Serves input more after) : Serving start (services ++ more) after

theorem exists_serving_of_reaches {start : OContext} (reached : machine.Reaches start context) :
    ∃ services, start.Serving services context := by
  induction reached with
  | start => exact ⟨[], .start⟩
  | step _ _ success ih =>
      obtain ⟨services, serving⟩ := ih
      obtain ⟨more, serves⟩ := exists_serves_of_step success
      exact ⟨services ++ more, .step serving success serves⟩

/-- What every service keeps, and what does not depend on anything else. -/
structure Carries (inv : List Service → OContext → Prop) : Prop where
  same : ∀ {services context after}, context.SameSession after →
    inv services context → inv services after
  forgets : ∀ {services context}, inv services context → inv services context.resetHistory
  leaves : ∀ {services} {service : Service} {after}, service.Leaves after →
    inv services service.context → inv (services ++ [service]) after

variable {inv : List Service → OContext → Prop} {services more : List Service}

theorem Carries.passes (carries : Carries inv) (passes : context.Passes more after)
    (before : inv services context) : inv (services ++ more) after := by
  cases passes with
  | same same => exact (List.append_nil services).symm ▸ carries.same same before
  | forgets same =>
      exact (List.append_nil services).symm ▸ carries.same same (carries.forgets before)
  | serves same leaves => exact carries.leaves leaves (carries.same same before)

theorem Carries.serves {input : Environment × Input} (carries : Carries inv)
    (serves : context.Serves input more after) (before : inv services context) :
    inv (services ++ more) after := by
  cases serves with
  | nothing _ => exact (List.append_nil services).symm ▸ before
  | down online =>
      rw [List.append_nil]
      exact carries.same (sameSession_onLowerLayerDown online) (carries.forgets before)
  | setRestartIIN =>
      have same : context.SameSession
          { context with staticIIN := context.staticIIN.setBit .deviceRestart } := ⟨rfl, rfl, rfl⟩
      exact (List.append_nil services).symm ▸ carries.same same before
  | @starts environment input reacted _ reacts starts =>
      obtain ⟨resumed, resumes, reports⟩ := starts
      have reached : inv (services ++ context.received environment input) reacted := by
        by_cases up : input = .lowerLayerUp
        · subst up
          cases reacts with
          | up _ =>
              have same : context.SameSession { context with isOnline := true } := ⟨rfl, rfl, rfl⟩
              exact (List.append_nil services).symm ▸ carries.same same before
        · exact carries.passes (passes_of_reacts reacts up) before
      rw [← List.append_assoc]
      exact carries.same (sameSession_of_reports reports)
        (carries.passes (passes_of_resumes resumes) reached)

theorem Carries.serving {start : OContext} (carries : Carries inv)
    (serving : start.Serving services context) (initially : inv [] start) :
    inv services context := by
  induction serving with
  | start => exact initially
  | step _ _ serves ih => exact carries.serves serves ih

end OContext

end OpenDnp3.Outstation
