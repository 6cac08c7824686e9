import OpenDnp3.Outstation.Event.EventBufferProperties
import OpenDnp3.Outstation.OutstationSteps
import OpenDnp3.Outstation.RequestCalls

/-!
# Outstation frames

What responses leave alone, and what they leave of the events: those that are
marked as written are the ones that the last fragment carries.
-/

set_option autoImplicit false

namespace OpenDnp3.Outstation

open OpenDnp3.App OpenDnp3.Library

/-- A response says that events were lost. -/
def announces (fragment : List UInt8) : Bool :=
  (IINField.mk (fragment.getD 2 0) (fragment.getD 3 0)).isSet .eventBufferOverflow

namespace OContext

variable {environment : Environment} {context after : OContext}

theorem isSet_getResponseIIN (overflown : context.eventBuffer.isOverflown.1 = true) :
    (context.getResponseIIN environment).1.isSet .eventBufferOverflow = true := by
  have dynamic : context.getDynamicIIN.1.isSet .eventBufferOverflow = true := by
    simp only [getDynamicIIN, overflown, IINField.setBitToValue, if_true, IINField.setBit,
      IINField.isSet_or, Bool.or_eq_true]
    exact .inr (by decide)
  simp only [getResponseIIN, IINField.isSet_or, dynamic, Bool.or_true, Bool.true_or]

theorem announces_toRSlice (response : APDUResponse) (iin : IINField)
    (overflown : context.eventBuffer.isOverflown.1 = true) :
    announces (response.setIIN (iin.or (context.getResponseIIN environment).1)).toRSlice =
      true := by
  have set : (iin.or (context.getResponseIIN environment).1).isSet .eventBufferOverflow = true := by
    rw [IINField.isSet_or, isSet_getResponseIIN overflown, Bool.or_true]
  exact set

/-- Nothing has changed of the session with the master. -/
structure Undisturbed (before after : OContext) : Prop where
  addresses : after.addresses = before.addresses
  params : after.params =
    { before.params with unsolClassMask := after.params.unsolClassMask }
  eventBuffer : after.eventBuffer = before.eventBuffer
  fragmentCount : after.fragmentCount = before.fragmentCount
  isOnline : after.isOnline = before.isOnline
  isTransmitting : after.isTransmitting = before.isTransmitting
  confirmTimer : after.confirmTimer = before.confirmTimer
  deferred : after.deferred = before.deferred
  sol : after.sol = before.sol
  unsol : after.unsol = before.unsol
  history : after.history = before.history
  state : after.state = before.state

theorem Undisturbed.refl (context : OContext) : Undisturbed context context :=
  ⟨rfl, rfl, rfl, rfl, rfl, rfl, rfl, rfl, rfl, rfl, rfl, rfl⟩

theorem Undisturbed.change (context : OContext) (unsolClassMask : ClassField)
    (database : DatabaseBuffers) (staticIIN : IINField) (control : ControlState)
    (time : TimeSyncState) (log : List Activity) :
    Undisturbed context
      { context with
        params := { context.params with unsolClassMask }
        database, staticIIN, control, time, log } :=
  ⟨rfl, rfl, rfl, rfl, rfl, rfl, rfl, rfl, rfl, rfl, rfl, rfl⟩

theorem handleRestart_undisturbed (objects : List UInt8) (isWarmRestart : Bool)
    (writer : HeaderWriter) :
    Undisturbed context (context.handleRestart environment objects isWarmRestart writer).2.2 := by
  simp only [handleRestart]
  generalize (if isWarmRestart = true then environment.ask context.log .warmRestartSupport
    else environment.ask context.log .coldRestartSupport :
      RestartMode × List Activity) = support
  split
  · exact .refl _
  · split
    · exact .change context _ _ _ _ _ _
    · exact .change context _ _ _ _ _ _

section nonRead

variable [FloatOps]

theorem handleWrite_undisturbed (objects : List UInt8) :
    Undisturbed context (context.handleWrite environment objects).2 := by
  rw [handleWrite]
  split
  · exact .refl _
  · exact .change context _ _ _ _ _ _

theorem handleSelect_undisturbed (objects : List UInt8) (writer : HeaderWriter) :
    Undisturbed context (context.handleSelect environment objects writer).2.2 := by
  rw [handleSelect]
  split
  · exact .refl _
  · exact .change context _ _ _ _ _ _

theorem handleOperate_undisturbed (objects : List UInt8) (writer : HeaderWriter) :
    Undisturbed context (context.handleOperate environment objects writer).2.2 := by
  rw [handleOperate]
  split
  · exact .refl _
  · split
    · exact .change context _ _ _ _ _ _
    · exact .refl _

theorem handleDirectOperate_undisturbed (objects : List UInt8) (opType : OperateType)
    (writer : Option HeaderWriter) :
    Undisturbed context
      (context.handleDirectOperate environment objects opType writer).2.2 := by
  rw [handleDirectOperate]
  split
  · exact .refl _
  · exact .change context _ _ _ _ _ _

theorem handleAssignClass_undisturbed (objects : List UInt8) :
    Undisturbed context (context.handleAssignClass environment objects).2 := by
  simp only [handleAssignClass]
  split
  · exact .change context _ _ _ _ _ _
  · split
    · exact .change context _ _ _ _ _ _
    · exact .change context _ _ _ _ _ _

theorem handleUnsolicitedClasses_undisturbed (objects : List UInt8)
    (change : ClassField → ClassField → ClassField) :
    Undisturbed context (context.handleUnsolicitedClasses objects change).2 := by
  rw [handleUnsolicitedClasses]
  split
  · exact .refl _
  · exact .change context _ _ _ _ _ _

/-- Handling a request does not disturb the session. -/
theorem handleNonReadResponse_undisturbed (header : APDUHeader) (objects : List UInt8)
    (writer : HeaderWriter) :
    Undisturbed context
      (context.handleNonReadResponse environment header objects writer).2.2 := by
  rw [handleNonReadResponse]
  split
  · exact handleWrite_undisturbed objects
  · exact handleSelect_undisturbed objects writer
  · exact handleOperate_undisturbed objects writer
  · exact handleDirectOperate_undisturbed objects .directOperate (some writer)
  · exact handleRestart_undisturbed objects false writer
  · exact handleRestart_undisturbed objects true writer
  · exact handleAssignClass_undisturbed objects
  · exact .refl _
  · split
    · exact .change context _ _ _ _ _ _
    · exact .refl _
  · split
    · exact handleUnsolicitedClasses_undisturbed objects _
    · exact .refl _
  · split
    · exact handleUnsolicitedClasses_undisturbed objects _
    · exact .refl _
  · exact .refl _

theorem processRequestNoAck_undisturbed (request : ParsedRequest) :
    Undisturbed context (context.processRequestNoAck environment request) := by
  rw [processRequestNoAck]
  split
  · exact handleDirectOperate_undisturbed _ _ _
  · exact .refl _

/-- What a response to a request that is not a READ changes of the session. -/
structure RespondsToNonRead (request : ParsedRequest) (context after : OContext) : Prop where
  addresses : after.addresses = context.addresses
  params : after.params =
    { context.params with unsolClassMask := after.params.unsolClassMask }
  eventBuffer : after.eventBuffer = context.eventBuffer.isOverflown.2
  fragmentCount : after.fragmentCount = context.fragmentCount
  isOnline : after.isOnline = context.isOnline
  isTransmitting : after.isTransmitting = true
  confirmTimer : after.confirmTimer = context.confirmTimer
  deferred : after.deferred = context.deferred
  seq : after.sol.seq = context.sol.seq
  control : after.sol.tx.control = ⟨true, true, false, false, request.header.control.seq⟩
  carried : after.sol.tx.carried = []
  header : after.sol.tx.lastResponse.take 2 =
    [after.sol.tx.control.toByte, FunctionCode.response.toType]
  announced : context.eventBuffer.isOverflown.1 = true →
    announces after.sol.tx.lastResponse = true
  log : ∃ calls, Calls (operatesOf request.header.function) context.log calls ∧
    after.log = calls ++ [.call .getApplicationIIN,
      .beginTransmit request.addresses.source after.sol.tx.lastResponse []]
  unsol : after.unsol = context.unsol
  history : after.history =
    .recordLastProcessedRequest request.header request.objects
  state : after.state = context.state

variable (environment) in
theorem respondToNonReadRequest_responds (context : OContext) (request : ParsedRequest) :
    RespondsToNonRead request context (context.respondToNonReadRequest environment request) := by
  have kept : Undisturbed
      { context with history := .recordLastProcessedRequest request.header request.objects }
      (handleNonReadResponse environment
        { context with history := .recordLastProcessedRequest request.header request.objects }
        request.header request.objects context.sol.tx.start.getWriter).2.2 :=
    handleNonReadResponse_undisturbed _ _ _
  have called : Calls (operatesOf request.header.function) context.log
      (handleNonReadResponse environment
        { context with history := .recordLastProcessedRequest request.header request.objects }
        request.header request.objects context.sol.tx.start.getWriter).2.2.log :=
    handleNonReadResponse_calls request.header request.objects context.sol.tx.start.getWriter
  exact {
    addresses := kept.addresses
    params := kept.params
    eventBuffer := congrArg (fun buffer => (EventBuffer.isOverflown buffer).2) kept.eventBuffer
    fragmentCount := kept.fragmentCount
    isOnline := kept.isOnline
    isTransmitting := rfl
    confirmTimer := kept.confirmTimer
    deferred := kept.deferred
    seq := by
      have same := congrArg OutstationSolState.seq kept.sol
      exact same
    control := rfl
    carried := rfl
    header := rfl
    announced := fun overflown => announces_toRSlice _ _
      ((congrArg (fun buffer => (EventBuffer.isOverflown buffer).1) kept.eventBuffer).trans overflown)
    log := ⟨_, called, List.append_assoc _ _ _⟩
    unsol := kept.unsol
    history := kept.history
    state := kept.state }

end nonRead

/-! ## Data -/

section data

variable {config : EventBufferConfig}

theorem ReadHandler.marks_onHeader {handler : ReadHandler} {serials : List Nat}
    (marks : handler.eventBuffer.Marks config serials) (header : Header) :
    (handler.onHeader header).eventBuffer.Marks config serials := by
  cases header with
  | allObjects record =>
      rw [ReadHandler.onHeader]
      split
      · exact marks
      · exact marks.selectMaxCount _ _
      · exact marks
  | range record range => exact marks
  | count record count => exact marks.selectMaxCount _ _
  | rangeOf _ _ _ _ => exact marks
  | countOf _ _ _ _ => exact marks
  | prefixOf _ _ _ _ => exact marks
  | freeFormat _ _ => exact marks

theorem ReadHandler.marks_foldl {handler : ReadHandler} {serials : List Nat}
    (marks : handler.eventBuffer.Marks config serials) (headers : List Header) :
    (headers.foldl ReadHandler.onHeader handler).eventBuffer.Marks config serials := by
  induction headers generalizing handler with
  | nil => exact marks
  | cons header headers ih => exact ih (marks_onHeader marks header)

theorem ReadHandler.restates_foldl {handler : ReadHandler} {serials : List Nat}
    (marks : handler.eventBuffer.Marks config serials) (headers : List Header) :
    EventBuffer.Restates handler.eventBuffer
      (headers.foldl ReadHandler.onHeader handler).eventBuffer := by
  induction headers generalizing handler with
  | nil => exact .refl _
  | cons header headers ih =>
      refine .trans ?_ (ih (marks_onHeader marks header))
      cases header with
      | allObjects record =>
          rw [ReadHandler.onHeader]
          split
          · exact .refl _
          · exact marks.restates_selectMaxCount _ _
          · exact .refl _
      | count record count => exact marks.restates_selectMaxCount _ _
      | _ => exact .refl _

variable [FloatOps]

/-- What loading a fragment leaves: the events that it carries are marked, and it asks for a
confirm if there are any. -/
structure Loads (config : EventBufferConfig) (context : OContext) (loaded : Loaded) : Prop where
  session : loaded.context =
    { context with
      fragmentCount := loaded.context.fragmentCount
      eventBuffer := loaded.context.eventBuffer
      database := loaded.context.database }
  marks : loaded.context.eventBuffer.Marks config loaded.carried
  restates : EventBuffer.Restates context.eventBuffer loaded.context.eventBuffer
  overflown : loaded.context.eventBuffer.isOverflown.1 = context.eventBuffer.isOverflown.1
  confirm : loaded.carried ≠ [] → loaded.control.con = true
  solicited : loaded.control.uns = false

theorem loadResponse_loads {loaded : Loaded} {writer : HeaderWriter}
    (marks : context.eventBuffer.Marks config [])
    (success : context.loadResponse writer = some loaded) : Loads config context loaded := by
  obtain ⟨marked, space⟩ := marks.load writer
  rw [List.nil_append] at marked
  have same := marks.restates_load writer
  have overflown := same.isOverflown marks marked
  simp only [loadResponse] at success
  split at success
  · obtain ⟨static, _, rfl⟩ := Option.map_eq_some_iff.mp success
    refine ⟨rfl, marked, same, overflown, fun some => ?_, rfl⟩
    simp [space some]
  · obtain rfl := Option.some.inj success
    exact ⟨rfl, marked, same, overflown, fun _ => rfl, rfl⟩

theorem handleRead_loads {loaded : Loaded} {objects : List UInt8} {writer : HeaderWriter}
    {iin : IINField} {serials : List Nat} (marks : context.eventBuffer.Marks config serials)
    (success : context.handleRead objects writer = some (iin, loaded)) :
    Loads config context loaded := by
  have unselected : context.startRead.eventBuffer.Marks config [] := marks.unselect
  simp only [handleRead] at success
  split at success
  · obtain ⟨_, rfl⟩ := Prod.mk.inj (Option.some.inj success)
    exact ⟨rfl, unselected, EventBuffer.restates_unselect,
      EventBuffer.restates_unselect.isOverflown marks unselected, fun some => absurd rfl some, rfl⟩
  · next headers _ =>
      obtain ⟨after, made, same⟩ := Option.map_eq_some_iff.mp success
      obtain ⟨_, rfl⟩ := Prod.mk.inj same
      have loads := loadResponse_loads (ReadHandler.marks_foldl unselected headers) made
      have restates := EventBuffer.restates_unselect.trans
        ((ReadHandler.restates_foldl unselected headers).trans loads.restates)
      refine ⟨?_, loads.marks, restates, restates.isOverflown marks loads.marks, loads.confirm,
        loads.solicited⟩
      rw [loads.session]
      rfl

/-- What a response with data leaves: the outstation waits for a confirm, or the response carries
no events. -/
structure RespondsWithData (config : EventBufferConfig) (destination : UInt16) (seq : AppSeqNum)
    (context after : OContext) : Prop where
  addresses : after.addresses = context.addresses
  params : after.params = context.params
  isOnline : after.isOnline = context.isOnline
  isTransmitting : after.isTransmitting = true
  deferred : after.deferred = context.deferred
  num : after.sol.seq.num = context.sol.seq.num
  confirmNum : after.sol.seq.confirmNum = seq
  control : after.sol.tx.control.seq = seq.seq ∧ after.sol.tx.control.uns = false
  header : after.sol.tx.lastResponse.take 2 =
    [after.sol.tx.control.toByte, FunctionCode.response.toType]
  announced : context.eventBuffer.isOverflown.1 = true →
    announces after.sol.tx.lastResponse = true
  log : after.log = context.log ++ [.call .getApplicationIIN,
    .beginTransmit destination after.sol.tx.lastResponse after.sol.tx.carried]
  unsol : after.unsol = context.unsol
  selection : after.control = context.control
  history : after.history = context.history
  marks : after.eventBuffer.Marks config after.sol.tx.carried
  serials : after.eventBuffer.serials = context.eventBuffer.serials
  waits : (after.state = .solicitedConfirmWait ∧ after.sol.tx.control.con = true ∧
      after.confirmTimer = true) ∨
    (after.state = .idle ∧ after.sol.tx.control.con = false ∧ after.sol.tx.carried = [] ∧
      after.confirmTimer = context.confirmTimer)

omit [FloatOps] in
theorem sendLoaded_responds {loaded : Loaded} (loads : Loads config context loaded)
    (destination : UInt16) (seq : AppSeqNum) (iin : IINField) (response : APDUResponse)
    (function : response.function = FunctionCode.response.toType) :
    RespondsWithData config destination seq context
      (sendLoaded environment loaded destination seq iin response) := by
  obtain ⟨loadedContext, writer, control, carried⟩ := loaded
  obtain ⟨session, marks, restates, same, confirm, solicited⟩ := loads
  simp only at session marks restates same confirm solicited
  rw [session]
  rw [sendLoaded]
  have announced (overflown : context.eventBuffer.isOverflown.1 = true) :=
    same.trans overflown
  cases con : control.con with
  | true =>
      simp only [con, if_true]
      exact {
        addresses := rfl, params := rfl, isOnline := rfl, isTransmitting := rfl, deferred := rfl,
        num := rfl, confirmNum := rfl, control := ⟨rfl, solicited⟩,
        header := congrArg (fun code => [_, code]) function,
        announced := fun overflown => announces_toRSlice _ _ (announced overflown),
        log := List.append_assoc _ _ _,
        unsol := rfl, selection := rfl, history := rfl, marks := marks.isOverflown,
        serials := restates.serials_eq, waits := .inl ⟨rfl, rfl, rfl⟩ }
  | false =>
      simp only [con, Bool.false_eq_true, if_false]
      have none : carried = [] := by
        by_contra some
        rw [confirm some] at con
        cases con
      exact {
        addresses := rfl, params := rfl, isOnline := rfl, isTransmitting := rfl, deferred := rfl,
        num := rfl, confirmNum := rfl, control := ⟨rfl, solicited⟩,
        header := congrArg (fun code => [_, code]) function,
        announced := fun overflown => announces_toRSlice _ _ (announced overflown),
        log := List.append_assoc _ _ _,
        unsol := rfl, selection := rfl, history := rfl, marks := marks.isOverflown,
        serials := restates.serials_eq, waits := .inr ⟨rfl, rfl, none, rfl⟩ }

theorem respondToReadRequest_responds {request : ParsedRequest} {serials : List Nat}
    (marks : context.eventBuffer.Marks config serials)
    (success : context.respondToReadRequest environment request = some after) :
    RespondsWithData config request.addresses.source ⟨request.header.control.seq⟩
      { context with history := .recordLastProcessedRequest request.header request.objects }
      after := by
  obtain ⟨⟨iin, loaded⟩, made, rfl⟩ := Option.map_eq_some_iff.mp success
  have loads : Loads config
      { context with history := .recordLastProcessedRequest request.header request.objects }
      loaded := handleRead_loads marks made
  exact sendLoaded_responds loads _ _ _ _ rfl

theorem continueMultiFragResponse_responds {addresses : Addresses} {seq : AppSeqNum}
    (marks : context.eventBuffer.Marks config [])
    (success : context.continueMultiFragResponse environment addresses seq = some after) :
    RespondsWithData config addresses.source seq context after := by
  obtain ⟨loaded, made, rfl⟩ := Option.map_eq_some_iff.mp success
  exact sendLoaded_responds (loadResponse_loads marks made) _ _ _ _ rfl

/-- What an unsolicited response leaves: the outstation waits for a confirm. -/
structure RespondsUnsolicited (context after : OContext) : Prop where
  addresses : after.addresses = context.addresses
  params : after.params = context.params
  isOnline : after.isOnline = context.isOnline
  isTransmitting : after.isTransmitting = true
  deferred : after.deferred = context.deferred
  sol : after.sol = context.sol
  completedNull : after.unsol.completedNull = context.unsol.completedNull
  seq : after.unsol.seq = ⟨context.unsol.seq.num.next, context.unsol.seq.num⟩
  control : after.unsol.tx.control = ⟨true, true, true, true, context.unsol.seq.num.seq⟩
  header : after.unsol.tx.lastResponse.take 2 =
    [after.unsol.tx.control.toByte, FunctionCode.unsolicitedResponse.toType]
  log : after.log = context.log ++ [.call .getApplicationIIN,
    .beginTransmit context.addresses.destination after.unsol.tx.lastResponse
      after.unsol.tx.carried]
  selection : after.control = context.control
  history : after.history = context.history
  state : after.state = .unsolicitedConfirmWait
  confirmTimer : after.confirmTimer = true

variable (environment) in
theorem sendUnsolicited_responds (context : OContext) (classes : Option ClassField) :
    RespondsUnsolicited context (context.sendUnsolicited environment classes) := by
  cases classes <;> exact ⟨rfl, rfl, rfl, rfl, rfl, rfl, rfl, rfl, rfl, rfl,
    List.append_assoc _ _ _, rfl, rfl, rfl, rfl⟩

theorem marks_sendUnsolicited_none {serials : List Nat}
    (marks : context.eventBuffer.Marks config serials) :
    (context.sendUnsolicited environment none).eventBuffer.Marks config serials :=
  marks.isOverflown

theorem marks_sendUnsolicited_some {serials : List Nat} {classes : ClassField}
    (marks : context.eventBuffer.Marks config serials) :
    (context.sendUnsolicited environment (some classes)).eventBuffer.Marks config
      (context.sendUnsolicited environment (some classes)).unsol.tx.carried :=
  (((marks.unselect.selectByClass classes EventBuffer.maxCount).load
    context.unsol.tx.start.getWriter).1).isOverflown

theorem announces_sendUnsolicited {serials : List Nat} (classes : Option ClassField)
    (marks : context.eventBuffer.Marks config serials)
    (overflown : context.eventBuffer.isOverflown.1 = true) :
    announces (context.sendUnsolicited environment classes).unsol.tx.lastResponse = true := by
  cases classes with
  | none => exact @isSet_getResponseIIN environment context overflown
  | some classes =>
      have selected := marks.unselect.selectByClass classes EventBuffer.maxCount
      have loaded := (selected.load context.unsol.tx.start.getWriter).1
      have restates := EventBuffer.restates_unselect.trans
        ((marks.unselect.restates_selectByClass classes EventBuffer.maxCount).trans
          (selected.restates_load context.unsol.tx.start.getWriter))
      exact @isSet_getResponseIIN environment { context with eventBuffer := _ }
        ((restates.isOverflown marks loaded).trans overflown)

end data


end OContext

end OpenDnp3.Outstation
