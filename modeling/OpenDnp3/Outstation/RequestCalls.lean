import OpenDnp3.Outstation.OutstationContext

/-!
# Calls of requests

What requests that are not READs do that others can see, apart from the response:
they call the code of the user, and operate points in one way only.
-/

set_option autoImplicit false

namespace OpenDnp3.Outstation

open OpenDnp3.App OpenDnp3.Library
open OpenDnp3.Master (CommandType)

/-- How a call operates a point. -/
def Call.operateType : Call → Option OperateType
  | .operate _ _ opType => some opType
  | _ => none

/-- How an action operates points. -/
def CommandAction.operateType : CommandAction → Option OperateType
  | .operate opType => some opType
  | _ => none

/-- Nothing but calls are logged, and points are operated only in one way. -/
def Calls (operates : Option OperateType) (before after : List Activity) : Prop :=
  ∃ calls : List Call, after = before ++ calls.map .call ∧
    ∀ call ∈ calls, call.operateType = none ∨ call.operateType = operates

namespace Calls

variable {operates : Option OperateType} {first second third log : List Activity}

theorem refl (log : List Activity) : Calls operates log log :=
  ⟨[], (List.append_nil log).symm, fun _ member => absurd member List.not_mem_nil⟩

theorem trans (before : Calls operates first second) (after : Calls operates second third) :
    Calls operates first third := by
  obtain ⟨calls, rfl, all⟩ := before
  obtain ⟨others, rfl, alike⟩ := after
  refine ⟨calls ++ others, by simp, fun call member => ?_⟩
  rcases List.mem_append.mp member with early | late
  · exact all call early
  · exact alike call late

theorem ask (environment : Environment) {call : Call}
    (way : call.operateType = none ∨ call.operateType = operates) :
    Calls operates log (environment.ask log call).2 :=
  ⟨[call], rfl, fun _ member => List.mem_singleton.mp member ▸ way⟩

/-- Calls that operate nothing are calls of any kind. -/
theorem of_none (calls : Calls none first second) : Calls operates first second := by
  obtain ⟨calls, same, all⟩ := calls
  exact ⟨calls, same, fun call member => .inl ((all call member).elim id id)⟩

theorem foldl {Handler Item : Type} {step : Handler → Item → Handler}
    {logOf : Handler → List Activity}
    (one : ∀ handler item, Calls operates (logOf handler) (logOf (step handler item)))
    (items : List Item) (handler : Handler) :
    Calls operates (logOf handler) (logOf (items.foldl step handler)) := by
  induction items generalizing handler with
  | nil => exact refl _
  | cons item items ih => exact (one handler item).trans (ih (step handler item))

end Calls

variable {environment : Environment}

/-! ## Commands -/

namespace CommandResponseHandler

variable {handler : CommandResponseHandler}

/-- The calls of a handler, whose action stays the same. -/
structure Speaks (handler after : CommandResponseHandler) : Prop where
  action : after.action = handler.action
  calls : Calls handler.action.operateType handler.log after.log

theorem Speaks.refl (handler : CommandResponseHandler) : Speaks handler handler :=
  ⟨rfl, .refl _⟩

theorem Speaks.trans {first second third : CommandResponseHandler} (before : Speaks first second)
    (after : Speaks second third) : Speaks first third := by
  refine ⟨after.action.trans before.action, before.calls.trans ?_⟩
  rw [← before.action]
  exact after.calls

theorem checkStart_speaks : Speaks handler (handler.checkStart environment) := by
  rw [checkStart]
  split
  · exact .refl _
  · exact ⟨rfl, .ask environment (.inl rfl)⟩

theorem act_speaks (type : CommandType) (command : Indexed type.Value) :
    Speaks handler (handler.act environment type command).2 := by
  have started : Speaks handler (handler.checkStart environment) := checkStart_speaks
  cases action : handler.action with
  | constant status =>
      rw [act, action]
      exact .refl _
  | select =>
      rw [act, action]
      exact started.trans ⟨rfl, .ask environment (.inl rfl)⟩
  | operate opType =>
      rw [act, action]
      refine started.trans ⟨rfl, .ask environment (.inr ?_)⟩
      rw [started.action, action]
      rfl

theorem processCommand_speaks (type : CommandType) (command : Indexed type.Value) :
    Speaks handler (handler.processCommand environment type command).2 := by
  rw [processCommand]
  split
  · have counted : Speaks handler { handler with numRequests := handler.numRequests + 1 } :=
      ⟨rfl, .refl _⟩
    exact counted.trans (act_speaks type command)
  · exact .refl _

theorem process_speaks {type : CommandType} (responding : Responding type)
    (pair : Indexed type.Value) :
    Speaks responding.handler (process environment responding pair).handler := by
  have done : Speaks responding.handler
      (responding.handler.processCommand environment type pair).2 := processCommand_speaks type pair
  simp only [process]
  split
  · exact done.trans ⟨rfl, .refl _⟩
  · exact done

theorem foldl_process_speaks {type : CommandType} (values : List (Indexed type.Value))
    (responding : Responding type) :
    Speaks responding.handler (values.foldl (process environment) responding).handler := by
  induction values generalizing responding with
  | nil => exact .refl _
  | cons pair values ih => exact (process_speaks responding pair).trans (ih _)

theorem respondToHeader_speaks (type : CommandType) (index : IndexType)
    (values : List (Indexed type.Value)) :
    Speaks handler (handler.respondToHeader environment type index values).2 := by
  rw [respondToHeader]
  split
  · exact foldl_process_speaks values ⟨handler, none, .empty⟩
  · exact (foldl_process_speaks values ⟨handler, some _, .empty⟩).trans ⟨rfl, .refl _⟩

theorem processAny_speaks (type : CommandType) (record : HeaderRecord)
    (values : List (Indexed type.Value)) :
    Speaks handler (handler.processAny environment type record values).2 := by
  rw [processAny]
  split
  · exact respondToHeader_speaks type .uint8 values
  · exact respondToHeader_speaks type .uint16 values

theorem processHeader_speaks (header : Header) :
    Speaks handler (handler.processHeader environment header).2 := by
  rw [processHeader.eq_def]
  split
  · exact processAny_speaks _ _ _
  · exact processAny_speaks _ _ _
  · exact processAny_speaks _ _ _
  · exact processAny_speaks _ _ _
  · exact processAny_speaks _ _ _
  · exact .refl _

theorem foldl_onHeader_speaks (headers : List Header) (handler : CommandResponseHandler) :
    Speaks handler (headers.foldl (onHeader environment) handler) := by
  induction headers generalizing handler with
  | nil => exact .refl _
  | cons header headers ih =>
      have one : Speaks handler (handler.onHeader environment header) :=
        (processHeader_speaks header).trans ⟨rfl, .refl _⟩
      exact one.trans (ih _)

theorem parse_calls [FloatOps] (objects : List UInt8) :
    Calls handler.action.operateType handler.log (handler.parse environment objects).2.log := by
  rw [parse]
  split
  · exact .refl _
  · next headers _ =>
      have all := (@foldl_onHeader_speaks environment headers handler).calls
      dsimp only
      split
      · exact all.trans (.ask environment (.inl rfl))
      · exact all

end CommandResponseHandler

/-! ## Writes -/

namespace WriteHandler

variable {handler : WriteHandler}

theorem writeTime_calls (time : DNPTime) :
    Calls none handler.log (handler.writeTime environment time).2.log :=
  .ask environment (.inl rfl)

theorem processAbsoluteTime_calls (values : List DNPTime) :
    Calls none handler.log (handler.processAbsoluteTime environment values).2.log := by
  have asked : Calls none handler.log
      (environment.ask handler.log .supportsWriteAbsoluteTime).2 := .ask environment (.inl rfl)
  simp only [processAbsoluteTime]
  split
  · exact .refl _
  · split
    · exact asked
    · split
      · exact asked.trans (writeTime_calls _)
      · exact asked

theorem processLastRecordedTime_calls (values : List DNPTime) :
    Calls none handler.log (handler.processLastRecordedTime environment values).2.log := by
  have asked : Calls none handler.log
      (environment.ask handler.log .supportsWriteAbsoluteTime).2 := .ask environment (.inl rfl)
  simp only [processLastRecordedTime]
  split
  · exact .refl _
  · split
    · exact asked
    · split
      · split
        · exact asked
        · exact asked.trans (writeTime_calls _)
      · exact asked

theorem processTimeAndInterval_calls (values : List (Indexed TimeAndInterval)) :
    Calls none handler.log (handler.processTimeAndInterval environment values).2.log := by
  have asked : Calls none handler.log
      (environment.ask handler.log .supportsWriteTimeAndInterval).2 := .ask environment (.inl rfl)
  simp only [processTimeAndInterval]
  split
  · exact asked
  · exact asked.trans (.ask environment (.inl rfl))

theorem log_processIIN (values : List (Indexed Bool)) :
    (handler.processIIN values).2.log = handler.log := by
  unfold processIIN
  repeat' split
  all_goals rfl

theorem onHeader_calls (handler : WriteHandler) (header : Header) :
    Calls none handler.log (handler.onHeader environment header).log := by
  simp only [onHeader]
  rw [processHeader.eq_def]
  split
  · rw [log_processIIN]
    exact .refl _
  · exact processAbsoluteTime_calls _
  · exact processLastRecordedTime_calls _
  · exact processTimeAndInterval_calls _
  · exact .refl _

end WriteHandler

/-! ## Assignments of classes -/

namespace AssignClassHandler

variable {handler : AssignClassHandler}

theorem notifyApplicationOfAssignment_calls (type : AssignClassType) (range : Range) :
    Calls none handler.log
      (handler.notifyApplicationOfAssignment environment type range).log := by
  rw [notifyApplicationOfAssignment]
  split
  · exact .ask environment (.inl rfl)
  · exact .refl _

theorem log_isExpectingAssignment :
    handler.isExpectingAssignment.2.log = handler.log := by
  rw [isExpectingAssignment]
  split <;> rfl

theorem log_recordClass (gv : GroupVariation) : (handler.recordClass gv).2.log = handler.log := by
  rw [recordClass]
  split <;> rfl

theorem onHeader_calls (handler : AssignClassHandler) (header : Header) :
    Calls none handler.log (handler.onHeader environment header).log := by
  have expecting : handler.isExpectingAssignment.2.log = handler.log := log_isExpectingAssignment
  simp only [onHeader]
  rw [processHeader.eq_def]
  split
  · dsimp only
    split
    · split
      · rw [← expecting]
        exact notifyApplicationOfAssignment_calls _ _
      · rw [expecting]
        exact .refl _
    · rw [log_recordClass, expecting]
      exact .refl _
  · dsimp only
    split
    · split
      · rw [← expecting]
        exact notifyApplicationOfAssignment_calls _ _
      · rw [expecting]
        exact .refl _
    · rw [expecting]
      exact .refl _
  · exact .refl _

end AssignClassHandler

/-! ## Requests -/

namespace OContext

/-- How a request operates points. -/
def operatesOf : FunctionCode → Option OperateType
  | .operate => some .selectBeforeOperate
  | .directOperate => some .directOperate
  | _ => none

variable {context : OContext}

theorem handleRestart_calls (objects : List UInt8) (isWarmRestart : Bool)
    (writer : HeaderWriter) :
    Calls none context.log
      (context.handleRestart environment objects isWarmRestart writer).2.2.log := by
  have supports : Calls none context.log
      (if isWarmRestart = true then environment.ask context.log .warmRestartSupport
        else environment.ask context.log .coldRestartSupport : RestartMode × List Activity).2 := by
    cases isWarmRestart <;> exact .ask environment (.inl rfl)
  simp only [handleRestart]
  generalize (if isWarmRestart = true then environment.ask context.log .warmRestartSupport
    else environment.ask context.log .coldRestartSupport :
      RestartMode × List Activity) = support at supports ⊢
  split
  · exact .refl _
  · split
    · exact supports
    · refine supports.trans ?_
      cases isWarmRestart <;> exact .ask environment (.inl rfl)

variable [FloatOps]

theorem handleWrite_calls (objects : List UInt8) :
    Calls none context.log (context.handleWrite environment objects).2.log := by
  rw [handleWrite]
  split
  · exact .refl _
  · exact @Calls.foldl _ _ _ _ WriteHandler.log WriteHandler.onHeader_calls _ _

theorem handleCommands_calls (action : CommandAction) (objects : List UInt8)
    (writer : Option HeaderWriter) :
    Calls action.operateType context.log
      (context.handleCommands environment action objects writer).2.log :=
  CommandResponseHandler.parse_calls objects

theorem handleSelect_calls (objects : List UInt8) (writer : HeaderWriter) :
    Calls none context.log (context.handleSelect environment objects writer).2.2.log := by
  rw [handleSelect]
  split
  · exact .refl _
  · exact handleCommands_calls .select objects (some writer)

theorem handleOperate_calls (objects : List UInt8) (writer : HeaderWriter) :
    Calls (some .selectBeforeOperate) context.log
      (context.handleOperate environment objects writer).2.2.log := by
  rw [handleOperate]
  split
  · exact .refl _
  · split
    · exact handleCommands_calls (.operate .selectBeforeOperate) objects (some writer)
    · exact .refl _

theorem handleDirectOperate_calls (objects : List UInt8) (opType : OperateType)
    (writer : Option HeaderWriter) :
    Calls (some opType) context.log
      (context.handleDirectOperate environment objects opType writer).2.2.log := by
  rw [handleDirectOperate]
  split
  · exact .refl _
  · exact handleCommands_calls (.operate opType) objects writer

theorem handleAssignClass_calls (objects : List UInt8) :
    Calls none context.log (context.handleAssignClass environment objects).2.log := by
  have asked : Calls none context.log
      (environment.ask context.log .supportsAssignClass).2 := .ask environment (.inl rfl)
  simp only [handleAssignClass]
  split
  · exact asked
  · split
    · exact asked
    · exact asked.trans
        (@Calls.foldl _ _ _ _ AssignClassHandler.log AssignClassHandler.onHeader_calls _ _)

theorem handleUnsolicitedClasses_calls (objects : List UInt8)
    (change : ClassField → ClassField → ClassField) :
    Calls none context.log (context.handleUnsolicitedClasses objects change).2.log := by
  rw [handleUnsolicitedClasses]
  split <;> exact .refl _

/-- A request calls the code of the user only, and operates points as its function code says. -/
theorem handleNonReadResponse_calls (header : APDUHeader) (objects : List UInt8)
    (writer : HeaderWriter) :
    Calls (operatesOf header.function) context.log
      (context.handleNonReadResponse environment header objects writer).2.2.log := by
  rw [handleNonReadResponse]
  generalize header.function = function
  split
  · exact (handleWrite_calls objects).of_none
  · exact (handleSelect_calls objects writer).of_none
  · exact handleOperate_calls objects writer
  · exact handleDirectOperate_calls objects .directOperate (some writer)
  · exact (handleRestart_calls objects false writer).of_none
  · exact (handleRestart_calls objects true writer).of_none
  · exact (handleAssignClass_calls objects).of_none
  · exact .refl _
  · split <;> exact .refl _
  · split
    · exact (handleUnsolicitedClasses_calls objects _).of_none
    · exact .refl _
  · split
    · exact (handleUnsolicitedClasses_calls objects _).of_none
    · exact .refl _
  · exact .refl _

theorem processRequestNoAck_calls (request : ParsedRequest) :
    Calls (some .directOperateNoAck) context.log
      (context.processRequestNoAck environment request).log := by
  rw [processRequestNoAck]
  split
  · exact handleDirectOperate_calls _ _ _
  · exact .refl _

end OContext

end OpenDnp3.Outstation
