import OpenDnp3.Outstation.Database.LoadCompletion
import OpenDnp3.Outstation.OutstationSteps

/-!
# Database runs

Whatever happens to an outstation, its points go through operations of the
database.
-/

set_option autoImplicit false

namespace OpenDnp3.Outstation

open OpenDnp3.App OpenDnp3.Library

section handlers

variable [FloatOps]

theorem ReadHandler.database_onHeader (handler : ReadHandler) (header : Header) :
    DatabaseBuffers.machine.Reaches handler.database (handler.onHeader header).database := by
  cases header with
  | allObjects record =>
      rw [ReadHandler.onHeader]
      split
      · exact .step .start trivial (DatabaseBuffers.step_selectAll _ record.enumeration)
      · exact .start
      · exact .start
  | range record range =>
      have stepped : DatabaseBuffers.machine.step handler.database
          (.selectRange record.enumeration range) = some _ := rfl
      exact .step .start trivial stepped
  | _ => exact .start

theorem ReadHandler.database_foldl (headers : List Header) (handler : ReadHandler) :
    DatabaseBuffers.machine.Reaches handler.database
      (headers.foldl ReadHandler.onHeader handler).database := by
  induction headers generalizing handler with
  | nil => exact .start
  | cons header headers ih => exact (handler.database_onHeader header).trans (ih _)

variable (environment : Environment)

omit [FloatOps] in
theorem AssignClassHandler.database_notify (handler : AssignClassHandler) (type : AssignClassType)
    (range : Range) :
    (handler.notifyApplicationOfAssignment environment type range).database =
      handler.database := by
  unfold notifyApplicationOfAssignment
  split <;> rfl

omit [FloatOps] in
theorem AssignClassHandler.database_recordClass (handler : AssignClassHandler)
    (gv : GroupVariation) : (handler.recordClass gv).2.database = handler.database := by
  unfold recordClass
  split <;> rfl

omit [FloatOps] in
theorem AssignClassHandler.database_isExpectingAssignment (handler : AssignClassHandler) :
    handler.isExpectingAssignment.2.database = handler.database := by
  unfold isExpectingAssignment
  split <;> rfl

theorem AssignClassHandler.database_onHeader (handler : AssignClassHandler) (header : Header) :
    DatabaseBuffers.machine.Reaches handler.database
      (handler.onHeader environment header).database := by
  have expecting := handler.database_isExpectingAssignment
  change DatabaseBuffers.machine.Reaches _ (handler.processHeader environment header).2.database
  cases header with
  | allObjects record =>
      simp only [processHeader]
      split
      · split
        · next type _ =>
            rw [processAssignAll, database_notify, expecting]
            have stepped : DatabaseBuffers.machine.step handler.database
                (.assignClassToAll type handler.isExpectingAssignment.2.clazz) = some _ := rfl
            exact .step .start trivial stepped
        · exact expecting.symm ▸ .start
      · rw [database_recordClass, expecting]
        exact .start
  | range record range =>
      simp only [processHeader]
      split
      · split
        · next type _ =>
            rw [processAssignRange, database_notify, expecting]
            have stepped : DatabaseBuffers.machine.step handler.database
                (.assignClassToRange type handler.isExpectingAssignment.2.clazz range) =
                  some _ := rfl
            exact .step .start trivial stepped
        · exact expecting.symm ▸ .start
      · exact expecting.symm ▸ .start
  | _ => exact .start

theorem AssignClassHandler.database_foldl (headers : List Header) (handler : AssignClassHandler) :
    DatabaseBuffers.machine.Reaches handler.database
      (headers.foldl (AssignClassHandler.onHeader environment) handler).database := by
  induction headers generalizing handler with
  | nil => exact .start
  | cons header headers ih => exact (handler.database_onHeader environment header).trans (ih _)

end handlers

namespace OContext

variable [FloatOps] {environment : Environment} {request : ParsedRequest}
  {context after : OContext}

theorem database_handleAssignClass (context : OContext) (objects : List UInt8) :
    DatabaseBuffers.machine.Reaches context.database
      (context.handleAssignClass environment objects).2.database := by
  simp only [handleAssignClass]
  split
  · exact .start
  · split
    · exact .start
    · next headers _ =>
        exact AssignClassHandler.database_foldl environment headers
          { database := context.database
            log := (environment.ask context.log .supportsAssignClass).2 }

omit [FloatOps] in
theorem database_handleRestart (context : OContext) (objects : List UInt8) (isWarmRestart : Bool)
    (writer : HeaderWriter) :
    (context.handleRestart environment objects isWarmRestart writer).2.2.database =
      context.database := by
  simp only [handleRestart]
  generalize (if isWarmRestart = true then environment.ask context.log .warmRestartSupport
    else environment.ask context.log .coldRestartSupport :
      RestartMode × List Activity) = support
  split
  · rfl
  · split <;> rfl

theorem database_handleNonReadResponse (context : OContext) (header : APDUHeader)
    (objects : List UInt8) (writer : HeaderWriter) :
    DatabaseBuffers.machine.Reaches context.database
      (context.handleNonReadResponse environment header objects writer).2.2.database := by
  have same {other : OContext} (same : other.database = context.database) :
      DatabaseBuffers.machine.Reaches context.database other.database := same ▸ .start
  rw [handleNonReadResponse]
  split
  · refine same ?_
    simp only [handleWrite]
    split <;> rfl
  · refine same ?_
    simp only [handleSelect]
    split <;> rfl
  · refine same ?_
    simp only [handleOperate]
    split
    · rfl
    · split <;> rfl
  · refine same ?_
    simp only [handleDirectOperate]
    split <;> rfl
  · exact same (database_handleRestart ..)
  · exact same (database_handleRestart ..)
  · exact database_handleAssignClass context objects
  · exact .start
  · split <;> exact .start
  · split
    · refine same ?_
      simp only [handleDisableUnsolicited, handleUnsolicitedClasses]
      split <;> rfl
    · exact .start
  · split
    · refine same ?_
      simp only [handleEnableUnsolicited, handleUnsolicitedClasses]
      split <;> rfl
    · exact .start
  · exact .start

theorem database_respondToNonReadRequest (context : OContext) (request : ParsedRequest) :
    DatabaseBuffers.machine.Reaches context.database
      (context.respondToNonReadRequest environment request).database :=
  database_handleNonReadResponse
    { context with history := .recordLastProcessedRequest request.header request.objects } ..

theorem database_loadResponse {writer : HeaderWriter} {loaded : Loaded}
    (success : context.loadResponse writer = some loaded) :
    DatabaseBuffers.machine.Reaches context.database loaded.context.database := by
  simp only [loadResponse] at success
  split at success
  · obtain ⟨static, made, rfl⟩ := Option.map_eq_some_iff.mp success
    have stepped : DatabaseBuffers.machine.step context.database
        (.load (context.eventBuffer.load writer).writer) =
          some (static.buffers, .loaded static.complete static.writer) :=
      congrArg (Option.map _) made
    exact .step .start trivial stepped
  · obtain rfl := Option.some.inj success
    exact .start

theorem database_handleRead {objects : List UInt8} {writer : HeaderWriter}
    {iin : IINField} {loaded : Loaded}
    (success : context.handleRead objects writer = some (iin, loaded)) :
    DatabaseBuffers.machine.Reaches context.database loaded.context.database := by
  have unselects : DatabaseBuffers.machine.Reaches context.database
      context.startRead.database := by
    have stepped : DatabaseBuffers.machine.step context.database .unselect =
        some (context.startRead.database, .unselected) := rfl
    exact .step .start trivial stepped
  simp only [handleRead] at success
  split at success
  · obtain ⟨_, rfl⟩ := Prod.mk.inj (Option.some.inj success)
    exact unselects
  · next headers _ =>
      obtain ⟨after, made, same⟩ := Option.map_eq_some_iff.mp success
      obtain ⟨_, rfl⟩ := Prod.mk.inj same
      have selects := ReadHandler.database_foldl headers
        { database := context.startRead.database, eventBuffer := context.startRead.eventBuffer }
      exact (unselects.trans selects).trans (database_loadResponse made)

omit [FloatOps] in
theorem database_sendLoaded (loaded : Loaded) (destination : UInt16) (seq : AppSeqNum)
    (iin : IINField) (response : APDUResponse) :
    (sendLoaded environment loaded destination seq iin response).database =
      loaded.context.database := by
  rw [sendLoaded]
  dsimp only
  split <;> rfl

theorem database_respondToReadRequest
    (success : context.respondToReadRequest environment request = some after) :
    DatabaseBuffers.machine.Reaches context.database after.database := by
  obtain ⟨⟨iin, loaded⟩, made, rfl⟩ := Option.map_eq_some_iff.mp success
  have reads : DatabaseBuffers.machine.Reaches
      { context with
        history := .recordLastProcessedRequest request.header request.objects }.database
      loaded.context.database := database_handleRead made
  dsimp only
  rw [database_sendLoaded]
  exact reads

theorem database_continueMultiFragResponse {addresses : Addresses} {seq : AppSeqNum}
    (success : context.continueMultiFragResponse environment addresses seq = some after) :
    DatabaseBuffers.machine.Reaches context.database after.database := by
  obtain ⟨loaded, made, rfl⟩ := Option.map_eq_some_iff.mp success
  rw [database_sendLoaded]
  exact database_loadResponse made

/-! ## Steps -/

theorem database_of_handles (handles : Handles environment request context after) :
    DatabaseBuffers.machine.Reaches context.database after.database := by
  have same {other : OContext} (same : other.database = context.database) :
      DatabaseBuffers.machine.Reaches context.database other.database := same ▸ .start
  cases handles with
  | confirmedMore _ _ continued =>
      have continues := database_continueMultiFragResponse continued
      exact continues
  | readIdle _ responded =>
      have responds := database_respondToReadRequest responded
      exact responds
  | readWaiting _ responded =>
      have responds := database_respondToReadRequest responded
      exact responds
  | nonReadIdle _ =>
      exact @database_respondToNonReadRequest _ environment (context.numbered request) request
  | nonReadWaiting _ =>
      exact @database_respondToNonReadRequest _ environment
        (context.numbered request).cancelConfirmTimer request
  | nonReadUnsolicited _ =>
      exact @database_respondToNonReadRequest _ environment
        { context.numbered request with deferred := none } request
  | ignored _ | confirmedLast _ _ | confirmedEvents _ _ | confirmedNull _ _ | readHeld _
  | repeatReadIdle _ | repeatReadWaiting _ | repeatReadHeld _ | repeatNonReadIdle _
  | repeatNonReadWaiting _ | repeatNonReadUnsolicited _ => exact same rfl

theorem database_of_starts (starts : Starts environment context after) :
    DatabaseBuffers.machine.Reaches context.database after.database := by
  obtain ⟨resumed, resumes, reports⟩ := starts
  have same : after.database = resumed.database := by
    cases reports with
    | nothing => rfl
    | null _ _ _ | events _ _ _ _ => rfl
  rw [same]
  cases resumes with
  | handled _ _ _ handles =>
      have handled := database_of_handles handles
      exact handled
  | blocked _ | none _ | kept _ _ _ => exact .start

theorem database_changeAll {updates : List DatabaseUpdate}
    (changed : changeAll updates context = some after) :
    DatabaseBuffers.machine.Reaches context.database after.database := by
  induction updates generalizing context with
  | nil =>
      obtain rfl := Option.some.inj changed
      exact .start
  | cons update updates ih =>
      obtain ⟨next, made, rest⟩ := Option.bind_eq_some_iff.mp changed
      obtain ⟨eventBuffer, _, rfl⟩ := Option.map_eq_some_iff.mp made
      refine .trans ?_ (ih rest)
      cases update with
      | update type value index mode =>
          have stepped : DatabaseBuffers.machine.step context.database
              (.update type value index mode) = some _ := rfl
          exact .step .start trivial stepped
      | updateTimeAndInterval value index =>
          have stepped : DatabaseBuffers.machine.step context.database
              (.updateTimeAndInterval value index) = some _ := rfl
          exact .step .start trivial stepped
      | modify flagsType start stop flags =>
          have stepped : DatabaseBuffers.machine.step context.database
              (.modify flagsType start stop flags) = some _ := rfl
          exact .step .start trivial stepped

theorem database_processRequestNoAck (context : OContext) (request : ParsedRequest) :
    (context.processRequestNoAck environment request).database = context.database := by
  rw [processRequestNoAck]
  split
  · simp only [handleDirectOperate]
    split <;> rfl
  · rfl

theorem database_of_reacts {input : Input} (reacts : Reacts environment context input after) :
    DatabaseBuffers.machine.Reaches context.database after.database := by
  cases reacts with
  | up _ | ignored _ _ | deferred _ _ _ _ | txReady _ _ => exact .start
  | noAck _ _ _ =>
      rw [database_processRequestNoAck]
      exact .start
  | handled _ _ _ _ handles => exact database_of_handles handles
  | timeout _ =>
      rw [onConfirmTimeout_eq]
      exact .start
  | apply _ changed => exact database_changeAll changed

theorem database_of_steps {input : Input} (steps : Steps environment context input after) :
    DatabaseBuffers.machine.Reaches context.database after.database := by
  cases steps with
  | nothing _ | setRestartIIN => exact .start
  | down online =>
      rw [onLowerLayerDown, if_neg (by simp [online])]
      exact .start
  | starts reacts starts => exact (database_of_reacts reacts).trans (database_of_starts starts)

/-- The points of an outstation are what operations of the database make of them. -/
theorem database_of_reaches {start : OContext} (reached : machine.Reaches start context) :
    DatabaseBuffers.machine.Reaches start.database context.database := by
  induction reached with
  | start => exact .start
  | step _ _ success ih =>
      obtain ⟨next, stepped, same⟩ := Option.map_eq_some_iff.mp success
      obtain ⟨rfl, _⟩ := Prod.mk.inj same
      exact ih.trans (database_of_steps (steps_of_step stepped))

end OContext

end OpenDnp3.Outstation
