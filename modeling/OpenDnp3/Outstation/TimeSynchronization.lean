import OpenDnp3.Outstation.Services

/-!
# Time synchronization

A request to record the current time is followed by a write of the time it was
recorded at. The time that is set is the one that was written, moved on by what has
elapsed since.
-/

set_option autoImplicit false

namespace OpenDnp3.Outstation

open OpenDnp3.App OpenDnp3.Library
open OpenDnp3.Master (MonotonicTimestamp)

/-- What happens to the time of an outstation. -/
inductive TimeEvent where
  /-- The current time is recorded. -/
  | recorded (seq : AppSeqNum) (now : MonotonicTimestamp)
  /-- A time is set that is determined by what was written for the time last recorded. -/
  | set (seq : AppSeqNum) (now : MonotonicTimestamp) (values : List DNPTime) (time : DNPTime)
deriving DecidableEq

/-- What an event may follow. A time is only set right behind the record that it refers to. -/
def Follows (before : List TimeEvent) : TimeEvent → Prop
  | .recorded _ _ => True
  | .set seq now values time =>
      ∃ recordedSeq recordedNow value,
        before.getLast? = some (.recorded recordedSeq recordedNow) ∧ seq = recordedSeq.next ∧
          recordedNow ≤ now ∧ values = [value] ∧ time = value + (now - recordedNow)

/-- No other time is recorded or set between a record and the time that is set by it. -/
def Sequenced (events : List TimeEvent) : Prop :=
  ∀ before event after, events = before ++ event :: after → Follows before event

namespace Sequenced

variable {events : List TimeEvent}

theorem nil : Sequenced [] := by
  intro before event after split
  cases before <;> cases split

theorem concat (sequenced : Sequenced events) {event : TimeEvent}
    (follows : Follows events event) : Sequenced (events ++ [event]) := by
  intro before other after split
  obtain rfl | ⟨after, last, rfl⟩ := List.eq_nil_or_concat after
  · obtain ⟨rfl, same⟩ := List.append_inj' split rfl
    cases same
    exact follows
  · rw [List.concat_eq_append, ← List.cons_append, ← List.append_assoc] at split
    exact sequenced before other after (List.append_inj' split rfl).1

end Sequenced

namespace WriteHandler

variable (environment : Environment)

/-- The time that a call sets. -/
def absoluteTime? : Activity → Option DNPTime
  | .call (.writeAbsoluteTime time) => some time
  | _ => none

/-- The time that a header sets when it refers to the time last recorded. -/
def timeSet (handler : WriteHandler) : Header → List TimeEvent
  | .countOf record count .group50Var3 values =>
      let after := handler.onHeader environment (.countOf record count .group50Var3 values)
      ((after.log.drop handler.log.length).filterMap absoluteTime?).map
        fun time => .set handler.seq handler.now values time
  | _ => []

variable {handler : WriteHandler}

theorem timeSyncState_processIIN (values : List (Indexed Bool)) :
    (handler.processIIN values).2.timeSyncState = handler.timeSyncState := by
  unfold processIIN
  repeat' split
  all_goals rfl

variable {environment} in
theorem timeSyncState_processAbsoluteTime (values : List DNPTime) :
    (handler.processAbsoluteTime environment values).2.timeSyncState = handler.timeSyncState := by
  simp only [processAbsoluteTime]
  repeat' split
  all_goals rfl

variable {environment} in
theorem timeSyncState_processTimeAndInterval (values : List (Indexed TimeAndInterval)) :
    (handler.processTimeAndInterval environment values).2.timeSyncState =
      handler.timeSyncState := by
  simp only [processTimeAndInterval]
  split <;> rfl

variable {environment} in
/-- A time is set from one value, when a recorded time can be used. -/
theorem processLastRecordedTime_cases (handler : WriteHandler) (values : List DNPTime) :
    let after := (handler.processLastRecordedTime environment values).2
    let times := (after.log.drop handler.log.length).filterMap absoluteTime?
    after.timeSyncState = handler.timeSyncState ∧ times = [] ∨
      ∃ value, values = [value] ∧
        handler.timeSyncState.calcTimeDifference handler.seq handler.now =
            some after.timeSyncState ∧
          times = [value + after.timeSyncState.difference] := by
  have asked : ((environment.ask handler.log .supportsWriteAbsoluteTime).2.drop
      handler.log.length).filterMap absoluteTime? = [] := by
    rw [Environment.ask, List.drop_left]
    rfl
  simp only [processLastRecordedTime]
  split
  · refine .inl ⟨rfl, ?_⟩
    rw [List.drop_length]
    rfl
  · split
    · exact .inl ⟨rfl, asked⟩
    · split
      · split
        · exact .inl ⟨rfl, asked⟩
        · rename_i calculated
          refine .inr ⟨_, rfl, calculated, ?_⟩
          simp only [writeTime, Environment.ask, List.append_assoc, List.drop_left]
          rfl
      · exact .inl ⟨rfl, asked⟩

/-- The times that headers set one after the other. -/
def timesSet : WriteHandler → List Header → List TimeEvent
  | _, [] => []
  | handler, header :: headers =>
      handler.timeSet environment header ++
        timesSet (handler.onHeader environment header) headers

end WriteHandler

namespace Service

variable [FloatOps]

/-- The handler of a request to write. -/
def writeHandler (service : Service) : WriteHandler :=
  { seq := service.context.sol.seq.num, now := service.environment.now,
    timeSyncState := service.context.time, writeIIN := service.context.staticIIN,
    log := service.context.log }

/-- What a service does to the time. A request to record the current time has no objects, or it is
refused. -/
def timeEvents (service : Service) : List TimeEvent :=
  match service.request.header.function with
  | .recordCurrentTime =>
      if service.request.objects.isEmpty then
        [.recorded ⟨service.request.header.control.seq⟩ service.environment.now]
      else []
  | .write =>
      match APDUParser.parse true WriteHandler.isAllowed service.request.objects with
      | .error _ => []
      | .ok headers => service.writeHandler.timesSet service.environment headers
  | _ => []

end Service

/-- The recorded time that has not been used is the one that was recorded last. -/
structure Pending (events : List TimeEvent) (state : TimeSyncState) : Prop where
  sequenced : Sequenced events
  last : state.valid = true → ∃ seq, events.getLast? = some (.recorded seq state.time) ∧
    state.expectedSeqNum = seq.next

namespace Pending

variable {events : List TimeEvent} {state : TimeSyncState}

theorem recordCurrentTime (pending : Pending events state) (seq : AppSeqNum)
    (now : MonotonicTimestamp) :
    Pending (events ++ [.recorded seq now]) (state.recordCurrentTime seq now) where
  sequenced := pending.sequenced.concat trivial
  last := fun _ => ⟨seq, List.getLast?_concat .., rfl⟩

theorem calcTimeDifference (pending : Pending events state) {seq : AppSeqNum}
    {now : MonotonicTimestamp} {after : TimeSyncState}
    (calculated : state.calcTimeDifference seq now = some after) (value : DNPTime) :
    Pending (events ++ [.set seq now [value] (value + after.difference)]) after := by
  rw [TimeSyncState.calcTimeDifference] at calculated
  split at calculated
  · cases calculated
  rename_i valid
  split at calculated
  · cases calculated
  rename_i expected
  split at calculated
  · cases calculated
  rename_i elapsed
  cases calculated
  obtain ⟨recordedSeq, last, next⟩ := pending.last (by simpa using valid)
  refine ⟨pending.sequenced.concat ?_, ?_⟩
  · refine ⟨recordedSeq, state.time, value, last, ?_, not_lt.mp elapsed, rfl, rfl⟩
    rw [← next]
    exact (not_not.mp expected).symm
  · intro valid
    cases valid

variable {environment : Environment} {handler : WriteHandler}

theorem processLastRecordedTime (pending : Pending events handler.timeSyncState)
    (values : List DNPTime) :
    let after := (handler.processLastRecordedTime environment values).2
    Pending (events ++ ((after.log.drop handler.log.length).filterMap
      WriteHandler.absoluteTime?).map fun time => .set handler.seq handler.now values time)
      after.timeSyncState := by
  dsimp only
  obtain ⟨same, none⟩ | ⟨value, rfl, calculated, set⟩ :=
    @WriteHandler.processLastRecordedTime_cases environment handler values
  · rwa [same, none, List.map_nil, List.append_nil]
  · rw [set]
    exact pending.calcTimeDifference calculated value

/-- Only the time last recorded is used by a header, and only by one that refers to it. -/
theorem onHeader (pending : Pending events handler.timeSyncState) (header : Header) :
    Pending (events ++ handler.timeSet environment header)
      (handler.onHeader environment header).timeSyncState := by
  rw [WriteHandler.timeSet.eq_def]
  split
  · exact pending.processLastRecordedTime _
  · rename_i other
    have same : (handler.onHeader environment header).timeSyncState = handler.timeSyncState := by
      simp only [WriteHandler.onHeader]
      rw [WriteHandler.processHeader.eq_def]
      split
      · exact WriteHandler.timeSyncState_processIIN _
      · exact WriteHandler.timeSyncState_processAbsoluteTime _
      · exact absurd rfl (other _ _ _)
      · exact WriteHandler.timeSyncState_processTimeAndInterval _
      · rfl
    rwa [same, List.append_nil]

theorem foldl_onHeader (pending : Pending events handler.timeSyncState) (headers : List Header) :
    Pending (events ++ handler.timesSet environment headers)
      (headers.foldl (WriteHandler.onHeader environment) handler).timeSyncState := by
  induction headers generalizing events handler with
  | nil => exact (List.append_nil events).symm ▸ pending
  | cons header headers ih =>
      rw [WriteHandler.timesSet, ← List.append_assoc]
      exact ih (pending.onHeader header)

end Pending

namespace OContext

section Running

variable [FloatOps] {context : OContext} {services : List Service}

theorem timeEvents_of_other {service : Service} (other : ¬ChangesTime
    service.request.header.function service.request.objects) : service.timeEvents = [] := by
  rw [Service.timeEvents.eq_def]
  split
  · rename_i isRecord
    rw [if_neg]
    exact fun alone => other (.inr ⟨isRecord, alone⟩)
  · rename_i isWrite
    exact absurd (.inl isWrite) other
  · rfl

theorem carries_pending :
    Carries fun services context => Pending (services.flatMap Service.timeEvents) context.time where
  same := by
    intro services context after same pending
    rwa [same.time]
  forgets := id
  leaves := by
    intro services service after leaves pending
    have changes := changes_result service
    rw [leaves.time, List.flatMap_append, List.flatMap_singleton]
    generalize service.result = result at changes
    cases changes with
    | same same other =>
        rw [timeEvents_of_other other, List.append_nil, same.time]
        exact pending
    | write isWrite =>
        simp only [Service.timeEvents, isWrite, handleWrite]
        cases APDUParser.parse true WriteHandler.isAllowed service.request.objects with
        | error error => exact (List.append_nil _).symm ▸ pending
        | ok headers => exact @Pending.foldl_onHeader _ _ service.writeHandler pending headers
    | select isSelect _ time =>
        rw [timeEvents_of_other (by simp [ChangesTime, isSelect]), List.append_nil, time]
        exact pending
    | record isRecord alone =>
        simp only [Service.timeEvents, isRecord, if_pos alone, ← leaves.numbered]
        exact pending.recordCurrentTime _ _

/-- In every run, whatever is processed in it. -/
theorem sequenced_of_reaches {addresses : Addresses} {params : OutstationParams}
    {config : EventBufferConfig} {database : DatabaseBuffers}
    (reached : machine.Reaches (initial addresses params config database) context) :
    (∃ services, (initial addresses params config database).Serving services context) ∧
      ∀ services, (initial addresses params config database).Serving services context →
        Sequenced (services.flatMap Service.timeEvents) := by
  refine ⟨exists_serving_of_reaches reached, fun services serving => ?_⟩
  have pending : Pending (services.flatMap Service.timeEvents) context.time :=
    carries_pending.serving serving ⟨.nil, fun valid => by cases valid⟩
  exact pending.sequenced

end Running

/-- The time 1000 for the time last recorded. -/
def lastRecorded : List UInt8 := [0x32, 0x03, 0x07, 0x01, 0xE8, 0x03, 0x00, 0x00, 0x00, 0x00]

/-- A user's code that supports writing the time, at a time. -/
def timed (now : MonotonicTimestamp) : Environment where
  now := now
  application log := fun
    | .supportsWriteAbsoluteTime => true
    | .writeAbsoluteTime _ => true
    | call => Environment.atZero.application log call

/-- A request with the number 0 records the time 5000. One with the number 5 has an object that does
not belong there. -/
def recordings : List (Environment × Input) :=
  [(timed 0, .lowerLayerUp), (timed 5000, .fragment [0xC0, 0x18]), (timed 5000, .txReady),
    (timed 6000, .fragment [0xC5, 0x18, 0x3C, 0x02, 0x06]), (timed 6000, .txReady)]

/-- A write of the time that was recorded by the first of them. -/
def writesTime : Environment × Input := (timed 7000, .fragment (0xC1 :: 0x02 :: lastRecorded))

/-- The time is moved on by what has elapsed since the request with the number 0. -/
theorem sets_time_of_refused_record :
    ((@machine .atZero).run (onePoint {}) (recordings ++ [writesTime])).any
        (fun (_, outputs) => outputs.getLast?.any fun output =>
          output.contains (.call (.writeAbsoluteTime 3000))) = true := by
  decide +kernel

/-- The time that is written for the time last recorded is set, right behind its record. -/
theorem sequenced_of_reaches_write :
    ∃ context services, (@Serving .atZero (onePoint {})) services context ∧
      .set ⟨1⟩ 7000 [1000] 3000 ∈ services.flatMap (@Service.timeEvents .atZero) ∧
      Sequenced (services.flatMap (@Service.timeEvents .atZero)) := by
  obtain ⟨before, recorded, checked⟩ :=
    @Machine.exists_reaches_of_run _ _ _ (@machine .atZero) (onePoint {})
      (fun context => ((@machine .atZero).step context writesTime).isSome &&
        decide (TimeEvent.set ⟨1⟩ 7000 [1000] 3000 ∈
          (context.received writesTime.1 writesTime.2).flatMap (@Service.timeEvents .atZero)))
      recordings (by decide +kernel)
  simp only [Bool.and_eq_true, decide_eq_true_eq] at checked
  obtain ⟨⟨context, output⟩, stepped⟩ := Option.isSome_iff_exists.mp checked.1
  obtain ⟨services, serving⟩ := @exists_serving_of_reaches .atZero _ _ recorded
  obtain ⟨more, serves⟩ := @exists_serves_of_step .atZero _ _ _ _ stepped
  obtain ⟨resumed, split⟩ := @Serves.received .atZero _ _ _ _ serves
  have whole : (@Serving .atZero (onePoint {})) (services ++ more) context :=
    @Serving.step .atZero _ _ _ _ _ _ _ serving stepped serves
  refine ⟨context, services ++ more, whole, ?_,
    (@sequenced_of_reaches .atZero _ _ _ _ _ (.step recorded trivial stepped)).2 _ whole⟩
  rw [split, List.flatMap_append, List.flatMap_append]
  exact List.mem_append_right _ (List.mem_append_left _ checked.2)

end OContext

end OpenDnp3.Outstation
