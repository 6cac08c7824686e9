import OpenDnp3.App.HeaderWriterProperties
import OpenDnp3.App.Parsing.APDUParserProperties
import OpenDnp3.Master.TaskRuns

/-!
# Serial time synchronization

Which requests a run of the task sends, and how far the time that it writes is
from the reading of the clock.
-/

set_option autoImplicit false

namespace OpenDnp3.Master

open OpenDnp3.App OpenDnp3.Library

/-! ## Times -/

/-- The delay that is measured between two readings. -/
def measuredDelay (sent received : UInt64) (turnAround : UInt16) : Nat :=
  ((received - sent).toNat - turnAround.toNat) / 2

/-- The time that is written at a reading of the clock. -/
def writtenTime (reading : UInt64) (delay : Nat) : Int :=
  (reading + UInt64.ofInt delay).toInt64.toInt

/-- The time is the reading and no more than half of what has elapsed between sending and
receiving. -/
def InRange (sent received reading : UInt64) (time : Int) : Prop :=
  ∃ delay : Nat, time = reading.toNat + delay ∧ 2 * delay ≤ received.toNat - sent.toNat

/-- The request carries the time. -/
def CarriesTime [FloatOps] (apdu : APDURequest) (time : DNPTime) : Prop :=
  ∃ record count, APDUParser.parse true (fun _ _ _ => true) apdu.remaining.written =
    .ok [.countOf record count .group50Var1 [time]]

/-- The number is added modulo 2^64, and read with a sign. -/
theorem writtenTime_eq (reading : UInt64) (delay : Nat) :
    writtenTime reading delay =
      if (reading.toNat + delay) % 2 ^ 64 < 2 ^ 63 then
        (((reading.toNat + delay) % 2 ^ 64 : Nat) : Int)
      else (((reading.toNat + delay) % 2 ^ 64 : Nat) : Int) - 2 ^ 64 := by
  have whole : (reading + UInt64.ofInt delay).toNat = (reading.toNat + delay) % 2 ^ 64 := by
    rw [UInt64.toNat_add, UInt64.ofInt, UInt64.toNat_ofNat']
    omega
  have signed : writtenTime reading delay =
      (reading + UInt64.ofInt delay).toBitVec.toInt := rfl
  rw [signed, BitVec.toInt_eq_toNat_cond, UInt64.toNat_toBitVec, whole]
  by_cases low : (reading.toNat + delay) % 2 ^ 64 < 2 ^ 63
  · rw [if_pos (by omega), if_pos low]
  · rw [if_neg (by omega), if_neg low]
    rfl

/-- Of readings with 48 bits, a time that is written is in range just when the clock was not set
backwards while the delay was measured. -/
theorem inRange_iff {sent received reading : UInt64} {turnAround : UInt16}
    (first : sent.toNat < 2 ^ 48) (second : received.toNat < 2 ^ 48)
    (third : reading.toNat < 2 ^ 48) :
    InRange sent received reading
        (Codec.u48.kept (writtenTime reading (measuredDelay sent received turnAround))) ↔
      sent ≤ received := by
  have short := turnAround.toNat_lt
  have kept (value : Int) : Codec.u48.kept value =
      (if 2 ^ 48 - 1 < value then 2 ^ 48 - 1 else value % 2 ^ 48 : Int) := by
    change ((((if Codec.maxU48 < value then Codec.maxU48 else value) % 2 ^ 48).toNat % 256 ^ 6 :
      Nat) : Int) = _
    rw [Codec.maxU48]
    split <;> omega
  rw [kept, writtenTime_eq, InRange, UInt64.le_iff_toNat_le, measuredDelay, UInt64.toNat_sub]
  by_cases forward : sent.toNat ≤ received.toNat
  · have elapsed : (2 ^ 64 - sent.toNat + received.toNat) % 2 ^ 64 =
        received.toNat - sent.toNat := by omega
    rw [elapsed]
    generalize delays : (received.toNat - sent.toNat - turnAround.toNat) / 2 = delay
    have low : reading.toNat + delay < 2 ^ 63 := by omega
    have sum : (reading.toNat + delay) % 2 ^ 64 = reading.toNat + delay :=
      Nat.mod_eq_of_lt (by omega)
    refine iff_of_true ⟨min delay (2 ^ 48 - 1 - reading.toNat), ?_, by omega⟩ forward
    rw [sum, if_pos low]
    by_cases clamped : (2 ^ 48 - 1 : Int) < ((reading.toNat + delay : Nat) : Int)
    · rw [if_pos clamped]
      omega
    · rw [if_neg clamped]
      omega
  · -- the difference is just below 2^64, and half of it just below 2^63
    have elapsed : (2 ^ 64 - sent.toNat + received.toNat) % 2 ^ 64 =
        2 ^ 64 - (sent.toNat - received.toNat) := by omega
    rw [elapsed]
    generalize delays :
      (2 ^ 64 - (sent.toNat - received.toNat) - turnAround.toNat) / 2 = delay
    have high : 2 ^ 62 < delay ∧ delay < 2 ^ 63 := by omega
    have sum : (reading.toNat + delay) % 2 ^ 64 = reading.toNat + delay :=
      Nat.mod_eq_of_lt (by omega)
    refine iff_of_false ?_ forward
    rintro ⟨more, same, small⟩
    obtain rfl : more = 0 := by omega
    rw [sum] at same
    by_cases low : reading.toNat + delay < 2 ^ 63
    · rw [if_pos low, if_pos (by omega)] at same
      omega
    · rw [if_neg low, if_neg (by omega)] at same
      omega

/-! ## Requests -/

section requests

variable [FloatOps]

/-- What a WRITE carries is its time, if it carries one. -/
theorem eq_of_carriesTime {application : IMasterApplication} {task : SerialTimeSyncTask}
    {delay : Nat} (measured : task.delay = delay) {buffer : List UInt8} {seq : UInt8}
    {time : DNPTime}
    (carries : CarriesTime (task.buildRequest application (.ofBuffer buffer) seq).2.1 time) :
    time = Codec.u48.kept (writtenTime application.now delay) := by
  obtain ⟨record, count, parsed⟩ := carries
  have positive : ¬task.delay < 0 := by omega
  rw [SerialTimeSyncTask.buildRequest, if_neg positive] at parsed
  simp only [APDURequest.writeWith, HeaderBuilder.ofWrite, measured] at parsed
  cases written : HeaderWriter.writeSingleValue
      ⟨(((APDURequest.ofBuffer buffer).setFunction .write).setControl (.request seq)).remaining,
        none⟩ .uint8 .uint8Cnt group50Var1.inst (writtenTime application.now delay) with
  | none =>
      rw [writtenTime] at written
      rw [written] at parsed
      cases parsed
  | some after =>
      rw [writtenTime] at written
      rw [written] at parsed
      obtain rfl := HeaderWriter.writeSingleValue_eq_some written
      have known : (⟨50, 1⟩ : GroupVariationID).enumeration.countObjects =
          some ⟨.group50Var1, group50Var1.codec⟩ := rfl
      have one := (Parses.one
        (parseHeader_single _ known 0 (writtenTime application.now delay))).parse
      have same := Except.ok.inj (parsed.symm.trans one)
      simp only [List.cons.injEq, Header.countOf.injEq, heq_eq_eq, and_true, true_and] at same
      exact same.2.2

/-- What the WRITE of a run carries, behind the request that measured the delay. -/
structure Writes (sent received reading : UInt64) (measure write : APDURequest) : Prop where
  measures : measure.function = FunctionCode.delayMeasure.toType
  writes : write.function = FunctionCode.write.toType
  inRange : sent.toNat < 2 ^ 48 → received.toNat < 2 ^ 48 → reading.toNat < 2 ^ 48 →
    ∀ time, CarriesTime write time → (InRange sent received reading time ↔ sent ≤ received)

/-- What a run of the task sends: a request to measure the delay, and once it is measured a single
WRITE. Of readings with 48 bits, the time of the WRITE is in range just when the clock was not set
backwards while the delay was measured. -/
inductive Synchronizes : List TaskMessage → Prop
  | nothing : Synchronizes []
  | measuring {sent : UInt64} {measure : APDURequest}
      (measures : measure.function = FunctionCode.delayMeasure.toType) :
      Synchronizes [.request sent measure]
  | measured {sent received : UInt64} {measure : APDURequest} {header : APDUResponseHeader}
      {objects : List UInt8} (measures : measure.function = FunctionCode.delayMeasure.toType) :
      Synchronizes [.request sent measure, .response received header objects]
  | written {sent received reading : UInt64} {measure write : APDURequest}
      {header : APDUResponseHeader} {objects : List UInt8}
      (writes : Writes sent received reading measure write) :
      Synchronizes
        [.request sent measure, .response received header objects, .request reading write]
  | answered {sent received reading last : UInt64} {measure write : APDURequest}
      {header answer : APDUResponseHeader} {objects content : List UInt8}
      (writes : Writes sent received reading measure write) :
      Synchronizes
        [.request sent measure, .response received header objects, .request reading write,
          .response last answer content]

/-- How far a run has come, and what the task knows by then. -/
inductive SyncProgress : TaskPhase → SerialTimeSyncTask → List TaskMessage → Prop
  | fresh {task : SerialTimeSyncTask} (unmeasured : task.delay < 0) : SyncProgress .ready task []
  | measuring {task : SerialTimeSyncTask} {measure : APDURequest} (unmeasured : task.delay < 0)
      (measures : measure.function = FunctionCode.delayMeasure.toType) :
      SyncProgress .waiting task [.request task.start measure]
  | measured {task : SerialTimeSyncTask} {sent received : UInt64} {turnAround : UInt16}
      {measure : APDURequest} {header : APDUResponseHeader} {objects : List UInt8}
      (measures : measure.function = FunctionCode.delayMeasure.toType)
      (delay : task.delay = measuredDelay sent received turnAround) :
      SyncProgress .ready task [.request sent measure, .response received header objects]
  | written {task : SerialTimeSyncTask} {sent received reading : UInt64}
      {measure write : APDURequest} {header : APDUResponseHeader} {objects : List UInt8}
      (positive : ¬task.delay < 0) (writes : Writes sent received reading measure write) :
      SyncProgress .waiting task
        [.request sent measure, .response received header objects, .request reading write]
  | completed {task : SerialTimeSyncTask} {messages : List TaskMessage} (result : TaskCompletion)
      (synchronizes : Synchronizes messages) : SyncProgress (.completed result) task messages

theorem SyncProgress.synchronizes {phase : TaskPhase} {task : SerialTimeSyncTask}
    {messages : List TaskMessage} (progress : SyncProgress phase task messages) :
    Synchronizes messages := by
  cases progress with
  | fresh => exact .nothing
  | measuring _ measures => exact .measuring measures
  | measured measures => exact .measured measures
  | written _ writes => exact .written writes
  | completed _ synchronizes => exact synchronizes

/-- A request measures the delay at first, and writes the time from then on. -/
theorem SyncProgress.requested {task next : SerialTimeSyncTask} {messages : List TaskMessage}
    {application : IMasterApplication} {buffer : List UInt8} {seq : UInt8} {apdu : APDURequest}
    {success : Bool} (progress : SyncProgress .ready task messages)
    (built : task.buildRequest application (.ofBuffer buffer) seq = (next, apdu, success)) :
    success = true ∧ SyncProgress .waiting next (messages ++ [.request application.now apdu]) := by
  cases progress with
  | fresh unmeasured =>
      rw [SerialTimeSyncTask.buildRequest, if_pos unmeasured] at built
      obtain ⟨rfl, rest⟩ := Prod.mk.inj built
      obtain ⟨rfl, rfl⟩ := Prod.mk.inj rest
      exact ⟨rfl, .measuring unmeasured rfl⟩
  | @measured _ sent received turnAround _ _ _ measures delay =>
      have carries (time : DNPTime) := @eq_of_carriesTime _ application task _ delay buffer seq time
      have positive : ¬task.delay < 0 := by omega
      rw [built] at carries
      rw [SerialTimeSyncTask.buildRequest, if_neg positive] at built
      obtain ⟨rfl, rest⟩ := Prod.mk.inj built
      obtain ⟨rfl, rfl⟩ := Prod.mk.inj rest
      refine ⟨rfl, .written positive ⟨measures, rfl, ?_⟩⟩
      intro first second third time carried
      rw [carries time carried]
      exact inRange_iff first second third

/-- The task goes on only once it has measured the delay. -/
theorem SyncProgress.answered {task next : SerialTimeSyncTask} {messages : List TaskMessage}
    {application : IMasterApplication} {header : APDUResponseHeader} {objects : List UInt8}
    {result : ResponseResult} (progress : SyncProgress .waiting task messages)
    (response : task.processResponse application header objects = (next, result)) :
    SyncProgress result.phase next (messages ++ [.response application.now header objects]) := by
  cases progress with
  | measuring unmeasured measures =>
      rw [SerialTimeSyncTask.processResponse, if_pos unmeasured,
        SerialTimeSyncTask.onResponseDelayMeas] at response
      by_cases single : validateSingleResponse header = true
      · rw [if_pos single] at response
        cases parsed : APDUParser.parse true TimeSyncHandler.isAllowed objects with
        | error error =>
            rw [parsed] at response
            obtain ⟨rfl, rfl⟩ := Prod.mk.inj response
            exact .completed _ (.measured measures)
        | ok headers =>
            simp only [parsed] at response
            cases delay : TimeSyncHandler.getTimeDelay headers with
            | none =>
                simp only [delay] at response
                obtain ⟨rfl, rfl⟩ := Prod.mk.inj response
                exact .completed _ (.measured measures)
            | some turnAround =>
                simp only [delay] at response
                obtain ⟨rfl, rfl⟩ := Prod.mk.inj response
                have elapsed : (if (application.now - task.start).toNat ≥ turnAround.toNat then
                    (((application.now - task.start).toNat : Int) - turnAround.toNat) / 2 else 0) =
                      (measuredDelay task.start application.now turnAround : Int) := by
                  rw [measuredDelay]
                  split <;> omega
                exact .measured measures elapsed
      · rw [if_neg single] at response
        obtain ⟨rfl, rfl⟩ := Prod.mk.inj response
        exact .completed _ (.measured measures)
  | written positive writes =>
      rw [SerialTimeSyncTask.processResponse, if_neg positive] at response
      obtain ⟨rfl, rfl⟩ := Prod.mk.inj response
      rw [finalIf]
      split
      · exact .completed _ (.answered writes)
      · exact .completed _ (.answered writes)

theorem TaskRun.syncProgress {task : SerialTimeSyncTask} {phase : TaskPhase} {body : MasterTask}
    {messages : List TaskMessage} (run : TaskRun (.serialTimeSync task) phase body messages) :
    ∃ task, body = .serialTimeSync task ∧ SyncProgress phase task messages := by
  induction run with
  | start => exact ⟨_, rfl, .fresh (show (-1 : Int) < 0 by decide)⟩
  | unstarted result => exact ⟨task, rfl, .completed result .nothing⟩
  | requested _ built ih =>
      obtain ⟨before, rfl, progress⟩ := ih
      rcases request : before.buildRequest _ _ _ with ⟨after, apdu, success⟩
      rw [MasterTask.buildRequest, request] at built
      obtain ⟨rfl, rest⟩ := Prod.mk.inj built
      obtain ⟨rfl, _⟩ := Prod.mk.inj rest
      exact ⟨after, rfl, (progress.requested request).2⟩
  | unformatted _ built ih =>
      obtain ⟨before, rfl, progress⟩ := ih
      rcases request : before.buildRequest _ _ _ with ⟨after, apdu, success⟩
      obtain rfl := (progress.requested request).1
      rw [MasterTask.buildRequest, request] at built
      cases (Prod.mk.inj (Prod.mk.inj built).2).2
  | answered _ response ih =>
      obtain ⟨before, rfl, progress⟩ := ih
      rw [MasterTask.processResponse] at response
      obtain ⟨rfl, rest⟩ := Prod.mk.inj response
      exact ⟨_, rfl, progress.answered (Prod.ext rfl (Prod.mk.inj rest).2)⟩
  | abandoned _ _ result ih =>
      obtain ⟨before, rfl, progress⟩ := ih
      exact ⟨before, rfl, .completed result progress.synchronizes⟩

/-- Every run of the task synchronizes the time, as long as the clock is not set backwards. -/
theorem synchronizes_of_run {task : SerialTimeSyncTask} {phase : TaskPhase} {body : MasterTask}
    {messages : List TaskMessage} (run : TaskRun (.serialTimeSync task) phase body messages) :
    Synchronizes messages := by
  obtain ⟨_, _, progress⟩ := run.syncProgress
  exact progress.synchronizes

end requests

/-! ## A clock that is set backwards -/

/-- An application whose clock is at a reading. -/
def clockAt (reading : UInt64) : IMasterApplication :=
  ⟨reading, false, fun writer => (writer, true)⟩

/-- A response that carries a turn-around time of 5 ms. -/
def fiveMilliseconds : APDUResponseHeader × List UInt8 :=
  (⟨⟨⟨true, true, false, false, 0⟩, .response⟩, .empty⟩, [52, 2, 7, 1, 5, 0])

/-- The messages of a run, and its body at the end. -/
def messagesAt (sent received reading : UInt64) : List TaskMessage × MasterTask :=
  let buffer := List.replicate 20 0
  let (body, measure, _) := (MasterTask.initializeTask (.serialTimeSync {})).buildRequest
    (clockAt sent) (.ofBuffer buffer) 0
  let (body, _) := @MasterTask.processResponse .atZero (clockAt received) fiveMilliseconds.1
    fiveMilliseconds.2 body
  let (body, write, _) := body.buildRequest (clockAt reading) (.ofBuffer buffer) 1
  ([.request sent measure, .response received fiveMilliseconds.1 fiveMilliseconds.2,
    .request reading write], body)

theorem SerialTimeSyncTask.built (task : SerialTimeSyncTask) (application : IMasterApplication)
    (apdu : APDURequest) (seq : UInt8) : (task.buildRequest application apdu seq).2.2 = true := by
  rw [buildRequest]
  split
  · rfl
  · rfl

theorem taskRun_messagesAt (sent received reading : UInt64) :
    @TaskRun .atZero (.serialTimeSync {}) .waiting (messagesAt sent received reading).2
      (messagesAt sent received reading).1 := by
  have first := @TaskRun.requested .atZero _ _ _ _ ⟨0⟩ (clockAt sent) (.replicate 20 0) _
    (@TaskRun.start .atZero (.serialTimeSync {})) rfl
  have second := @TaskRun.answered .atZero _ _ _ _ (clockAt received) fiveMilliseconds.1
    fiveMilliseconds.2 _ .okRepeat first rfl
  exact @TaskRun.requested .atZero _ _ _ _ ⟨1⟩ (clockAt reading) (.replicate 20 0) _ second
    (Prod.ext rfl (Prod.ext rfl (SerialTimeSyncTask.built _ _ _ _)))

/-- The clock is set back by a second while the delay is measured, and the time that is written is
in the year 10889. -/
theorem not_inRange_backwards :
    ∃ body messages sent received reading measure write header objects time,
      @TaskRun .atZero (.serialTimeSync {}) .waiting body messages ∧
        messages = [.request sent measure, .response received header objects,
          .request reading write] ∧
        @CarriesTime .atZero write time ∧ ¬InRange sent received reading time := by
  refine ⟨_, _, 1000, 0, 5, _, _, _, _, 2 ^ 48 - 1, taskRun_messagesAt 1000 0 5, rfl,
    ⟨recordOf ⟨50, 1⟩ .uint8Cnt 0, 1, ?_⟩, ?_⟩
  · decide +kernel
  · rintro ⟨delay, same, small⟩
    change (2 ^ 48 - 1 : Int) = (5 : Nat) + (delay : Int) at same
    change 2 * delay ≤ 0 at small
    omega

/-- The clock goes on by a second while the delay is measured. -/
theorem synchronizes_oneSecond :
    @Synchronizes .atZero (messagesAt 0 1000 2000).1 :=
  @synchronizes_of_run .atZero _ _ _ _ (taskRun_messagesAt 0 1000 2000)

end OpenDnp3.Master
