import OpenDnp3.Library.SequenceNum
import OpenDnp3.Master.MasterTask

/-!
# Runs of a task

What a task goes through from its start to its completion, in the order that a
master keeps: a request, the responses to it, and another request only if the
last response asks for it.
-/

set_option autoImplicit false

namespace OpenDnp3.Master

open OpenDnp3.App OpenDnp3.Library

/-- A request that a task sends, or a response that it is told of, each with the reading of the
clock at that moment. -/
inductive TaskMessage where
  | request (reading : UInt64) (apdu : APDURequest)
  | response (reading : UInt64) (header : APDUResponseHeader) (objects : List UInt8)

inductive TaskPhase where
  | ready
  | waiting
  | completed (result : TaskCompletion)
deriving DecidableEq, Repr

/-- Where a response leaves a task. -/
def ResponseResult.phase : ResponseResult → TaskPhase
  | .errorBadResponse => .completed .failureBadResponse
  | .okFinal => .completed .success
  | .okRepeat => .ready
  | .okContinue => .waiting

/-- A run of a task, with its body and the messages so far. -/
inductive TaskRun [FloatOps] (task : MasterTask) :
    TaskPhase → MasterTask → List TaskMessage → Prop
  | start : TaskRun task .ready task.initializeTask []
  /-- A task that is not started in time, or at all. -/
  | unstarted (result : TaskCompletion) : TaskRun task (.completed result) task []
  | requested {body next : MasterTask} {messages : List TaskMessage} {seq : SequenceNum 16}
      {application : IMasterApplication} {buffer : List UInt8} {apdu : APDURequest}
      (run : TaskRun task .ready body messages)
      (built : body.buildRequest application (.ofBuffer buffer) seq.seq = (next, apdu, true)) :
      TaskRun task .waiting next (messages ++ [.request application.now apdu])
  | unformatted {body next : MasterTask} {messages : List TaskMessage} {seq : SequenceNum 16}
      {application : IMasterApplication} {buffer : List UInt8} {apdu : APDURequest}
      (run : TaskRun task .ready body messages)
      (built : body.buildRequest application (.ofBuffer buffer) seq.seq = (next, apdu, false)) :
      TaskRun task (.completed .failureMessageFormatError) next messages
  | answered {body next : MasterTask} {messages : List TaskMessage}
      {application : IMasterApplication} {header : APDUResponseHeader} {objects : List UInt8}
      {calls : List SOECall} {result : ResponseResult}
      (run : TaskRun task .waiting body messages)
      (response : body.processResponse application header objects = (next, calls, result)) :
      TaskRun task result.phase next (messages ++ [.response application.now header objects])
  /-- No response in time, or no more communication. -/
  | abandoned {phase : TaskPhase} {body : MasterTask} {messages : List TaskMessage}
      (run : TaskRun task phase body messages) (running : phase = .ready ∨ phase = .waiting)
      (result : TaskCompletion) : TaskRun task (.completed result) body messages

end OpenDnp3.Master
