import Mathlib.Logic.Relation
import OpenDnp3.Master.MasterContext

/-!
# Flow of tasks

What becomes of tasks, without timers, priorities and retries: a master starts
one of the scheduled tasks, sends its requests and takes in the answers until
the task is complete. Everything that masters do is a sequence of such moves.
-/

set_option autoImplicit false

namespace OpenDnp3.Master

open OpenDnp3.App OpenDnp3.Library

/-- What matters of a master. -/
structure Party (Runner : Type) where
  isOnline : Bool
  isSending : Bool
  solSeq : AppSeqNum
  activeTask : Option (TaskId Runner)
  responseTimer : Bool
  boundTasks : List (TaskId Runner)
  confirmQueue : List APDUHeader
  tstate : TaskState

/-- What matters of the scheduler and the tasks. -/
structure Ledger (Runner : Type) where
  isShutdown : Bool
  current : Option (Record Runner)
  tasks : List (Record Runner)
  body : TaskId Runner → MasterTask
  created : Nat
  history : List (Event Runner)

/-- Events that no one waits for. -/
def Event.Silent {Runner : Type} : Event Runner → Prop
  | .onStart _ | .onReceiveIIN _ _ => True
  | _ => False

variable {Runner : Type} [DecidableEq Runner]

/-! ## Parties -/

namespace Party

/-- The response to a request is taken in. -/
def answered (party : Party Runner) : Party Runner :=
  { party with responseTimer := false, solSeq := party.solSeq.next }

def confirming (party : Party Runner) (header : APDUResponseHeader) : Party Runner :=
  if header.control.con then
    { party with
      confirmQueue := party.confirmQueue ++ [.solicitedConfirm header.control.seq] }
  else party

omit [DecidableEq Runner] in
/-- Only the queue of confirms grows. -/
theorem confirming_eq (party : Party Runner) (header : APDUResponseHeader) :
    party.confirming header =
      { party with
        confirmQueue :=
          party.confirmQueue ++
            if header.control.con then [.solicitedConfirm header.control.seq] else [] } := by
  rw [confirming]
  split
  · rfl
  · rw [List.append_nil]

def finished (party : Party Runner) : Party Runner :=
  { party with activeTask := none, tstate := .idle }

def closed (party : Party Runner) : Party Runner :=
  { party with
    isOnline := false
    isSending := false
    solSeq := ⟨0⟩
    activeTask := none
    responseTimer := false
    tstate := .idle }

end Party

/-! ## Ledgers -/

namespace Ledger

omit [DecidableEq Runner] in
def log (ledger : Ledger Runner) (event : Event Runner) : Ledger Runner :=
  { ledger with history := ledger.history ++ [event] }

def setBody (ledger : Ledger Runner) (id : TaskId Runner) (body : MasterTask) : Ledger Runner :=
  { ledger with body := Function.update ledger.body id body }

omit [DecidableEq Runner] in
def complete (ledger : Ledger Runner) (id : TaskId Runner) (result : TaskCompletion) :
    Ledger Runner :=
  ledger.log (.onTaskComplete id result ((ledger.body id).onTaskComplete result))

omit [DecidableEq Runner] in
/-- The completions of the tasks of records, those that recur excepted. -/
def completions (body : TaskId Runner → MasterTask) (result : TaskCompletion)
    (records : List (Record Runner)) : List (Event Runner) :=
  (records.filter fun record => !(body record.task).isRecurring).map fun record =>
    .onTaskComplete record.task result ((body record.task).onTaskComplete result)

omit [DecidableEq Runner] in
def completeRecords (result : TaskCompletion) (records : List (Record Runner))
    (ledger : Ledger Runner) : Ledger Runner :=
  { ledger with history := ledger.history ++ completions ledger.body result records }

def create (ledger : Ledger Runner) (runner : Runner) (body : MasterTask) : Ledger Runner :=
  { ledger with
    body := Function.update ledger.body (.user runner ledger.created) body
    created := ledger.created + 1 }

def add (ledger : Ledger Runner) (id : TaskId Runner) (runner : Runner) : Ledger Runner :=
  if ledger.isShutdown then ledger
  else { ledger with tasks := ledger.tasks ++ [⟨id, runner⟩] }

/-- The current task of a master is done. If it recurs, it is scheduled again. -/
def release (ledger : Ledger Runner) (runner : Runner) : Ledger Runner :=
  match ledger.current with
  | none => ledger
  | some current =>
      if current.runner ≠ runner then ledger
      else
        { (if (ledger.body current.task).isRecurring then ledger.add current.task current.runner
          else ledger) with
          current := none }

omit [DecidableEq Runner] in
theorem add_eq (ledger : Ledger Runner) (id : TaskId Runner) (runner : Runner) :
    ∃ tasks, ledger.add id runner = { ledger with tasks } := by
  rw [add]
  split
  · exact ⟨ledger.tasks, rfl⟩
  · exact ⟨_, rfl⟩

/-- Only the schedule changes when a task is released. -/
theorem release_eq (ledger : Ledger Runner) (runner : Runner) :
    ∃ current tasks, ledger.release runner = { ledger with current, tasks } := by
  rw [release]
  split
  · exact ⟨_, _, rfl⟩
  · next current _ =>
    obtain ⟨tasks, added⟩ := ledger.add_eq current.task current.runner
    split_ifs
    · exact ⟨_, _, rfl⟩
    · exact ⟨none, tasks, by rw [added]⟩
    · exact ⟨_, _, rfl⟩

omit [DecidableEq Runner] in
@[simp] theorem history_add (ledger : Ledger Runner) (id : TaskId Runner) (runner : Runner) :
    (ledger.add id runner).history = ledger.history := by
  obtain ⟨tasks, added⟩ := ledger.add_eq id runner
  rw [added]

@[simp] theorem history_release (ledger : Ledger Runner) (runner : Runner) :
    (ledger.release runner).history = ledger.history := by
  obtain ⟨current, tasks, released⟩ := ledger.release_eq runner
  rw [released]

/-- Erase the records that a test selects, and complete their tasks. -/
def erase (ledger : Ledger Runner) (result : TaskCompletion) (selects : Record Runner → Bool) :
    Ledger Runner :=
  { completeRecords result (ledger.tasks.filter selects) ledger with
    tasks := ledger.tasks.filter (!selects ·) }

/-- A master gives up its current task. -/
def abandon (ledger : Ledger Runner) (runner : Runner) : Ledger Runner :=
  match ledger.current with
  | none => ledger
  | some current =>
      if current.runner = runner then
        { completeRecords .failureNoComms [current] ledger with current := none }
      else ledger

def close (ledger : Ledger Runner) (runner : Runner) : Ledger Runner :=
  (if ledger.isShutdown then ledger
  else (ledger.abandon runner).erase .failureNoComms (·.runner = runner)).log (.onClose runner)

/-- What an answer leaves behind, but for its completion and its confirm. -/
def answered (ledger : Ledger Runner) (runner : Runner) (id : TaskId Runner) (body : MasterTask)
    (header : APDUResponseHeader) (objects : List UInt8) (calls : List SOECall) :
    Ledger Runner :=
  ((ledger.log (.received runner header objects)).setBody id body).log (.measurements runner calls)

omit [DecidableEq Runner] in
def confirming (ledger : Ledger Runner) (runner : Runner) (header : APDUResponseHeader) :
    Ledger Runner :=
  if header.control.con then
    ledger.log (.queueConfirm runner (.solicitedConfirm header.control.seq))
  else ledger

end Ledger

/-! ## Moves -/

/-- The moves that need to be permitted. -/
structure Permits (Runner : Type) where
  closes : Party Runner → Prop
  answers : MasterTask → APDUResponseHeader → List UInt8 → Prop

def Permits.all : Permits Runner := ⟨fun _ => True, fun _ _ _ => True⟩

variable [FloatOps]

/-- A response that a master waits for, and what its task makes of it. -/
structure Answers (permits : Permits Runner) (party : Party Runner) (ledger : Ledger Runner)
    (id : TaskId Runner) (header : APDUResponseHeader) (objects : List UInt8) (body : MasterTask)
    (calls : List SOECall) (result : ResponseResult) : Prop where
  isOnline : party.isOnline = true
  tstate : party.tstate = .waitForResponse
  activeTask : party.activeTask = some id
  function : header.function = .response
  seq : header.control.seq = party.solSeq.seq
  permitted : permits.answers (ledger.body id) header objects
  response : ∃ application, (ledger.body id).processResponse application header objects =
    (body, calls, result)

inductive Move (permits : Permits Runner) (runner : Runner) :
    Party Runner → Ledger Runner → Party Runner → Ledger Runner → Prop
  | note {party ledger} (event : Event Runner) (silent : event.Silent) :
      Move permits runner party ledger party (ledger.log event)
  | opened {party ledger} (offline : party.isOnline = false) :
      Move permits runner party ledger { party with isOnline := true }
        (ledger.log (.onOpen runner))
  | added {party ledger} (id : TaskId Runner) (online : party.isOnline = true)
      (known : id ∈ party.boundTasks ∨ ∃ task, id = .own runner task) :
      Move permits runner party ledger party (ledger.add id runner)
  | scheduled {party ledger} (params : MasterParams) (request : UserRequest)
      (online : party.isOnline = true) :
      Move permits runner party ledger party
        ((ledger.create runner (request.body params)).add (.user runner ledger.created) runner)
  | declined {party ledger} (params : MasterParams) (request : UserRequest)
      (offline : party.isOnline = false) :
      Move permits runner party ledger party
        ((ledger.create runner (request.body params)).complete (.user runner ledger.created)
          .failureNoComms)
  | bound {party ledger} (builder : HeaderBuilder) :
      Move permits runner party ledger
        { party with boundTasks := party.boundTasks ++ [.user runner ledger.created] }
        (ledger.create runner (.userPoll builder true 0))
  | started {party ledger} (id : TaskId Runner) (position : Nat)
      (running : ledger.isShutdown = false) (free : ledger.current = none)
      (chosen : ledger.tasks[position]? = some ⟨id, runner⟩)
      (inactive : party.activeTask = none) (idle : party.tstate = .idle) :
      Move permits runner party ledger
        { party with tstate := .taskReady, activeTask := some id }
        ((({ ledger with
          current := some ⟨id, runner⟩
          tasks := ledger.tasks.eraseIdx position }.log (.run runner id true)).log
            (.onStart id)).setBody id (ledger.body id).initializeTask)
  | refused {party ledger} (id : TaskId Runner) (position : Nat)
      (running : ledger.isShutdown = false) (free : ledger.current = none)
      (chosen : ledger.tasks[position]? = some ⟨id, runner⟩)
      (busy : party.activeTask = none → party.tstate ≠ .idle) :
      Move permits runner party ledger party
        ({ ledger with
          current := some ⟨id, runner⟩
          tasks := ledger.tasks.eraseIdx position }.log (.run runner id false))
  | requested {party ledger} (id : TaskId Runner) (application : IMasterApplication)
      (buffer : List UInt8) (apdu : APDURequest) (body : MasterTask)
      (tstate : party.tstate = .taskReady) (active : party.activeTask = some id)
      (quiet : party.isSending = false)
      (built : (ledger.body id).buildRequest application (.ofBuffer buffer) party.solSeq.seq =
        (body, apdu, true)) :
      Move permits runner party ledger
        { party with responseTimer := true, isSending := true, tstate := .waitForResponse }
        ((ledger.setBody id body).log (.beginTransmit runner (some id) apdu.toRSlice))
  | unformatted {party ledger} (id : TaskId Runner) (application : IMasterApplication)
      (buffer : List UInt8) (apdu : APDURequest) (body : MasterTask)
      (tstate : party.tstate = .taskReady) (active : party.activeTask = some id)
      (failed : (ledger.body id).buildRequest application (.ofBuffer buffer) party.solSeq.seq =
        (body, apdu, false)) :
      Move permits runner party ledger party.finished
        (((ledger.setBody id body).complete id .failureMessageFormatError).release runner)
  | ignored {party ledger} (header : APDUResponseHeader) (objects : List UInt8)
      (online : party.isOnline = true) :
      Move permits runner party ledger party (ledger.log (.received runner header objects))
  | reported {party ledger} (header : APDUResponseHeader) (objects : List UInt8)
      (calls : List SOECall) (online : party.isOnline = true)
      (function : header.function = .unsolicitedResponse) :
      Move permits runner party ledger party
        ((ledger.log (.received runner header objects)).log (.measurements runner calls))
  | unsolicited {party ledger} (header : APDUResponseHeader) (objects : List UInt8)
      (calls : List SOECall) (online : party.isOnline = true)
      (function : header.function = .unsolicitedResponse) (con : header.control.con = true)
      (parsed : MeasurementHandler.processMeasurements objects = .ok calls) :
      Move permits runner party ledger
        { party with
          confirmQueue :=
            party.confirmQueue ++ [.unsolicitedConfirm header.control.seq] }
        (((ledger.log (.received runner header objects)).log (.measurements runner calls)).log
          (.queueConfirm runner (.unsolicitedConfirm header.control.seq)))
  | continued {party ledger} {id : TaskId Runner} {header : APDUResponseHeader}
      {objects : List UInt8} {body : MasterTask} {calls : List SOECall}
      (answers : Answers permits party ledger id header objects body calls .okContinue) :
      Move permits runner party ledger
        { party.answered.confirming header with responseTimer := true }
        ((ledger.answered runner id body header objects calls).confirming runner header)
  | repeated {party ledger} {id : TaskId Runner} {header : APDUResponseHeader}
      {objects : List UInt8} {body : MasterTask} {calls : List SOECall}
      (answers : Answers permits party ledger id header objects body calls .okRepeat) :
      Move permits runner party ledger
        { party.answered.confirming header with tstate := .taskReady }
        ((ledger.answered runner id body header objects calls).confirming runner header)
  | finished {party ledger} {id : TaskId Runner} {header : APDUResponseHeader}
      {objects : List UInt8} {body : MasterTask} {calls : List SOECall}
      {result : ResponseResult} (completion : TaskCompletion)
      (answers : Answers permits party ledger id header objects body calls result) :
      Move permits runner party ledger (party.answered.confirming header).finished
        ((((ledger.answered runner id body header objects calls).complete id completion).confirming
          runner header).release runner)
  | confirmed {party ledger} (confirm : APDUHeader) (confirmQueue : List APDUHeader)
      (online : party.isOnline = true) (quiet : party.isSending = false)
      (queued : party.confirmQueue = confirm :: confirmQueue) :
      Move permits runner party ledger { party with isSending := true, confirmQueue }
        (ledger.log (.beginTransmit runner none
          [confirm.control.toByte, confirm.function.toType]))
  | ready {party ledger} (online : party.isOnline = true) (sending : party.isSending = true) :
      Move permits runner party ledger { party with isSending := false }
        (ledger.log (.txReady runner))
  | timedOut {party ledger} (id : TaskId Runner) (online : party.isOnline = true)
      (tstate : party.tstate = .waitForResponse) (active : party.activeTask = some id) :
      Move permits runner party ledger party.answered.finished
        ((ledger.complete id .failureResponseTimeout).release runner)
  | expired {party ledger}
      (unconcerned : party.isOnline = true → party.tstate = .waitForResponse →
        party.activeTask = none) :
      Move permits runner party ledger { party with responseTimer := false } ledger

/-! ## Worlds -/

/-- All masters of a channel, and what they share. -/
structure World (Runner : Type) where
  party : Runner → Party Runner
  ledger : Ledger Runner

inductive World.Step (permits : Permits Runner) : World Runner → World Runner → Prop
  | act {world : World Runner} {runner : Runner} {party : Party Runner} {ledger : Ledger Runner}
      (move : Move permits runner (world.party runner) world.ledger party ledger) :
      Step permits world ⟨Function.update world.party runner party, ledger⟩
  | closed {world : World Runner} (runner : Runner)
      (online : (world.party runner).isOnline = true)
      (permitted : permits.closes (world.party runner)) :
      Step permits world
        ⟨Function.update world.party runner (world.party runner).closed,
          world.ledger.close runner⟩
  | erased {world : World Runner} (result : TaskCompletion) (selects : Record Runner → Bool)
      (running : world.ledger.isShutdown = false) :
      Step permits world ⟨world.party, world.ledger.erase result selects⟩
  | shutdown {world : World Runner} :
      Step permits world
        ⟨world.party, { world.ledger with isShutdown := true, current := none, tasks := [] }⟩

/-! ## Histories -/

omit [DecidableEq Runner] [FloatOps] in
theorem Ledger.history_confirming {ledger : Ledger Runner} (runner : Runner)
    (header : APDUResponseHeader) :
    ledger.history <+: (ledger.confirming runner header).history := by
  rw [confirming]
  split
  · exact List.prefix_append _ _
  · exact List.prefix_refl _

omit [FloatOps] in
theorem Ledger.history_answered (ledger : Ledger Runner) (runner : Runner) (id : TaskId Runner)
    (body : MasterTask) (header : APDUResponseHeader) (objects : List UInt8)
    (calls : List SOECall) :
    ledger.history <+: (ledger.answered runner id body header objects calls).history :=
  (List.prefix_append ledger.history [.received runner header objects]).trans
    (List.prefix_append _ _)

theorem Move.history_prefix {permits : Permits Runner} {runner : Runner}
    {party after : Party Runner} {ledger next : Ledger Runner}
    (move : Move permits runner party ledger after next) : ledger.history <+: next.history := by
  cases move with
  | note | opened | declined | refused | requested | ignored | confirmed | ready =>
      exact List.prefix_append _ _
  | bound | expired => exact List.prefix_refl _
  | added => rw [Ledger.history_add]
  | scheduled =>
      rw [Ledger.history_add]
      exact List.prefix_refl _
  | started | reported => exact (List.prefix_append _ _).trans (List.prefix_append _ _)
  | unformatted | timedOut =>
      rw [Ledger.history_release]
      exact List.prefix_append _ _
  | unsolicited =>
      exact ((List.prefix_append _ _).trans (List.prefix_append _ _)).trans
        (List.prefix_append _ _)
  | continued | repeated =>
      exact (ledger.history_answered ..).trans (Ledger.history_confirming ..)
  | @finished id header objects body calls _ completion =>
      rw [Ledger.history_release]
      have answered := ledger.history_answered runner id body header objects calls
      have completed : ledger.history <+:
          ((ledger.answered runner id body header objects calls).complete id completion).history :=
        answered.trans (List.prefix_append _ _)
      exact completed.trans (Ledger.history_confirming ..)

omit [FloatOps] in
theorem Ledger.history_close (ledger : Ledger Runner) (runner : Runner) :
    ledger.history <+: (ledger.close runner).history := by
  refine List.IsPrefix.trans ?_ (List.prefix_append _ _)
  split
  · exact List.prefix_refl _
  · refine List.IsPrefix.trans ?_ (List.prefix_append _ _)
    rw [abandon]
    split
    · exact List.prefix_refl _
    · split
      · exact List.prefix_append _ _
      · exact List.prefix_refl _

/-- What happened stays in the history. -/
theorem World.Step.history_prefix {permits : Permits Runner} {world next : World Runner}
    (step : World.Step permits world next) : world.ledger.history <+: next.ledger.history := by
  cases step with
  | act move => exact move.history_prefix
  | closed runner => exact world.ledger.history_close runner
  | erased => exact List.prefix_append _ _
  | shutdown => exact List.prefix_refl _

end OpenDnp3.Master
