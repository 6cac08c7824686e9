import OpenDnp3.Library.History
import OpenDnp3.Master.TaskFlowRefinement

/-!
# Exclusion of masters

Of the masters that share a scheduler, one at most has an active task. It is
the one that the scheduler knows as the current one.
-/

set_option autoImplicit false

namespace OpenDnp3.Master

open OpenDnp3.App OpenDnp3.Library

variable {Runner : Type} [DecidableEq Runner]

/-! ## The schedule -/

omit [DecidableEq Runner] in
/-- What a ledger says of what runs and what is to run. -/
def Ledger.schedule (ledger : Ledger Runner) :
    Bool × Option (Record Runner) × List (Record Runner) :=
  (ledger.isShutdown, ledger.current, ledger.tasks)

namespace Ledger

variable (ledger : Ledger Runner) (runner : Runner)

omit [DecidableEq Runner] in
@[simp] theorem schedule_log (event : Event Runner) :
    (ledger.log event).schedule = ledger.schedule := rfl

@[simp] theorem schedule_setBody (id : TaskId Runner) (body : MasterTask) :
    (ledger.setBody id body).schedule = ledger.schedule := rfl

omit [DecidableEq Runner] in
@[simp] theorem schedule_complete (id : TaskId Runner) (result : TaskCompletion) :
    (ledger.complete id result).schedule = ledger.schedule := rfl

@[simp] theorem schedule_create (body : MasterTask) :
    (ledger.create runner body).schedule = ledger.schedule := rfl

@[simp] theorem schedule_answered (id : TaskId Runner) (body : MasterTask)
    (header : APDUResponseHeader) (objects : List UInt8) (calls : List SOECall) :
    (ledger.answered runner id body header objects calls).schedule = ledger.schedule := rfl

omit [DecidableEq Runner] in
@[simp] theorem schedule_confirming (header : APDUResponseHeader) :
    (ledger.confirming runner header).schedule = ledger.schedule := by
  rw [confirming]
  split <;> rfl

/-- An online master may add tasks, and nothing else changes. -/
structure Schedules (runner : Runner) (online : Bool) (ledger next : Ledger Runner) : Prop where
  isShutdown : next.isShutdown = ledger.isShutdown
  current : next.current = ledger.current
  stopped : ledger.isShutdown = true → next.tasks = ledger.tasks
  tasks : ∀ record ∈ next.tasks, record ∈ ledger.tasks ∨ record.runner = runner ∧ online = true

namespace Schedules

variable {ledger runner} {next : Ledger Runner} {online : Bool}

omit [DecidableEq Runner] in
theorem of_schedule (same : next.schedule = ledger.schedule) :
    Schedules runner online ledger next := by
  obtain ⟨isShutdown, same⟩ := Prod.mk.inj same
  obtain ⟨current, tasks⟩ := Prod.mk.inj same
  exact ⟨isShutdown, current, fun _ => tasks, fun record member => .inl (tasks ▸ member)⟩

omit [DecidableEq Runner] in
theorem add (same : next.schedule = ledger.schedule) (id : TaskId Runner) (isOnline : online = true) :
    Schedules runner online ledger (next.add id runner) := by
  obtain ⟨isShutdown, same⟩ := Prod.mk.inj same
  obtain ⟨current, tasks⟩ := Prod.mk.inj same
  rw [Ledger.add]
  split
  · exact ⟨isShutdown, current, fun _ => tasks, fun record member => .inl (tasks ▸ member)⟩
  · next running =>
    refine ⟨isShutdown, current, fun stopped => absurd (isShutdown.trans stopped) running, ?_⟩
    intro record member
    rcases List.mem_append.mp member with old | new
    · exact .inl (tasks ▸ old)
    · obtain rfl := List.mem_singleton.mp new
      exact .inr ⟨rfl, isOnline⟩

end Schedules

variable {ledger runner}

theorem release_of_none (free : ledger.current = none) : ledger.release runner = ledger := by
  rw [release, free]

/-- A task that is released may be scheduled again. -/
theorem release_of_current {id : TaskId Runner} (current : ledger.current = some ⟨id, runner⟩) :
    ∃ next, Schedules runner true ledger next ∧
      ledger.release runner = { next with current := none } := by
  simp only [release, current]
  rw [if_neg (not_not.mpr rfl)]
  split
  · exact ⟨_, .add rfl id rfl, rfl⟩
  · exact ⟨_, .of_schedule rfl, rfl⟩

theorem abandon_tasks : (ledger.abandon runner).tasks = ledger.tasks := by
  rw [abandon]
  split
  · rfl
  · split <;> rfl

theorem abandon_isShutdown : (ledger.abandon runner).isShutdown = ledger.isShutdown := by
  rw [abandon]
  split
  · rfl
  · split <;> rfl

/-- What runs goes on, unless it is the master's own. -/
theorem abandon_current {record : Record Runner} :
    (ledger.abandon runner).current = some record ↔
      ledger.current = some record ∧ record.runner ≠ runner := by
  rw [abandon]
  cases current : ledger.current with
  | none => simp [current]
  | some other =>
      dsimp only
      split
      · next own =>
        simp only [reduceCtorEq, Option.some.injEq, false_iff, not_and, not_not]
        rintro rfl
        exact own
      · next foreign =>
        rw [current, Option.some.injEq]
        exact ⟨fun same => ⟨same, same ▸ foreign⟩, And.left⟩

end Ledger

/-! ## Masters -/

/-- What holds of a master by itself. -/
structure Party.Sound (party : Party Runner) : Prop where
  idle : party.tstate = .idle ↔ party.activeTask = none
  timer : party.tstate = .waitForResponse → party.responseTimer = true
  offline : party.isOnline = false → party.activeTask = none ∧ party.isSending = false

namespace Party.Sound

variable {party : Party Runner}

omit [DecidableEq Runner] in
theorem online (sound : party.Sound) {id : TaskId Runner} (active : party.activeTask = some id) :
    party.isOnline = true := by
  by_contra offline
  rw [(sound.offline (Bool.not_eq_true _ ▸ offline)).1] at active
  cases active

omit [DecidableEq Runner] in
theorem finished {other : Party Runner} (sound : party.Sound)
    (online : other.isOnline = party.isOnline) (sending : other.isSending = party.isSending) :
    other.finished.Sound where
  idle := ⟨fun _ => rfl, fun _ => rfl⟩
  timer waiting := by cases waiting
  offline offline := ⟨rfl, sending.trans (sound.offline (online.symm.trans offline)).2⟩

end Party.Sound

variable [FloatOps] {permits : Permits Runner} {runner : Runner} {party after : Party Runner}
  {ledger next : Ledger Runner}

theorem Move.sound (move : Move permits runner party ledger after next) (sound : party.Sound)
    (scheduled : ∀ record ∈ ledger.tasks, record.runner = runner → party.isOnline = true) :
    after.Sound := by
  cases move with
  | note | added | scheduled | declined | refused | ignored | reported => exact sound
  | opened => exact ⟨sound.idle, sound.timer, by simp⟩
  | bound | unsolicited => exact ⟨sound.idle, sound.timer, sound.offline⟩
  | started id position running free chosen =>
      have online := scheduled _ (List.mem_of_getElem? chosen) rfl
      exact ⟨by simp, by simp, by simp [online]⟩
  | requested id application buffer apdu body tstate active =>
      have online := sound.online active
      exact ⟨by simp [active], by simp, by simp [online]⟩
  | unformatted | timedOut => exact sound.finished rfl rfl
  | finished =>
      rw [Party.confirming_eq]
      exact sound.finished rfl rfl
  | continued answers =>
      rw [Party.confirming_eq]
      exact ⟨sound.idle, fun _ => rfl, sound.offline⟩
  | repeated answers =>
      rw [Party.confirming_eq]
      exact ⟨by simp [Party.answered, answers.activeTask], by simp, sound.offline⟩
  | confirmed confirm confirmQueue online => exact ⟨sound.idle, sound.timer, by simp [online]⟩
  | ready online => exact ⟨sound.idle, sound.timer, by simp [online]⟩
  | expired unconcerned =>
      refine ⟨sound.idle, fun waiting => ?_, sound.offline⟩
      have idle : party.tstate = .idle := by
        refine sound.idle.mpr ?_
        cases online : party.isOnline with
        | false => exact (sound.offline online).1
        | true => exact unconcerned online waiting
      exact absurd (idle.symm.trans waiting) (by decide)

/-! ## The current task -/

/-- The scheduler and the masters agree on what runs. -/
structure World.Scheduled (world : World Runner) : Prop where
  stopped : world.ledger.isShutdown = true →
    world.ledger.current = none ∧ world.ledger.tasks = []
  current : world.ledger.isShutdown = false → ∀ id runner,
    world.ledger.current = some ⟨id, runner⟩ ↔ (world.party runner).activeTask = some id
  single : ∀ {one other : Runner} {id otherId : TaskId Runner},
    (world.party one).activeTask = some id → (world.party other).activeTask = some otherId →
      one = other
  online : ∀ record ∈ world.ledger.tasks, (world.party record.runner).isOnline = true

namespace World.Scheduled

variable {world : World Runner}

omit [FloatOps]

/-- A master goes on with what it does. -/
theorem kept (scheduled : world.Scheduled)
    (active : after.activeTask = (world.party runner).activeTask)
    (online : (world.party runner).isOnline = true → after.isOnline = true)
    (schedules : world.ledger.Schedules runner after.isOnline next) :
    World.Scheduled ⟨Function.update world.party runner after, next⟩ := by
  have activeTask (other : Runner) : (Function.update world.party runner after other).activeTask =
      (world.party other).activeTask := by
    rcases eq_or_ne other runner with rfl | foreign
    · rw [Function.update_self, active]
    · rw [Function.update_of_ne foreign]
  refine ⟨?_, ?_, ?_, ?_⟩
  · intro stopped
    have stopped := schedules.isShutdown.symm.trans stopped
    exact ⟨schedules.current.trans (scheduled.stopped stopped).1,
      (schedules.stopped stopped).trans (scheduled.stopped stopped).2⟩
  · intro running id other
    rw [activeTask, schedules.current]
    exact scheduled.current (schedules.isShutdown.symm.trans running) id other
  · intro one other id otherId first second
    exact scheduled.single ((activeTask one).symm.trans first) ((activeTask other).symm.trans second)
  · intro record member
    change (Function.update world.party runner after record.runner).isOnline = true
    rcases eq_or_ne record.runner runner with own | foreign
    · rw [own, Function.update_self]
      rcases schedules.tasks record member with old | new
      · exact online (own ▸ scheduled.online record old)
      · exact new.2
    · rw [Function.update_of_ne foreign]
      rcases schedules.tasks record member with old | new
      · exact scheduled.online record old
      · exact absurd new.1 foreign

/-- A master starts the task that was chosen for it. -/
theorem started (scheduled : world.Scheduled) (id : TaskId Runner) (position : Nat)
    (running : world.ledger.isShutdown = false) (free : world.ledger.current = none)
    (active : after.activeTask = some id)
    (online : after.isOnline = (world.party runner).isOnline)
    (schedule : next.schedule =
      (world.ledger.isShutdown, some ⟨id, runner⟩, world.ledger.tasks.eraseIdx position)) :
    World.Scheduled ⟨Function.update world.party runner after, next⟩ := by
  obtain ⟨isShutdown, schedule⟩ := Prod.mk.inj schedule
  obtain ⟨current, tasks⟩ := Prod.mk.inj schedule
  have inactive (other : Runner) (otherId : TaskId Runner) :
      (world.party other).activeTask ≠ some otherId := by
    rw [Ne, ← scheduled.current running, free]
    exact nofun
  have activeTask (other : Runner) (otherId : TaskId Runner) :
      (Function.update world.party runner after other).activeTask = some otherId ↔
        (⟨id, runner⟩ : Record Runner) = ⟨otherId, other⟩ := by
    rcases eq_or_ne other runner with rfl | foreign
    · rw [Function.update_self, active, Option.some.injEq, Record.mk.injEq]
      exact ⟨fun same => ⟨same, rfl⟩, And.left⟩
    · rw [Function.update_of_ne foreign, Record.mk.injEq]
      exact ⟨fun busy => absurd busy (inactive other otherId),
        fun same => absurd same.2.symm foreign⟩
  refine ⟨?_, ?_, ?_, ?_⟩
  · intro stopped
    rw [isShutdown, running] at stopped
    cases stopped
  · intro _ otherId other
    rw [activeTask, current, Option.some.injEq]
  · intro one other oneId otherId first second
    have first := (activeTask one oneId).mp first
    have second := (activeTask other otherId).mp second
    exact (congrArg Record.runner first).symm.trans (congrArg Record.runner second)
  · intro record member
    have online' := scheduled.online record (List.mem_of_mem_eraseIdx (tasks ▸ member))
    change (Function.update world.party runner after record.runner).isOnline = true
    rcases eq_or_ne record.runner runner with own | foreign
    · rw [own, Function.update_self, online, ← own]
      exact online'
    · rwa [Function.update_of_ne foreign]

/-- A master is not busy any more, and the scheduler knows. -/
theorem freed (scheduled : world.Scheduled) (inactive : after.activeTask = none)
    (isShutdown : next.isShutdown = world.ledger.isShutdown)
    (current : world.ledger.isShutdown = false → ∀ record,
      next.current = some record ↔
        world.ledger.current = some record ∧ record.runner ≠ runner)
    (stopped : world.ledger.isShutdown = true → next.current = none ∧ next.tasks = [])
    (online : ∀ record ∈ next.tasks,
      (Function.update world.party runner after record.runner).isOnline = true) :
    World.Scheduled ⟨Function.update world.party runner after, next⟩ := by
  have activeTask (other : Runner) (id : TaskId Runner) :
      (Function.update world.party runner after other).activeTask = some id ↔
        (world.party other).activeTask = some id ∧ other ≠ runner := by
    rcases eq_or_ne other runner with rfl | foreign
    · rw [Function.update_self, inactive]
      exact ⟨nofun, fun busy => absurd rfl busy.2⟩
    · rw [Function.update_of_ne foreign]
      exact ⟨fun busy => ⟨busy, foreign⟩, And.left⟩
  refine ⟨fun now => stopped (isShutdown.symm.trans now), ?_, ?_, online⟩
  · intro running id other
    have running := isShutdown.symm.trans running
    rw [activeTask, current running, scheduled.current running]
  · intro one other id otherId first second
    exact scheduled.single ((activeTask one id).mp first).1 ((activeTask other otherId).mp second).1

/-- The active task of a master is done. -/
theorem released (scheduled : world.Scheduled) {id : TaskId Runner}
    (active : (world.party runner).activeTask = some id) (inactive : after.activeTask = none)
    (isOnline : after.isOnline = true) (schedule : next.schedule = world.ledger.schedule) :
    World.Scheduled ⟨Function.update world.party runner after, next.release runner⟩ := by
  obtain ⟨isShutdown, same⟩ := Prod.mk.inj schedule
  obtain ⟨current, tasks⟩ := Prod.mk.inj same
  have known (record : Record Runner) (known : record ∈ world.ledger.tasks) :
      (Function.update world.party runner after record.runner).isOnline = true := by
    rcases eq_or_ne record.runner runner with own | foreign
    · rwa [own, Function.update_self]
    · rw [Function.update_of_ne foreign]
      exact scheduled.online record known
  cases stopped : world.ledger.isShutdown with
  | true =>
      obtain ⟨free, empty⟩ := scheduled.stopped stopped
      rw [Ledger.release_of_none (current.trans free)]
      refine scheduled.freed inactive isShutdown (fun running => ?_)
        (fun _ => ⟨current.trans free, tasks.trans empty⟩) fun record member =>
          known record (tasks ▸ member)
      rw [stopped] at running
      cases running
  | false =>
      have running := (scheduled.current stopped id runner).mpr active
      obtain ⟨after, schedules, released⟩ := Ledger.release_of_current (current.trans running)
      rw [released]
      refine scheduled.freed inactive (schedules.isShutdown.trans isShutdown) (fun _ record => ?_)
        (fun now => ?_) fun record member => ?_
      · rw [running, Option.some.injEq]
        exact ⟨nofun, fun other => absurd (congrArg Record.runner other.1).symm other.2⟩
      · rw [stopped] at now
        cases now
      · rcases schedules.tasks record member with old | own
        · exact known record (tasks ▸ old)
        · rwa [own.1, Function.update_self]

theorem closed (scheduled : world.Scheduled) (runner : Runner) :
    World.Scheduled ⟨Function.update world.party runner (world.party runner).closed,
      world.ledger.close runner⟩ := by
  rw [Ledger.close]
  split
  · next stopped =>
    obtain ⟨free, empty⟩ := scheduled.stopped stopped
    refine scheduled.freed rfl rfl (fun running => ?_) (fun _ => ⟨free, empty⟩)
      fun record member => ?_
    · rw [stopped] at running
      cases running
    · rw [show (world.ledger.log (.onClose runner)).tasks = [] from empty] at member
      cases member
  · next running =>
    refine scheduled.freed rfl world.ledger.abandon_isShutdown (fun _ record => ?_)
      (fun stopped => absurd stopped running) fun record member => ?_
    · exact Ledger.abandon_current
    · have member : record ∈ (world.ledger.abandon runner).tasks.filter
          fun record => !decide (record.runner = runner) := member
      rw [Ledger.abandon_tasks, List.mem_filter] at member
      have foreign : record.runner ≠ runner := by simpa using member.2
      rw [Function.update_of_ne foreign]
      exact scheduled.online record member.1

omit [DecidableEq Runner] in
theorem erased (scheduled : world.Scheduled) (result : TaskCompletion)
    (selects : Record Runner → Bool) (running : world.ledger.isShutdown = false) :
    World.Scheduled ⟨world.party, world.ledger.erase result selects⟩ := by
  refine ⟨fun stopped => ?_, scheduled.current, scheduled.single, fun record member => ?_⟩
  · rw [show world.ledger.isShutdown = true from stopped] at running
    cases running
  · exact scheduled.online record (List.mem_of_mem_filter member)

omit [DecidableEq Runner] in
theorem shutdown (scheduled : world.Scheduled) :
    World.Scheduled ⟨world.party,
      { world.ledger with isShutdown := true, current := none, tasks := [] }⟩ :=
  ⟨fun _ => ⟨rfl, rfl⟩, nofun, scheduled.single, nofun⟩

end World.Scheduled

omit [DecidableEq Runner] [FloatOps] in
/-- What the scheduler chooses is accepted. -/
theorem World.Scheduled.accepts {world : World Runner} (scheduled : world.Scheduled)
    (sound : (world.party runner).Sound) (running : world.ledger.isShutdown = false)
    (free : world.ledger.current = none) :
    (world.party runner).activeTask = none ∧ (world.party runner).tstate = .idle := by
  have inactive : (world.party runner).activeTask = none := by
    rw [Option.eq_none_iff_forall_ne_some]
    intro id busy
    rw [← scheduled.current running, free] at busy
    cases busy
  exact ⟨inactive, sound.idle.mpr inactive⟩

theorem World.Scheduled.act {world : World Runner} (scheduled : world.Scheduled)
    (sound : (world.party runner).Sound)
    (move : Move permits runner (world.party runner) world.ledger after next) :
    World.Scheduled ⟨Function.update world.party runner after, next⟩ := by
  cases move with
  | note | declined | bound | ignored | reported | unsolicited | expired =>
      exact scheduled.kept rfl id (.of_schedule rfl)
  | opened => exact scheduled.kept rfl (fun _ => rfl) (.of_schedule rfl)
  | confirmed | ready => exact scheduled.kept rfl id (.of_schedule rfl)
  | added id online => exact scheduled.kept rfl (fun _ => online) (.add rfl id online)
  | scheduled params request online =>
      exact scheduled.kept rfl (fun _ => online) (.add (Ledger.schedule_create _ _ _) _ online)
  | started id position running free =>
      exact scheduled.started id position running free rfl rfl rfl
  | refused id position running free chosen busy =>
      obtain ⟨inactive, idle⟩ := scheduled.accepts sound running free
      exact absurd idle (busy inactive)
  | requested => exact scheduled.kept rfl id (.of_schedule rfl)
  | unformatted id application buffer apdu body tstate active =>
      exact scheduled.released active rfl (sound.online active) rfl
  | timedOut id online tstate active => exact scheduled.released active rfl online rfl
  | continued answers =>
      rw [Party.confirming_eq]
      exact scheduled.kept rfl (fun online => online) (.of_schedule (by simp))
  | repeated answers =>
      rw [Party.confirming_eq]
      exact scheduled.kept rfl (fun online => online) (.of_schedule (by simp))
  | finished completion answers =>
      rw [Party.confirming_eq]
      exact scheduled.released answers.activeTask rfl answers.isOnline (by simp)

/-! ## Transmissions -/

/-- Whether a transmission of a master is outstanding after an event. -/
def Event.outstanding (runner : Runner) (before : Bool) : Event Runner → Bool
  | .beginTransmit other _ _ => if other = runner then true else before
  | .txReady other | .onOpen other | .onClose other => if other = runner then false else before
  | _ => before

/-- Whether a transmission of a master is outstanding. -/
def outstanding (runner : Runner) (history : List (Event Runner)) : Bool :=
  history.foldl (Event.outstanding runner) false

/-- Nothing is transmitted while a transmission is outstanding, and what is to run is accepted. -/
def InTurn (before : List (Event Runner)) : Event Runner → Prop
  | .beginTransmit runner _ _ => outstanding runner before = false
  | .run _ _ accepted => accepted = true
  | _ => True

/-- Events that have to do with neither transmissions nor runs. -/
def Event.Unrelated : Event Runner → Prop
  | .beginTransmit .. | .txReady _ | .onOpen _ | .onClose _ | .run .. => False
  | _ => True

/-- What happened is in turn, and the masters know what is outstanding. -/
structure Orderly (isSending : Runner → Bool) (history : List (Event Runner)) : Prop where
  lawful : Lawful InTurn history
  outstanding : ∀ runner, outstanding runner history = isSending runner

omit [FloatOps] in
theorem outstanding_concat (runner : Runner) (history : List (Event Runner))
    (event : Event Runner) :
    outstanding runner (history ++ [event]) =
      event.outstanding runner (outstanding runner history) := by
  rw [outstanding, List.foldl_append]
  rfl

namespace Orderly

variable {isSending : Runner → Bool} {history : List (Event Runner)}

omit [FloatOps]

theorem unrelated (orderly : Orderly isSending history) {event : Event Runner}
    (unrelated : event.Unrelated) : Orderly isSending (history ++ [event]) := by
  refine ⟨orderly.lawful.concat ?_, fun runner => ?_⟩
  · cases event with
    | beginTransmit | run => cases unrelated
    | _ => trivial
  · rw [outstanding_concat, ← orderly.outstanding]
    cases event with
    | beginTransmit | txReady | onOpen | onClose => cases unrelated
    | _ => rfl

theorem append (orderly : Orderly isSending history) {events : List (Event Runner)}
    (unrelated : ∀ event ∈ events, event.Unrelated) : Orderly isSending (history ++ events) := by
  induction events generalizing history with
  | nil => rwa [List.append_nil]
  | cons event events ih =>
      obtain ⟨first, others⟩ := List.forall_mem_cons.mp unrelated
      rw [← List.singleton_append, ← List.append_assoc]
      exact ih (orderly.unrelated first) others

theorem accepted (orderly : Orderly isSending history) (runner : Runner) (id : TaskId Runner) :
    Orderly isSending (history ++ [.run runner id true]) := by
  refine ⟨orderly.lawful.concat rfl, fun other => ?_⟩
  rw [outstanding_concat, ← orderly.outstanding]
  rfl

theorem transmits (orderly : Orderly isSending history) {runner : Runner}
    (quiet : isSending runner = false) (task : Option (TaskId Runner)) (apdu : List UInt8) :
    Orderly (Function.update isSending runner true)
      (history ++ [.beginTransmit runner task apdu]) := by
  refine ⟨orderly.lawful.concat ((orderly.outstanding runner).trans quiet), fun other => ?_⟩
  rw [outstanding_concat, orderly.outstanding, Function.update_apply, Event.outstanding]
  exact if_congr eq_comm rfl rfl

/-- A transmission is over, one way or another. -/
theorem rests (orderly : Orderly isSending history) {runner : Runner} {event : Event Runner}
    (rests : event = .txReady runner ∨ event = .onOpen runner ∨ event = .onClose runner) :
    Orderly (Function.update isSending runner false) (history ++ [event]) := by
  refine ⟨orderly.lawful.concat ?_, fun other => ?_⟩
  · rcases rests with rfl | rfl | rfl <;> trivial
  · rw [outstanding_concat, orderly.outstanding, Function.update_apply]
    rcases rests with rfl | rfl | rfl <;> exact if_congr eq_comm rfl rfl

end Orderly

namespace Ledger

omit [FloatOps] in
theorem orderly_abandon {isSending : Runner → Bool} (orderly : Orderly isSending ledger.history)
    (runner : Runner) : Orderly isSending (ledger.abandon runner).history := by
  rw [abandon]
  split
  · exact orderly
  · split
    · exact orderly.append fun event member => by
        obtain ⟨record, _, rfl⟩ := List.mem_map.mp member
        trivial
    · exact orderly

omit [FloatOps] in
theorem orderly_erase {isSending : Runner → Bool} (orderly : Orderly isSending ledger.history)
    (result : TaskCompletion) (selects : Record Runner → Bool) :
    Orderly isSending (ledger.erase result selects).history :=
  orderly.append fun event member => by
    obtain ⟨record, _, rfl⟩ := List.mem_map.mp member
    trivial

omit [FloatOps] in
theorem orderly_complete {isSending : Runner → Bool}
    (orderly : Orderly isSending ledger.history) (id : TaskId Runner) (result : TaskCompletion) :
    Orderly isSending (ledger.complete id result).history :=
  orderly.unrelated trivial

omit [FloatOps] in
theorem orderly_answered {isSending : Runner → Bool} (orderly : Orderly isSending ledger.history)
    (runner : Runner) (id : TaskId Runner) (body : MasterTask) (header : APDUResponseHeader)
    (objects : List UInt8) (calls : List SOECall) :
    Orderly isSending (ledger.answered runner id body header objects calls).history := by
  have received : Orderly isSending (ledger.history ++ [.received runner header objects]) :=
    orderly.unrelated trivial
  exact received.unrelated trivial

omit [FloatOps] in
theorem orderly_confirming {isSending : Runner → Bool}
    (orderly : Orderly isSending ledger.history) (runner : Runner) (header : APDUResponseHeader) :
    Orderly isSending (ledger.confirming runner header).history := by
  rw [confirming]
  split
  · exact orderly.unrelated trivial
  · exact orderly

end Ledger

/-- All transmissions so far were in turn. -/
def World.Orderly (world : World Runner) : Prop :=
  Master.Orderly (fun runner => (world.party runner).isSending) world.ledger.history

namespace World.Orderly

variable {world : World Runner}

omit [FloatOps] in
/-- What a master is sending is known of the others too. -/
theorem of_update
    (orderly : Master.Orderly
      (Function.update (fun runner => (world.party runner).isSending) runner after.isSending)
      next.history) :
    World.Orderly ⟨Function.update world.party runner after, next⟩ := by
  have isSending : (fun other => (Function.update world.party runner after other).isSending) =
      Function.update (fun other => (world.party other).isSending) runner after.isSending :=
    Function.comp_update Party.isSending world.party runner after
  rw [World.Orderly]
  exact isSending.symm ▸ orderly

omit [FloatOps] in
theorem of_same (isSending : after.isSending = (world.party runner).isSending)
    (orderly : Master.Orderly (fun runner => (world.party runner).isSending) next.history) :
    World.Orderly ⟨Function.update world.party runner after, next⟩ := by
  refine of_update ?_
  rw [isSending, Function.update_eq_self]
  exact orderly

theorem act (orderly : world.Orderly) (scheduled : world.Scheduled)
    (sound : (world.party runner).Sound)
    (move : Move permits runner (world.party runner) world.ledger after next) :
    World.Orderly ⟨Function.update world.party runner after, next⟩ := by
  have known : Master.Orderly (fun runner => (world.party runner).isSending)
    world.ledger.history := orderly
  cases move with
  | note event silent =>
      refine of_same rfl (known.unrelated ?_)
      cases event with
      | beginTransmit | txReady | onOpen | onClose | run => cases silent
      | _ => trivial
  | opened offline =>
      refine of_update ?_
      rw [show Party.isSending _ = false from (sound.offline offline).2]
      exact known.rests (.inr (.inl rfl))
  | added => exact of_same rfl ((Ledger.history_add _ _ _).symm ▸ known)
  | scheduled => exact of_same rfl ((Ledger.history_add _ _ _).symm ▸ known)
  | declined | ignored => exact of_same rfl (known.unrelated trivial)
  | reported header objects calls =>
      have received : Master.Orderly _ (world.ledger.history ++ [.received runner header objects]) :=
        known.unrelated trivial
      have measured : Master.Orderly _ (_ ++ [.measurements runner calls]) :=
        received.unrelated trivial
      exact of_same rfl measured
  | bound | expired => exact of_same rfl known
  | started id => exact of_same rfl ((known.accepted runner id).unrelated trivial)
  | refused id position running free chosen busy =>
      obtain ⟨inactive, idle⟩ := scheduled.accepts sound running free
      exact absurd idle (busy inactive)
  | requested id application buffer apdu body tstate active quiet =>
      exact of_update (known.transmits quiet _ _)
  | confirmed confirm confirmQueue online quiet => exact of_update (known.transmits quiet _ _)
  | ready => exact of_update (known.rests (.inl rfl))
  | unformatted id application buffer apdu body =>
      refine of_same rfl ?_
      rw [Ledger.history_release]
      have known : Master.Orderly _ (world.ledger.setBody id body).history := known
      exact Ledger.orderly_complete known _ _
  | timedOut =>
      refine of_same rfl ?_
      rw [Ledger.history_release]
      exact Ledger.orderly_complete known _ _
  | unsolicited header objects calls =>
      have received : Master.Orderly _ (world.ledger.history ++ [.received runner header objects]) :=
        known.unrelated trivial
      have measured : Master.Orderly _ (_ ++ [.measurements runner calls]) :=
        received.unrelated trivial
      exact of_same rfl (measured.unrelated trivial)
  | continued | repeated =>
      rw [Party.confirming_eq]
      exact of_same rfl (Ledger.orderly_confirming (Ledger.orderly_answered known _ _ _ _ _ _) _ _)
  | finished =>
      rw [Party.confirming_eq]
      refine of_same rfl ?_
      rw [Ledger.history_release]
      exact Ledger.orderly_confirming
        (Ledger.orderly_complete (Ledger.orderly_answered known _ _ _ _ _ _) _ _) _ _

omit [FloatOps] in
theorem closed (orderly : world.Orderly) (runner : Runner) :
    World.Orderly ⟨Function.update world.party runner (world.party runner).closed,
      world.ledger.close runner⟩ := by
  refine of_update (Orderly.rests ?_ (.inr (.inr rfl)))
  split
  · exact orderly
  · exact Ledger.orderly_erase (Ledger.orderly_abandon orderly runner) _ _

end World.Orderly

/-! ## Channels -/

/-- What holds of masters that share a scheduler. -/
structure World.Exclusive (world : World Runner) : Prop where
  sound : ∀ runner, (world.party runner).Sound
  scheduled : world.Scheduled
  orderly : world.Orderly

theorem World.Exclusive.step {world next : World Runner} (exclusive : world.Exclusive)
    (step : World.Step permits world next) : next.Exclusive := by
  obtain ⟨sound, scheduled, orderly⟩ := exclusive
  cases step with
  | @act runner after ledger move =>
      have own := move.sound (sound runner) fun record member own =>
        own ▸ scheduled.online record member
      exact ⟨(Function.forall_update_iff world.party fun _ => Party.Sound).mpr
          ⟨own, fun other _ => sound other⟩,
        scheduled.act (sound runner) move, orderly.act scheduled (sound runner) move⟩
  | closed runner online =>
      have own : (world.party runner).closed.Sound :=
        ⟨⟨fun _ => rfl, fun _ => rfl⟩, nofun, fun _ => ⟨rfl, rfl⟩⟩
      exact ⟨(Function.forall_update_iff world.party fun _ => Party.Sound).mpr
          ⟨own, fun other _ => sound other⟩,
        scheduled.closed runner, orderly.closed runner⟩
  | erased result selects running =>
      exact ⟨sound, scheduled.erased result selects running,
        Ledger.orderly_erase orderly result selects⟩
  | shutdown => exact ⟨sound, scheduled.shutdown, orderly⟩

/-- The masters of a channel exclude each other. -/
structure Channel.Exclusive (channel : Channel Runner) : Prop where
  /-- One master at most has an active task. -/
  single : ∀ one other, (channel.master one).activeTask.isSome = true →
    (channel.master other).activeTask.isSome = true → one = other
  /-- The current record names a master exactly when its task is the active one of that master. -/
  current : ∀ runner,
    (∃ record, channel.common.scheduler.current = some record ∧ record.runner = runner) ↔
      ∃ record, channel.common.scheduler.current = some record ∧
        (channel.master runner).activeTask = some record.task
  /-- Until a shutdown, what is active is current. -/
  active : channel.common.scheduler.isShutdown = false → ∀ id runner,
    channel.common.scheduler.current = some ⟨id, runner⟩ ↔
      (channel.master runner).activeTask = some id
  idle : ∀ runner,
    (channel.master runner).tstate = .idle ↔ (channel.master runner).activeTask = none
  timer : ∀ runner, (channel.master runner).tstate = .waitForResponse →
    (channel.master runner).responseTimer = true
  /-- Nothing is transmitted while a transmission is outstanding, and what is to run is accepted. -/
  inTurn : Lawful InTurn channel.common.history

omit [FloatOps] in
theorem World.Exclusive.channel {channel : Channel Runner} (exclusive : channel.world.Exclusive) :
    channel.Exclusive where
  single one other first second := by
    obtain ⟨id, first⟩ := Option.isSome_iff_exists.mp first
    obtain ⟨otherId, second⟩ := Option.isSome_iff_exists.mp second
    exact exclusive.scheduled.single first second
  active := exclusive.scheduled.current
  current runner := by
    cases stopped : channel.common.scheduler.isShutdown with
    | true =>
        have free : channel.common.scheduler.current = none :=
          (exclusive.scheduled.stopped stopped).1
        rw [free]
        exact ⟨nofun, nofun⟩
    | false =>
        have agree := exclusive.scheduled.current stopped
        constructor
        · rintro ⟨⟨id, other⟩, current, rfl⟩
          exact ⟨_, current, (agree id other).mp current⟩
        · rintro ⟨⟨id, other⟩, current, active⟩
          have own : (channel.master other).activeTask = some id := (agree id other).mp current
          exact ⟨_, current, exclusive.scheduled.single own active⟩
  idle runner := (exclusive.sound runner).idle
  timer runner := (exclusive.sound runner).timer
  inTurn := exclusive.orderly.lawful

omit [FloatOps] in
theorem World.exclusive_initial (addresses : Runner → Addresses) (params : Runner → MasterParams) :
    (Channel.initial addresses params).world.Exclusive where
  sound _ := ⟨⟨fun _ => rfl, fun _ => rfl⟩, nofun, fun _ => ⟨rfl, rfl⟩⟩
  scheduled := ⟨nofun, fun _ _ _ => ⟨nofun, nofun⟩, nofun, nofun⟩
  orderly := ⟨.nil, fun _ => rfl⟩

/-- Whatever happens, the masters that share a scheduler exclude each other. -/
theorem Channel.exclusive_of_reaches {addresses : Runner → Addresses}
    {params : Runner → MasterParams} {channel : Channel Runner}
    (reached : machine.Reaches (initial addresses params) channel) : channel.Exclusive :=
  World.Exclusive.channel (world_invariant reached (fun _ => permitted_all _ _)
    (World.exclusive_initial addresses params) fun step exclusive => exclusive.step step)

omit [FloatOps] in
/-- Two masters come online, and one of them starts its first task. -/
theorem Channel.exclusive_of_reaches_two_masters :
    ∃ channel : Channel Bool,
      (@machine Bool _ .atZero).Reaches (initial (fun _ => ⟨1, 10⟩) fun _ => {}) channel ∧
        (channel.master true).activeTask = some (.own true .disableUnsol) ∧
        channel.Exclusive := by
  have reached := @reaches_after Bool _ .atZero (initial (fun _ => ⟨1, 10⟩) fun _ => {})
    [(.atZero, .lowerLayerUp true), (.atZero, .lowerLayerUp false), (.atZero, .runPosted)]
  exact ⟨_, reached, by decide +kernel, @exclusive_of_reaches Bool _ .atZero _ _ _ reached⟩

end OpenDnp3.Master
