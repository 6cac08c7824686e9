import OpenDnp3.Outstation.Transmissions

/-!
# Waits for confirms

The outstation waits for a confirm exactly while its timer runs.
-/

set_option autoImplicit false

namespace OpenDnp3.Outstation

open OpenDnp3.App OpenDnp3.Library

namespace OContext

/-- The timer runs while the outstation waits for a confirm. -/
def Timed (context : OContext) : Prop := context.confirmTimer = true ↔ context.state ≠ .idle

variable {config : EventBufferConfig} {environment : Environment} {request : ParsedRequest}
  {context after : OContext}

theorem Timed.running (timed : context.Timed) (waits : context.state ≠ .idle) :
    context.confirmTimer = true :=
  timed.mpr waits

theorem Timed.stopped (timed : context.Timed) (idle : context.state = .idle) :
    context.confirmTimer = false := by
  cases active : context.confirmTimer with
  | false => rfl
  | true => exact absurd idle (timed.mp active)

theorem timed_of_running (running : context.confirmTimer = true) (waits : context.state ≠ .idle) :
    context.Timed :=
  ⟨fun _ => waits, fun _ => running⟩

theorem timed_of_stopped (stopped : context.confirmTimer = false) (idle : context.state = .idle) :
    context.Timed :=
  ⟨fun running => absurd (stopped.symm.trans running) Bool.false_ne_true,
    fun waits => absurd idle waits⟩

theorem RespondsWithData.timed {destination : UInt16} {seq : AppSeqNum}
    (responds : RespondsWithData config destination seq context after)
    (stopped : context.confirmTimer = false) : after.Timed := by
  rcases responds.waits with ⟨waits, _, running⟩ | ⟨idle, _, _, same⟩
  · exact timed_of_running running (by simp [waits])
  · exact timed_of_stopped (same.trans stopped) idle

theorem RespondsToNonRead.timed (responds : RespondsToNonRead request context after)
    (timed : context.Timed) : after.Timed := by
  rw [Timed, responds.confirmTimer, responds.state]
  exact timed

variable [FloatOps]

/-- A request starts and stops the timer with the wait. A non-READ that is repeated while a READ
waits for a confirm would stop the timer only, but what is repeated then is a READ. -/
theorem Timed.handles (timed : context.Timed) (regular : context.Regular config)
    (handles : Handles environment request context after) : after.Timed := by
  obtain ⟨serials, marks⟩ := regular.marks
  cases handles with
  | ignored _ => exact timed
  | confirmedLast _ _ | confirmedEvents _ _ | confirmedNull _ _ => exact timed_of_stopped rfl rfl
  | confirmedMore _ _ continued =>
      exact (continueMultiFragResponse_responds marks.clearWritten continued).timed rfl
  | readIdle requests responded =>
      have same : (context.numbered request).eventBuffer.Marks config serials := marks
      exact (respondToReadRequest_responds same responded).timed (timed.stopped requests.state)
  | readWaiting _ responded =>
      have same : (context.numbered request).cancelConfirmTimer.eventBuffer.Marks config serials :=
        marks
      exact (respondToReadRequest_responds same responded).timed rfl
  | readHeld _ | repeatReadHeld _ => exact timed
  | nonReadIdle _ =>
      exact (respondToNonReadRequest_responds environment (context.numbered request) request).timed
        timed
  | nonReadWaiting _ =>
      have responds := respondToNonReadRequest_responds environment
        (context.numbered request).cancelConfirmTimer request
      exact timed_of_stopped responds.confirmTimer rfl
  | nonReadUnsolicited _ =>
      exact (respondToNonReadRequest_responds environment
        { context.numbered request with deferred := none } request).timed timed
  | repeatReadIdle _ | repeatNonReadIdle _ | repeatNonReadUnsolicited _ => exact timed
  | repeatReadWaiting requests =>
      exact timed_of_running rfl (ne_of_eq_of_ne requests.state nofun)
  | repeatNonReadWaiting requests =>
      have repeats := requests.isRepeat.symm
      have isRead := regular.awaitsRead requests.state (isRepeat_hasLast repeats)
      rw [isRepeat_function repeats] at isRead
      exact absurd isRead (of_decide_eq_false requests.isRead.symm)

theorem Timed.resumes (timed : context.Timed) (regular : context.Regular config)
    (resumes : Resumes environment context after) : after.Timed := by
  cases resumes with
  | blocked _ | none _ | kept _ _ _ => exact timed
  | handled _ _ _ handles =>
      have kept := timed.handles regular handles
      exact kept

theorem Timed.reports (timed : context.Timed) (reports : Reports environment context after) :
    after.Timed := by
  cases reports with
  | nothing => exact timed
  | null _ _ _ | events _ _ _ _ => exact timed_of_running rfl nofun

theorem Timed.starts (timed : context.Timed) (regular : context.Regular config)
    (starts : Starts environment context after) : after.Timed := by
  obtain ⟨resumed, resumes, reports⟩ := starts
  exact (timed.resumes regular resumes).reports reports

theorem Timed.reacts {input : Input} (timed : context.Timed) (regular : context.Regular config)
    (reacts : Reacts environment context input after) : after.Timed := by
  cases reacts with
  | up _ | ignored _ _ | deferred _ _ _ _ | txReady _ _ => exact timed
  | @noAck message request _ _ _ =>
      have kept : Undisturbed context (context.processRequestNoAck environment request) :=
        processRequestNoAck_undisturbed request
      rw [Timed, kept.confirmTimer, kept.state]
      exact timed
  | handled _ _ _ _ handles => exact timed.handles regular handles
  | timeout _ =>
      rw [onConfirmTimeout]
      split
      · next idle => exact timed_of_stopped rfl idle
      · exact timed_of_stopped rfl rfl
      · split <;> exact timed_of_stopped rfl rfl
  | apply _ changed =>
      rw [session_changeAll changed]
      exact timed

theorem Timed.steps {input : Input} (timed : context.Timed) (regular : context.Regular config)
    (steps : Steps environment context input after) : after.Timed := by
  cases steps with
  | nothing _ | setRestartIIN => exact timed
  | down online =>
      rw [onLowerLayerDown, if_neg (by simp [online])]
      exact timed_of_stopped rfl rfl
  | starts reacts starts =>
      exact (timed.reacts regular reacts).starts (regular.reacts reacts) starts

/-- What holds between events, with whether a transmission is outstanding. -/
theorem timed_of_run {last : OContext} {inputs : List (Environment × Input)}
    {outputs : List (List Activity)} (timed : context.Timed) (regular : context.Regular config)
    (ran : machine.run context inputs = some (last, outputs)) :
    last.Timed ∧
      followRun context.isTransmitting (inputs.zip outputs) = some last.isTransmitting := by
  induction inputs generalizing context outputs with
  | nil =>
      cases ran
      exact ⟨timed, rfl⟩
  | cons input inputs ih =>
      obtain ⟨⟨next, output⟩, success, more⟩ := Option.bind_eq_some_iff.mp ran
      obtain ⟨⟨_, others⟩, rest, same⟩ := Option.map_eq_some_iff.mp more
      obtain ⟨rfl, rfl⟩ := Prod.mk.inj same
      obtain ⟨final, stepped, out⟩ := Option.map_eq_some_iff.mp success
      obtain ⟨rfl, rfl⟩ := Prod.mk.inj out
      have steps := steps_of_step stepped
      obtain ⟨behind, followed⟩ := ih (timed.steps regular steps) (regular.steps steps) rest
      refine ⟨behind, ?_⟩
      have one : follow (released context.isTransmitting input.2) _ =
          some final.isTransmitting :=
        (Transmits.steps regular steps).follow
      rw [List.zip_cons_cons, followRun]
      exact (congrArg (Option.bind · _) one).trans followed

/-- The timer runs exactly while the outstation waits for a confirm, and no transmission is begun
while another one is outstanding. -/
theorem confirmTimer_of_run {addresses : Addresses} {params : OutstationParams}
    {database : DatabaseBuffers} {last : OContext} {inputs : List (Environment × Input)}
    {outputs : List (List Activity)}
    (ran : machine.run (initial addresses params config database) inputs = some (last, outputs)) :
    (last.confirmTimer = true ↔
      last.state = .solicitedConfirmWait ∨ last.state = .unsolicitedConfirmWait) ∧
      followRun false (inputs.zip outputs) = some last.isTransmitting := by
  have initially : (initial addresses params config database).Timed := timed_of_stopped rfl rfl
  obtain ⟨timed, followed⟩ :=
    timed_of_run initially (regular_initial addresses params config database) ran
  refine ⟨timed.trans ?_, followed⟩
  cases last.state <;> simp

omit [FloatOps] in
/-- The first unsolicited response is confirmed. -/
theorem confirmTimer_of_run_confirm :
    ∃ last outputs, (@machine .atZero).run (.onePoint { allowUnsolicited := true })
        (List.map (Environment.atZero, ·)
          [.lowerLayerUp, .txReady, .fragment [0xD0, 0]]) = some (last, outputs) ∧
      (last.confirmTimer = true ↔
        last.state = .solicitedConfirmWait ∨ last.state = .unsolicitedConfirmWait) := by
  have ran : (@machine .atZero).run (.onePoint { allowUnsolicited := true })
      (List.map (Environment.atZero, ·) [.lowerLayerUp, .txReady, .fragment [0xD0, 0]]) =
    some (_, _) := rfl
  exact ⟨_, _, ran, (@confirmTimer_of_run _ .atZero _ _ _ _ _ _ ran).1⟩

end OContext

end OpenDnp3.Outstation
