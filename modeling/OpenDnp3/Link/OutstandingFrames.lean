import OpenDnp3.Link.LinkSteps

/-!
# Outstanding frames

The two stations share one transmitter. Of each at most one frame is in flight
or pending, and the state of each tells whether there is one.
-/

set_option autoImplicit false

namespace OpenDnp3.Link

open OpenDnp3.Library OpenDnp3.Transport
open OpenDnp3.Master (MonotonicTimestamp TimeDuration)

/-- The function of the frame that a state waits for to be transmitted. -/
def PriState.transmits : PriState → Option LinkFunction
  | .sendUnconfirmedTransmitWait => some .priUnconfirmedUserData
  | .linkResetTransmitWait => some .priResetLinkStates
  | .confUserDataTransmitWait => some .priConfirmedUserData
  | .requestLinkStatusTransmitWait => some .priRequestLinkStatus
  | .idle | .resetLinkWait | .confDataWait | .requestLinkStatusWait => none

def PriState.awaitsResponse : PriState → Bool
  | .resetLinkWait | .confDataWait | .requestLinkStatusWait => true
  | _ => false

/-- Whether a state has a message to go on with. -/
def PriState.holdsSegments : PriState → Bool
  | .idle | .requestLinkStatusTransmitWait | .requestLinkStatusWait => false
  | _ => true

def SecState.transmits : SecState → Bool
  | .transmitWaitReset | .transmitWaitNotReset => true
  | .notReset | .reset => false

/-! ## Transmitter -/

/-- What the transmitter has to do for the two stations. -/
inductive Slots : LinkTransmitMode → List LinkFrame → Option LinkFrame → Option LinkFrame →
    Option LinkFrame → Option LinkFrame → Prop
  | free : Slots .idle [] none none none none
  | primary (frame : LinkFrame) (other : Option LinkFrame) :
      Slots .primary [frame] none other (some frame) other
  | secondary (frame : LinkFrame) (other : Option LinkFrame) :
      Slots .secondary [frame] other none other (some frame)

namespace Slots

variable {mode : LinkTransmitMode} {inFlight : List LinkFrame}
  {pendingPri pendingSec pri sec : Option LinkFrame}

theorem queuePrimary_idle (slots : Slots .idle inFlight pendingPri pendingSec none sec)
    (frame : LinkFrame) :
    Slots .primary (inFlight ++ [frame]) pendingPri pendingSec (some frame) sec := by
  cases slots
  exact .primary frame none

theorem queuePrimary_busy (busy : mode ≠ .idle)
    (slots : Slots mode inFlight pendingPri pendingSec none sec) (frame : LinkFrame) :
    Slots mode inFlight (some frame) pendingSec (some frame) sec := by
  cases slots with
  | free => exact absurd rfl busy
  | secondary first _ => exact .secondary first (some frame)

theorem queueSecondary_idle (slots : Slots .idle inFlight pendingPri pendingSec pri none)
    (frame : LinkFrame) :
    Slots .secondary (inFlight ++ [frame]) pendingPri pendingSec pri (some frame) := by
  cases slots
  exact .secondary frame none

theorem queueSecondary_busy (busy : mode ≠ .idle)
    (slots : Slots mode inFlight pendingPri pendingSec pri none) (frame : LinkFrame) :
    Slots mode inFlight pendingPri (some frame) pri (some frame) := by
  cases slots with
  | free => exact absurd rfl busy
  | primary first _ => exact .primary first (some frame)

/-- What is in flight and what is pending are the frames of the two stations. -/
theorem outstanding_perm (slots : Slots mode inFlight pendingPri pendingSec pri sec) :
    (inFlight ++ pendingPri.toList ++ pendingSec.toList).Perm (pri.toList ++ sec.toList) := by
  cases slots with
  | free => exact .refl []
  | primary frame => simp
  | secondary frame =>
      rw [Option.toList_none, List.append_nil]
      exact List.perm_append_comm

theorem done_primary (slots : Slots .primary inFlight pendingPri pendingSec pri sec) :
    inFlight.tail = [] ∧ pendingPri = none ∧ pendingSec = sec ∧ pri.isSome = true := by
  cases slots
  exact ⟨rfl, rfl, rfl, rfl⟩

theorem done_secondary (slots : Slots .secondary inFlight pendingPri pendingSec pri sec) :
    inFlight.tail = [] ∧ pendingPri = pri ∧ pendingSec = none ∧ sec.isSome = true := by
  cases slots
  exact ⟨rfl, rfl, rfl, rfl⟩

theorem pendingPri_none (slots : Slots mode inFlight pendingPri pendingSec none sec) :
    pendingPri = none := by
  cases slots <;> rfl

theorem inFlight_idle (slots : Slots .idle inFlight pendingPri pendingSec pri sec) :
    inFlight = [] := by
  cases slots
  rfl

end Slots

/-- The frames of the two stations that are outstanding. They are in the buffers. -/
structure Queue (priTxBuffer secTxBuffer pendingPriTx pendingSecTx : Option LinkFrame)
    (txMode : LinkTransmitMode) (log : List LinkActivity) (pri sec : Option LinkFrame) : Prop where
  slots : Slots txMode (log.foldl LinkActivity.inFlight []) pendingPriTx pendingSecTx pri sec
  priBuffer : ∀ frame, pri = some frame → priTxBuffer = some frame
  secBuffer : ∀ frame, sec = some frame → secTxBuffer = some frame
  primary : ∀ frame, pri = some frame → frame.header.func.isPrimary = true
  secondary : ∀ frame, sec = some frame → frame.header.func.isPrimary = false
  kept : .overwrite ∉ log
  started : .startRefused ∉ log

/-- An activity that is not about the transmitter. -/
def LinkActivity.elsewhere : LinkActivity → Bool
  | .beginTransmit _ | .txReady | .overwrite | .lowerLayerDown | .startRefused => false
  | _ => true

theorem LinkActivity.inFlight_of_elsewhere {activity : LinkActivity}
    (elsewhere : activity.elsewhere = true) (frames : List LinkFrame) :
    activity.inFlight frames = frames := by
  cases activity <;> first | rfl | cases elsewhere

theorem LinkActivity.foldl_inFlight (log : List LinkActivity) (activity : LinkActivity) :
    (log ++ [activity]).foldl LinkActivity.inFlight [] =
      activity.inFlight (log.foldl LinkActivity.inFlight []) := by
  rw [List.foldl_append, List.foldl_cons, List.foldl_nil]

namespace LinkContext

variable {context : LinkContext} {pri sec : Option LinkFrame} {frame : LinkFrame}

def Queues (context : LinkContext) (pri sec : Option LinkFrame) : Prop :=
  Queue context.priTxBuffer context.secTxBuffer context.pendingPriTx context.pendingSecTx
    context.txMode context.log pri sec

theorem Queues.record {activity : LinkActivity} (queues : context.Queues pri sec)
    (elsewhere : activity.elsewhere = true) : (context.record activity).Queues pri sec where
  slots := by
    rw [record_log, LinkActivity.foldl_inFlight, activity.inFlight_of_elsewhere elsewhere]
    exact queues.slots
  priBuffer := queues.priBuffer
  secBuffer := queues.secBuffer
  primary := queues.primary
  secondary := queues.secondary
  kept := by
    rw [record_log, List.mem_append, List.mem_singleton]
    rintro (before | rfl)
    · exact queues.kept before
    · cases elsewhere
  started := by
    rw [record_log, List.mem_append, List.mem_singleton]
    rintro (before | rfl)
    · exact queues.started before
    · cases elsewhere

/-- The outstanding frames of the primary station. -/
theorem Queues.filter_primary (queues : context.Queues pri sec) :
    (context.outstanding.filter (·.header.func.isPrimary)).Perm pri.toList := by
  refine (queues.slots.outstanding_perm.filter _).trans (.of_eq ?_)
  rw [List.filter_append, List.filter_eq_self.mpr, List.filter_eq_nil_iff.mpr, List.append_nil]
  · intro frame member
    simp [queues.secondary frame (Option.mem_toList.mp member)]
  · intro frame member
    exact queues.primary frame (Option.mem_toList.mp member)

theorem Queues.filter_secondary (queues : context.Queues pri sec) :
    (context.outstanding.filter (!·.header.func.isPrimary)).Perm sec.toList := by
  refine (queues.slots.outstanding_perm.filter _).trans (.of_eq ?_)
  rw [List.filter_append, List.filter_eq_nil_iff.mpr, List.filter_eq_self.mpr, List.nil_append]
  · intro frame member
    simp [queues.secondary frame (Option.mem_toList.mp member)]
  · intro frame member
    simp [queues.primary frame (Option.mem_toList.mp member)]

theorem Queues.writePrimary_eq (queues : context.Queues none sec) (frame : LinkFrame) :
    context.writePrimary frame = { context with priTxBuffer := some frame } := by
  rw [writePrimary, if_neg]
  rw [Bool.not_eq_true, List.any_eq_false]
  exact List.filter_eq_nil_iff.mp queues.filter_primary.eq_nil

theorem Queues.writeSecondary_eq (queues : context.Queues pri none) (frame : LinkFrame) :
    context.writeSecondary frame = { context with secTxBuffer := some frame } := by
  rw [writeSecondary, if_neg]
  rw [Bool.not_eq_true, List.any_eq_false]
  exact List.filter_eq_nil_iff.mp queues.filter_secondary.eq_nil

/-- A frame of the primary station is transmitted when none of it is outstanding. -/
theorem Queues.transmitPrimary (queues : context.Queues none sec)
    (primary : frame.header.func.isPrimary = true) :
    (context.transmitPrimary frame).Queues (some frame) sec := by
  rw [LinkContext.transmitPrimary, queues.writePrimary_eq, queueTransmit]
  have buffered : ∀ other, some frame = some other → some frame = some other := fun _ same => same
  have functions : ∀ other, some frame = some other → other.header.func.isPrimary = true := by
    rintro other ⟨⟩
    exact primary
  obtain ⟨slots, _, secBuffer, _, secondary, kept, started⟩ := queues
  split
  · rename_i idle
    replace idle : context.txMode = .idle := idle
    refine ⟨?_, buffered, secBuffer, functions, secondary, ?_, ?_⟩
    · rw [record_log, LinkActivity.foldl_inFlight]
      rw [idle] at slots
      exact slots.queuePrimary_idle frame
    · simpa using kept
    · simpa using started
  · rename_i busy
    exact ⟨slots.queuePrimary_busy busy frame, buffered, secBuffer, functions, secondary, kept,
      started⟩

theorem Queues.transmitSecondary (queues : context.Queues pri none)
    (secondary : frame.header.func.isPrimary = false) :
    (context.transmitSecondary frame).Queues pri (some frame) := by
  rw [LinkContext.transmitSecondary, queues.writeSecondary_eq, queueTransmit]
  have buffered : ∀ other, some frame = some other → some frame = some other := fun _ same => same
  have functions : ∀ other, some frame = some other → other.header.func.isPrimary = false := by
    rintro other ⟨⟩
    exact secondary
  obtain ⟨slots, priBuffer, _, primary, _, kept, started⟩ := queues
  split
  · rename_i idle
    replace idle : context.txMode = .idle := idle
    refine ⟨?_, priBuffer, buffered, primary, functions, ?_, ?_⟩
    · rw [record_log, LinkActivity.foldl_inFlight]
      rw [idle] at slots
      exact slots.queueSecondary_idle frame
    · simpa using kept
    · simpa using started
  · rename_i busy
    exact ⟨slots.queueSecondary_busy busy frame, priBuffer, buffered, primary, functions, kept,
      started⟩

/-- The transmitter goes on with what is pending, when that is the frame of one station. -/
theorem queues_tryPending (idle : context.txMode = .idle)
    (landed : context.log.foldl LinkActivity.inFlight [] = [])
    (one : context.pendingPriTx = none ∨ context.pendingSecTx = none)
    (priBuffer : ∀ frame, context.pendingPriTx = some frame → context.priTxBuffer = some frame)
    (secBuffer : ∀ frame, context.pendingSecTx = some frame → context.secTxBuffer = some frame)
    (primary : ∀ frame, context.pendingPriTx = some frame → frame.header.func.isPrimary = true)
    (secondary : ∀ frame, context.pendingSecTx = some frame →
      frame.header.func.isPrimary = false)
    (kept : .overwrite ∉ context.log) (started : .startRefused ∉ context.log) :
    context.tryPendingSecTx.tryPendingPriTx.Queues context.pendingPriTx
      context.pendingSecTx := by
  cases other : context.pendingSecTx with
  | some frame =>
      have held : context.pendingPriTx = none := one.resolve_right (by simp [other])
      rw [held] at priBuffer primary ⊢
      rw [other] at secBuffer secondary
      have same : context.tryPendingSecTx.tryPendingPriTx = { context with
          pendingSecTx := none
          txMode := .secondary
          log := context.log ++ [.beginTransmit frame] } := by
        simp [tryPendingSecTx, tryPendingPriTx, record, idle, other]
      rw [same]
      refine ⟨?_, priBuffer, secBuffer, primary, secondary, by simpa using kept,
        by simpa using started⟩
      simp only [LinkActivity.foldl_inFlight, landed, held]
      exact .secondary frame none
  | none =>
      rw [other] at secBuffer secondary
      have unchanged : context.tryPendingSecTx = context := by
        simp [tryPendingSecTx, other]
      rw [unchanged]
      cases held : context.pendingPriTx with
      | some frame =>
          rw [held] at priBuffer primary
          have same : context.tryPendingPriTx = { context with
              pendingPriTx := none
              txMode := .primary
              log := context.log ++ [.beginTransmit frame] } := by
            simp [tryPendingPriTx, record, idle, held]
          rw [same]
          refine ⟨?_, priBuffer, secBuffer, primary, secondary, by simpa using kept,
        by simpa using started⟩
          simp only [LinkActivity.foldl_inFlight, landed, other]
          exact .primary frame none
      | none =>
          rw [held] at priBuffer primary
          have same : context.tryPendingPriTx = context := by
            simp [tryPendingPriTx, held]
          rw [same]
          refine ⟨?_, priBuffer, secBuffer, primary, secondary, kept, started⟩
          rw [idle, landed, held, other]
          exact .free

theorem Queues.txReady_primary (queues : context.Queues pri sec)
    (mode : context.txMode = .primary) :
    { context.record .txReady with
      txMode := .idle }.tryPendingSecTx.tryPendingPriTx.Queues none sec := by
  obtain ⟨slots, _, secBuffer, _, secondary, kept, started⟩ := queues
  rw [mode] at slots
  obtain ⟨landed, held, rfl, _⟩ := slots.done_primary
  have nothing : ∀ frame, context.pendingPriTx ≠ some frame := by simp [held]
  have queues : Queues _ context.pendingPriTx context.pendingSecTx :=
    @queues_tryPending { context.record .txReady with txMode := .idle } rfl
      (by rw [record_log, LinkActivity.foldl_inFlight]; exact landed) (.inl held)
      (fun frame same => absurd same (nothing frame)) secBuffer
      (fun frame same => absurd same (nothing frame)) secondary (by simpa using kept)
      (by simpa using started)
  rwa [held] at queues

theorem Queues.txReady_secondary (queues : context.Queues pri sec)
    (mode : context.txMode = .secondary) :
    { context.record .txReady with
      txMode := .idle }.tryPendingSecTx.tryPendingPriTx.Queues pri none := by
  obtain ⟨slots, priBuffer, _, primary, _, kept, started⟩ := queues
  rw [mode] at slots
  obtain ⟨landed, rfl, held, _⟩ := slots.done_secondary
  have nothing : ∀ frame, context.pendingSecTx ≠ some frame := by simp [held]
  have queues : Queues _ context.pendingPriTx context.pendingSecTx :=
    @queues_tryPending { context.record .txReady with txMode := .idle } rfl
      (by rw [record_log, LinkActivity.foldl_inFlight]; exact landed) (.inr held)
      priBuffer (fun frame same => absurd same (nothing frame)) primary
      (fun frame same => absurd same (nothing frame)) (by simpa using kept)
      (by simpa using started)
  rwa [held] at queues

/-! ## Stations -/

/-- The states tell which frames are outstanding, whether an answer is awaited, and whether there
is a message to go on with. -/
structure Sound (context : LinkContext) : Prop where
  frames : ∃ pri sec, context.Queues pri sec ∧
    pri.map (·.header.func) = context.priState.transmits ∧ sec.isSome = context.secState.transmits
  timer : context.rspTimeoutTimer = context.priState.awaitsResponse
  segments : context.priState.holdsSegments = true → context.segments ≠ none

/-- The primary station may transmit. -/
structure Free (context : LinkContext) : Prop where
  frames : ∃ sec, context.Queues none sec ∧ sec.isSome = context.secState.transmits
  timer : context.rspTimeoutTimer = false

theorem Sound.record {activity : LinkActivity} (sound : Sound context)
    (elsewhere : activity.elsewhere = true) : Sound (context.record activity) := by
  obtain ⟨pri, sec, queues, waits, answers⟩ := sound.frames
  exact ⟨⟨pri, sec, queues.record elsewhere, waits, answers⟩, sound.timer, sound.segments⟩

theorem Free.record {activity : LinkActivity} (free : Free context)
    (elsewhere : activity.elsewhere = true) : Free (context.record activity) := by
  obtain ⟨sec, queues, answers⟩ := free.frames
  exact ⟨⟨sec, queues.record elsewhere, answers⟩, free.timer⟩

theorem Sound.free (sound : Sound context) (done : context.priState.transmits = none) :
    Free context.cancelTimer := by
  obtain ⟨pri, sec, queues, waits, answers⟩ := sound.frames
  rw [done, Option.map_eq_none_iff] at waits
  subst waits
  exact ⟨⟨sec, queues, answers⟩, rfl⟩

theorem Sound.free_of_idle (sound : Sound context) (idle : context.priState = .idle) :
    Free context := by
  have free := sound.free (by rw [idle]; rfl)
  refine ⟨free.frames, ?_⟩
  rw [sound.timer, idle]
  rfl

theorem Free.pendingPriTx_eq (free : Free context) : context.pendingPriTx = none := by
  obtain ⟨sec, queues, _⟩ := free.frames
  exact queues.slots.pendingPri_none

theorem Free.rests (free : Free context) : Sound (context.setPriState .idle) := by
  obtain ⟨sec, queues, answers⟩ := free.frames
  exact ⟨⟨none, sec, queues, rfl, answers⟩, free.timer, by rintro ⟨⟩⟩

theorem Free.sends {state : PriState} (free : Free context)
    (waits : state.transmits = some frame.header.func)
    (held : state.holdsSegments = true → context.segments ≠ none) :
    Sound ((context.transmitPrimary frame).setPriState state) := by
  obtain ⟨sec, queues, answers⟩ := free.frames
  have primary : frame.header.func.isPrimary = true := by
    cases state <;> first | cases waits | exact (Option.some.inj waits) ▸ rfl
  refine ⟨⟨some frame, sec, queues.transmitPrimary primary, waits.symm, ?_⟩, ?_, ?_⟩
  · simpa [setPriState] using answers
  · have quiet : state.awaitsResponse = false := by
      cases state <;> first | rfl | cases waits
    simpa [setPriState, quiet] using free.timer
  · simpa [setPriState] using held

theorem Free.awaits {state : PriState} (free : Free context) (awaits : state.awaitsResponse = true)
    (held : state.holdsSegments = true → context.segments ≠ none) :
    Sound (context.startResponseTimer.setPriState state) := by
  obtain ⟨sec, queues, answers⟩ := free.frames
  have done : state.transmits = none := by
    cases state <;> first | rfl | cases awaits
  rw [startResponseTimer, if_neg (by simp [free.timer])]
  exact ⟨⟨none, sec, queues, done.symm, answers⟩, awaits.symm, held⟩

theorem Free.confirms (free : Free context) (segments : TransportTx) :
    Sound ((context.transmitConfirmed segments).setPriState .confUserDataTransmitWait) := by
  have updated : Free { context with segments := some segments.getSegment.1 } :=
    ⟨free.frames, free.timer⟩
  exact updated.sends rfl (by simp)

theorem Free.sendsUnconfirmed (free : Free context) (segments : TransportTx) :
    Sound ((context.transmitUnconfirmed segments).setPriState .sendUnconfirmedTransmitWait) := by
  have updated : Free { context with segments := some segments.getSegment.1 } :=
    ⟨free.frames, free.timer⟩
  exact updated.sends rfl (by simp)

theorem Free.completes (free : Free context) :
    Sound (context.completeSendOperation.setPriState .idle) := by
  have updated : Free { context with segments := none } := ⟨free.frames, free.timer⟩
  exact Free.rests (updated.record rfl)

/-! ## Primary station -/

theorem Sound.segments_of {state : PriState} (sound : Sound context)
    (current : context.priState = state) (holds : state.holdsSegments = true) :
    ∃ segments, context.segments = some segments :=
  Option.ne_none_iff_exists'.mp (sound.segments (by rw [current]; exact holds))

theorem Sound.free_of {state : PriState} (sound : Sound context)
    (current : context.priState = state) (done : state.transmits = none) : Free context.cancelTimer :=
  sound.free (by rw [current]; exact done)

theorem onAck_sound (sound : Sound context) : ∃ after, context.onAck = some after ∧ Sound after := by
  unfold onAck
  split
  · rename_i state
    obtain ⟨segments, held⟩ := sound.segments_of state rfl
    have free := sound.free_of state rfl
    have updated : Free { context with
        isRemoteReset := true, nextWriteFCB := true }.cancelTimer := ⟨free.frames, rfl⟩
    exact ⟨_, Option.map_eq_some_iff.mpr ⟨segments, held, rfl⟩,
      (updated.confirms segments).record rfl⟩
  · rename_i state
    obtain ⟨segments, held⟩ := sound.segments_of state rfl
    have free := sound.free_of state rfl
    have updated : Free { context with
        nextWriteFCB := !context.nextWriteFCB }.cancelTimer := ⟨free.frames, rfl⟩
    refine ⟨_, Option.map_eq_some_iff.mpr ⟨segments, held, rfl⟩, ?_⟩
    dsimp only
    split
    · exact updated.confirms _
    · exact updated.completes
  · exact ⟨context, rfl, sound⟩

theorem onNack_sound (sound : Sound context) (rxBuffFull : Bool) :
    ∃ after, context.onNack rxBuffFull = some after ∧ Sound after := by
  unfold onNack
  split
  · rename_i state
    exact ⟨_, rfl, (sound.free_of state rfl).completes⟩
  · rename_i state
    have told : Sound (context.onStateChange .unreset) := sound.record rfl
    have free := told.free_of state rfl
    dsimp only
    split
    · exact ⟨_, rfl, free.completes⟩
    · obtain ⟨segments, held⟩ := told.segments_of state rfl
      have updated : Free (context.onStateChange .unreset).resetRetry.cancelTimer :=
        ⟨free.frames, rfl⟩
      exact ⟨_, Option.map_eq_some_iff.mpr ⟨segments, held, rfl⟩,
        updated.sends rfl fun _ => sound.segments (by rw [state]; rfl)⟩
  · rename_i state
    exact ⟨_, rfl, (sound.free_of state rfl).rests⟩
  · exact ⟨context, rfl, sound⟩

theorem onLinkStatus_sound (sound : Sound context) : Sound context.onLinkStatus := by
  unfold onLinkStatus
  split
  · rename_i state
    exact (sound.free_of state rfl).completes
  · rename_i state
    exact (sound.free_of state rfl).completes
  · rename_i state
    exact ((sound.free_of state rfl).record rfl).rests
  · exact sound

theorem onNotSupported_sound (sound : Sound context) : Sound context.onNotSupported := by
  unfold onNotSupported
  split
  · rename_i state
    exact (sound.free_of state rfl).completes
  · rename_i state
    exact (sound.free_of state rfl).completes
  · rename_i state
    exact (sound.free_of state rfl).rests
  · exact sound

/-- The timer is not active any more when it expires. -/
theorem onTimeout_sound (sound : Sound context) (active : context.rspTimeoutTimer = true) :
    ∃ after, { context with rspTimeoutTimer := false }.onTimeout = some after ∧ Sound after := by
  have awaits := sound.timer.symm.trans active
  unfold onTimeout
  dsimp only
  split
  · rename_i state
    have free : Free { context with rspTimeoutTimer := false } :=
      ⟨(sound.free_of state rfl).frames, rfl⟩
    split
    · have updated : Free { context with
          rspTimeoutTimer := false
          numRetryRemaining := context.numRetryRemaining - 1 } := ⟨free.frames, rfl⟩
      exact ⟨_, rfl, updated.sends rfl fun _ => sound.segments (by rw [state]; rfl)⟩
    · exact ⟨_, rfl, free.completes⟩
  · rename_i state
    have free : Free { context with rspTimeoutTimer := false } :=
      ⟨(sound.free_of state rfl).frames, rfl⟩
    split
    · obtain ⟨segments, held⟩ := sound.segments_of state rfl
      have updated : Free { context with
          rspTimeoutTimer := false
          numRetryRemaining := context.numRetryRemaining - 1 } := ⟨free.frames, rfl⟩
      exact ⟨_, Option.map_eq_some_iff.mpr ⟨segments, held, rfl⟩, updated.confirms segments⟩
    · exact ⟨_, rfl, (free.record rfl).completes⟩
  · rename_i state
    have free : Free { context with rspTimeoutTimer := false } :=
      ⟨(sound.free_of state rfl).frames, rfl⟩
    exact ⟨_, rfl, (free.record rfl).rests⟩
  · rename_i reset confirmed status
    cases state : context.priState with
    | resetLinkWait => exact absurd state reset
    | confDataWait => exact absurd state confirmed
    | requestLinkStatusWait => exact absurd state status
    | idle | sendUnconfirmedTransmitWait | linkResetTransmitWait | confUserDataTransmitWait
      | requestLinkStatusTransmitWait =>
        rw [state] at awaits
        cases awaits

theorem tryStartTransmission_sound (sound : Sound context) : Sound context.tryStartTransmission := by
  refine tryStartTransmission_keeps sound ?_ ?_ ?_
  · intro before sound idle
    rw [trySendRequestLinkStatus, if_pos idle]
    have updated : Free { before with keepAliveTimeout := false } :=
      ⟨(sound.free_of_idle idle).frames, (sound.free_of_idle idle).timer⟩
    exact Sound.record (updated.sends rfl (by rintro ⟨⟩)) rfl
  · intro before segments sound idle held
    rw [trySendConfirmed, if_pos idle]
    have updated : Free before.resetRetry :=
      ⟨(sound.free_of_idle idle).frames, (sound.free_of_idle idle).timer⟩
    split
    · exact updated.confirms segments
    · refine updated.sends rfl fun _ => ?_
      exact Option.ne_none_iff_exists'.mpr ⟨segments, held⟩
  · intro before segments sound idle _
    rw [trySendUnconfirmed, if_pos idle]
    exact (sound.free_of_idle idle).sendsUnconfirmed segments

/-! ## Secondary station -/

/-- An answer is transmitted when none of the secondary station is outstanding. -/
theorem Sound.answers {state : SecState} (sound : Sound context)
    (done : context.secState.transmits = false) (waits : state.transmits = true)
    (secondary : frame.header.func.isPrimary = false) :
    Sound ((context.transmitSecondary frame).setSecState state) := by
  obtain ⟨pri, sec, queues, awaits, answers⟩ := sound.frames
  rw [done, Option.isSome_eq_false_iff, Option.isNone_iff_eq_none] at answers
  subst answers
  refine ⟨⟨pri, some frame, queues.transmitSecondary secondary, ?_, waits.symm⟩, ?_, ?_⟩
  · simpa [setSecState] using awaits
  · simpa [setSecState] using sound.timer
  · simpa [setSecState] using sound.segments

theorem Sound.acknowledges (sound : Sound context) (done : context.secState.transmits = false)
    (source : UInt16) : Sound ((context.queueAck source).setSecState .transmitWaitReset) :=
  sound.answers done rfl rfl

theorem onTestLinkStatus_sound (sound : Sound context) (source : UInt16) (fcb : Bool) :
    Sound (context.onTestLinkStatus source fcb) := by
  unfold onTestLinkStatus
  split
  · rename_i state
    have answered := sound.acknowledges (by rw [state]; rfl) source
    split
    · exact ⟨answered.frames, answered.timer, answered.segments⟩
    · exact sound
  · exact sound

theorem onConfirmedUserData_sound (sound : Sound context) (source : UInt16) (fcb : Bool)
    (message : Message) : Sound (context.onConfirmedUserData source fcb message) := by
  unfold onConfirmedUserData
  split
  · rename_i state
    have answered := sound.acknowledges (by rw [state]; rfl) source
    dsimp only
    split
    · have updated : Sound { (context.queueAck source).setSecState .transmitWaitReset with
          nextReadFCB := !(context.queueAck source).nextReadFCB } :=
        ⟨answered.frames, answered.timer, answered.segments⟩
      exact updated.record rfl
    · exact answered
  · exact sound

theorem onResetLinkStates_sound (sound : Sound context) (source : UInt16) :
    Sound (context.onResetLinkStates source) := by
  unfold onResetLinkStates
  split
  · rename_i state
    have answered := sound.acknowledges (by rw [state]; rfl) source
    exact ⟨answered.frames, answered.timer, answered.segments⟩
  · rename_i state
    have answered := sound.acknowledges (by rw [state]; rfl) source
    exact ⟨answered.frames, answered.timer, answered.segments⟩
  · exact sound

theorem onRequestLinkStatus_sound (sound : Sound context) (source : UInt16) :
    Sound (context.onRequestLinkStatus source) := by
  unfold onRequestLinkStatus
  split
  · rename_i state
    exact sound.answers (by rw [state]; rfl) rfl rfl
  · rename_i state
    exact sound.answers (by rw [state]; rfl) rfl rfl
  · exact sound

/-! ## Completions -/

theorem setPriState_self {state : PriState} (current : context.priState = state) :
    context.setPriState state = context := by
  rw [← current]
  rfl

/-- The state that waited for the frame goes on. -/
theorem onPriTxReady_sound (frames : ∃ sec, context.Queues none sec ∧
      sec.isSome = context.secState.transmits)
    (timer : context.rspTimeoutTimer = context.priState.awaitsResponse)
    (held : context.priState.holdsSegments = true → context.segments ≠ none)
    (waits : context.priState.transmits.isSome = true) :
    ∃ after, context.onPriTxReady = some after ∧ Sound after := by
  have inactive : context.rspTimeoutTimer = false := by
    rw [timer]
    cases state : context.priState <;> first | rfl | (rw [state] at waits; cases waits)
  have free : Free context := ⟨frames, inactive⟩
  unfold onPriTxReady
  split
  · rename_i state
    obtain ⟨segments, holds⟩ :=
      Option.ne_none_iff_exists'.mp (held (by rw [state]; rfl))
    refine ⟨_, Option.map_eq_some_iff.mpr ⟨segments, holds, rfl⟩, ?_⟩
    dsimp only
    split
    · have sent := free.sendsUnconfirmed segments.advance.1
      rwa [setPriState_self (by simpa [transmitUnconfirmed] using state)] at sent
    · exact free.completes
  · rename_i state
    exact ⟨_, rfl, free.awaits rfl fun _ => held (by rw [state]; rfl)⟩
  · rename_i state
    exact ⟨_, rfl, free.awaits rfl fun _ => held (by rw [state]; rfl)⟩
  · exact ⟨_, rfl, free.awaits rfl (by rintro ⟨⟩)⟩
  · rename_i unconfirmed reset confirmed status
    cases state : context.priState with
    | sendUnconfirmedTransmitWait => exact absurd state unconfirmed
    | linkResetTransmitWait => exact absurd state reset
    | confUserDataTransmitWait => exact absurd state confirmed
    | requestLinkStatusTransmitWait => exact absurd state status
    | idle | resetLinkWait | confDataWait | requestLinkStatusWait =>
        rw [state] at waits
        cases waits

theorem onSecTxReady_sound (frames : ∃ pri, context.Queues pri none ∧
      pri.map (·.header.func) = context.priState.transmits)
    (timer : context.rspTimeoutTimer = context.priState.awaitsResponse)
    (held : context.priState.holdsSegments = true → context.segments ≠ none)
    (waits : context.secState.transmits = true) : Sound context.onSecTxReady := by
  obtain ⟨pri, queues, awaits⟩ := frames
  unfold onSecTxReady
  split
  · exact ⟨⟨pri, none, queues, awaits, rfl⟩, timer, held⟩
  · exact ⟨⟨pri, none, queues, awaits, rfl⟩, timer, held⟩
  · rename_i reset notReset
    cases state : context.secState with
    | transmitWaitReset => exact absurd state reset
    | transmitWaitNotReset => exact absurd state notReset
    | reset | notReset =>
        rw [state] at waits
        cases waits

theorem onTxReady_sound (sound : Sound context) :
    ∃ after, context.onTxReady = some after ∧ Sound after := by
  obtain ⟨pri, sec, queues, awaits, answers⟩ := sound.frames
  unfold onTxReady
  dsimp only
  split
  · rename_i mode
    -- a callback that is not known
    have slots := queues.slots
    have nothing := slots
    rw [show context.txMode = .idle from mode] at nothing
    rw [nothing.inFlight_idle] at slots
    refine ⟨_, rfl, ⟨pri, sec, ⟨?_, queues.priBuffer, queues.secBuffer, queues.primary,
      queues.secondary, by simpa using queues.kept, by simpa using queues.started⟩, awaits,
      answers⟩, sound.timer, sound.segments⟩
    rw [record_log, LinkActivity.foldl_inFlight, nothing.inFlight_idle]
    exact slots
  · rename_i mode
    have slots := queues.slots
    rw [show context.txMode = .primary from mode] at slots
    have waits : context.priState.transmits.isSome = true := by
      rw [← awaits, Option.isSome_map]
      exact slots.done_primary.2.2.2
    obtain ⟨after, handled, sounds⟩ := @onPriTxReady_sound { context.record .txReady with
        txMode := .idle }.tryPendingSecTx.tryPendingPriTx
      ⟨sec, queues.txReady_primary mode, by simpa using answers⟩ (by simpa using sound.timer)
      (by simpa using sound.segments) (by simpa using waits)
    exact ⟨_, Option.map_eq_some_iff.mpr ⟨after, handled, rfl⟩,
      tryStartTransmission_sound sounds⟩
  · rename_i mode
    have slots := queues.slots
    rw [show context.txMode = .secondary from mode] at slots
    have waits := slots.done_secondary.2.2.2
    refine ⟨_, rfl, tryStartTransmission_sound
      (onSecTxReady_sound ⟨pri, queues.txReady_secondary mode, ?_⟩ ?_ ?_ ?_)⟩
    · simpa using awaits
    · simpa using sound.timer
    · simpa using sound.segments
    · simpa [← answers] using waits

/-! ## Runs -/

/-- A timer expires when it is active. -/
def Due (context : LinkContext) : LinkInput → Prop
  | .responseTimeout => context.rspTimeoutTimer = true
  | .keepAliveTimeout now => context.keepAliveTimer.any (· ≤ now) = true
  | _ => True

theorem dispatch_sound (sound : Sound context) (header : LinkHeaderFields)
    (userData : List UInt8) :
    ∃ after, context.dispatch header userData = some after ∧ Sound after := by
  unfold dispatch
  split
  · exact onAck_sound sound
  · exact onNack_sound sound header.fcvdfc
  · exact ⟨_, rfl, onLinkStatus_sound sound⟩
  · exact ⟨_, rfl, onNotSupported_sound sound⟩
  · exact ⟨_, rfl, onTestLinkStatus_sound sound _ _⟩
  · exact ⟨_, rfl, onResetLinkStates_sound sound _⟩
  · exact ⟨_, rfl, onRequestLinkStatus_sound sound _⟩
  · exact ⟨_, rfl, onConfirmedUserData_sound sound _ _ _⟩
  · exact ⟨_, rfl, sound.record rfl⟩
  · exact ⟨_, rfl, sound⟩

theorem onFrame_sound (sound : Sound context) (now : MonotonicTimestamp)
    (header : LinkHeaderFields) (userData : List UInt8) :
    ∃ after, context.onFrame now header userData = some after ∧ Sound after := by
  by_cases accepts : context.Accepts header
  · rw [onFrame_of_accepts accepts]
    have kept : Sound { context with lastMessageTimestamp := now } :=
      ⟨sound.frames, sound.timer, sound.segments⟩
    obtain ⟨middle, dispatched, sounds⟩ := dispatch_sound kept header userData
    exact ⟨_, Option.map_eq_some_iff.mpr ⟨middle, dispatched, rfl⟩,
      tryStartTransmission_sound sounds⟩
  · obtain same | same | same := onFrame_of_not_accepts accepts now userData
    · exact ⟨_, same, sound⟩
    · exact ⟨_, same, sound.record rfl⟩
    · exact ⟨_, same, sound.record rfl⟩

theorem receive_sound {input : LinkInput} (sound : Sound context)
    (due : context.Due input) :
    ∃ after, context.receive input = some after ∧ Sound after := by
  cases input with
  | lowerLayerUp now =>
      refine ⟨_, rfl, ?_⟩
      unfold onLowerLayerUp
      split
      · exact sound
      · have updated : Sound ({ context with
            isOnline := true, lastMessageTimestamp := now }.startKeepAliveTimer
            (now.add context.config.keepAliveTimeout)) :=
          ⟨sound.frames, sound.timer, sound.segments⟩
        exact Sound.record (@Sound.record _ (.stateChange .unreset) updated rfl) rfl
  | lowerLayerDown =>
      refine ⟨_, rfl, ?_⟩
      unfold onLowerLayerDown
      split
      · obtain ⟨_, _, queues, _, _⟩ := sound.frames
        refine ⟨⟨none, none, ⟨?_, by simp, by simp, by simp, by simp, ?_, ?_⟩, rfl, rfl⟩, rfl,
          by rintro ⟨⟩⟩
        · rw [record_log, LinkActivity.foldl_inFlight]
          exact .free
        · simpa [onStateChange] using queues.kept
        · simpa [onStateChange] using queues.started
      · exact sound
  | send segments =>
      refine ⟨_, rfl, ?_⟩
      unfold send
      split
      · have updated : Sound { context with segments := some segments } :=
          ⟨sound.frames, sound.timer, by simp⟩
        exact tryStartTransmission_sound (updated.record rfl)
      · exact sound
  | txReady => exact onTxReady_sound sound
  | frame now header userData => exact onFrame_sound sound now header userData
  | responseTimeout =>
      obtain ⟨middle, handled, sounds⟩ := onTimeout_sound sound due
      refine ⟨_, ?_, tryStartTransmission_sound sounds⟩
      rw [receive, if_pos (show context.rspTimeoutTimer = true from due)]
      exact Option.map_eq_some_iff.mpr ⟨middle, handled, rfl⟩
  | keepAliveTimeout now =>
      have expired : context.keepAliveTimer.any (· ≤ now) = true := due
      refine ⟨_, by rw [receive, if_pos expired, onKeepAliveTimeout],
        tryStartTransmission_sound ?_⟩
      dsimp only
      split <;> exact ⟨sound.frames, sound.timer, sound.segments⟩

/-- What is not due is not received. -/
theorem due_of_receive {after : LinkContext} {input : LinkInput}
    (received : context.receive input = some after) : context.Due input := by
  cases input with
  | responseTimeout =>
      simp only [receive] at received
      split at received
      · rename_i active
        exact active
      · cases received
  | keepAliveTimeout now =>
      simp only [receive] at received
      split at received
      · rename_i expired
        exact expired
      · cases received
  | lowerLayerUp | lowerLayerDown | send | txReady | frame => trivial

theorem sound_of_reaches {config : LinkLayerConfig} {now : MonotonicTimestamp}
    (reached : machine.Reaches (initial config now) context) : Sound context := by
  refine reached.invariant ?_ ?_
  · exact ⟨⟨none, none, ⟨.free, by simp, by simp, by simp, by simp, by simp [initial],
      by simp [initial]⟩, rfl, rfl⟩, rfl, by rintro ⟨⟩⟩
  · intro before after input _ sound _ stepped
    obtain ⟨received, same, next⟩ := Option.map_eq_some_iff.mp stepped
    obtain ⟨rfl, _⟩ := Prod.mk.inj next
    obtain ⟨other, again, sounds⟩ := receive_sound sound (due_of_receive same)
    obtain rfl := Option.some.inj (same.symm.trans again)
    exact sounds

/-- At most one frame of each station is outstanding, and it stays in its buffer. Whether there is
one of the primary station, and whether the response timer is active, can be told from its state.
Whatever is due has a result: no pointer is followed that is null. -/
theorem outstanding_of_reaches {config : LinkLayerConfig} {now : MonotonicTimestamp}
    (reached : machine.Reaches (initial config now) context) :
    (context.outstanding.filter (·.header.func.isPrimary)).length ≤ 1 ∧
      (context.outstanding.filter (!·.header.func.isPrimary)).length ≤ 1 ∧
      (∀ frame ∈ context.outstanding, frame.header.func.isPrimary = true →
        context.priTxBuffer = some frame) ∧
      (∀ frame ∈ context.outstanding, frame.header.func.isPrimary = false →
        context.secTxBuffer = some frame) ∧
      .overwrite ∉ context.log ∧
      (context.priState.transmits.isSome = true ↔
        ∃ frame ∈ context.outstanding, frame.header.func.isPrimary = true) ∧
      (context.rspTimeoutTimer = true ↔ context.priState = .resetLinkWait ∨
        context.priState = .confDataWait ∨ context.priState = .requestLinkStatusWait) ∧
      .startRefused ∉ context.log ∧
      ∀ input, context.Due input → (machine.step context input).isSome = true := by
  have sound := sound_of_reaches reached
  obtain ⟨pri, sec, queues, awaits, _⟩ := sound.frames
  have primary : ∀ {frame}, frame ∈ context.outstanding →
      frame.header.func.isPrimary = true → pri = some frame := by
    intro frame member station
    exact Option.mem_toList.mp
      (queues.filter_primary.mem_iff.mp (List.mem_filter.mpr ⟨member, station⟩))
  have secondary : ∀ {frame}, frame ∈ context.outstanding →
      frame.header.func.isPrimary = false → sec = some frame := by
    intro frame member station
    exact Option.mem_toList.mp
      (queues.filter_secondary.mem_iff.mp (List.mem_filter.mpr ⟨member, by simp [station]⟩))
  refine ⟨?_, ?_, ?_, ?_, queues.kept, ?_, ?_, queues.started, ?_⟩
  · rw [queues.filter_primary.length_eq]
    exact Option.length_toList_le
  · rw [queues.filter_secondary.length_eq]
    exact Option.length_toList_le
  · intro frame member station
    exact queues.priBuffer frame (primary member station)
  · intro frame member station
    exact queues.secBuffer frame (secondary member station)
  · rw [← awaits, Option.isSome_map, Option.isSome_iff_exists]
    constructor
    · rintro ⟨frame, rfl⟩
      exact ⟨frame, List.mem_filter.mp (queues.filter_primary.mem_iff.mpr (by simp))⟩
    · rintro ⟨frame, member, station⟩
      exact ⟨frame, primary member station⟩
  · rw [sound.timer]
    cases context.priState <;> simp [PriState.awaitsResponse]
  · intro input due
    obtain ⟨after, received, _⟩ := receive_sound sound due
    exact Option.isSome_iff_exists.mpr ⟨(after, ()), Option.map_eq_some_iff.mpr
      ⟨after, received, rfl⟩⟩

/-- A frame is answered while another is in flight. -/
theorem outstanding_both :
    ∃ context, machine.Reaches (initial
        { isMaster := true, useConfirms := false, localAddr := 1, remoteAddr := 10 } 0) context ∧
      context.outstanding.length = 2 ∧
      (context.outstanding.filter (·.header.func.isPrimary)).length ≤ 1 ∧
      (context.outstanding.filter (!·.header.func.isPrimary)).length ≤ 1 ∧
      (machine.step context .txReady).isSome = true := by
  obtain ⟨context, reached, check⟩ := @Machine.exists_reaches_of_run _ _ _ machine (initial
      { isMaster := true, useConfirms := false, localAddr := 1, remoteAddr := 10 } 0)
    (fun context => context.outstanding.length = 2)
    [.lowerLayerUp 0, .send { message := ⟨⟨1, 10⟩, [0xC0]⟩ },
      .frame 0 ⟨.priResetLinkStates, false, false, false, 1, 10⟩ []] (by decide +kernel)
  have sound := outstanding_of_reaches reached
  exact ⟨context, reached, of_decide_eq_true check, sound.1, sound.2.1,
    sound.2.2.2.2.2.2.2.2 .txReady trivial⟩

end LinkContext

end OpenDnp3.Link
