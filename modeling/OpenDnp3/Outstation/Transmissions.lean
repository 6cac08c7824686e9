import OpenDnp3.Outstation.OutstationRuns

/-!
# Transmissions

What an event leads to that others can see: calls, and at most one fragment, which
is not begun while another one is being transmitted.
-/

set_option autoImplicit false

namespace OpenDnp3.Outstation

open OpenDnp3.App OpenDnp3.Library

/-- Nothing is begun to be transmitted. -/
def Silent (activities : List Activity) : Prop :=
  ∀ activity ∈ activities, activity.fragment? = none

theorem Silent.nil : Silent [] := fun _ member => absurd member List.not_mem_nil

theorem Silent.append {activities others : List Activity} (first : Silent activities)
    (second : Silent others) : Silent (activities ++ others) := by
  intro activity member
  rcases List.mem_append.mp member with early | late
  · exact first activity early
  · exact second activity late

theorem silent_call (call : Call) : Silent [.call call] :=
  fun _ member => List.mem_singleton.mp member ▸ rfl

theorem Calls.silent {operates : Option OperateType} {before after : List Activity}
    (calls : Calls operates before after) :
    ∃ activities, after = before ++ activities ∧ Silent activities := by
  obtain ⟨calls, rfl, _⟩ := calls
  refine ⟨_, rfl, fun activity member => ?_⟩
  obtain ⟨call, _, rfl⟩ := List.mem_map.mp member
  rfl

/-- Whether a transmission is outstanding after these activities; none may be begun while one
is. -/
def follow : Bool → List Activity → Option Bool
  | busy, [] => some busy
  | busy, .call _ :: rest => follow busy rest
  | true, .beginTransmit _ _ _ :: _ => none
  | false, .beginTransmit _ _ _ :: rest => follow true rest

theorem follow_silent {activities : List Activity} (silent : Silent activities) (busy : Bool)
    (rest : List Activity) : follow busy (activities ++ rest) = follow busy rest := by
  induction activities with
  | nil => rfl
  | cons activity activities ih =>
      have others := ih fun other member => silent other (List.mem_cons_of_mem _ member)
      cases activity with
      | call call => exact others
      | beginTransmit destination fragment carried =>
          cases silent _ List.mem_cons_self

/-- A transmission that is outstanding ends with some events. -/
def released (busy : Bool) : Input → Bool
  | .lowerLayerDown | .txReady => false
  | _ => busy

/-- Whether a transmission is outstanding after a run. -/
def followRun : Bool → List ((Environment × Input) × List Activity) → Option Bool
  | busy, [] => some busy
  | busy, (input, activities) :: rest =>
      (follow (released busy input.2) activities).bind (followRun · rest)

namespace OContext

/-- How the log grows: by calls, and at most by one transmission behind them, when none is
outstanding. It is a response to an address that is answered, or an unsolicited response. -/
inductive Transmits (answered : UInt16 → Prop) (context after : OContext) : Prop
  | silent {activities : List Activity} (log : after.log = context.log ++ activities)
      (silent : Silent activities) (same : after.isTransmitting = context.isTransmitting)
  | responds {calls : List Activity} {destination : UInt16}
      (log : after.log = context.log ++
        (calls ++ [.beginTransmit destination after.sol.tx.lastResponse after.sol.tx.carried]))
      (silent : Silent calls) (answers : answered destination)
      (free : context.isTransmitting = false) (busy : after.isTransmitting = true)
  | reports {calls : List Activity}
      (log : after.log = context.log ++ (calls ++ [.beginTransmit after.addresses.destination
        after.unsol.tx.lastResponse after.unsol.tx.carried]))
      (silent : Silent calls) (waits : after.state = .unsolicitedConfirmWait)
      (free : context.isTransmitting = false) (busy : after.isTransmitting = true)

/-- Two states that look the same to the lower layer. -/
structure Alike (context other : OContext) : Prop where
  log : other.log = context.log
  isTransmitting : other.isTransmitting = context.isTransmitting
  sol : other.sol.tx = context.sol.tx
  unsol : other.unsol.tx = context.unsol.tx
  addresses : other.addresses = context.addresses
  state : other.state = context.state

theorem Alike.refl (context : OContext) : Alike context context := ⟨rfl, rfl, rfl, rfl, rfl, rfl⟩

namespace Transmits

variable {answered : UInt16 → Prop} {context after last : OContext}

theorem refl (context : OContext) : Transmits answered context context :=
  .silent (List.append_nil _).symm .nil rfl

theorem quiet (log : after.log = context.log) (same : after.isTransmitting = context.isTransmitting) :
    Transmits answered context after :=
  .silent (log.trans (List.append_nil _).symm) .nil same

/-- Nothing follows what is transmitted. -/
theorem trans (first : Transmits answered context after) (second : Transmits answered after last)
    (done : after.isTransmitting = true → Alike after last) : Transmits answered context last := by
  cases first with
  | silent log silent same =>
      cases second with
      | silent more still alike =>
          exact .silent (by rw [more, log, List.append_assoc]) (silent.append still)
            (alike.trans same)
      | @responds calls destination more still answers free busy =>
          rw [log, List.append_assoc, ← List.append_assoc _ calls] at more
          exact .responds more (silent.append still) answers (same.symm.trans free) busy
      | @reports calls more still waits free busy =>
          rw [log, List.append_assoc, ← List.append_assoc _ calls] at more
          exact .reports more (silent.append still) waits (same.symm.trans free) busy
  | @responds calls destination log silent answers free busy =>
      have alike := done busy
      refine .responds ?_ silent answers free (alike.isTransmitting.trans busy)
      rw [alike.log, alike.sol]
      exact log
  | @reports calls log silent waits free busy =>
      have alike := done busy
      refine .reports ?_ silent (alike.state.trans waits) free (alike.isTransmitting.trans busy)
      rw [alike.log, alike.unsol, alike.addresses]
      exact log

/-- Only the log matters of the state before, and whether a transmission is outstanding. -/
theorem from_ {start : OContext} (transmits : Transmits answered context after)
    (log : start.log = context.log) (same : start.isTransmitting = context.isTransmitting) :
    Transmits answered start after := by
  cases transmits with
  | silent more silent still => exact .silent (log ▸ more) silent (still.trans same.symm)
  | responds more silent answers free busy =>
      exact .responds (log ▸ more) silent answers (same.trans free) busy
  | reports more silent waits free busy =>
      exact .reports (log ▸ more) silent waits (same.trans free) busy

theorem mono {others : UInt16 → Prop} (transmits : Transmits answered context after)
    (more : ∀ destination, answered destination → others destination) :
    Transmits others context after := by
  cases transmits with
  | silent log silent still => exact .silent log silent still
  | responds log silent answers free busy =>
      exact .responds log silent (more _ answers) free busy
  | reports log silent waits free busy => exact .reports log silent waits free busy

theorem follow (transmits : Transmits answered context after) :
    Outstation.follow context.isTransmitting (after.log.drop context.log.length) =
      some after.isTransmitting := by
  cases transmits with
  | @silent activities log silent same =>
      rw [log, List.drop_left, ← List.append_nil activities, follow_silent silent, same]
      rfl
  | responds log silent _ free busy =>
      rw [log, List.drop_left, follow_silent silent, free, busy]
      rfl
  | reports log silent _ free busy =>
      rw [log, List.drop_left, follow_silent silent, free, busy]
      rfl

end Transmits

section steps

variable [FloatOps] {config : EventBufferConfig} {environment : Environment}
  {request : ParsedRequest} {context after : OContext}

omit [FloatOps] in
theorem RespondsWithData.transmits {destination : UInt16} {seq : AppSeqNum}
    (responds : RespondsWithData config destination seq context after)
    (free : context.isTransmitting = false) : Transmits (· = destination) context after :=
  .responds responds.log (silent_call _) rfl free responds.isTransmitting

omit [FloatOps] in
theorem RespondsToNonRead.said (responds : RespondsToNonRead request context after) :
    ∃ calls, after.log = context.log ++ (calls ++ [.beginTransmit request.addresses.source
      after.sol.tx.lastResponse after.sol.tx.carried]) ∧ Silent calls := by
  obtain ⟨_, calls, log⟩ := responds.log
  obtain ⟨activities, rfl, silent⟩ := calls.silent
  rw [List.append_assoc, List.append_cons activities, ← responds.carried] at log
  exact ⟨_, log, silent.append (silent_call _)⟩

omit [FloatOps] in
theorem RespondsToNonRead.transmits (responds : RespondsToNonRead request context after)
    (free : context.isTransmitting = false) :
    Transmits (· = request.addresses.source) context after := by
  obtain ⟨calls, log, silent⟩ := responds.said
  exact .responds log silent rfl free responds.isTransmitting

omit [FloatOps] in
theorem RespondsUnsolicited.transmits {answered : UInt16 → Prop}
    (responds : RespondsUnsolicited context after)
    (free : context.isTransmitting = false) : Transmits answered context after := by
  have log := responds.log
  rw [← responds.addresses] at log
  exact .reports log (silent_call _) responds.state free responds.isTransmitting

/-- A request is answered to its source. -/
theorem Transmits.handles {serials : List Nat} (marks : context.eventBuffer.Marks config serials)
    (free : context.isTransmitting = false) (handles : Handles environment request context after) :
    Transmits (· = request.addresses.source) context after := by
  have repeats {other : OContext} (log : other.log = context.log ++
        [.beginTransmit request.addresses.source other.sol.tx.lastResponse
          other.sol.tx.carried]) (busy : other.isTransmitting = true) :
      Transmits (· = request.addresses.source) context other := .responds log .nil rfl free busy
  cases handles with
  | ignored _ => exact .refl _
  | confirmedLast _ _ | confirmedEvents _ _ | confirmedNull _ _ | readHeld _ | repeatReadHeld _ =>
      exact .quiet rfl rfl
  | confirmedMore _ _ continued =>
      have responds := continueMultiFragResponse_responds marks.clearWritten continued
      exact (responds.transmits free).from_ rfl rfl
  | readIdle _ responded =>
      have same : (context.numbered request).eventBuffer.Marks config serials := marks
      exact ((respondToReadRequest_responds same responded).transmits free).from_ rfl rfl
  | readWaiting _ responded =>
      have same : (context.numbered request).cancelConfirmTimer.eventBuffer.Marks config serials :=
        marks
      exact ((respondToReadRequest_responds same responded).transmits free).from_ rfl rfl
  | nonReadIdle _ =>
      have responds := respondToNonReadRequest_responds environment (context.numbered request) request
      exact (responds.transmits free).from_ rfl rfl
  | nonReadWaiting _ =>
      have responds := respondToNonReadRequest_responds environment
        (context.numbered request).cancelConfirmTimer request
      obtain ⟨calls, log, silent⟩ := responds.said
      exact .responds log silent rfl free responds.isTransmitting
  | nonReadUnsolicited _ =>
      have responds := respondToNonReadRequest_responds environment
        { context.numbered request with deferred := none } request
      exact (responds.transmits free).from_ rfl rfl
  | repeatReadIdle _ | repeatReadWaiting _ | repeatNonReadIdle _ | repeatNonReadWaiting _
  | repeatNonReadUnsolicited _ => exact repeats rfl rfl

/-- What is held back after a request was held back before, or is that request. -/
theorem deferred_of_handles {serials : List Nat}
    (marks : context.eventBuffer.Marks config serials)
    (handles : Handles environment request context after) {held : ParsedRequest}
    (deferred : after.deferred = some held) :
    (∃ space, held = request.copyTo space) ∨ context.deferred = some held := by
  cases handles with
  | ignored _ | confirmedLast _ _ | confirmedEvents _ _ | confirmedNull _ _ | repeatReadIdle _
  | repeatReadWaiting _ | repeatNonReadIdle _ | repeatNonReadWaiting _
  | repeatNonReadUnsolicited _ => exact .inr deferred
  | readHeld _ | repeatReadHeld _ => exact .inl ⟨_, (Option.some.inj deferred).symm⟩
  | confirmedMore _ _ continued =>
      have responds := continueMultiFragResponse_responds marks.clearWritten continued
      exact .inr (responds.deferred.symm.trans deferred)
  | readIdle _ responded =>
      have same : (context.numbered request).eventBuffer.Marks config serials := marks
      exact .inr ((respondToReadRequest_responds same responded).deferred.symm.trans deferred)
  | readWaiting _ responded =>
      have same : (context.numbered request).cancelConfirmTimer.eventBuffer.Marks config serials :=
        marks
      exact .inr ((respondToReadRequest_responds same responded).deferred.symm.trans deferred)
  | nonReadIdle _ =>
      have responds := respondToNonReadRequest_responds environment (context.numbered request) request
      exact .inr (responds.deferred.symm.trans deferred)
  | nonReadWaiting _ =>
      have responds := respondToNonReadRequest_responds environment
        (context.numbered request).cancelConfirmTimer request
      exact .inr (responds.deferred.symm.trans deferred)
  | nonReadUnsolicited _ =>
      have responds := respondToNonReadRequest_responds environment
        { context.numbered request with deferred := none } request
      cases responds.deferred.symm.trans deferred

theorem session_changeAll {updates : List DatabaseUpdate}
    (changed : changeAll updates context = some after) :
    after = { context with database := after.database, eventBuffer := after.eventBuffer } := by
  induction updates generalizing context with
  | nil =>
      cases changed
      rfl
  | cons update updates ih =>
      obtain ⟨next, first, others⟩ := Option.bind_eq_some_iff.mp changed
      obtain ⟨buffer, _, rfl⟩ := Option.map_eq_some_iff.mp first
      have behind := ih others
      exact behind

/-- What is held back after an event is what it brings, or was held back before. -/
theorem deferred_of_reacts {input : Input} (regular : context.Regular config)
    (reacts : Reacts environment context input after) {held : ParsedRequest}
    (deferred : after.deferred = some held) :
    (∃ message request space, input = .receive message ∧
        context.acceptMessage message = some request ∧ held = request.copyTo space) ∨
      context.deferred = some held := by
  obtain ⟨serials, marks⟩ := regular.marks
  cases reacts with
  | up _ | ignored _ _ | txReady _ _ => exact .inr deferred
  | @noAck message request _ _ _ =>
      have kept : Undisturbed context (context.processRequestNoAck environment request) :=
        processRequestNoAck_undisturbed request
      exact .inr (kept.deferred.symm.trans deferred)
  | deferred _ accepted _ _ =>
      exact .inl ⟨_, _, _, rfl, accepted, (Option.some.inj deferred).symm⟩
  | handled _ accepted _ _ handles =>
      rcases deferred_of_handles marks handles deferred with ⟨space, same⟩ | before
      · exact .inl ⟨_, _, space, rfl, accepted, same⟩
      · exact .inr before
  | timeout _ =>
      refine .inr ?_
      rw [onConfirmTimeout] at deferred
      split at deferred
      · exact deferred
      · exact deferred
      · split at deferred
        · exact deferred
        · exact deferred
  | apply _ changed =>
      rw [session_changeAll changed] at deferred
      exact .inr deferred

variable {answered : UInt16 → Prop}

theorem Transmits.resumes {serials : List Nat} (marks : context.eventBuffer.Marks config serials)
    (answers : ∀ request, context.deferred = some request → answered request.addresses.source)
    (resumes : Resumes environment context after) : Transmits answered context after := by
  cases resumes with
  | blocked _ | none _ | kept _ _ _ => exact .refl _
  | handled can deferred _ handles =>
      have handled := Transmits.handles marks (canTransmit_iff.mp can).2 handles
      have allowed := handled.mono fun destination same => same ▸ answers _ deferred
      exact allowed.trans (.quiet rfl rfl) fun _ => ⟨rfl, rfl, rfl, rfl, rfl, rfl⟩

theorem Reports.transmits (reports : Reports environment context after) :
    Transmits answered context after := by
  cases reports with
  | nothing => exact .refl _
  | null can _ _ | events can _ _ _ =>
      exact (sendUnsolicited_responds environment context _).transmits (canTransmit_iff.mp can).2

theorem Reports.eq_of_busy (busy : context.isTransmitting = true)
    (reports : Reports environment context after) : after = context := by
  cases reports with
  | nothing => rfl
  | null can _ _ | events can _ _ _ => cases busy.symm.trans (canTransmit_iff.mp can).2

theorem Transmits.starts {serials : List Nat} (marks : context.eventBuffer.Marks config serials)
    (answers : ∀ request, context.deferred = some request → answered request.addresses.source)
    (starts : Starts environment context after) : Transmits answered context after := by
  obtain ⟨resumed, resumes, reports⟩ := starts
  refine (Transmits.resumes marks answers resumes).trans reports.transmits fun busy => ?_
  rw [reports.eq_of_busy busy]
  exact .refl _

/-- Nothing is started during a transmission. -/
theorem Starts.eq_of_busy (busy : context.isTransmitting = true)
    (starts : Starts environment context after) : after = context := by
  obtain ⟨resumed, resumes, reports⟩ := starts
  have same : resumed = context := by
    cases resumes with
    | blocked _ | none _ | kept _ _ _ => rfl
    | handled can _ _ _ => cases busy.symm.trans (canTransmit_iff.mp can).2
  subst same
  exact reports.eq_of_busy busy

/-- The state before an event, once a transmission that it ends is over. -/
def release (context : OContext) (input : Input) : OContext :=
  { context with isTransmitting := released context.isTransmitting input }

/-- The sources of the requests that an event can lead to an answer of. -/
def Answerable (context : OContext) (input : Input) (source : UInt16) : Prop :=
  (∃ message request, input = .receive message ∧ context.acceptMessage message = some request ∧
    source = request.addresses.source) ∨
  ∃ request, context.deferred = some request ∧ source = request.addresses.source

theorem Transmits.reacts {input : Input} (regular : context.Regular config)
    (reacts : Reacts environment context input after) :
    Transmits (context.Answerable input) (context.release input) after := by
  obtain ⟨serials, marks⟩ := regular.marks
  cases reacts with
  | up _ | ignored _ _ | deferred _ _ _ _ | txReady _ _ => exact .quiet rfl rfl
  | @noAck message request _ _ _ =>
      have kept : Undisturbed context (context.processRequestNoAck environment request) :=
        processRequestNoAck_undisturbed request
      have calls : Calls (some .directOperateNoAck) context.log
        (context.processRequestNoAck environment request).log := processRequestNoAck_calls request
      obtain ⟨activities, log, silent⟩ := calls.silent
      exact .silent log silent kept.isTransmitting
  | handled _ accepted _ free handles =>
      exact ((Transmits.handles marks free handles).from_ rfl rfl).mono fun _ same =>
        .inl ⟨_, _, rfl, accepted, same⟩
  | timeout _ =>
      rw [onConfirmTimeout]
      split
      · exact .quiet rfl rfl
      · exact .quiet rfl rfl
      · split <;> exact .quiet rfl rfl
  | apply _ changed =>
      rw [session_changeAll changed]
      exact .quiet rfl rfl

/-- An event leads to at most one transmission, and to none while one is outstanding. -/
theorem Transmits.steps {input : Input} (regular : context.Regular config)
    (steps : Steps environment context input after) :
    Transmits (context.Answerable input) (context.release input) after := by
  have offline (down : context.isOnline = false) : context.isTransmitting = false := by
    by_contra busy
    cases down.symm.trans (regular.online (by simpa using busy))
  cases steps with
  | nothing ineffective =>
      refine .quiet rfl ?_
      cases ineffective with
      | up _ | receive _ | apply => rfl
      | down down => exact offline down
      | txReady idle =>
          rcases Bool.and_eq_false_iff.mp idle with down | free
          · exact offline down
          · exact free
  | down online =>
      rw [onLowerLayerDown, if_neg (by simp [online])]
      exact .quiet rfl rfl
  | setRestartIIN => exact .quiet rfl rfl
  | starts reacts starts =>
      obtain ⟨serials, marks⟩ := (regular.reacts reacts).marks
      refine (Transmits.reacts regular reacts).trans (.starts marks ?_ starts) fun busy => ?_
      · intro held deferred
        rcases deferred_of_reacts regular reacts deferred with
          ⟨message, request, space, same, accepted, rfl⟩ | before
        · exact .inl ⟨message, request, same, accepted, rfl⟩
        · exact .inr ⟨held, before, rfl⟩
      · rw [starts.eq_of_busy busy]
        exact .refl _

end steps

end OContext

end OpenDnp3.Outstation
