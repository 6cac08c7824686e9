import OpenDnp3.Outstation.OutstationFrames

/-!
# Outstation runs

What holds of every state that an outstation can reach: what it remembers of the
last response is that response, and it transmits nothing while it is offline.
-/

set_option autoImplicit false

namespace OpenDnp3.Outstation

open OpenDnp3.App OpenDnp3.Library

/-- The fragment that an activity begins to transmit. -/
def Activity.fragment? : Activity → Option (List UInt8)
  | .call _ => none
  | .beginTransmit _ fragment _ => some fragment

/-- The fragment that was begun last. -/
def lastFragment (log : List Activity) : Option (List UInt8) :=
  (log.filterMap Activity.fragment?).getLast?

theorem lastFragment_concat (log : List Activity) (destination : UInt16) (fragment : List UInt8)
    (carried : List Nat) :
    lastFragment (log ++ [.beginTransmit destination fragment carried]) = some fragment := by
  rw [lastFragment, List.filterMap_append]
  exact List.getLast?_concat

theorem Calls.fragments {operates : Option OperateType} {before after : List Activity}
    (calls : Calls operates before after) :
    after.filterMap Activity.fragment? = before.filterMap Activity.fragment? := by
  obtain ⟨calls, rfl, _⟩ := calls
  have none : (calls.map Activity.call).filterMap Activity.fragment? = [] := by
    rw [List.filterMap_map, List.filterMap_eq_nil_iff]
    exact fun _ _ => rfl
  rw [List.filterMap_append, none, List.append_nil]

theorem Calls.lastFragment {operates : Option OperateType} {before after : List Activity}
    (calls : Calls operates before after) :
    Outstation.lastFragment after = Outstation.lastFragment before :=
  congrArg List.getLast? calls.fragments

namespace OContext

/-- An unsolicited fragment is being transmitted. -/
def TransmitsUnsolicited (context : OContext) : Prop :=
  context.isTransmitting = true ∧ ∃ fragment, lastFragment context.log = some fragment ∧
    fragment[1]? = some FunctionCode.unsolicitedResponse.toType

/-- The last response is the one to the request that is remembered. -/
def Remembers (context : OContext) : Prop :=
  context.history.hasLast = true →
    context.sol.tx.lastResponse.take 2 =
      [context.sol.tx.control.toByte, FunctionCode.response.toType] ∧
    context.sol.tx.control.seq = context.history.lastHeader.control.seq

/-- What waits for a solicited confirm is the response to a READ. -/
def AwaitsRead (context : OContext) : Prop :=
  context.state = .solicitedConfirmWait → context.history.hasLast = true →
    context.history.lastHeader.function = .read

/-- What holds of every state that is reached. -/
structure Regular (config : EventBufferConfig) (context : OContext) : Prop where
  marks : ∃ serials, context.eventBuffer.Marks config serials
  remembers : context.Remembers
  awaitsRead : context.AwaitsRead
  online : context.isTransmitting = true → context.isOnline = true
  unsolicited : context.TransmitsUnsolicited → context.state ≠ .solicitedConfirmWait ∧
    context.unsol.tx.control.seq = context.unsol.seq.confirmNum.seq

section runs

variable {config : EventBufferConfig} {environment : Environment} {request : ParsedRequest}
  {context after : OContext}

theorem TransmitsUnsolicited.ne_response {fragment : List UInt8} {control : UInt8}
    (transmits : context.TransmitsUnsolicited) (last : lastFragment context.log = some fragment) :
    fragment.take 2 ≠ [control, FunctionCode.response.toType] := by
  intro response
  obtain ⟨_, _, found, unsolicited⟩ := transmits
  obtain rfl := Option.some.inj (last.symm.trans found)
  have second := congrArg (·[1]?) response
  simp only [List.getElem?_take_of_lt (show 1 < 2 by decide), unsolicited] at second
  cases second

theorem regular_initial (addresses : Addresses) (params : OutstationParams)
    (config : EventBufferConfig) (database : DatabaseBuffers) :
    (initial addresses params config database).Regular config where
  marks := ⟨_, .create⟩
  remembers has := by cases has
  awaitsRead waits := by cases waits
  online busy := by cases busy
  unsolicited transmits := by cases transmits.1

theorem isRepeat_hasLast (repeats : context.isRepeat request = true) :
    context.history.hasLast = true := by
  simp only [isRepeat, Bool.and_eq_true] at repeats
  exact repeats.1.1

theorem isRepeat_control (repeats : context.isRepeat request = true) :
    context.history.lastHeader.control.toByte = request.header.control.toByte := by
  simp only [isRepeat, RequestHistory.fullyEqualsLastRequest, APDUHeader.equals,
    Bool.and_eq_true, beq_iff_eq] at repeats
  exact repeats.2.1.2.symm

theorem isRepeat_function (repeats : context.isRepeat request = true) :
    context.history.lastHeader.function = request.header.function := by
  simp only [isRepeat, RequestHistory.fullyEqualsLastRequest, APDUHeader.equals,
    Bool.and_eq_true, beq_iff_eq] at repeats
  exact repeats.2.1.1.symm

variable [FloatOps]

/-- A request that is handled leaves the outstation as it should be. -/
theorem Regular.handles (regular : context.Regular config) (online : context.isOnline = true)
    (free : context.isTransmitting = false) (handles : Handles environment request context after) :
    after.Regular config := by
  obtain ⟨serials, marks⟩ := regular.marks
  have quiet {other : OContext} (marked : ∃ serials, other.eventBuffer.Marks config serials)
      (remembers : other.Remembers) (awaitsRead : other.AwaitsRead)
      (idle : other.isTransmitting = false) : other.Regular config := by
    refine ⟨marked, remembers, awaitsRead, fun busy => ?_, fun transmits => ?_⟩
    · cases idle.symm.trans busy
    · cases idle.symm.trans transmits.1
  have sends {other : OContext} {destination : UInt16} {carried : List Nat}
      {earlier : List Activity} (marked : ∃ serials, other.eventBuffer.Marks config serials)
      (remembers : other.Remembers) (awaitsRead : other.AwaitsRead) (up : other.isOnline = true)
      (header : other.sol.tx.lastResponse.take 2 =
        [other.sol.tx.control.toByte, FunctionCode.response.toType])
      (log : other.log = earlier ++
        [.beginTransmit destination other.sol.tx.lastResponse carried]) :
      other.Regular config := by
    refine ⟨marked, remembers, awaitsRead, fun _ => up, fun transmits => ?_⟩
    exact absurd header (transmits.ne_response (log ▸ lastFragment_concat ..))
  have forgotten {other : OContext} (history : other.history = context.history.reset) :
      other.Remembers := by
    intro has
    rw [history] at has
    cases has
  have repeats {other : OContext} (isRepeat : true = context.isRepeat request)
      (sol : other.sol = context.sol) (history : other.history = context.history)
      (state : other.state = context.state)
      (buffer : other.eventBuffer = context.eventBuffer) (up : other.isOnline = context.isOnline)
      (log : other.log = context.log ++
        [.beginTransmit request.addresses.source context.sol.tx.lastResponse
          context.sol.tx.carried]) : other.Regular config := by
    have remembers := regular.remembers (isRepeat_hasLast isRepeat.symm)
    refine sends ⟨_, buffer ▸ marks⟩ ?_ ?_ (up.trans online) (sol ▸ remembers.1) (sol ▸ log)
    · rw [Remembers, sol, history]
      exact fun _ => remembers
    · rw [AwaitsRead, state, history]
      exact regular.awaitsRead
  have nonRead {other : OContext} {state : OutstationState}
      (waits : state ≠ .solicitedConfirmWait)
      (buffer : other.eventBuffer = context.eventBuffer) (up : other.isOnline = context.isOnline) :
      ((other.respondToNonReadRequest environment request).setState state).Regular config := by
    have responds := respondToNonReadRequest_responds environment other request
    obtain ⟨calls, _, log⟩ := responds.log
    have split := log.trans (List.append_cons calls _ _)
    refine sends ⟨serials, ?_⟩ ?_ (fun now => absurd now waits)
      (responds.isOnline.trans (up.trans online)) responds.header split
    · exact (congrArg (EventBuffer.Marks config serials) responds.eventBuffer).mpr
        (buffer ▸ marks).isOverflown
    · intro _
      refine ⟨responds.header, ?_⟩
      exact (congrArg AppControlField.seq responds.control).trans
        (congrArg (·.lastHeader.control.seq) responds.history).symm
  have stays {other : OContext} (state : other.state ≠ .solicitedConfirmWait) :
      (other.respondToNonReadRequest environment request).state ≠ .solicitedConfirmWait := by
    rw [(respondToNonReadRequest_responds environment other request).state]
    exact state
  have withData {other : OContext} {destination : UInt16} {seq : AppSeqNum}
      (responds : RespondsWithData config destination seq other after)
      (up : other.isOnline = context.isOnline)
      (remembers : other.history = context.history.reset ∨
        other.history.lastHeader.control.seq = seq.seq ∧
          other.history.lastHeader.function = .read) : after.Regular config := by
    refine sends ⟨_, responds.marks⟩ (fun has => ⟨responds.header, ?_⟩) (fun _ has => ?_)
      (responds.isOnline.trans (up.trans online)) responds.header
      (responds.log.trans (List.append_cons other.log _ _))
    · rw [responds.control.1, responds.history]
      rcases remembers with none | same
      · rw [responds.history, none] at has
        cases has
      · exact same.1.symm
    · rw [responds.history] at has ⊢
      rcases remembers with none | same
      · rw [none] at has
        cases has
      · exact same.2
  cases handles with
  | ignored => exact regular
  | confirmedLast awaits done => exact quiet ⟨_, marks.clearWritten⟩ (forgotten rfl) nofun free
  | confirmedMore awaits more continued =>
      exact withData (continueMultiFragResponse_responds marks.clearWritten continued) rfl
        (.inl rfl)
  | confirmedEvents awaits completed => exact quiet ⟨_, marks.clearWritten⟩ (forgotten rfl) nofun free
  | confirmedNull awaits open_ => exact quiet ⟨_, marks⟩ (forgotten rfl) nofun free
  | readIdle requests responded =>
      have same : (context.numbered request).eventBuffer.Marks config serials := marks
      exact withData (respondToReadRequest_responds same responded) rfl
        (.inr ⟨rfl, of_decide_eq_true requests.isRead.symm⟩)
  | readWaiting requests responded =>
      have same : (context.numbered request).cancelConfirmTimer.eventBuffer.Marks config serials :=
        marks
      exact withData (respondToReadRequest_responds same responded) rfl
        (.inr ⟨rfl, of_decide_eq_true requests.isRead.symm⟩)
  | readHeld requests => exact quiet ⟨_, marks⟩ regular.remembers regular.awaitsRead free
  | nonReadIdle requests => exact nonRead (stays (ne_of_eq_of_ne requests.state nofun)) rfl rfl
  | nonReadWaiting requests =>
      exact nonRead nofun rfl rfl
  | nonReadUnsolicited requests =>
      exact nonRead (stays (ne_of_eq_of_ne requests.state nofun)) rfl rfl
  | repeatReadIdle requests => exact repeats requests.isRepeat rfl rfl rfl rfl rfl rfl
  | repeatReadWaiting requests => exact repeats requests.isRepeat rfl rfl rfl rfl rfl rfl
  | repeatReadHeld requests => exact quiet ⟨_, marks⟩ regular.remembers regular.awaitsRead free
  | repeatNonReadIdle requests => exact repeats requests.isRepeat rfl rfl rfl rfl rfl rfl
  | repeatNonReadWaiting requests => exact repeats requests.isRepeat rfl rfl rfl rfl rfl rfl
  | repeatNonReadUnsolicited requests => exact repeats requests.isRepeat rfl rfl rfl rfl rfl rfl

omit [FloatOps] in
theorem canTransmit_iff :
    context.canTransmit = true ↔ context.isOnline = true ∧ context.isTransmitting = false := by
  rw [canTransmit, Bool.and_eq_true, Bool.not_eq_true']

theorem Regular.resumes (regular : context.Regular config)
    (resumes : Resumes environment context after) : after.Regular config := by
  cases resumes with
  | blocked cannot => exact regular
  | none none => exact regular
  | kept deferred isRead busy => exact regular
  | handled can deferred free handles =>
      obtain ⟨online, idle⟩ := canTransmit_iff.mp can
      obtain ⟨marks, remembers, awaitsRead, up, unsolicited⟩ := regular.handles online idle handles
      exact ⟨marks, remembers, awaitsRead, up, unsolicited⟩

theorem Regular.reports (regular : context.Regular config)
    (reports : Reports environment context after) : after.Regular config := by
  obtain ⟨serials, marks⟩ := regular.marks
  have sends {classes : Option ClassField} (can : context.canTransmit = true)
      (marked : ∃ serials,
        (context.sendUnsolicited environment classes).eventBuffer.Marks config serials) :
      (context.sendUnsolicited environment classes).Regular config := by
    have responds := sendUnsolicited_responds environment context classes
    refine ⟨marked, ?_, fun waits => ?_, fun _ => responds.isOnline.trans (canTransmit_iff.mp can).1,
      fun _ => ⟨?_, ?_⟩⟩
    · rw [Remembers, responds.history, responds.sol]
      exact regular.remembers
    · cases responds.state.symm.trans waits
    · rw [responds.state]
      simp
    · rw [responds.control, responds.seq]
  cases reports with
  | nothing => exact regular
  | null can idle open_ => exact sends can ⟨_, marks_sendUnsolicited_none marks⟩
  | events can idle completed some => exact sends can ⟨_, marks_sendUnsolicited_some marks⟩

theorem Regular.starts (regular : context.Regular config)
    (starts : Starts environment context after) : after.Regular config := by
  obtain ⟨resumed, resumes, reports⟩ := starts
  exact (regular.resumes resumes).reports reports

theorem Regular.changeAll {updates : List DatabaseUpdate} (regular : context.Regular config)
    (changed : changeAll updates context = some after) : after.Regular config := by
  induction updates generalizing context with
  | nil =>
      cases changed
      exact regular
  | cons update updates ih =>
      obtain ⟨next, first, others⟩ := Option.bind_eq_some_iff.mp changed
      obtain ⟨buffer, stored, rfl⟩ := Option.map_eq_some_iff.mp first
      obtain ⟨⟨serials, marks⟩, remembers, awaitsRead, online, unsolicited⟩ := regular
      refine ih ?_ others
      exact ⟨⟨_, marks.updateAll stored⟩, remembers, awaitsRead, online, unsolicited⟩

theorem Regular.reacts {input : Input} (regular : context.Regular config)
    (reacts : Reacts environment context input after) : after.Regular config := by
  obtain ⟨serials, marks⟩ := regular.marks
  cases reacts with
  | up offline =>
      exact ⟨⟨_, marks⟩, regular.remembers, regular.awaitsRead, fun _ => rfl, regular.unsolicited⟩
  | ignored online refused => exact regular
  | @noAck message request online accepted noAck =>
      have kept : Undisturbed context (context.processRequestNoAck environment request) :=
        processRequestNoAck_undisturbed request
      have calls : Calls (some .directOperateNoAck) context.log
        (context.processRequestNoAck environment request).log := processRequestNoAck_calls request
      refine ⟨⟨serials, kept.eventBuffer ▸ marks⟩, ?_, ?_, fun busy => ?_, fun transmits => ?_⟩
      · rw [Remembers, kept.history, kept.sol]
        exact regular.remembers
      · rw [AwaitsRead, kept.state, kept.history]
        exact regular.awaitsRead
      · exact kept.isOnline.trans online
      · rw [kept.state, kept.unsol]
        rw [TransmitsUnsolicited, kept.isTransmitting, calls.lastFragment] at transmits
        exact regular.unsolicited transmits
  | deferred online accepted acked busy =>
      exact ⟨⟨_, marks⟩, regular.remembers, regular.awaitsRead, regular.online,
        regular.unsolicited⟩
  | handled online accepted acked free handles => exact regular.handles online free handles
  | txReady online busy =>
      refine ⟨⟨_, marks⟩, regular.remembers, regular.awaitsRead, fun busy => ?_,
        fun transmits => ?_⟩
      · cases busy
      · cases transmits.1
  | timeout active =>
      rw [onConfirmTimeout]
      split
      · exact ⟨⟨_, marks⟩, regular.remembers, regular.awaitsRead, regular.online,
          regular.unsolicited⟩
      · exact ⟨⟨_, marks⟩, regular.remembers, by rintro ⟨⟩, regular.online, fun transmits =>
          ⟨by simp [setState], (regular.unsolicited transmits).2⟩⟩
      · split
        · exact ⟨⟨_, marks.unselect⟩, regular.remembers, by rintro ⟨⟩, regular.online, fun transmits =>
            ⟨by simp [setState], (regular.unsolicited transmits).2⟩⟩
        · exact ⟨⟨_, marks⟩, regular.remembers, by rintro ⟨⟩, regular.online, fun transmits =>
            ⟨by simp [setState], (regular.unsolicited transmits).2⟩⟩
  | apply nonempty changed => exact regular.changeAll changed

theorem Regular.steps {input : Input} (regular : context.Regular config)
    (steps : Steps environment context input after) : after.Regular config := by
  obtain ⟨serials, marks⟩ := regular.marks
  cases steps with
  | nothing => exact regular
  | down online =>
      rw [onLowerLayerDown, if_neg (by simp [online])]
      refine ⟨⟨_, marks.unselect⟩, fun has => ?_, by rintro ⟨⟩, fun busy => ?_, fun transmits => ?_⟩
      · cases has
      · cases busy
      · cases transmits.1
  | setRestartIIN =>
      exact ⟨⟨_, marks⟩, regular.remembers, regular.awaitsRead, regular.online,
        regular.unsolicited⟩
  | starts reacts starts => exact (regular.reacts reacts).starts starts

theorem Regular.step {input : Environment × Input} {output : List Activity}
    (regular : context.Regular config) (success : machine.step context input = some (after, output)) :
    after.Regular config := by
  obtain ⟨_, stepped, same⟩ := Option.map_eq_some_iff.mp success
  obtain ⟨rfl, _⟩ := Prod.mk.inj same
  exact regular.steps (steps_of_step stepped)

theorem Regular.run {allowed : OContext → Environment × Input → Prop}
    (regular : context.Regular config) (reached : machine.ReachesWhile allowed context after) :
    after.Regular config :=
  reached.invariant regular fun before _ success => before.step success

/-- Every state that is reached is as it should be. -/
theorem regular_of_reaches {addresses : Addresses} {params : OutstationParams}
    {database : DatabaseBuffers}
    (reached : machine.Reaches (initial addresses params config database) context) :
    context.Regular config :=
  (regular_initial addresses params config database).run reached

end runs

end OContext

end OpenDnp3.Outstation
