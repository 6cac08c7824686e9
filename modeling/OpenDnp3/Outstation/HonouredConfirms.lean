import OpenDnp3.Outstation.ConfirmWaits
import OpenDnp3.Outstation.EventRemovals

/-!
# Confirms that can be honoured

The outstation waits for the confirm of every fragment that asks for one, unless it repeats the
response to a READ after it has given up waiting.
-/

set_option autoImplicit false

namespace OpenDnp3.Outstation

open OpenDnp3.App OpenDnp3.Library

namespace OContext

/-- The sequence number of the confirm that is awaited. -/
def awaitedSeq (context : OContext) : Option UInt8 :=
  match context.state with
  | .idle => none
  | .solicitedConfirmWait => some context.sol.seq.confirmNum.seq
  | .unsolicitedConfirmWait => some context.unsol.seq.confirmNum.seq

/-- The request is the confirm that a fragment asks for. -/
structure ConfirmOf (fragment : List UInt8) (request : ParsedRequest) : Prop where
  isConfirm : request.header.function = .confirm
  uns : request.header.control.uns = (AppControlField.ofByte (fragment.headD 0)).uns
  seq : request.header.control.seq = (AppControlField.ofByte (fragment.headD 0)).seq

/-- A response to a READ that asks for a confirm is repeated while the outstation is idle, or as soon
as it is, since the repeat was held back. -/
def RepeatsUnawaited (context : OContext) (input : Input) : Prop :=
  context.sol.tx.control.con = true ∧ ∃ request, request.header.function = .read ∧
    request.header.control.uns = false ∧ context.isRepeat request = true ∧
    (context.state = .idle ∧ context.requestOf input = some request ∨
      input = .confirmTimeout ∧ context.canTransmit = true ∧ context.deferred = some request)

/-- The confirm of a fragment comes after the transmission is done, or before that. -/
inductive Prompt (sent received : Environment) (message : Message) :
    List (Environment × Input) → Prop
  | after : Prompt sent received message [(sent, .txReady), (received, .receive message)]
  | before : Prompt sent received message [(received, .receive message), (sent, .txReady)]

section honouring

variable [FloatOps]

/-- The outstation waits for the confirm of the fragment, its timer runs, and a prompt confirm leaves
none of the events. -/
structure WaitsFor (after : OContext) (fragment : List UInt8) (carried : List Nat) : Prop where
  state : ∃ function, after.state.awaits = some function ∧
    fragment[1]? = some function.toType
  seq : after.awaitedSeq = some (AppControlField.ofByte (fragment.headD 0)).seq
  timer : after.confirmTimer = true
  clears : ∀ {sent received : Environment} {message : Message} {request : ParsedRequest}
    {inputs : List (Environment × Input)} {last : OContext} {outputs : List (List Activity)},
    after.acceptMessage message = some request → ConfirmOf fragment request →
      Prompt sent received message inputs → machine.run after inputs = some (last, outputs) →
        ∀ serial ∈ carried, serial ∉ last.eventBuffer.serials

/-- What is left when a transmission has begun. -/
inductive Begun (after : OContext) : Prop
  | response {destination : UInt16}
      (last : after.log.getLast? = some
        (.beginTransmit destination after.sol.tx.lastResponse after.sol.tx.carried))
      (header : after.sol.tx.lastResponse.take 2 =
        [after.sol.tx.control.toByte, FunctionCode.response.toType])
      (waits : after.state = .solicitedConfirmWait ∨ after.sol.tx.control.con = false)
  | unsolicited {destination : UInt16}
      (last : after.log.getLast? = some
        (.beginTransmit destination after.unsol.tx.lastResponse after.unsol.tx.carried))
      (state : after.state = .unsolicitedConfirmWait)
      (null : after.unsol.completedNull = false → after.unsol.tx.carried = [])

variable {config : EventBufferConfig} {environment : Environment} {request : ParsedRequest}
  {context after : OContext} {since : Nat}

omit [FloatOps] in
theorem RespondsWithData.begun {destination : UInt16} {seq : AppSeqNum}
    (responds : RespondsWithData config destination seq context after) : after.Begun := by
  refine @Begun.response _ destination ?_ responds.header ?_
  · rw [responds.log, List.append_cons]
    exact List.getLast?_concat ..
  · exact responds.waits.imp And.left fun idle => idle.2.1

omit [FloatOps] in
theorem RespondsToNonRead.last (responds : RespondsToNonRead request context after) :
    after.log.getLast? = some (.beginTransmit request.addresses.source after.sol.tx.lastResponse
      after.sol.tx.carried) := by
  obtain ⟨calls, log, _⟩ := responds.said
  rw [log, ← List.append_assoc]
  exact List.getLast?_concat ..

omit [FloatOps] in
theorem RespondsToNonRead.begun (responds : RespondsToNonRead request context after) :
    after.Begun :=
  .response responds.last responds.header (.inr (congrArg AppControlField.con responds.control))

/-- A request that is answered is answered by a fragment whose confirm is awaited. -/
theorem begun_of_handles (regular : context.Regular config) (tracks : context.Tracks config since)
    (free : context.isTransmitting = false)
    (other : context.Requests request true true .idle → context.sol.tx.control.con = false)
    (handles : Handles environment request context after) (busy : after.isTransmitting = true) :
    after.Begun ∧ (context.HoldsRead → after.HoldsRead) := by
  obtain ⟨serials, marks⟩ := regular.marks
  have repeats {next : OContext} (isRepeat : true = context.isRepeat request)
      (sol : next.sol = context.sol) (log : next.log = context.log ++ [.beginTransmit
        request.addresses.source context.sol.tx.lastResponse context.sol.tx.carried])
      (waits : next.state = .solicitedConfirmWait ∨ context.sol.tx.control.con = false) :
      next.Begun := by
    have header := (regular.remembers (isRepeat_hasLast isRepeat.symm)).1
    refine @Begun.response _ request.addresses.source ?_ (sol ▸ header) (sol ▸ waits)
    rw [log, sol]
    exact List.getLast?_concat ..
  have answered (requests : context.Requests request false true context.state) :
      context.sol.tx.control.con = false := by
    refine tracks.answered (isRepeat_hasLast requests.isRepeat.symm) ?_
    rw [isRepeat_function requests.isRepeat.symm]
    exact of_decide_eq_false requests.isRead.symm
  have kept {next : OContext} (deferred : next.deferred = context.deferred)
      (holds : context.HoldsRead) : next.HoldsRead := by
    rw [HoldsRead, deferred]
    exact holds
  cases handles with
  | ignored _ | confirmedLast _ _ | confirmedEvents _ _ | confirmedNull _ _ | readHeld _
  | repeatReadHeld _ => cases free.symm.trans busy
  | confirmedMore _ _ continued =>
      have responds := continueMultiFragResponse_responds marks.clearWritten continued
      exact ⟨responds.begun, kept responds.deferred⟩
  | readIdle _ responded =>
      have same : (context.numbered request).eventBuffer.Marks config serials := marks
      have responds := respondToReadRequest_responds same responded
      exact ⟨responds.begun, kept responds.deferred⟩
  | readWaiting _ responded =>
      have same : (context.numbered request).cancelConfirmTimer.eventBuffer.Marks config serials :=
        marks
      have responds := respondToReadRequest_responds same responded
      exact ⟨responds.begun, kept responds.deferred⟩
  | nonReadIdle _ =>
      have responds := respondToNonReadRequest_responds environment (context.numbered request) request
      exact ⟨responds.begun, kept responds.deferred⟩
  | nonReadWaiting _ =>
      have responds := respondToNonReadRequest_responds environment
        (context.numbered request).cancelConfirmTimer request
      exact ⟨.response responds.last responds.header
        (.inr (congrArg AppControlField.con responds.control)), kept responds.deferred⟩
  | nonReadUnsolicited _ =>
      have responds := respondToNonReadRequest_responds environment
        { context.numbered request with deferred := none } request
      refine ⟨responds.begun, fun _ held deferred => ?_⟩
      cases responds.deferred.symm.trans deferred
  | repeatReadIdle requests =>
      exact ⟨repeats requests.isRepeat rfl rfl (.inr (other requests)), kept rfl⟩
  | repeatReadWaiting requests =>
      exact ⟨repeats requests.isRepeat rfl rfl (.inl requests.state), kept rfl⟩
  | repeatNonReadIdle requests | repeatNonReadUnsolicited requests
  | repeatNonReadWaiting requests =>
      refine ⟨repeats requests.isRepeat rfl rfl (.inr (answered ?_)), kept rfl⟩
      exact ⟨requests.isRequest, requests.solicited, requests.isRead, requests.isRepeat, rfl⟩

/-- What is started begins a fragment whose confirm is awaited. -/
theorem begun_of_starts (regular : context.Regular config) (tracks : context.Tracks config since)
    (free : context.isTransmitting = false)
    (other : ∀ request, context.canTransmit = true → context.deferred = some request →
      context.Requests request true true .idle → context.sol.tx.control.con = false)
    (starts : Starts environment context after) (busy : after.isTransmitting = true) :
    after.Begun ∧ after.HoldsRead := by
  obtain ⟨resumed, resumes, reports⟩ := starts
  have reported (reads : resumed.canTransmit = true → resumed.HoldsRead)
      (still : resumed.isTransmitting = false) : after.Begun ∧ after.HoldsRead := by
    have sends (classes : Option ClassField) (can : resumed.canTransmit = true)
        (null : resumed.unsol.completedNull = false →
          (resumed.sendUnsolicited environment classes).unsol.tx.carried = []) :
        (resumed.sendUnsolicited environment classes).Begun ∧
          (resumed.sendUnsolicited environment classes).HoldsRead := by
      have responds := sendUnsolicited_responds environment resumed classes
      refine ⟨@Begun.unsolicited _ resumed.addresses.destination ?_ responds.state fun none => ?_,
        ?_⟩
      · rw [responds.log, List.append_cons]
        exact List.getLast?_concat ..
      · exact null (responds.completedNull.symm.trans none)
      · rw [HoldsRead, responds.deferred]
        exact reads can
    cases reports with
    | nothing => cases still.symm.trans busy
    | null can _ _ => exact sends none can fun _ => rfl
    | events can _ completed _ =>
        refine sends _ can fun none => ?_
        cases completed.symm.trans none
  cases resumes with
  | blocked cannot =>
      refine reported (fun can => ?_) free
      cases cannot.symm.trans can
  | none none =>
      refine reported (fun _ held deferred => ?_) free
      cases none.symm.trans deferred
  | kept deferred isRead _ =>
      refine reported (fun _ held waiting => ?_) free
      obtain rfl := Option.some.inj (deferred.symm.trans waiting)
      exact isRead
  | @handled request handled can deferred _ handles =>
      cases transmits : handled.isTransmitting with
      | false => exact reported (fun _ _ waiting => nomatch waiting) transmits
      | true =>
          have busy : ({ handled with deferred := none } : OContext).isTransmitting = true := transmits
          have same := reports.eq_of_busy busy
          subst same
          refine ⟨?_, fun _ waiting => nomatch waiting⟩
          cases (begun_of_handles regular tracks free (other request can deferred) handles
            transmits).1 with
          | response last header waits => exact .response last header waits
          | unsolicited last state null => exact .unsolicited last state null

omit [FloatOps] in
theorem isTransmitting_sendLoaded {loaded : Loaded} {destination : UInt16} {seq : AppSeqNum}
    {iin : IINField} {response : APDUResponse} :
    (sendLoaded environment loaded destination seq iin response).isTransmitting = true := by
  rw [sendLoaded]
  cases con : loaded.control.con with
  | true => simp only [con, if_true]; rfl
  | false => simp only [con, Bool.false_eq_true, if_false]; rfl

omit [FloatOps] in
/-- A timeout ends the wait, and leaves everything else but the events. -/
theorem onConfirmTimeout_keeps (context : OContext) :
    context.cancelConfirmTimer.onConfirmTimeout.state = .idle ∧
      context.cancelConfirmTimer.onConfirmTimeout.history = context.history ∧
      context.cancelConfirmTimer.onConfirmTimeout.sol = context.sol ∧
      context.cancelConfirmTimer.onConfirmTimeout.deferred = context.deferred ∧
      context.cancelConfirmTimer.onConfirmTimeout.canTransmit = context.canTransmit ∧
      context.cancelConfirmTimer.onConfirmTimeout.log = context.log := by
  rw [onConfirmTimeout_eq]
  exact ⟨rfl, rfl, rfl, rfl, rfl, rfl⟩

/-- A repeat that is held back is about to be handled once the outstation is idle. -/
theorem repeatsUnawaited_of_reacts {input : Input} (held : context.HeldBack)
    (reacts : Reacts environment context input after)
    (can : after.canTransmit = true) (deferred : after.deferred = some request)
    (requests : after.Requests request true true .idle) (con : after.sol.tx.control.con = true) :
    context.RepeatsUnawaited input := by
  have isRead := of_decide_eq_true requests.isRead.symm
  have waits {input : Input} (can : context.canTransmit = true)
      (deferred : context.deferred = some request) (idle : context.state = .idle) :
      context.RepeatsUnawaited input := absurd idle (held.waits can request deferred).2
  have solicited := requests.solicited
  have repeats := requests.isRepeat.symm
  cases reacts with
  | up offline => cases (held.offline offline).symm.trans deferred
  | ignored _ _ => exact waits can deferred requests.state
  | @noAck message other _ _ _ =>
      have kept : Undisturbed context (context.processRequestNoAck environment other) :=
        processRequestNoAck_undisturbed other
      refine waits ?_ (kept.deferred.symm.trans deferred) (kept.state.symm.trans requests.state)
      rw [canTransmit, kept.isOnline, kept.isTransmitting] at can
      exact can
  | deferred _ _ _ busy =>
      have still : context.isTransmitting = false := (canTransmit_iff.mp can).2
      cases busy.symm.trans still
  | handled online _ _ free handles =>
      have transmits := (canTransmit_iff.mp can).2
      have before := canTransmit_iff.mpr ⟨online, free⟩
      cases handles with
      | ignored _ => exact waits before deferred requests.state
      | confirmedLast _ _ | confirmedEvents _ _ | confirmedNull _ _ =>
          cases isRepeat_hasLast repeats
      | readHeld other | repeatReadHeld other => cases other.state.symm.trans requests.state
      | confirmedMore _ _ continued =>
          obtain ⟨loaded, _, rfl⟩ := Option.map_eq_some_iff.mp continued
          rw [isTransmitting_sendLoaded] at transmits
          cases transmits
      | readIdle _ responded | readWaiting _ responded =>
          obtain ⟨loaded, _, rfl⟩ := Option.map_eq_some_iff.mp responded
          rw [isTransmitting_sendLoaded] at transmits
          cases transmits
      | nonReadIdle _ | nonReadWaiting _ | nonReadUnsolicited _ | repeatReadIdle _
      | repeatReadWaiting _ | repeatNonReadIdle _ | repeatNonReadWaiting _
      | repeatNonReadUnsolicited _ => cases transmits
  | txReady online busy =>
      have about : context.requestOf .txReady = some request := by
        simpa [requestOf, online, busy] using deferred
      exact ⟨con, request, isRead, solicited, repeats, .inl ⟨requests.state, about⟩⟩
  | timeout _ =>
      obtain ⟨_, history, sol, waiting, transmits, _⟩ := context.onConfirmTimeout_keeps
      rw [isRepeat, history, sol] at repeats
      exact ⟨sol ▸ con, request, isRead, solicited, repeats,
        .inr ⟨rfl, transmits.symm.trans can, waiting.symm.trans deferred⟩⟩
  | apply _ changed =>
      have session := session_changeAll changed
      rw [session] at can deferred requests
      exact waits can deferred requests.state

/-- Unless a response is repeated that nothing waits for, what an event begins to send is awaited. -/
theorem begun_of_steps {input : Input} (held : context.HeldBack) (regular : context.Regular config)
    (tracks : context.Tracks config since) (stays : ¬context.RepeatsUnawaited input)
    (free : (context.release input).isTransmitting = false) (busy : after.isTransmitting = true)
    (steps : Steps environment context input after) : after.Begun ∧ after.HoldsRead := by
  cases steps with
  | nothing ineffective =>
      cases ineffective with
      | up _ | receive _ | apply => cases free.symm.trans busy
      | down offline => cases offline.symm.trans (regular.online busy)
      | txReady idle =>
          rw [regular.online busy, busy] at idle
          cases idle
  | down online =>
      rw [onLowerLayerDown, if_neg (by simp [online])] at busy
      cases busy
  | setRestartIIN => cases free.symm.trans busy
  | @starts _ reacted _ reacts starts =>
      cases transmits : reacted.isTransmitting with
      | false =>
          refine begun_of_starts (regular.reacts reacts) (tracks.reacts regular reacts) transmits
            (fun request can deferred requests => ?_) starts busy
          by_contra con
          exact stays (repeatsUnawaited_of_reacts held reacts can deferred requests
            (by simpa using con))
      | true =>
          obtain rfl := starts.eq_of_busy transmits
          cases reacts with
          | up _ | ignored _ _ => cases free.symm.trans transmits
          | deferred _ _ _ still => cases free.symm.trans still
          | txReady _ _ => cases transmits
          | @noAck message request _ _ _ =>
              have kept : Undisturbed context (context.processRequestNoAck environment request) :=
                processRequestNoAck_undisturbed request
              cases free.symm.trans (kept.isTransmitting.symm.trans transmits)
          | @handled message request _ online accepted acked still handles =>
              have about : context.requestOf (.receive message) = some request := by
                simp [requestOf, online, still, accepted, acked]
              obtain ⟨begun, reads⟩ := begun_of_handles regular tracks still (fun requests => by
                by_contra con
                exact stays ⟨by simpa using con, request, of_decide_eq_true requests.isRead.symm,
                  requests.solicited, requests.isRepeat.symm, .inl ⟨requests.state, about⟩⟩)
                handles transmits
              exact ⟨begun, reads (held.holds still)⟩
          | timeout _ =>
              have same : context.cancelConfirmTimer.onConfirmTimeout.isTransmitting =
                  context.isTransmitting := by
                rw [onConfirmTimeout]
                split
                · rfl
                · rfl
                · split <;> rfl
              cases free.symm.trans (same.symm.trans transmits)
          | apply _ changed =>
              rw [session_changeAll changed] at transmits
              cases free.symm.trans transmits

/-! ## Prompt confirms -/

omit [FloatOps] in
/-- Whether a confirm clears events depends on what is awaited. -/
theorem ClearsEvents.carry {other : OContext} (clears : context.ClearsEvents request)
    (state : other.state = context.state) (sol : other.sol = context.sol)
    (unsol : other.unsol = context.unsol) : other.ClearsEvents request := by
  rcases clears with awaits | ⟨awaits, completed⟩
  · exact .inl ⟨awaits.isConfirm, state.trans awaits.state, awaits.solicited, sol ▸ awaits.seq⟩
  · exact .inr ⟨⟨awaits.isConfirm, state.trans awaits.state, awaits.unsolicited,
      unsol ▸ awaits.seq⟩, unsol ▸ completed⟩

/-- What a confirm that clears events leaves of them. -/
theorem serials_of_clears {serials : List Nat} (marks : context.eventBuffer.Marks config serials)
    (clears : context.ClearsEvents request) (handles : Handles environment request context after) :
    after.eventBuffer.serials = context.eventBuffer.clearWritten.serials := by
  have isConfirm : request.header.function = .confirm :=
    clears.elim (·.isConfirm) (·.1.isConfirm)
  cases handles with
  | confirmedLast _ _ | confirmedEvents _ _ => rfl
  | confirmedMore _ _ continued =>
      exact (continueMultiFragResponse_responds marks.clearWritten continued).serials
  | confirmedNull awaits open_ =>
      rcases clears with solicited | ⟨_, completed⟩
      · cases solicited.state.symm.trans awaits.state
      · cases open_.symm.trans completed
  | ignored ignores =>
      cases ignores with
      | confirm _ solicited unsolicited =>
          rcases clears with awaits | ⟨awaits, _⟩
          · exact absurd awaits solicited
          · exact absurd awaits unsolicited
      | unsolicited isRequest _ => exact absurd isConfirm isRequest
  | readIdle requests _ | readWaiting requests _ | readHeld requests | nonReadIdle requests
  | nonReadWaiting requests | nonReadUnsolicited requests | repeatReadIdle requests
  | repeatReadWaiting requests | repeatReadHeld requests | repeatNonReadIdle requests
  | repeatNonReadWaiting requests | repeatNonReadUnsolicited requests =>
      exact absurd isConfirm requests.isRequest

/-- A confirm that is handled while nothing is transmitted clears the events, and what is started
afterwards leaves the others. -/
theorem serials_of_receive {message : Message} {serials : List Nat}
    (marks : context.eventBuffer.Marks config serials) (held : context.HeldBack)
    (regular : context.Regular config) (free : context.isTransmitting = false)
    (online : context.isOnline = true) (accepted : context.acceptMessage message = some request)
    (clears : context.ClearsEvents request)
    (steps : Steps environment context (.receive message) after) :
    after.eventBuffer.serials = context.eventBuffer.clearWritten.serials := by
  have isConfirm : request.header.function = .confirm :=
    clears.elim (·.isConfirm) (·.1.isConfirm)
  cases steps with
  | nothing ineffective =>
      cases ineffective with
      | receive offline => cases offline.symm.trans online
  | starts reacts starts =>
      have reads := holds_of_reacts held regular (by rintro ⟨⟩) reacts
      have kept := serials_of_starts (regular.reacts reacts) (fun request can deferred =>
        not_awaits_of_read (reads (canTransmit_iff.mp can).2 request deferred)) starts
      refine kept.trans ?_
      cases reacts with
      | ignored _ refused => cases refused.symm.trans accepted
      | deferred _ _ _ busy => cases free.symm.trans busy
      | noAck _ other noAck =>
          obtain rfl := Option.some.inj (other.symm.trans accepted)
          rw [isConfirm] at noAck
          cases noAck
      | handled _ other _ _ handles =>
          obtain rfl := Option.some.inj (other.symm.trans accepted)
          exact serials_of_clears marks clears handles

/-- The same when the confirm was held back, and the transmission is done. -/
theorem serials_of_txReady {serials : List Nat}
    (marks : context.eventBuffer.Marks config serials) (regular : context.Regular config)
    (online : context.isOnline = true) (busy : context.isTransmitting = true)
    (deferred : context.deferred = some request) (clears : context.ClearsEvents request)
    (steps : Steps environment context .txReady after) :
    after.eventBuffer.serials = context.eventBuffer.clearWritten.serials := by
  have isConfirm : request.header.function = .confirm :=
    clears.elim (·.isConfirm) (·.1.isConfirm)
  cases steps with
  | nothing ineffective =>
      cases ineffective with
      | txReady idle =>
          rw [online, busy] at idle
          cases idle
  | starts reacts starts =>
      have regularly := regular.reacts reacts
      cases reacts with
      | txReady _ _ =>
          obtain ⟨resumed, resumes, reports⟩ := starts
          obtain ⟨later, marked⟩ := (regularly.resumes resumes).marks
          refine (serials_of_reports marked reports).trans ?_
          have same : EventBuffer.Marks config serials
              (OContext.eventBuffer { context with isTransmitting := false }) := marks
          have held : OContext.deferred { context with isTransmitting := false } =
            some request := deferred
          cases resumes with
          | blocked cannot => cases cannot.symm.trans (canTransmit_iff.mpr ⟨online, rfl⟩)
          | none none => cases none.symm.trans held
          | kept other isRead _ =>
              obtain rfl := Option.some.inj (other.symm.trans held)
              cases isRead.symm.trans isConfirm
          | @handled request _ _ other _ handles =>
              obtain rfl := Option.some.inj (other.symm.trans held)
              have cleared : ClearsEvents { context with isTransmitting := false } request :=
                clears.carry rfl rfl rfl
              have left := serials_of_clears same cleared handles
              exact left

/-- A prompt confirm leaves none of the events that it clears. -/
theorem serials_of_prompt {sent received : Environment} {message : Message} {last : OContext}
    {inputs : List (Environment × Input)} {outputs : List (List Activity)} {serials : List Nat}
    (marks : context.eventBuffer.Marks config serials) (held : context.HeldBack)
    (regular : context.Regular config) (reads : context.HoldsRead)
    (busy : context.isTransmitting = true) (waits : context.state ≠ .idle)
    (accepted : context.acceptMessage message = some request)
    (clears : context.ClearsEvents request) (prompt : Prompt sent received message inputs)
    (ran : machine.run context inputs = some (last, outputs)) :
    last.eventBuffer.serials = context.eventBuffer.clearWritten.serials := by
  have online := regular.online busy
  have isConfirm : request.header.function = .confirm :=
    clears.elim (·.isConfirm) (·.1.isConfirm)
  have acked : request.header.function.isNoAckFuncCode = false := by
    rw [isConfirm]
    rfl
  have both {one two : Environment × Input} (ran : machine.run context [one, two] =
      some (last, outputs)) :
      ∃ middle, Steps one.1 context one.2 middle ∧ Steps two.1 middle two.2 last := by
    obtain ⟨⟨middle, output⟩, first, more⟩ := Option.bind_eq_some_iff.mp ran
    obtain ⟨⟨_, others⟩, rest, same⟩ := Option.map_eq_some_iff.mp more
    obtain ⟨rfl, _⟩ := Prod.mk.inj same
    obtain ⟨⟨final, output⟩, second, done⟩ := Option.bind_eq_some_iff.mp rest
    obtain ⟨_, nothing, same⟩ := Option.map_eq_some_iff.mp done
    cases nothing
    obtain ⟨rfl, _⟩ := Prod.mk.inj same
    obtain ⟨_, stepped, same⟩ := Option.map_eq_some_iff.mp first
    obtain ⟨rfl, _⟩ := Prod.mk.inj same
    obtain ⟨_, again, same⟩ := Option.map_eq_some_iff.mp second
    obtain ⟨rfl, _⟩ := Prod.mk.inj same
    exact ⟨_, steps_of_step stepped, steps_of_step again⟩
  cases prompt with
  | after =>
      obtain ⟨middle, first, second⟩ := both ran
      have heldThere := held.steps regular first
      have regularThere := regular.steps first
      have same : middle = { context with isTransmitting := false } := by
        cases first with
        | nothing ineffective =>
            cases ineffective with
            | txReady idle =>
                rw [online, busy] at idle
                cases idle
        | starts reacts starts =>
            cases reacts with
            | txReady _ _ =>
                have still : HoldsRead { context with isTransmitting := false } := reads
                exact starts.eq_of_waits waits fun _ => still
      subst same
      have marked : EventBuffer.Marks config serials
          (OContext.eventBuffer { context with isTransmitting := false }) := marks
      have cleared : ClearsEvents { context with isTransmitting := false } request :=
        clears.carry rfl rfl rfl
      have same : OContext.acceptMessage { context with isTransmitting := false } message =
        some request := accepted
      have left := serials_of_receive marked heldThere regularThere rfl online same cleared second
      exact left
  | before =>
      obtain ⟨middle, first, second⟩ := both ran
      have regularThere := regular.steps first
      have same : middle = context.defer request := by
        cases first with
        | nothing ineffective =>
            cases ineffective with
            | receive offline => cases offline.symm.trans online
        | starts reacts starts =>
            cases reacts with
            | ignored _ refused => cases refused.symm.trans accepted
            | noAck _ other noAck =>
                obtain rfl := Option.some.inj (other.symm.trans accepted)
                cases noAck.symm.trans acked
            | deferred _ other _ _ =>
                obtain rfl := Option.some.inj (other.symm.trans accepted)
                exact starts.eq_of_busy busy
            | handled _ _ _ free _ => cases free.symm.trans busy
      subst same
      have marked : (context.defer request).eventBuffer.Marks config serials := marks
      have cleared : (context.defer request).ClearsEvents
          (request.copyTo context.params.maxRxFragSize) := by
        refine clears.imp ?_ ?_
        · exact fun waits => ⟨waits.isConfirm, waits.state, waits.solicited, waits.seq⟩
        · exact fun ⟨waits, completed⟩ =>
            ⟨⟨waits.isConfirm, waits.state, waits.unsolicited, waits.seq⟩, completed⟩
      have deferred : (context.defer request).deferred =
        some (request.copyTo context.params.maxRxFragSize) := rfl
      have left := serials_of_txReady marked regularThere online busy deferred cleared second
      exact left

/-! ## Fragments that ask for a confirm -/

/-- A fragment that asks for a confirm is awaited. -/
theorem Begun.waitsFor {destination : UInt16} {fragment : List UInt8} {carried : List Nat}
    (begun : after.Begun) (reads : after.HoldsRead) (held : after.HeldBack)
    (regular : after.Regular config) (tracks : after.Tracks config since) (timed : after.Timed)
    (busy : after.isTransmitting = true)
    (last : after.log.getLast? = some (.beginTransmit destination fragment carried))
    (con : (AppControlField.ofByte (fragment.headD 0)).con = true) :
    after.WaitsFor fragment carried := by
  obtain ⟨serials, marks⟩ := regular.marks
  have gone {carried serials : List Nat} (exact : after.eventBuffer.MarksExactly config carried)
      (left : serials = after.eventBuffer.clearWritten.serials) :
      ∀ serial ∈ carried, serial ∉ serials := by
    intro serial member found
    rw [left] at found
    obtain ⟨record, present, rfl⟩ := List.mem_map.mp found
    exact (exact.mem_clearWritten.mp present).2 member
  cases begun with
  | response same header waits =>
      cases last.symm.trans same
      have awaited : after.state = .solicitedConfirmWait := by
        refine waits.resolve_right fun none => ?_
        obtain ⟨rest, parts⟩ : ∃ rest, after.sol.tx.lastResponse =
            after.sol.tx.control.toByte :: rest := by
          cases response : after.sol.tx.lastResponse with
          | nil =>
              rw [response] at header
              cases header
          | cons first rest =>
              rw [response] at header
              exact ⟨rest, congrArg (· :: rest) (List.cons.inj header).1⟩
        rw [parts, List.headD_cons, AppControlField.ofByte_toByte_mod] at con
        cases none.symm.trans con
      obtain ⟨exact, _, _, uns, seq, small, _⟩ := tracks.solicited awaited
      have control := control_of_header header small
      have second : after.sol.tx.lastResponse[1]? = some FunctionCode.response.toType := by
        have found := congrArg (·[1]?) header
        simpa [List.getElem?_take_of_lt (show 1 < 2 by decide)] using found
      refine ⟨⟨.response, by rw [awaited]; rfl, second⟩, ?_,
        timed.running (ne_of_eq_of_ne awaited nofun), ?_⟩
      · rw [awaitedSeq, awaited, control, seq]
      · intro sent received message request inputs final outputs accepted confirm prompt ran
        have clears : after.ClearsEvents request := by
          refine .inl ⟨confirm.isConfirm, awaited, ?_, ?_⟩
          · rw [confirm.uns, control, uns]
          · rw [confirm.seq, control, seq]
        exact gone exact (serials_of_prompt marks held regular reads busy
          (ne_of_eq_of_ne awaited nofun) accepted clears prompt ran)
  | unsolicited same state null =>
      cases last.symm.trans same
      obtain ⟨exact, header, made, small, _⟩ := tracks.unsolicited state
      have control := control_of_header header small
      have second : after.unsol.tx.lastResponse[1]? =
          some FunctionCode.unsolicitedResponse.toType := by
        have found := congrArg (·[1]?) header
        simpa [List.getElem?_take_of_lt (show 1 < 2 by decide)] using found
      refine ⟨⟨.unsolicitedResponse, by rw [state]; rfl, second⟩, ?_,
        timed.running (ne_of_eq_of_ne state nofun), ?_⟩
      · rw [awaitedSeq, state, control, made]
      · intro sent received message request inputs final outputs accepted confirm prompt ran
        cases completed : after.unsol.completedNull with
        | false =>
            rw [null completed]
            exact fun _ member => absurd member List.not_mem_nil
        | true =>
            have clears : after.ClearsEvents request := by
              refine .inr ⟨⟨confirm.isConfirm, state, ?_, ?_⟩, completed⟩
              · rw [confirm.uns, control, made]
              · rw [confirm.seq, control, made]
            exact gone (exact completed) (serials_of_prompt marks held regular reads busy
              (ne_of_eq_of_ne state nofun) accepted clears prompt ran)

omit [FloatOps] in
/-- The only fragment that an event begins to send is the last thing that it does. -/
theorem Transmits.last {answered : UInt16 → Prop} {destination : UInt16} {fragment : List UInt8}
    {carried : List Nat} (transmits : Transmits answered context after)
    (member : .beginTransmit destination fragment carried ∈ after.log.drop context.log.length) :
    context.isTransmitting = false ∧ after.isTransmitting = true ∧
      after.log.getLast? = some (.beginTransmit destination fragment carried) := by
  have only {calls : List Activity} {activity : Activity} (silent : Silent calls)
      (log : after.log = context.log ++ (calls ++ [activity])) :
      after.log.getLast? = some (.beginTransmit destination fragment carried) := by
    rw [log, List.drop_left] at member
    rcases List.mem_append.mp member with early | late
    · cases silent _ early
    · rw [List.mem_singleton.mp late, log, ← List.append_assoc]
      exact List.getLast?_concat ..
  cases transmits with
  | silent log silent _ =>
      rw [log, List.drop_left] at member
      cases silent _ member
  | responds log silent _ free busy => exact ⟨free, busy, only silent log⟩
  | reports log silent _ free busy => exact ⟨free, busy, only silent log⟩

theorem processRequest_repeats (idle : context.state = .idle)
    (isRead : request.header.function = .read) (solicited : request.header.control.uns = false)
    (repeats : context.isRepeat request = true) :
    context.processRequest environment request =
      some (context.repeatResponseTx request.addresses.source) := by
  rw [processRequest, solicited, if_neg Bool.false_ne_true, onReceiveSolRequest, repeats,
    if_pos rfl, if_pos isRead, onRepeatReadRequest, idle]

/-- A response that is repeated while nothing is awaited is all that is sent. -/
theorem checkForTaskStart_repeats (can : context.canTransmit = true) (idle : context.state = .idle)
    (deferred : context.deferred = some request) (isRead : request.header.function = .read)
    (solicited : request.header.control.uns = false) (repeats : context.isRepeat request = true) :
    context.checkForTaskStart environment =
      some { context.repeatResponseTx request.addresses.source with deferred := none } := by
  have processed : context.processRequest environment request = _ :=
    processRequest_repeats idle isRead solicited repeats
  have resumed : context.processDeferredRequest environment request =
      some (context.repeatResponseTx request.addresses.source, true) := by
    rw [processDeferredRequest, if_neg (by simp [isRead]), if_pos isRead, if_pos idle, processed]
    rfl
  rw [checkForTaskStart, checkForDeferredRequest, if_pos can, deferred]
  simp only [resumed, Option.map_some, if_true]
  rw [checkForUnsolicited, if_neg]
  rintro ⟨transmits, _⟩
  have busy := (canTransmit_iff.mp transmits).2
  cases busy

/-- A response that is repeated while nothing is awaited leaves nothing awaited. -/
theorem RepeatsUnawaited.sends {input : Input} (repeats : context.RepeatsUnawaited input)
    (success : context.step environment input = some after) :
    after.state = .idle ∧ ∃ destination,
      after.log = context.log ++ [.beginTransmit destination context.sol.tx.lastResponse
        context.sol.tx.carried] := by
  obtain ⟨con, request, isRead, solicited, isRepeat, ⟨idle, about⟩ | ⟨rfl, can, deferred⟩⟩ :=
    repeats
  · cases input with
    | receive message =>
        simp only [requestOf] at about
        split at about
        · next receives =>
            obtain ⟨online, free⟩ : context.isOnline = true ∧ context.isTransmitting = false := by
              simpa using receives
            obtain ⟨accepted, acked⟩ := Option.filter_eq_some_iff.mp about
            have noAck : request.header.function.isNoAckFuncCode = false := by simpa using acked
            have processed : context.processMessage environment message =
                some (context.repeatResponseTx request.addresses.source) := by
              have objects : context.processObjects environment request =
                  context.processRequest environment request := by
                rw [processObjects, if_neg (by simp [noAck]), if_neg (by simp [free]),
                  if_neg (by simp [isRead])]
              rw [processMessage, accepted]
              exact objects.trans (processRequest_repeats idle isRead solicited isRepeat)
            have received : context.onReceive environment message =
                (context.repeatResponseTx request.addresses.source).checkForTaskStart
                  environment := by
              rw [onReceive, online, processed]
              rfl
            have started := starts_of_checkForTaskStart (received.symm.trans success)
            rw [started.eq_of_busy rfl]
            exact ⟨idle, _, rfl⟩
        · cases about
    | txReady =>
        simp only [requestOf] at about
        split at about
        · next transmits =>
            obtain ⟨online, busy⟩ : context.isOnline = true ∧ context.isTransmitting = true := by
              simpa using transmits
            have ready : context.onTxReady environment =
                checkForTaskStart environment { context with isTransmitting := false } := by
              rw [onTxReady, online, busy]
              rfl
            have started := ready.symm.trans success
            have here : OContext.canTransmit { context with isTransmitting := false } = true :=
              canTransmit_iff.mpr ⟨online, rfl⟩
            have resent : checkForTaskStart environment { context with isTransmitting := false } =
                _ := checkForTaskStart_repeats here idle about isRead solicited isRepeat
            obtain rfl := Option.some.inj (resent.symm.trans started)
            exact ⟨idle, _, rfl⟩
        · cases about
    | lowerLayerUp | lowerLayerDown | confirmTimeout | apply _ | setRestartIIN => cases about
  · obtain ⟨idle, history, sol, waiting, transmits, log⟩ := context.onConfirmTimeout_keeps
    have timedOut : context.cancelConfirmTimer.onConfirmTimeout.checkForTaskStart environment =
        some after := by
      simp only [step, onTimeout] at success
      split at success
      · exact success
      · cases success
    have still : context.cancelConfirmTimer.onConfirmTimeout.isRepeat request = true := by
      rw [OContext.isRepeat, history, sol]
      exact isRepeat
    have resent : checkForTaskStart environment context.cancelConfirmTimer.onConfirmTimeout = _ :=
      checkForTaskStart_repeats (transmits.trans can) idle (waiting.trans deferred) isRead solicited
        still
    obtain rfl := Option.some.inj (resent.symm.trans timedOut)
    refine ⟨idle, request.addresses.source, ?_⟩
    rw [repeatResponseTx, beginTx, log, sol]

/-- The outstation waits for the confirm of every fragment that asks for one. -/
def AwaitsAll (output : List Activity) (after : OContext) : Prop :=
  ∀ destination fragment carried, .beginTransmit destination fragment carried ∈ output →
    (AppControlField.ofByte (fragment.headD 0)).con = true → after.WaitsFor fragment carried

theorem timed_of_reaches {addresses : Addresses} {params : OutstationParams}
    {database : DatabaseBuffers}
    (reached : machine.Reaches (initial addresses params config database) context) :
    context.Timed := by
  have both := @Machine.ReachesWhile.invariant _ _ _ _ _ _ _
    (fun context => context.Timed ∧ context.Regular config) reached
    ⟨timed_of_stopped rfl rfl, regular_initial ..⟩ fun both _ success => by
      refine ⟨?_, both.2.step success⟩
      obtain ⟨_, stepped, same⟩ := Option.map_eq_some_iff.mp success
      obtain ⟨rfl, _⟩ := Prod.mk.inj same
      exact both.1.steps both.2 (steps_of_step stepped)
  exact both.1

/-- In every run, the outstation waits for the confirm of every fragment that asks for one, exactly
unless it repeats the response to a READ while it waits for nothing. -/
theorem awaitsAll_iff {addresses : Addresses} {params : OutstationParams}
    {database : DatabaseBuffers} {input : Environment × Input} {output : List Activity}
    (reached : machine.Reaches (initial addresses params config database) context)
    (success : machine.step context input = some (after, output)) :
    after.AwaitsAll output ↔ ¬context.RepeatsUnawaited input.2 := by
  have regular := regular_of_reaches reached
  have held := heldBack_of_reaches reached
  obtain ⟨since, _, tracks⟩ := exists_tracks_of_reaches reached
  have later := Machine.ReachesWhile.step reached trivial success
  obtain ⟨_, _, tracksLater⟩ := exists_tracks_of_reaches later
  obtain ⟨final, stepped, same⟩ := Option.map_eq_some_iff.mp success
  obtain ⟨rfl, rfl⟩ := Prod.mk.inj same
  have steps := steps_of_step stepped
  refine ⟨fun awaits repeats => ?_, fun stays destination fragment carried member con => ?_⟩
  · obtain ⟨idle, destination, log⟩ := repeats.sends stepped
    obtain ⟨con, request, _, _, isRepeat, _⟩ := repeats
    obtain ⟨header, _⟩ := regular.remembers (isRepeat_hasLast isRepeat)
    have asks : (AppControlField.ofByte (context.sol.tx.lastResponse.headD 0)).con = true := by
      cases response : context.sol.tx.lastResponse with
      | nil =>
          rw [response] at header
          cases header
      | cons first rest =>
          rw [response] at header
          rw [List.headD_cons, (List.cons.inj header).1, AppControlField.ofByte_toByte_mod]
          exact con
    have member : Activity.beginTransmit destination context.sol.tx.lastResponse
        context.sol.tx.carried ∈ final.log.drop context.log.length := by
      rw [log, List.drop_left]
      exact List.mem_singleton_self _
    obtain ⟨function, waits, _⟩ := (awaits _ _ _ member asks).state
    rw [idle] at waits
    cases waits
  · obtain ⟨free, busy, last⟩ := (Transmits.steps regular steps).last member
    obtain ⟨begun, reads⟩ := begun_of_steps held regular tracks stays free busy steps
    exact begun.waitsFor reads (heldBack_of_reaches later) (regular_of_reaches later) tracksLater
      (timed_of_reaches later) busy last con

end honouring

/-- The response to a READ of events asks for a confirm. -/
theorem awaitsAll_read :
    ∃ context after : OContext, ∃ output,
      (@machine .atZero).Reaches (.onePoint {}) context ∧
        (@machine .atZero).step context (.atZero, .fragment [0xC0, 1, 60, 2, 6]) =
          some (after, output) ∧
        (∃ destination fragment carried, .beginTransmit destination fragment carried ∈ output ∧
          (AppControlField.ofByte (fragment.headD 0)).con = true) ∧
        (@AwaitsAll .atZero output after ↔
          ¬context.RepeatsUnawaited (.fragment [0xC0, 1, 60, 2, 6])) := by
  obtain ⟨context, reached, checked⟩ :=
    @Machine.exists_reaches_of_run _ _ _ (@machine .atZero) (.onePoint {})
      (fun context =>
        ((@machine .atZero).step context (.atZero, .fragment [0xC0, 1, 60, 2, 6])).any
          (·.2.any fun
            | .beginTransmit _ fragment _ => (AppControlField.ofByte (fragment.headD 0)).con
            | .call _ => false))
      (List.map (Environment.atZero, ·) [.lowerLayerUp, .binaryEvent])
      (by decide +kernel)
  obtain ⟨⟨after, output⟩, success, some⟩ := (Option.any_eq_true _ _).mp checked
  obtain ⟨activity, member, asks⟩ := List.any_eq_true.mp some
  refine ⟨context, after, output, reached, success, ?_,
    @awaitsAll_iff .atZero _ _ _ _ _ _ _ _ reached success⟩
  cases activity with
  | call _ => cases asks
  | beginTransmit destination fragment carried => exact ⟨destination, fragment, carried, member, asks⟩

/-- A READ of events is repeated after the wait for the confirm of its response has timed out. The
response asks for the confirm again, and the outstation is idle. -/
theorem not_awaitsAll :
    ¬∀ (context after : OContext) (output : List Activity),
      (@machine .atZero).Reaches (.onePoint {}) context →
        (@machine .atZero).step context (.atZero, .fragment [0xC0, 1, 60, 2, 6]) =
          some (after, output) →
        @AwaitsAll .atZero output after := by
  intro all
  obtain ⟨context, reached, checked⟩ :=
    @Machine.exists_reaches_of_run _ _ _ (@machine .atZero) (.onePoint {})
      (fun context =>
        ((@machine .atZero).step context (.atZero, .fragment [0xC0, 1, 60, 2, 6])).any
          fun result => result.1.state == .idle && result.2.any fun
            | .beginTransmit _ fragment _ => (AppControlField.ofByte (fragment.headD 0)).con
            | .call _ => false)
      (List.map (Environment.atZero, ·)
        [.lowerLayerUp, .binaryEvent, .fragment [0xC0, 1, 60, 2, 6], .txReady, .confirmTimeout])
      (by decide +kernel)
  obtain ⟨⟨after, output⟩, success, found⟩ := (Option.any_eq_true _ _).mp checked
  obtain ⟨idle, some⟩ := Bool.and_eq_true_iff.mp found
  obtain ⟨activity, member, asks⟩ := List.any_eq_true.mp some
  cases activity with
  | call _ => cases asks
  | beginTransmit destination fragment carried =>
      have awaited := all _ _ _ reached success _ _ _ member asks
      obtain ⟨function, waits, _⟩ := @WaitsFor.state .atZero _ _ _ awaited
      rw [beq_iff_eq.mp idle] at waits
      cases waits

end OContext

end OpenDnp3.Outstation
