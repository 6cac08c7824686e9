import OpenDnp3.Outstation.HeldRequests

/-!
# Deferral

What arrives while an unsolicited response is being transmitted has to wait, and
there is one place to wait. Of a confirm and a READ that both arrive, the one that
comes second takes the place of the first.
-/

set_option autoImplicit false

namespace OpenDnp3.Outstation

open OpenDnp3.App OpenDnp3.Library

namespace OContext

/-! ## What is lost -/

/-- An event that says nothing to the outstation, and does not end a transmission. -/
def Quiet (context : OContext) : Input → Prop
  | .lowerLayerUp | .confirmTimeout | .apply _ | .setRestartIIN => True
  | .receive message => context.acceptMessage message = none
  | .lowerLayerDown | .txReady => False

/-- The confirm is one of the unsolicited response that was sent last. -/
structure Confirms (context : OContext) (confirm : ParsedRequest) : Prop where
  isConfirm : confirm.header.function = .confirm
  unsolicited : confirm.header.control.uns = true
  seq : confirm.header.control.seq = context.unsol.tx.control.seq

/-- The confirm has taken effect: the events are cleared, or the first response, which carries
none, is completed. -/
def TakesEffect (start after : OContext) : Prop :=
  if start.unsol.completedNull then
    ∀ serial ∈ start.unsol.tx.carried, serial ∉ after.eventBuffer.serials
  else after.unsol.completedNull = true

/-- A response to a READ is among what the outstation does. -/
def Answers (read : ParsedRequest) (activities : List Activity) : Prop :=
  ∃ fragment control carried, .beginTransmit read.addresses.source fragment carried ∈ activities ∧
    fragment.take 2 = [control, FunctionCode.response.toType] ∧
    (AppControlField.ofByte control).seq = read.header.control.seq

/-- Neither the confirm nor the READ is lost. -/
structure NothingLost (read : ParsedRequest) (start after : OContext)
    (activities : List Activity) : Prop where
  confirm : TakesEffect start after
  read : Answers read activities ∨
    after.deferred = some (read.copyTo start.params.maxRxFragSize)

section exchange

variable [FloatOps]

/-- Nothing but quiet events, and then a request. -/
def Receives (request : ParsedRequest) (context after : OContext) : Prop :=
  ∃ before environment message output,
    machine.ReachesWhile (fun context input => context.Quiet input.2) context before ∧
      before.acceptMessage message = some request ∧
      machine.step before (environment, .receive message) = some (after, output)

/-- Two requests arrive during a transmission. -/
def Exchange (first second : ParsedRequest) (start last : OContext) : Prop :=
  ∃ between both, Receives first start between ∧ Receives second between both ∧
    machine.ReachesWhile (fun context input => context.Quiet input.2) both last

/-! ## During the transmission -/

/-- The unsolicited response is still being transmitted. -/
structure Transmitting (start context : OContext) : Prop where
  online : context.isOnline = true
  busy : context.isTransmitting = true
  state : context.state ≠ .solicitedConfirmWait
  unsol : context.unsol = start.unsol
  params : context.params = start.params

variable {environment : Environment} {request : ParsedRequest}
  {start context after last : OContext}

omit [FloatOps] in
theorem Transmitting.timeout (transmitting : Transmitting start context) :
    Transmitting start context.cancelConfirmTimer.onConfirmTimeout ∧
      context.cancelConfirmTimer.onConfirmTimeout.deferred = context.deferred := by
  obtain ⟨online, busy, state, unsol, params⟩ := transmitting
  rw [onConfirmTimeout]
  split
  · exact ⟨⟨online, busy, state, unsol, params⟩, rfl⟩
  · exact ⟨⟨online, busy, by rintro ⟨⟩, unsol, params⟩, rfl⟩
  · split
    · exact ⟨⟨online, busy, by rintro ⟨⟩, unsol, params⟩, rfl⟩
    · exact ⟨⟨online, busy, by rintro ⟨⟩, unsol, params⟩, rfl⟩

theorem Transmitting.quiet {input : Input} (transmitting : Transmitting start context)
    (quiet : context.Quiet input) (success : context.step environment input = some after) :
    Transmitting start after ∧ after.deferred = context.deferred := by
  cases steps_of_step success with
  | nothing _ => exact ⟨transmitting, rfl⟩
  | down _ => exact quiet.elim
  | setRestartIIN =>
      obtain ⟨online, busy, state, unsol, params⟩ := transmitting
      exact ⟨⟨online, busy, state, unsol, params⟩, rfl⟩
  | @starts _ reacted _ reacts starts =>
      cases reacts with
      | up offline => cases offline.symm.trans transmitting.online
      | ignored _ _ =>
          rw [starts.eq_of_busy transmitting.busy]
          exact ⟨transmitting, rfl⟩
      | noAck _ accepted _ | deferred _ accepted _ _ | handled _ accepted _ _ _ =>
          cases accepted.symm.trans quiet
      | txReady _ _ => exact quiet.elim
      | timeout _ =>
          obtain ⟨waiting, deferred⟩ := transmitting.timeout
          rw [starts.eq_of_busy waiting.busy]
          exact ⟨waiting, deferred⟩
      | apply _ changed =>
          obtain ⟨online, busy, state, unsol, params⟩ := transmitting
          have same := session_changeAll changed
          have still : reacted.isTransmitting = true := by
            rw [same]
            exact busy
          rw [starts.eq_of_busy still, same]
          exact ⟨⟨online, busy, state, unsol, params⟩, rfl⟩

theorem Transmitting.receive {message : Message} (transmitting : Transmitting start context)
    (accepted : context.acceptMessage message = some request)
    (acked : request.header.function.isNoAckFuncCode = false)
    (success : context.step environment (.receive message) = some after) :
    after = context.defer request := by
  cases steps_of_step success with
  | nothing ineffective =>
      cases ineffective with
      | receive offline => cases offline.symm.trans transmitting.online
  | starts reacts starts =>
      cases reacts with
      | ignored _ refused => cases refused.symm.trans accepted
      | noAck _ other noAck =>
          obtain rfl := Option.some.inj (other.symm.trans accepted)
          cases noAck.symm.trans acked
      | deferred _ other _ _ =>
          obtain rfl := Option.some.inj (other.symm.trans accepted)
          exact starts.eq_of_busy transmitting.busy
      | handled _ _ _ free _ => cases free.symm.trans transmitting.busy

theorem Transmitting.run
    (reached : machine.ReachesWhile (fun context input => context.Quiet input.2) context after)
    (transmitting : Transmitting start context) :
    Transmitting start after ∧ after.deferred = context.deferred := by
  have kept {before after : OContext} {input : Environment × Input} {output : List Activity}
      (still : Transmitting start before ∧ before.deferred = context.deferred)
      (quiet : before.Quiet input.2)
      (success : machine.step before input = some (after, output)) :
      Transmitting start after ∧ after.deferred = context.deferred := by
    obtain ⟨still, same⟩ := still
    obtain ⟨_, stepped, out⟩ := Option.map_eq_some_iff.mp success
    obtain ⟨rfl, _⟩ := Prod.mk.inj out
    obtain ⟨kept, deferred⟩ := still.quiet quiet stepped
    exact ⟨kept, deferred.trans same⟩
  exact reached.invariant ⟨transmitting, rfl⟩ kept

/-- A request that arrives takes the place of any other that waits. -/
theorem Transmitting.receives (transmitting : Transmitting start context)
    (acked : request.header.function.isNoAckFuncCode = false)
    (receives : Receives request context after) :
    Transmitting start after ∧
      after.deferred = some (request.copyTo start.params.maxRxFragSize) := by
  obtain ⟨before, environment, message, output, quiet, accepted, success⟩ := receives
  obtain ⟨still, _⟩ := transmitting.run quiet
  obtain ⟨_, stepped, out⟩ := Option.map_eq_some_iff.mp success
  obtain ⟨rfl, _⟩ := Prod.mk.inj out
  obtain rfl := still.receive accepted acked stepped
  obtain ⟨online, busy, state, unsol, params⟩ := still
  exact ⟨⟨online, busy, state, unsol, params⟩, by rw [defer, params]⟩

/-- When the transmission is done, the request that came second waits. -/
theorem Transmitting.exchange {first second : ParsedRequest} (transmitting : Transmitting start start)
    (acked : first.header.function.isNoAckFuncCode = false ∧
      second.header.function.isNoAckFuncCode = false)
    (exchange : Exchange first second start last) :
    Transmitting start last ∧
      last.deferred = some (second.copyTo start.params.maxRxFragSize) := by
  obtain ⟨between, both, one, two, quiet⟩ := exchange
  obtain ⟨waits, deferred⟩ := (transmitting.receives acked.1 one).1.receives acked.2 two
  obtain ⟨still, same⟩ := waits.run quiet
  exact ⟨still, same.trans deferred⟩

theorem Receives.below (receives : Receives request context after) :
    request.header.control.seq < 16 := by
  obtain ⟨_, _, _, _, _, accepted, _⟩ := receives
  exact seq_of_acceptMessage accepted

theorem Regular.exchange {config : EventBufferConfig} {first second : ParsedRequest}
    (regular : start.Regular config) (exchange : Exchange first second start last) :
    last.Regular config ∧ first.header.control.seq < 16 ∧ second.header.control.seq < 16 := by
  obtain ⟨between, both, one, two, quiet⟩ := exchange
  refine ⟨?_, one.below, two.below⟩
  obtain ⟨_, _, _, _, before, _, first⟩ := one
  obtain ⟨_, _, _, _, behind, _, second⟩ := two
  exact ((((regular.run before).step first).run behind).step second).run quiet

/-! ## After the transmission -/

/-- A READ is responded to while the outstation is idle. -/
theorem handles_read (isRead : request.header.function = .read)
    (solicited : request.header.control.uns = false) (idle : context.state = .idle)
    (handles : Handles environment request context after) :
    (context.numbered request).respondToReadRequest environment request = some after ∨
      (context.isRepeat request = true ∧
        after = context.repeatResponseTx request.addresses.source) := by
  cases handles with
  | ignored ignores =>
      cases ignores with
      | confirm isConfirm _ _ => cases isConfirm.symm.trans isRead
      | unsolicited _ unsolicited => cases unsolicited.symm.trans solicited
  | confirmedLast awaits _ | confirmedMore awaits _ _ | confirmedEvents awaits _
  | confirmedNull awaits _ => cases awaits.isConfirm.symm.trans isRead
  | readIdle _ responded => exact .inl responded
  | repeatReadIdle requests => exact .inr ⟨requests.isRepeat.symm, rfl⟩
  | readWaiting requests _ | readHeld requests | repeatReadWaiting requests
  | repeatReadHeld requests => cases requests.state.symm.trans idle
  | nonReadIdle requests | nonReadWaiting requests | nonReadUnsolicited requests
  | repeatNonReadIdle requests | repeatNonReadWaiting requests
  | repeatNonReadUnsolicited requests =>
      exact absurd isRead (of_decide_eq_false requests.isRead.symm)

/-- A confirm that is not one of a solicited response leads to no transmission. -/
theorem handles_confirm (isConfirm : request.header.function = .confirm)
    (waits : context.state ≠ .solicitedConfirmWait)
    (handles : Handles environment request context after) :
    after.log = context.log := by
  cases handles with
  | ignored _ => rfl
  | confirmedLast awaits _ | confirmedMore awaits _ _ => exact absurd awaits.state waits
  | confirmedEvents _ _ | confirmedNull _ _ => rfl
  | readIdle requests _ | readWaiting requests _ | readHeld requests | nonReadIdle requests
  | nonReadWaiting requests | nonReadUnsolicited requests | repeatReadIdle requests
  | repeatReadWaiting requests | repeatReadHeld requests | repeatNonReadIdle requests
  | repeatNonReadWaiting requests | repeatNonReadUnsolicited requests =>
      exact absurd isConfirm requests.isRequest

/-- What is started when a transmission is done. -/
theorem Transmitting.txReady (transmitting : Transmitting start last)
    (success : last.step environment .txReady = some after) :
    Starts environment { last with isTransmitting := false } after := by
  cases steps_of_step success with
  | nothing ineffective =>
      cases ineffective with
      | txReady idle =>
          rw [transmitting.online, transmitting.busy] at idle
          cases idle
  | starts reacts starts =>
      cases reacts with
      | txReady _ _ => exact starts

variable {config : EventBufferConfig} {ready : OContext} {read : ParsedRequest} {space : Nat}

/-- A READ that waits is answered or goes on waiting. -/
theorem Regular.starts_read (regular : ready.Regular config) (can : ready.canTransmit = true)
    (isRead : read.header.function = .read) (solicited : read.header.control.uns = false)
    (below : read.header.control.seq < 16) (deferred : ready.deferred = some (read.copyTo space))
    (starts : Starts environment ready after) :
    (Answers read (after.log.drop ready.log.length) ∨
        after.deferred = some (read.copyTo space)) ∧
      after.eventBuffer.serials = ready.eventBuffer.serials ∧ after.unsol = ready.unsol := by
  obtain ⟨resumed, resumes, reports⟩ := starts
  cases resumes with
  | blocked cannot => cases cannot.symm.trans can
  | none none => cases none.symm.trans deferred
  | kept _ _ busy =>
      cases reports with
      | null _ idle _ | events _ idle _ _ => exact absurd idle busy
      | nothing => exact ⟨.inr deferred, rfl, rfl⟩
  | @handled request handled _ other free handles =>
      obtain rfl := Option.some.inj (other.symm.trans deferred)
      have silent (busy : handled.isTransmitting = true) :
          after = { handled with deferred := none } := by
        cases reports with
        | null can _ _ | events can _ _ _ => simp [canTransmit, busy] at can
        | nothing => rfl
      have low : read.header.control.seq % 16 = read.header.control.seq :=
        UInt8.mod_eq_of_lt below
      have copied : (read.copyTo space).header = read.header := rfl
      rw [← copied] at isRead solicited
      rcases handles_read isRead solicited (free isRead) handles with responded | ⟨repeats, rfl⟩
      · obtain ⟨serials, marks⟩ := regular.marks
        have numbered : (numbered (read.copyTo space) ready).eventBuffer.Marks config serials := marks
        have responds := respondToReadRequest_responds numbered responded
        have said := responds.log
        rw [silent responds.isTransmitting]
        refine ⟨.inl ⟨handled.sol.tx.lastResponse, _, handled.sol.tx.carried, ?_,
          responds.header, ?_⟩, responds.serials, responds.unsol⟩
        · dsimp only
          rw [said]
          simp [OContext.numbered, ParsedRequest.copyTo]
        · rw [AppControlField.seq_ofByte_toByte, responds.control.1]
          exact low
      · rw [silent rfl]
        have remembers := regular.remembers (isRepeat_hasLast repeats)
        refine ⟨.inl ⟨ready.sol.tx.lastResponse, _, ready.sol.tx.carried, ?_, remembers.1, ?_⟩,
          rfl, rfl⟩
        · simp [repeatResponseTx, beginTx, ParsedRequest.copyTo]
        · have same := congrArg (fun byte => (AppControlField.ofByte byte).seq)
            (isRepeat_control repeats)
          simp only [AppControlField.seq_ofByte_toByte] at same
          rw [AppControlField.seq_ofByte_toByte, remembers.2, same]
          exact low

omit [FloatOps] in
/-- An unsolicited response answers no READ. -/
theorem RespondsUnsolicited.not_answers (responds : RespondsUnsolicited context after) :
    ¬Answers read (after.log.drop context.log.length) := by
  rw [responds.log, List.drop_left]
  rintro ⟨fragment, control, carried, member, header, _⟩
  simp only [List.mem_cons, reduceCtorEq, List.not_mem_nil, or_false, false_or,
    Activity.beginTransmit.injEq] at member
  rw [member.2.1, responds.header] at header
  cases header

/-- When a confirm waits, no READ is answered, and none waits afterwards. -/
theorem starts_confirm (can : ready.canTransmit = true) (waits : ready.state ≠ .solicitedConfirmWait)
    (isConfirm : request.header.function = .confirm)
    (deferred : ready.deferred = some (request.copyTo space))
    (starts : Starts environment ready after) :
    ¬Answers read (after.log.drop ready.log.length) ∧ after.deferred = none := by
  obtain ⟨resumed, resumes, reports⟩ := starts
  cases resumes with
  | blocked cannot => cases cannot.symm.trans can
  | none none => cases none.symm.trans deferred
  | kept other isRead _ =>
      obtain rfl := Option.some.inj (other.symm.trans deferred)
      cases isRead.symm.trans isConfirm
  | @handled copied handled _ other _ handles =>
      obtain rfl := Option.some.inj (other.symm.trans deferred)
      have copied : (request.copyTo space).header = request.header := rfl
      rw [← copied] at isConfirm
      have log := handles_confirm isConfirm waits handles
      have sends (classes : Option ClassField) :
          ¬Answers read ((sendUnsolicited environment { handled with deferred := none }
            classes).log.drop ready.log.length) := by
        rw [← log]
        exact (sendUnsolicited_responds environment
          { handled with deferred := none } classes).not_answers
      cases reports with
      | nothing =>
          refine ⟨?_, rfl⟩
          simp only [log, List.drop_length]
          rintro ⟨fragment, control, carried, member, _⟩
          cases member
      | null _ _ _ => exact ⟨sends _, (sendUnsolicited_responds environment _ _).deferred⟩
      | events _ _ _ _ => exact ⟨sends _, (sendUnsolicited_responds environment _ _).deferred⟩

/-- A confirm of the unsolicited response and a READ arrive before its transmission is done. Neither
is lost exactly when the confirm comes first and there is nothing for it to do: the events of the
response have been discarded. -/
theorem nothingLost_iff {addresses : Addresses} {params : OutstationParams}
    {database : DatabaseBuffers} {confirm first second : ParsedRequest} {output : List Activity}
    (reached : machine.Reaches (initial addresses params config database) start)
    (transmits : start.TransmitsUnsolicited) (confirms : start.Confirms confirm)
    (isRead : read.header.function = .read) (solicited : read.header.control.uns = false)
    (order : first = confirm ∧ second = read ∨ first = read ∧ second = confirm)
    (exchange : Exchange first second start last)
    (done : machine.step last (environment, .txReady) = some (after, output)) :
    NothingLost read start after output ↔
      first = confirm ∧ start.unsol.completedNull = true ∧
        ∀ serial ∈ start.unsol.tx.carried, serial ∉ last.eventBuffer.serials := by
  have regular := regular_of_reaches reached
  obtain ⟨state, seq⟩ := regular.unsolicited transmits
  have starting : Transmitting start start :=
    ⟨regular.online transmits.1, transmits.1, state, rfl, rfl⟩
  obtain ⟨final, stepped, same⟩ := Option.map_eq_some_iff.mp done
  obtain ⟨rfl, rfl⟩ := Prod.mk.inj same
  have acked (request : ParsedRequest)
      (known : request.header.function = .confirm ∨ request.header.function = .read) :
      request.header.function.isNoAckFuncCode = false := by
    rcases known with known | known
    · rw [known]
      rfl
    · rw [known]
      rfl
  have different : read ≠ confirm := by
    rintro rfl
    cases confirms.isConfirm.symm.trans isRead
  have ready (transmitting : Transmitting start last) :
      canTransmit { last with isTransmitting := false } = true := by
    rw [canTransmit, transmitting.online]
    rfl
  rcases order with ⟨rfl, rfl⟩ | ⟨rfl, rfl⟩
  · obtain ⟨transmitting, deferred⟩ :=
      starting.exchange ⟨acked _ (.inl confirms.isConfirm), acked _ (.inr isRead)⟩ exchange
    obtain ⟨still, waiting⟩ := regular.exchange exchange
    have done : OContext.Regular config { last with isTransmitting := false } :=
      ⟨still.marks, still.remembers, still.awaitsRead, by rintro ⟨⟩, by rintro ⟨⟨⟩, _⟩⟩
    obtain ⟨answered, serials, unsol⟩ := done.starts_read (ready transmitting) isRead solicited
      waiting.2 deferred (transmitting.txReady stepped)
    have effect : TakesEffect start final ↔ start.unsol.completedNull = true ∧
        ∀ serial ∈ start.unsol.tx.carried, serial ∉ last.eventBuffer.serials := by
      have null := congrArg OutstationUnsolState.completedNull (unsol.trans transmitting.unsol)
      rw [TakesEffect, serials, null]
      cases start.unsol.completedNull with
      | true => simp
      | false => simp
    constructor
    · intro nothing
      exact ⟨rfl, effect.mp nothing.confirm⟩
    · rintro ⟨_, cleared⟩
      exact ⟨effect.mpr cleared, answered⟩
  · obtain ⟨transmitting, deferred⟩ :=
      starting.exchange ⟨acked _ (.inr isRead), acked _ (.inl confirms.isConfirm)⟩ exchange
    obtain ⟨unanswered, none⟩ := @starts_confirm _ _ _ _ _ first _ (ready transmitting)
      transmitting.state confirms.isConfirm deferred (transmitting.txReady stepped)
    constructor
    · intro nothing
      rcases nothing.read with answered | held
      · exact absurd answered unanswered
      · cases none.symm.trans held
    · rintro ⟨same, _⟩
      exact absurd same different

end exchange

/-! ## The first response -/

/-- A confirm of the first unsolicited response. -/
def nullConfirm : ParsedRequest := ⟨⟨1024, 1⟩, .unsolicitedConfirm 0, []⟩

/-- A READ of events of class 1. -/
def readClass1 : ParsedRequest := ⟨⟨1024, 1⟩, ⟨.request 0, .read⟩, [60, 2, 6]⟩

/-- An outstation sends its first unsolicited response, and a confirm of it is followed by a READ
before the transmission is done. The response is not completed. -/
theorem not_nothingLost :
    ¬∀ (start last after : OContext) (confirm read first second : ParsedRequest)
        (output : List Activity),
      (@machine .atZero).Reaches (.onePoint { allowUnsolicited := true }) start →
        start.TransmitsUnsolicited → start.Confirms confirm → read.header.function = .read →
          read.header.control.uns = false →
            (first = confirm ∧ second = read ∨ first = read ∧ second = confirm) →
              @Exchange .atZero first second start last →
                (@machine .atZero).step last (.atZero, .txReady) = some (after, output) →
                  NothingLost read start after output := by
  intro never
  have up : (@machine .atZero).step (.onePoint { allowUnsolicited := true })
    (.atZero, .lowerLayerUp) = some (_, _) := rfl
  have lost := never _ _ _ nullConfirm readClass1 nullConfirm readClass1 _
    (.step .start trivial up) ⟨rfl, _, rfl, rfl⟩ ⟨rfl, rfl, rfl⟩ rfl rfl (.inl ⟨rfl, rfl⟩)
    ⟨_, _, ⟨_, .atZero, ⟨⟨1024, 1⟩, [0xD0, 0]⟩, _, .start, rfl, rfl⟩,
      ⟨_, .atZero, ⟨⟨1024, 1⟩, [0xC0, 1, 60, 2, 6]⟩, _, .start, rfl, rfl⟩, .start⟩ rfl
  have effect := lost.confirm
  cases effect

/-- A READ that is followed by the confirm is not answered. -/
theorem nothingLost_nullConfirm :
    ∃ (start last after : OContext) (output : List Activity),
      (@machine .atZero).Reaches (.onePoint { allowUnsolicited := true }) start ∧
        start.TransmitsUnsolicited ∧ start.Confirms nullConfirm ∧
          @Exchange .atZero readClass1 nullConfirm start last ∧
            (@machine .atZero).step last (.atZero, .txReady) = some (after, output) ∧
              ¬NothingLost readClass1 start after output := by
  have up : (@machine .atZero).step (.onePoint { allowUnsolicited := true })
    (.atZero, .lowerLayerUp) = some (_, _) := rfl
  have reached : (@machine .atZero).Reaches (.onePoint { allowUnsolicited := true }) _ :=
    .step .start trivial up
  refine ⟨_, _, _, _, reached, ⟨rfl, _, rfl, rfl⟩, ⟨rfl, rfl, rfl⟩,
    ⟨_, _, ⟨_, .atZero, ⟨⟨1024, 1⟩, [0xC0, 1, 60, 2, 6]⟩, _, .start, rfl, rfl⟩,
      ⟨_, .atZero, ⟨⟨1024, 1⟩, [0xD0, 0]⟩, _, .start, rfl, rfl⟩, .start⟩, rfl, fun nothing => ?_⟩
  have both := (@nothingLost_iff .atZero _ _ _ _ _ _ _ _ _ nullConfirm readClass1 nullConfirm _
    reached ⟨rfl, _, rfl, rfl⟩ ⟨rfl, rfl, rfl⟩ rfl rfl (.inr ⟨rfl, rfl⟩)
    ⟨_, _, ⟨_, .atZero, ⟨⟨1024, 1⟩, [0xC0, 1, 60, 2, 6]⟩, _, .start, rfl, rfl⟩,
      ⟨_, .atZero, ⟨⟨1024, 1⟩, [0xD0, 0]⟩, _, .start, rfl, rfl⟩, .start⟩ rfl).mp nothing
  cases both.1

end OContext

end OpenDnp3.Outstation
