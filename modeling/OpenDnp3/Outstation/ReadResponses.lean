import Mathlib.Data.List.Chain
import OpenDnp3.Outstation.ConfirmSources
import OpenDnp3.Outstation.DatabaseRuns
import OpenDnp3.Outstation.Services

/-!
# Responses in fragments

A response to a READ is made of as many fragments as it takes: the first one has
the number of the request, each further one follows the confirm of the one before
it, and the last one is sent when nothing is selected any more.
-/

set_option autoImplicit false

namespace OpenDnp3.App.AppControlField

/-- The next fragment of a response, whose confirm was asked for. -/
structure Continues (last next : AppControlField) : Prop where
  more : last.fin = false
  confirmed : last.con = true
  behind : next.fir = false
  seq : next.seq = (last.seq + 1) % 16

/-- The fragment begins a response, repeats the one before it, or continues it. -/
def Follows (last next : AppControlField) : Prop :=
  next.fir = true ∨ next = last ∨ Continues last next

end OpenDnp3.App.AppControlField

namespace OpenDnp3.Outstation

open OpenDnp3.App OpenDnp3.Library

/-- The control byte of a solicited response. -/
def Activity.response? : Activity → Option AppControlField
  | .beginTransmit _ (control :: function :: _) _ =>
      if function = FunctionCode.response.toType then some (.ofByte control) else none
  | _ => none

def responses (log : List Activity) : List AppControlField := log.filterMap Activity.response?

theorem responses_append (log others : List Activity) :
    responses (log ++ others) = responses log ++ responses others :=
  List.filterMap_append ..

theorem responses_of_header {destination : UInt16} {fragment : List UInt8} {carried : List Nat}
    {control : UInt8} (header : fragment.take 2 = [control, FunctionCode.response.toType]) :
    responses [.beginTransmit destination fragment carried] = [.ofByte control] := by
  match fragment with
  | [] | [_] => cases header
  | first :: second :: rest =>
      obtain ⟨rfl, same⟩ := List.cons.inj header
      obtain ⟨rfl, _⟩ := List.cons.inj same
      rfl

theorem responses_unsolicited {destination : UInt16} {fragment : List UInt8} {carried : List Nat}
    {control : UInt8}
    (header : fragment.take 2 = [control, FunctionCode.unsolicitedResponse.toType]) :
    responses [.beginTransmit destination fragment carried] = [] := by
  match fragment with
  | [] | [_] => cases header
  | first :: second :: rest =>
      obtain ⟨rfl, same⟩ := List.cons.inj header
      obtain ⟨rfl, _⟩ := List.cons.inj same
      rfl

theorem responses_call (call : Call) (log : List Activity) :
    responses (.call call :: log) = responses log :=
  rfl

theorem Calls.responses {operates : Option OperateType} {before after : List Activity}
    (calls : Calls operates before after) :
    Outstation.responses after = Outstation.responses before := by
  obtain ⟨calls, rfl, _⟩ := calls
  have none : Outstation.responses (calls.map Activity.call) = [] := by
    rw [Outstation.responses, List.filterMap_map, List.filterMap_eq_nil_iff]
    exact fun _ _ => rfl
  rw [responses_append, none, List.append_nil]

theorem Silent.responses {activities : List Activity} (silent : Silent activities) :
    Outstation.responses activities = [] := by
  rw [Outstation.responses, List.filterMap_eq_nil_iff]
  intro activity member
  have none := silent activity member
  cases activity with
  | call _ => rfl
  | beginTransmit _ _ _ => cases none

/-! ## What is still selected -/

theorem EventLists.Valid.numSelected_clearWritten {config : EventBufferConfig}
    {lists : EventLists} (valid : lists.Valid config) :
    lists.clearWritten.2.numSelected = lists.numSelected := by
  obtain ⟨after, _, values⟩ := valid.clearWritten
  rw [← UInt32.toNat_inj, numSelected, numSelected, after.counts.selected, valid.counts.selected,
    values, List.countP_filter]
  refine List.countP_congr fun record _ => ?_
  cases record.state <;> decide

theorem EventBuffer.isEmpty_numSelected (buffer : EventBuffer) :
    (buffer.storage.numSelected == 0) = !buffer.hasAnySelection := by
  rw [EventBuffer.hasAnySelection, Bool.eq_iff_iff]
  simp [UInt32.pos_iff_ne_zero]

theorem DatabaseBuffers.SameRequests.trans {first second third : DatabaseBuffers}
    (one : first.SameRequests second) (two : second.SameRequests third) :
    first.SameRequests third :=
  fun type => ⟨(two type).1.trans (one type).1, (two type).2.trans (one type).2⟩

theorem DatabaseBuffers.SameRequests.hasAnySelection {db other : DatabaseBuffers}
    (same : db.SameRequests other) : other.hasAnySelection = db.hasAnySelection := by
  have ranges : (fun type => (other.points type).range.isValid) =
      fun type => (db.points type).range.isValid :=
    funext fun type => congrArg Range.isValid (same type).1
  exact congrArg DatabaseBuffers.loadOrder.any ranges

namespace OContext

variable {config : EventBufferConfig} {environment : Environment} {request : ParsedRequest}
  {context after : OContext}

theorem hasSelection_clearWritten {serials : List Nat}
    (marks : context.eventBuffer.Marks config serials) :
    context.confirmed.clearWritten.hasSelection = context.hasSelection := by
  have same := marks.valid.numSelected_clearWritten
  have counted : context.confirmed.clearWritten.eventBuffer.hasAnySelection =
      context.eventBuffer.hasAnySelection :=
    congrArg (fun selected => decide (0 < selected)) same
  exact congrArg (context.database.hasAnySelection || ·) counted

variable [FloatOps]

/-- The last fragment of a response is one that leaves nothing selected; another one asks for a
confirm. -/
structure Loaded.Ends (fir : Bool) (loaded : Loaded) : Prop where
  fir : loaded.control.fir = fir
  confirms : loaded.control.fin = false → loaded.control.con = true
  waits : loaded.control.con = true → loaded.control.fin = !loaded.context.hasSelection

theorem loadResponse_ends {loaded : Loaded} {writer : HeaderWriter}
    (valid : context.database.Valid) (success : context.loadResponse writer = some loaded) :
    loaded.Ends (context.fragmentCount == 0) := by
  simp only [loadResponse] at success
  have events : (context.eventBuffer.load writer).complete =
      !(context.eventBuffer.load writer).buffer.hasAnySelection :=
    (context.eventBuffer.load writer).buffer.isEmpty_numSelected
  split at success
  · next complete =>
      obtain ⟨static, made, rfl⟩ := Option.map_eq_some_iff.mp success
      refine ⟨rfl, fun more => by simp [show static.complete = false from more], fun _ => ?_⟩
      have none : (context.eventBuffer.load writer).buffer.hasAnySelection = false := by
        simpa [events] using complete
      change static.complete = !(static.buffers.hasAnySelection || _)
      rw [none, Bool.or_false]
      exact DatabaseBuffers.load_complete valid made
  · next more =>
      obtain rfl := Option.some.inj success
      refine ⟨rfl, fun _ => rfl, fun _ => ?_⟩
      have some : (context.eventBuffer.load writer).buffer.hasAnySelection = true := by
        simpa [events] using more
      change false = !(context.database.hasAnySelection || _)
      rw [some, Bool.or_true]
      rfl

theorem handleRead_ends {loaded : Loaded} {objects : List UInt8} {writer : HeaderWriter}
    {iin : IINField} (valid : context.database.Valid)
    (success : context.handleRead objects writer = some (iin, loaded)) : loaded.Ends true := by
  simp only [handleRead] at success
  split at success
  · obtain ⟨_, rfl⟩ := Prod.mk.inj (Option.some.inj success)
    exact ⟨rfl, fun more => (by cases more), fun asks => (by cases asks)⟩
  · next headers _ =>
      obtain ⟨after, made, same⟩ := Option.map_eq_some_iff.mp success
      obtain ⟨_, rfl⟩ := Prod.mk.inj same
      have selects := ReadHandler.database_foldl headers
        { database := context.startRead.database, eventBuffer := context.startRead.eventBuffer }
      have unselected : context.startRead.database.Valid := valid.unselect
      exact loadResponse_ends (unselected.behind selects) made

/-- What holds of a fragment with data once it is sent. -/
structure SendsPart (fir : Bool) (after : OContext) : Prop where
  fir : after.sol.tx.control.fir = fir
  confirms : after.sol.tx.control.fin = false → after.sol.tx.control.con = true
  waits : after.state = .solicitedConfirmWait →
    after.sol.tx.control.fin = !after.hasSelection

omit [FloatOps] in
theorem Loaded.Ends.sendLoaded {loaded : Loaded} {fir : Bool} (ends : loaded.Ends fir)
    (destination : UInt16) (seq : AppSeqNum) (iin : IINField) (response : APDUResponse) :
    SendsPart fir (OContext.sendLoaded environment loaded destination seq iin response) := by
  rw [OContext.sendLoaded]
  cases con : loaded.control.con with
  | true =>
      simp only [con, if_true]
      exact ⟨ends.fir, fun _ => rfl, fun _ => ends.waits con⟩
  | false =>
      simp only [con, Bool.false_eq_true, if_false]
      exact ⟨ends.fir, fun more => con.symm.trans (ends.confirms more), by rintro ⟨⟩⟩

theorem sendsPart_respondToReadRequest (valid : context.database.Valid)
    (success : context.respondToReadRequest environment request = some after) :
    SendsPart true after := by
  obtain ⟨⟨iin, loaded⟩, made, rfl⟩ := Option.map_eq_some_iff.mp success
  have same : OContext.database
      { context with
        history := .recordLastProcessedRequest request.header request.objects } |>.Valid := valid
  exact (handleRead_ends same made).sendLoaded _ _ _ _

theorem sendsPart_continueMultiFragResponse {addresses : Addresses} {seq : AppSeqNum}
    (valid : context.database.Valid) (counted : context.fragmentCount ≠ 0)
    (success : context.continueMultiFragResponse environment addresses seq = some after) :
    SendsPart false after := by
  obtain ⟨loaded, made, rfl⟩ := Option.map_eq_some_iff.mp success
  have ends := loadResponse_ends valid made
  rw [beq_eq_false_iff_ne.mpr counted] at ends
  exact ends.sendLoaded _ _ _ _

/-! ## Runs -/

/-- The control byte of the last response. -/
def answer (context : OContext) : AppControlField := .ofByte context.sol.tx.control.toByte

/-- What the responses so far tell of the next one. -/
structure Tells (context : OContext) : Prop where
  chain : (responses context.log).IsChain AppControlField.Follows
  first : ∀ control ∈ (responses context.log).head?, control.fir = true
  confirms : ∀ control ∈ responses context.log, control.fin = false → control.con = true
  last : context.history.hasLast = true ∨ context.state = .solicitedConfirmWait →
    (responses context.log).getLast? = some context.answer
  waits : context.state = .solicitedConfirmWait →
    context.sol.tx.control.con = true ∧
      context.sol.tx.control.seq = context.sol.seq.confirmNum.seq ∧
      context.sol.tx.control.fin = !context.hasSelection

omit [FloatOps] in
theorem Tells.carry (tells : context.Tells) (log : responses after.log = responses context.log)
    (tx : after.sol.tx = context.sol.tx)
    (remembers : after.history.hasLast = true →
      context.history.hasLast = true ∨ context.state = .solicitedConfirmWait)
    (waits : after.state = .solicitedConfirmWait →
      context.state = .solicitedConfirmWait ∧
        after.sol.seq.confirmNum = context.sol.seq.confirmNum ∧
        after.hasSelection = context.hasSelection) : after.Tells where
  chain := log ▸ tells.chain
  first := log ▸ tells.first
  confirms := log ▸ tells.confirms
  last := by
    rw [log, answer, tx]
    rintro (has | waiting)
    · exact tells.last (remembers has)
    · exact tells.last (.inr (waits waiting).1)
  waits waiting := by
    obtain ⟨before, num, same⟩ := waits waiting
    rw [tx, num, same]
    exact tells.waits before

omit [FloatOps] in
theorem Tells.idle (tells : context.Tells) (log : after.log = context.log)
    (tx : after.sol.tx = context.sol.tx)
    (remembers : after.history.hasLast = true → context.history.hasLast = true)
    (state : after.state ≠ .solicitedConfirmWait) : after.Tells :=
  tells.carry (congrArg responses log) tx (fun has => .inl (remembers has))
    fun waits => absurd waits state

omit [FloatOps] in
/-- A response extends what is told, if it begins anew or follows the last one. -/
theorem Tells.sends (tells : context.Tells)
    (log : responses after.log = responses context.log ++ [after.answer])
    (confirms : after.sol.tx.control.fin = false → after.sol.tx.control.con = true)
    (follows : after.answer.fir = true ∨
      ∃ last, (responses context.log).getLast? = some last ∧
        AppControlField.Follows last after.answer)
    (waits : after.state = .solicitedConfirmWait →
      after.sol.tx.control.con = true ∧
        after.sol.tx.control.seq = after.sol.seq.confirmNum.seq ∧
        after.sol.tx.control.fin = !after.hasSelection) : after.Tells where
  chain := by
    rw [log, List.isChain_append]
    refine ⟨tells.chain, List.isChain_singleton _, fun last found next member => ?_⟩
    obtain rfl : after.answer = next := Option.some.inj member
    rcases follows with fir | ⟨other, same, follows⟩
    · exact .inl fir
    · obtain rfl := Option.some.inj (same.symm.trans found)
      exact follows
  first := by
    rw [log]
    cases before : responses context.log with
    | nil =>
        rcases follows with fir | ⟨other, same, _⟩
        · intro control member
          obtain rfl : after.answer = control := Option.some.inj member
          exact fir
        · rw [before] at same
          cases same
    | cons control rest =>
        have first := tells.first
        rw [before] at first
        exact first
  confirms := by
    intro control member
    rw [log, List.mem_append, List.mem_singleton] at member
    rcases member with before | rfl
    · exact tells.confirms control before
    · rw [answer, AppControlField.ofByte_toByte_mod]
      exact confirms
  last _ := by rw [log, List.getLast?_concat]
  waits := waits

omit [FloatOps] in
theorem RespondsWithData.tells {fir : Bool} {before : OContext} {destination : UInt16}
    {seq : AppSeqNum} (responds : RespondsWithData config destination seq before after)
    (part : SendsPart fir after) (tells : context.Tells) (log : before.log = context.log)
    (follows : fir = false → ∃ last, (responses context.log).getLast? = some last ∧
      last.fin = false ∧ last.con = true ∧ seq.seq % 16 = (last.seq + 1) % 16) : after.Tells := by
  refine tells.sends ?_ part.confirms ?_ fun waits => ⟨?_, ?_, part.waits waits⟩
  · rw [responds.log, log, responses_append, responses_call, responses_of_header responds.header,
      answer]
  · have control : after.answer =
        { after.sol.tx.control with seq := after.sol.tx.control.seq % 16 } :=
      AppControlField.ofByte_toByte_mod _
    cases fir with
    | true => exact .inl (control ▸ part.fir)
    | false =>
        obtain ⟨last, same, more, asked, next⟩ := follows rfl
        refine .inr ⟨last, same, .inr (.inr ⟨more, asked, ?_, ?_⟩)⟩
        · rw [control]
          exact part.fir
        · rw [control, ← next, ← responds.control.1]
  · rcases responds.waits with waiting | idle
    · exact waiting.2.1
    · cases idle.1.symm.trans waits
  · rw [responds.control.1, responds.confirmNum]

omit [FloatOps] in
theorem RespondsToNonRead.tells_setState {before : OContext} {state : OutstationState}
    (responds : RespondsToNonRead request before after) (tells : context.Tells)
    (log : before.log = context.log) (waits : state ≠ .solicitedConfirmWait) :
    (after.setState state).Tells := by
  obtain ⟨calls, called, logged⟩ := responds.log
  have sent : responses (after.setState state).log =
      responses context.log ++ [(after.setState state).answer] := by
    change responses after.log = responses context.log ++ [after.answer]
    rw [logged, responses_append, called.responses, log, responses_call,
      responses_of_header responds.header, answer]
  have control : (after.setState state).sol.tx.control =
      ⟨true, true, false, false, request.header.control.seq⟩ := responds.control
  refine tells.sends sent ?_ (.inl ?_) fun waiting => absurd waiting waits
  · rw [control]
    rintro ⟨⟩
  · rw [answer, control, AppControlField.ofByte_toByte_mod]

omit [FloatOps] in
theorem RespondsToNonRead.tells {before : OContext}
    (responds : RespondsToNonRead request before after) (tells : context.Tells)
    (log : before.log = context.log) (state : before.state ≠ .solicitedConfirmWait) :
    after.Tells := by
  have kept : (after.setState after.state).Tells :=
    responds.tells_setState tells log (responds.state ▸ state)
  exact kept

omit [FloatOps] in
/-- The last response is repeated. -/
theorem Tells.repeats (tells : context.Tells) (regular : context.Regular config)
    (isRepeat : true = context.isRepeat request) {destination : UInt16}
    (log : after.log = context.log ++ [.beginTransmit destination context.sol.tx.lastResponse
      context.sol.tx.carried])
    (sol : after.sol = context.sol)
    (waits : after.state = .solicitedConfirmWait → context.state = .solicitedConfirmWait ∧
      after.hasSelection = context.hasSelection) : after.Tells := by
  have has := isRepeat_hasLast isRepeat.symm
  have header := (regular.remembers has).1
  have last := tells.last (.inl has)
  have same : after.answer = context.answer := by rw [answer, answer, sol]
  refine tells.sends ?_ ?_ (.inr ⟨_, last, .inr (.inl same)⟩) fun waiting => ?_
  · rw [log, responses_append, responses_of_header header, same, answer]
  · have confirms := tells.confirms _ (List.mem_of_getLast? last)
    rw [answer, AppControlField.ofByte_toByte_mod] at confirms
    rw [sol]
    exact confirms
  · obtain ⟨before, selection⟩ := waits waiting
    rw [sol, selection]
    exact tells.waits before

omit [FloatOps] in
theorem answer_eq (context : OContext) : context.answer =
    { context.sol.tx.control with seq := context.sol.tx.control.seq % 16 } :=
  AppControlField.ofByte_toByte_mod _

omit [FloatOps] in
theorem seq_next_mod (seq : UInt8) :
    (SequenceNum.mk seq : AppSeqNum).next.seq % 16 = (seq % 16 + 1) % 16 := by
  have all : ∀ seq : Fin 256, (SequenceNum.mk (UInt8.ofNat seq) : AppSeqNum).next.seq % 16 =
      (UInt8.ofNat seq % 16 + 1) % 16 := by decide +kernel
  have same := all ⟨seq.toNat, seq.toNat_lt⟩
  rwa [UInt8.ofNat_toNat] at same

/-- What is sent for a confirm follows the last response. -/
theorem Tells.continues (tells : context.Tells) {serials : List Nat}
    (marks : context.eventBuffer.Marks config serials) (valid : context.database.Valid)
    (counted : context.fragmentCount ≠ 0) (awaits : context.AwaitsSolicited request)
    (more : context.confirmed.clearWritten.hasSelection = true)
    (continued : context.confirmed.clearWritten.continueMultiFragResponse environment
      request.addresses (SequenceNum.mk request.header.control.seq).next = some after) :
    after.Tells ∧ AppControlField.Continues context.answer after.answer := by
  have responds := continueMultiFragResponse_responds marks.clearWritten continued
  have same : context.confirmed.clearWritten.database.Valid := valid
  have part : SendsPart false after :=
    sendsPart_continueMultiFragResponse same counted continued
  obtain ⟨con, seq, fin⟩ := tells.waits awaits.state
  rw [hasSelection_clearWritten marks] at more
  rw [more] at fin
  have next : (SequenceNum.mk request.header.control.seq : AppSeqNum).next.seq % 16 =
      (context.answer.seq + 1) % 16 := by
    rw [seq_next_mod, answer_eq, seq, awaits.seq]
  refine ⟨responds.tells part tells rfl fun _ => ⟨_, tells.last (.inr awaits.state), ?_, ?_, next⟩,
    ?_, ?_, ?_, ?_⟩
  · rw [answer_eq]
    exact fin
  · rw [answer_eq]
    exact con
  · rw [answer_eq]
    exact fin
  · rw [answer_eq]
    exact con
  · rw [answer_eq]
    exact part.fir
  · rw [answer_eq, ← next, ← responds.control.1]

theorem Tells.handles (tells : context.Tells) (regular : context.Regular config)
    (valid : context.database.Valid)
    (counted : context.AwaitsSolicited request → context.fragmentCount ≠ 0)
    (handles : Handles environment request context after) : after.Tells := by
  obtain ⟨serials, marks⟩ := regular.marks
  have forgotten {other : OContext} (log : other.log = context.log)
      (tx : other.sol.tx = context.sol.tx) (history : other.history = context.history.reset)
      (state : other.state = .idle) : other.Tells := by
    refine tells.idle log tx (fun has => ?_) (by simp [state])
    rw [history] at has
    cases has
  have repeats {other : OContext} (isRepeat : true = context.isRepeat request)
      (log : other.log = context.log ++ [.beginTransmit request.addresses.source
        context.sol.tx.lastResponse context.sol.tx.carried])
      (sol : other.sol = context.sol) (state : other.state = context.state)
      (selection : other.hasSelection = context.hasSelection) : other.Tells :=
    tells.repeats regular isRepeat log sol fun waits => ⟨state.symm.trans waits, selection⟩
  cases handles with
  | ignored _ => exact tells
  | confirmedLast _ _ | confirmedEvents _ _ | confirmedNull _ _ =>
      exact forgotten rfl rfl rfl rfl
  | confirmedMore awaits more continued =>
      exact (tells.continues marks valid (counted awaits) awaits more continued).1
  | readIdle _ responded =>
      have same : (context.numbered request).eventBuffer.Marks config serials := marks
      have sound : (context.numbered request).database.Valid := valid
      exact (respondToReadRequest_responds same responded).tells
        (sendsPart_respondToReadRequest sound responded) tells rfl (by rintro ⟨⟩)
  | readWaiting _ responded =>
      have same : (context.numbered request).cancelConfirmTimer.eventBuffer.Marks config serials :=
        marks
      have sound : (context.numbered request).cancelConfirmTimer.database.Valid := valid
      exact (respondToReadRequest_responds same responded).tells
        (sendsPart_respondToReadRequest sound responded) tells rfl (by rintro ⟨⟩)
  | readHeld requests | repeatReadHeld requests =>
      refine tells.idle rfl rfl id fun waits => ?_
      cases requests.state.symm.trans waits
  | nonReadIdle requests =>
      have responds := respondToNonReadRequest_responds environment (context.numbered request)
        request
      refine responds.tells tells rfl fun waits => ?_
      cases requests.state.symm.trans waits
  | nonReadWaiting requests =>
      have responds := respondToNonReadRequest_responds environment
        (context.numbered request).cancelConfirmTimer request
      exact responds.tells_setState tells rfl (by simp)
  | nonReadUnsolicited requests =>
      have responds := respondToNonReadRequest_responds environment
        { context.numbered request with deferred := none } request
      refine responds.tells tells rfl fun waits => ?_
      cases requests.state.symm.trans waits
  | repeatReadIdle requests | repeatReadWaiting requests | repeatNonReadIdle requests
  | repeatNonReadUnsolicited requests | repeatNonReadWaiting requests =>
      exact repeats requests.isRepeat rfl rfl rfl rfl

theorem Tells.resumes (tells : context.Tells) (regular : context.Regular config)
    (valid : context.database.Valid)
    (counted : ∀ request, context.canTransmit = true → context.deferred = some request →
      context.AwaitsSolicited request → context.fragmentCount ≠ 0)
    (resumes : Resumes environment context after) : after.Tells := by
  cases resumes with
  | blocked _ | none _ | kept _ _ _ => exact tells
  | handled can deferred _ handles =>
      have told := tells.handles regular valid (counted _ can deferred) handles
      exact told.carry rfl rfl .inl fun waits => ⟨waits, rfl, rfl⟩

theorem Tells.reports (tells : context.Tells) (reports : Reports environment context after) :
    after.Tells := by
  have sends (classes : Option ClassField) :
      (context.sendUnsolicited environment classes).Tells := by
    have responds := sendUnsolicited_responds environment context classes
    refine tells.carry ?_ (congrArg OutstationSolState.tx responds.sol) (fun has => .inl ?_)
      fun waits => ?_
    · rw [responds.log, responses_append, responses_call, responses_unsolicited responds.header,
        List.append_nil]
    · rw [← responds.history]
      exact has
    · cases responds.state.symm.trans waits
  cases reports with
  | nothing => exact tells
  | null _ _ _ => exact sends none
  | events _ _ _ _ => exact sends (some _)

theorem Tells.starts (tells : context.Tells) (regular : context.Regular config)
    (valid : context.database.Valid)
    (counted : ∀ request, context.canTransmit = true → context.deferred = some request →
      context.AwaitsSolicited request → context.fragmentCount ≠ 0)
    (starts : Starts environment context after) : after.Tells := by
  obtain ⟨resumed, resumes, reports⟩ := starts
  exact (tells.resumes regular valid counted resumes).reports reports

/-- A change of the points does not discard the last events that are still to be sent. -/
def KeepsSelected (context : OContext) : Input → Prop
  | .apply updates => ∀ after ∈ changeAll updates context,
      after.hasSelection = context.hasSelection
  | _ => True

/-- While a confirm is awaited, the fragments can be counted, and nothing is discarded. -/
def Proceeds (context : OContext) (input : Environment × Input) : Prop :=
  context.state = .solicitedConfirmWait →
    context.fragmentCount ≠ 0 ∧ context.KeepsSelected input.2

instance (context : OContext) (input : Input) : Decidable (context.KeepsSelected input) :=
  match input with
  | .apply updates => inferInstanceAs (Decidable (∀ after ∈ changeAll updates context, _))
  | .lowerLayerUp | .lowerLayerDown | .receive _ | .txReady | .confirmTimeout | .setRestartIIN =>
      isTrue trivial

instance : DecidableRel Proceeds := fun _ _ => inferInstanceAs (Decidable (_ → _ ∧ _))

theorem Tells.reacts {input : Input} (tells : context.Tells) (regular : context.Regular config)
    (valid : context.database.Valid) (proceeds : context.Proceeds (environment, input))
    (reacts : Reacts environment context input after) : after.Tells := by
  cases reacts with
  | ignored _ _ => exact tells
  | up _ | deferred _ _ _ _ | txReady _ _ =>
      exact tells.carry rfl rfl .inl fun waits => ⟨waits, rfl, rfl⟩
  | @noAck message request _ _ _ =>
      have kept : Undisturbed context (context.processRequestNoAck environment request) :=
        processRequestNoAck_undisturbed request
      have calls : Calls (some .directOperateNoAck) context.log
        (context.processRequestNoAck environment request).log := processRequestNoAck_calls request
      refine tells.carry calls.responses (congrArg OutstationSolState.tx kept.sol)
        (fun has => .inl (kept.history ▸ has)) fun waits => ⟨kept.state.symm.trans waits, ?_, ?_⟩
      · rw [kept.sol]
      · rw [hasSelection, hasSelection, kept.eventBuffer, database_processRequestNoAck]
  | handled _ _ _ _ handles =>
      exact tells.handles regular valid (fun awaits => (proceeds awaits.state).1) handles
  | timeout _ =>
      rw [onConfirmTimeout_eq]
      exact tells.idle rfl rfl id (by rintro ⟨⟩)
  | apply _ changed =>
      have session := session_changeAll changed
      refine tells.carry ?_ ?_ ?_ fun waits => ?_
      · rw [session]
      · rw [session]
      · rw [session]
        exact .inl
      · rw [session] at waits
        exact ⟨waits, by rw [session], (proceeds waits).2 after changed⟩

theorem Tells.steps {input : Input} (tells : context.Tells) (held : context.HeldBack)
    (regular : context.Regular config) (valid : context.database.Valid)
    (proceeds : context.Proceeds (environment, input))
    (steps : Steps environment context input after) : after.Tells := by
  cases steps with
  | nothing _ => exact tells
  | setRestartIIN => exact tells.carry rfl rfl .inl fun waits => ⟨waits, rfl, rfl⟩
  | down online =>
      rw [onLowerLayerDown, if_neg (by simp [online])]
      exact tells.idle rfl rfl (by rintro ⟨⟩) (by rintro ⟨⟩)
  | @starts _ reacted _ reacts starts =>
      have told := tells.reacts regular valid proceeds reacts
      have sound := valid.behind (database_of_reacts reacts)
      refine told.starts (regular.reacts reacts) sound (fun request can deferred awaits => ?_)
        starts
      by_cases sent : input = .txReady
      · subst sent
        cases reacts with
        | txReady _ _ => exact (proceeds awaits.state).1
      · have isRead := holds_of_reacts held regular sent reacts (canTransmit_iff.mp can).2 request
          deferred
        exact absurd (.inl awaits) (not_awaits_of_read isRead)

theorem tells_of_reachesWhile {addresses : Addresses} {params : OutstationParams}
    {database : DatabaseBuffers} (never : database.NeverSelected)
    (reached : machine.ReachesWhile Proceeds (initial addresses params config database) context) :
    context.Tells := by
  induction reached with
  | start =>
      exact ⟨.nil, by rintro _ ⟨⟩, by rintro _ ⟨⟩, by rintro (⟨⟨⟩⟩ | ⟨⟨⟩⟩), by rintro ⟨⟩⟩
  | step reached proceeds success ih =>
      obtain ⟨next, stepped, same⟩ := Option.map_eq_some_iff.mp success
      obtain ⟨rfl, _⟩ := Prod.mk.inj same
      exact ih.steps (heldBack_of_reaches reached.reaches) (regular_of_reaches reached.reaches)
        (.of_reaches never (database_of_reaches reached.reaches)) proceeds (steps_of_step stepped)

/-! ## First fragments -/

/-- The log grows by a first fragment with the number of a request. -/
structure Begins (seq : UInt8) (context after : OContext) : Prop where
  log : ∃ activities, after.log = context.log ++ activities ∧
    responses activities = [after.answer]
  busy : after.isTransmitting = true
  fir : after.answer.fir = true
  seq : after.answer.seq = seq

omit [FloatOps] in
theorem RespondsWithData.begins {before : OContext} {destination : UInt16} {seq : AppSeqNum}
    (responds : RespondsWithData config destination seq before after)
    (part : SendsPart true after) (log : before.log = context.log) (small : seq.seq < 16) :
    Begins seq.seq context after where
  log := by
    refine ⟨_, responds.log.trans (congrArg (· ++ _) log), ?_⟩
    rw [responses_call, responses_of_header responds.header, answer]
  busy := responds.isTransmitting
  fir := by
    rw [answer_eq]
    exact part.fir
  seq := by
    rw [answer_eq]
    exact (congrArg (· % 16) responds.control.1).trans (UInt8.mod_eq_of_lt small)

omit [FloatOps] in
theorem mem_processed {service : Service}
    (member : service ∈ context.processed environment request) :
    service.request = request ∧ request.header.function ≠ .confirm ∧
      request.header.control.uns = false ∧ context.isRepeat request = false ∧
      ¬(request.header.function = .read ∧ context.state = .unsolicitedConfirmWait) := by
  rw [processed] at member
  split at member
  · cases member
  next asks =>
  split at member
  · cases member
  next new =>
  split at member
  · cases member
  next free =>
  obtain ⟨isRequest, solicited⟩ := not_or.mp asks
  rw [List.mem_singleton.mp member]
  exact ⟨rfl, isRequest, by simpa using solicited, by simpa using new, free⟩

/-- A READ that is processed is answered by a first fragment. -/
theorem begins_of_handles {service : Service} (regular : context.Regular config)
    (valid : context.database.Valid) (small : request.header.control.seq < 16)
    (handles : Handles environment request context after)
    (member : service ∈ context.processed environment request)
    (isRead : service.request.header.function = .read) :
    Begins service.request.header.control.seq context after := by
  obtain ⟨serials, marks⟩ := regular.marks
  obtain ⟨same, notConfirm, solicited, new, free⟩ := mem_processed member
  rw [same] at isRead ⊢
  have repeated {state : OutstationState} {asRead : Bool} {claim : Prop}
      (requests : context.Requests request asRead true state) : claim := by
    cases requests.isRepeat.trans new
  have other {state : OutstationState} {claim : Prop}
      (requests : context.Requests request false false state) : claim :=
    absurd isRead (of_decide_eq_false requests.isRead.symm)
  cases handles with
  | ignored ignores =>
      cases ignores with
      | confirm isConfirm _ _ => exact absurd isConfirm notConfirm
      | unsolicited _ unsolicited => cases unsolicited.symm.trans solicited
  | confirmedLast awaits _ | confirmedMore awaits _ _ | confirmedEvents awaits _
  | confirmedNull awaits _ => exact absurd awaits.isConfirm notConfirm
  | readIdle _ responded =>
      have marked : (context.numbered request).eventBuffer.Marks config serials := marks
      have sound : (context.numbered request).database.Valid := valid
      exact (respondToReadRequest_responds marked responded).begins
        (sendsPart_respondToReadRequest sound responded) rfl small
  | readWaiting _ responded =>
      have marked : (context.numbered request).cancelConfirmTimer.eventBuffer.Marks config
        serials := marks
      have sound : (context.numbered request).cancelConfirmTimer.database.Valid := valid
      exact (respondToReadRequest_responds marked responded).begins
        (sendsPart_respondToReadRequest sound responded) rfl small
  | readHeld requests => exact absurd ⟨isRead, requests.state⟩ free
  | nonReadIdle requests | nonReadWaiting requests | nonReadUnsolicited requests =>
      exact other requests
  | repeatReadIdle requests | repeatReadWaiting requests | repeatReadHeld requests
  | repeatNonReadIdle requests | repeatNonReadWaiting requests
  | repeatNonReadUnsolicited requests => exact repeated requests

/-- What is received is answered at once. -/
theorem begins_of_reacts {input : Input} {service : Service} (regular : context.Regular config)
    (valid : context.database.Valid) (reacts : Reacts environment context input after)
    (member : service ∈ context.received environment input)
    (isRead : service.request.header.function = .read) :
    Begins service.request.header.control.seq context after := by
  cases reacts with
  | up _ | txReady _ _ | timeout _ | apply _ _ => cases member
  | ignored _ refused =>
      rw [received, refused] at member
      cases member
  | noAck _ accepted noAck =>
      simp only [received, accepted, noAck, Bool.or_true, Bool.true_or, if_true] at member
      cases member
  | deferred _ accepted _ busy =>
      simp only [received, accepted, busy, Bool.or_true, if_true] at member
      cases member
  | handled online accepted acked free handles =>
      simp only [received, accepted, online, acked, free, Bool.not_true, Bool.or_false,
        Bool.false_eq_true, if_false] at member
      exact begins_of_handles regular valid (seq_of_acceptMessage accepted) handles member isRead

/-- So is what was held back, before anything else is sent. -/
theorem begins_of_resumes {service : Service} (regular : context.Regular config)
    (valid : context.database.Valid)
    (small : ∀ request, context.deferred = some request → request.header.control.seq < 16)
    (resumes : Resumes environment context after)
    (member : service ∈ context.resumed environment)
    (isRead : service.request.header.function = .read) :
    Begins service.request.header.control.seq context after := by
  cases resumes with
  | blocked cannot =>
      rw [resumed, if_neg (by simp [cannot])] at member
      cases member
  | none none =>
      simp only [resumed, none, ite_self] at member
      cases member
  | kept deferred isRead busy =>
      simp only [resumed, deferred, if_pos (And.intro isRead busy), ite_self] at member
      cases member
  | handled can deferred free handles =>
      have idle : ¬(_ ∧ context.state ≠ .idle) := fun held => held.2 (free held.1)
      simp only [resumed, deferred, can, if_true, if_neg idle] at member
      have begins := begins_of_handles regular valid (small _ deferred) handles member isRead
      exact ⟨begins.log, begins.busy, begins.fir, begins.seq⟩

/-- Every READ that is processed in a step is answered in it, by nothing but a first fragment. -/
theorem begins_of_serves {input : Input} {services : List Service} {service : Service}
    (held : context.HeldBack) (regular : context.Regular config) (valid : context.database.Valid)
    (serves : context.Serves (environment, input) services after) (member : service ∈ services)
    (isRead : service.request.header.function = .read) :
    Begins service.request.header.control.seq context after := by
  cases serves with
  | nothing _ | down _ | setRestartIIN => cases member
  | @starts _ _ reacted _ reacts starts =>
      rcases List.mem_append.mp member with received | resumed
      · have begins := begins_of_reacts regular valid reacts received isRead
        rwa [starts.eq_of_busy begins.busy]
      · have can : reacted.canTransmit = true := by
          by_contra cannot
          rw [OContext.resumed, if_neg cannot] at resumed
          cases resumed
        have small (request : ParsedRequest) (deferred : reacted.deferred = some request) :
            request.header.control.seq < 16 := by
          rcases deferred_of_reacts regular reacts deferred with
            ⟨_, other, space, _, accepted, rfl⟩ | before
          · exact (seq_of_acceptMessage accepted :)
          · exact held.below request before
        obtain ⟨middle, resumes, reports⟩ := starts
        have begins := begins_of_resumes (regular.reacts reacts)
          (valid.behind (database_of_reacts reacts)) small resumes resumed isRead
        obtain ⟨more, log, said⟩ := begins.log
        rw [reports.eq_of_busy begins.busy]
        -- What came before it was not a fragment, or the outstation would still transmit it.
        cases Transmits.reacts regular reacts with
        | @silent activities quiet silent _ =>
            refine ⟨⟨activities ++ more, ?_, ?_⟩, begins.busy, begins.fir, begins.seq⟩
            · exact log.trans ((congrArg (· ++ more) quiet).trans (List.append_assoc _ _ _))
            · rw [responses_append, silent.responses, List.nil_append, said]
        | responds _ _ _ _ busy | reports _ _ _ _ busy =>
            cases (canTransmit_iff.mp can).2.symm.trans busy

/-! ## Answers -/

theorem exists_loadResponse (valid : context.database.Valid) (indexed : context.database.Indexed)
    (writer : HeaderWriter) : ∃ loaded, context.loadResponse writer = some loaded := by
  simp only [loadResponse]
  split
  · obtain ⟨static, made⟩ := DatabaseBuffers.exists_load valid indexed
      (context.eventBuffer.load writer).writer
    exact ⟨_, congrArg (Option.map _) made⟩
  · exact ⟨_, rfl⟩

theorem exists_handleRead (valid : context.database.Valid) (indexed : context.database.Indexed)
    (objects : List UInt8) (writer : HeaderWriter) :
    ∃ result, context.handleRead objects writer = some result := by
  simp only [handleRead]
  split
  · exact ⟨_, rfl⟩
  · next headers _ =>
      have selects := ReadHandler.database_foldl headers
        { database := context.startRead.database, eventBuffer := context.startRead.eventBuffer }
      have unselected : context.startRead.database.Valid := valid.unselect
      have same : context.startRead.database.Indexed := indexed.unselect
      generalize headers.foldl ReadHandler.onHeader
        { database := context.startRead.database
          eventBuffer := context.startRead.eventBuffer } = handler at selects
      obtain ⟨loaded, success⟩ := @exists_loadResponse
        { context.startRead with
          database := handler.database
          eventBuffer := handler.eventBuffer }
        _ (unselected.behind selects) (same.of_reaches selects) writer
      exact ⟨_, congrArg (Option.map _) success⟩

theorem exists_respondToReadRequest (valid : context.database.Valid)
    (indexed : context.database.Indexed) (environment : Environment) (request : ParsedRequest) :
    ∃ after, context.respondToReadRequest environment request = some after := by
  obtain ⟨result, success⟩ := @exists_handleRead
    { context with history := .recordLastProcessedRequest request.header request.objects }
    _ valid indexed request.objects (context.sol.tx.start.setFunction .response).getWriter
  exact ⟨_, congrArg (Option.map _) success⟩

/-- What is made of a request, before anything else is started. -/
def handleRequest (environment : Environment) (context : OContext) (request : ParsedRequest) :
    Option OContext :=
  if request.header.function = .confirm then context.onConfirm environment request
  else context.processRequest environment request

/-- An event that is about a request answers it, and leaves what was held back before or
nothing. -/
theorem step_of_handleRequest {input : Input} (about : context.requestOf input = some request)
    (free : request.header.function = .read → input = .txReady → context.state = .idle)
    (handled : handleRequest environment (context.release input) request = some after)
    (busy : after.isTransmitting = true) :
    ∃ deferred, context.step environment input = some { after with deferred } ∧
      (context.canTransmit = true ∧ deferred = after.deferred ∨ deferred = none) := by
  have blocked {other : OContext} (still : other.isTransmitting = true) :
      other.canTransmit = false := by simp [canTransmit, still]
  cases input with
  | receive message =>
      simp only [requestOf] at about
      split at about
      · next receives =>
          obtain ⟨online, idle⟩ : context.isOnline = true ∧ context.isTransmitting = false := by
            simpa using receives
          obtain ⟨accepted, acked⟩ := Option.filter_eq_some_iff.mp about
          refine ⟨after.deferred, ?_, .inl ⟨canTransmit_iff.mpr ⟨online, idle⟩, rfl⟩⟩
          have made : context.processMessage environment message = some after := by
            rw [processMessage, accepted]
            simp only [processObjects, idle]
            rw [if_neg (by simpa using acked), if_neg Bool.false_ne_true]
            exact handled
          rw [step, onReceive, if_neg (by simp [online]), made]
          exact checkForTaskStart_blocked (blocked busy)
      · cases about
  | txReady =>
      simp only [requestOf] at about
      split at about
      · next transmits =>
          obtain ⟨online, sending⟩ : context.isOnline = true ∧ context.isTransmitting = true := by
            simpa using transmits
          refine ⟨none, ?_, .inr rfl⟩
          have made : processDeferredRequest environment (context.release .txReady) request =
              some (after, true) := by
            rw [handleRequest] at handled
            rw [processDeferredRequest]
            by_cases isConfirm : request.header.function = .confirm
            · rw [if_pos isConfirm] at handled ⊢
              rw [handled, Option.map_some]
            · rw [if_neg isConfirm] at handled ⊢
              by_cases isRead : request.header.function = .read
              · have idle : (context.release .txReady).state = .idle := free isRead rfl
                rw [if_pos isRead, if_pos idle, handled, Option.map_some]
              · rw [if_neg isRead, handled, Option.map_some]
          have can : (context.release .txReady).canTransmit = true :=
            canTransmit_iff.mpr ⟨online, rfl⟩
          have deferred : (context.release .txReady).deferred = some request := about
          have started : checkForTaskStart environment (context.release .txReady) =
              some (checkForUnsolicited environment { after with deferred := none }) := by
            rw [checkForTaskStart, checkForDeferredRequest, if_pos can]
            simp only [deferred, made, Option.map_some, if_true]
          have quiet : canTransmit { after with deferred := none } = false := blocked busy
          rw [step, onTxReady, if_neg (by simp [online, sending])]
          refine Eq.trans started ?_
          rw [checkForUnsolicited, if_neg (by simp [quiet])]
      · cases about
  | lowerLayerUp | lowerLayerDown | confirmTimeout | apply _ | setRestartIIN => cases about

/-- An event is answered by one response. -/
def AnsweredBy (context : OContext) (input : Environment × Input)
    (control : AppControlField) : Prop :=
  ∃ after output, machine.step context input = some (after, output) ∧ responses output = [control]

theorem answers_of_handleRequest {input : Input} {before : OContext} {destination : UInt16}
    {seq : AppSeqNum} (about : context.requestOf input = some request)
    (free : request.header.function = .read → input = .txReady → context.state = .idle)
    (handled : handleRequest environment (context.release input) request = some after)
    (responds : RespondsWithData config destination seq before after)
    (log : before.log = context.log) : context.AnsweredBy (environment, input) after.answer := by
  obtain ⟨deferred, stepped, _⟩ := step_of_handleRequest about free handled responds.isTransmitting
  refine ⟨_, _, machine_step stepped, ?_⟩
  dsimp only
  rw [responds.log, log, List.drop_left, responses_call, responses_of_header responds.header,
    answer]

omit [FloatOps] in
theorem HeldBack.seq_of_requestOf {input : Input} (held : context.HeldBack)
    (about : context.requestOf input = some request) : request.header.control.seq < 16 := by
  cases input with
  | receive message =>
      simp only [requestOf] at about
      split at about
      · exact seq_of_acceptMessage (Option.filter_eq_some_iff.mp about).1
      · cases about
  | txReady =>
      simp only [requestOf] at about
      split at about
      · exact held.below request about
      · cases about
  | lowerLayerUp | lowerLayerDown | confirmTimeout | apply _ | setRestartIIN => cases about

/-- The responses so far are made of fragments that follow one another. A READ that is processed,
at once or after it was held back, is answered by a first fragment, and the confirm of a fragment
that is not the last one by the next, if it comes with an event that is allowed. -/
structure AnswersReads (context : OContext) (allowed : Environment × Input → Prop) : Prop where
  chain : (responses context.log).IsChain AppControlField.Follows
  first : ∀ control ∈ (responses context.log).head?, control.fir = true
  confirms : ∀ control ∈ responses context.log, control.fin = false → control.con = true
  begins : ∀ environment input request, context.requestOf input = some request →
    request.header.function = .read → request.header.control.uns = false →
    context.isRepeat request = false →
    (context.state = .idle ∨ context.state = .solicitedConfirmWait ∧ input ≠ .txReady) →
      ∃ control, context.AnsweredBy (environment, input) control ∧ control.fir = true ∧
        control.seq = request.header.control.seq
  processed : ∀ input services after output, machine.step context input = some (after, output) →
    context.Serves input services after → ∀ service ∈ services,
      service.request.header.function = .read → ∃ control, responses output = [control] ∧
        control.fir = true ∧ control.seq = service.request.header.control.seq
  continues : ∀ environment input request, allowed (environment, input) →
    context.Honours input request → context.state = .solicitedConfirmWait →
      ∃ last, (responses context.log).getLast? = some last ∧ last.con = true ∧
        last.seq = request.header.control.seq ∧
        (last.fin = false →
          ∃ next, context.AnsweredBy (environment, input) next ∧ last.Continues next)

theorem handleRequest_read (isRead : request.header.function = .read)
    (solicited : request.header.control.uns = false) (new : context.isRepeat request = false)
    (state : context.state ≠ .unsolicitedConfirmWait) :
    handleRequest environment context request =
      (context.prepared request).respondToReadRequest environment request := by
  have isRequest : request.header.function ≠ .confirm := by simp [isRead]
  have same : (context.numbered request).state = context.state := rfl
  rw [handleRequest, if_neg isRequest, processRequest, solicited, if_neg Bool.false_ne_true,
    onReceiveSolRequest, new, if_neg Bool.false_ne_true, processNewRequest]
  refine (if_pos isRead).trans ?_
  change (context.numbered request).onNewReadRequest environment request = _
  rw [onNewReadRequest, same, prepared]
  cases now : context.state with
  | idle | solicitedConfirmWait => rfl
  | unsolicitedConfirmWait => exact absurd now state

omit [FloatOps] in
theorem prepared_keeps (context : OContext) (request : ParsedRequest) :
    (context.prepared request).database = context.database ∧
      (context.prepared request).eventBuffer = context.eventBuffer ∧
      (context.prepared request).log = context.log := by
  rw [prepared]
  split <;> exact ⟨rfl, rfl, rfl⟩

theorem handleRequest_confirm (awaits : context.AwaitsSolicited request)
    (more : context.confirmed.clearWritten.hasSelection = true) :
    handleRequest environment context request =
      context.confirmed.clearWritten.continueMultiFragResponse environment request.addresses
        (SequenceNum.mk request.header.control.seq).next := by
  rw [handleRequest, if_pos awaits.isConfirm, onConfirm, awaits.state]
  simp only
  rw [onConfirmSolicited, awaits.solicited, if_neg Bool.false_ne_true,
    if_neg (not_not.mpr awaits.seq)]
  exact if_pos more

theorem Tells.continuesLast {input : Input} (tells : context.Tells)
    (regular : context.Regular config) (valid : context.database.Valid)
    (indexed : context.database.Indexed) (counted : context.fragmentCount ≠ 0)
    (about : context.requestOf input = some request)
    (awaits : context.AwaitsSolicited request) (unfinished : context.answer.fin = false) :
    ∃ next, context.AnsweredBy (environment, input) next ∧ context.answer.Continues next := by
  obtain ⟨serials, marks⟩ := regular.marks
  obtain ⟨_, _, fin⟩ := tells.waits awaits.state
  have told : (context.release input).Tells :=
    tells.carry rfl rfl .inl fun waits => ⟨waits, rfl, rfl⟩
  have marked : (context.release input).eventBuffer.Marks config serials := marks
  have waiting : (context.release input).AwaitsSolicited request :=
    ⟨awaits.isConfirm, awaits.state, awaits.solicited, awaits.seq⟩
  have more : (context.release input).confirmed.clearWritten.hasSelection = true := by
    rw [answer_eq] at unfinished
    have selected : context.hasSelection = true := by simpa [fin] using unfinished
    exact (hasSelection_clearWritten marked).trans selected
  obtain ⟨loaded, made⟩ := @exists_loadResponse (context.release input).confirmed.clearWritten _
    valid indexed ((context.release input).sol.tx.start.setFunction .response).getWriter
  have continued : (context.release input).confirmed.clearWritten.continueMultiFragResponse
      environment request.addresses (SequenceNum.mk request.header.control.seq).next =
        some (sendLoaded environment loaded request.addresses.source
          (SequenceNum.mk request.header.control.seq).next .empty
          ((context.release input).sol.tx.start.setFunction .response)) :=
    congrArg (Option.map _) made
  have follows := told.continues marked valid counted waiting more continued
  have responds := continueMultiFragResponse_responds marked.clearWritten continued
  refine ⟨_, answers_of_handleRequest about (fun isRead => ?_)
    ((handleRequest_confirm waiting more).trans continued) responds rfl, follows.2⟩
  cases isRead.symm.trans awaits.isConfirm

theorem answers_read {input : Input} (regular : context.Regular config)
    (valid : context.database.Valid) (indexed : context.database.Indexed)
    (about : context.requestOf input = some request) (isRead : request.header.function = .read)
    (solicited : request.header.control.uns = false) (new : context.isRepeat request = false)
    (state : context.state = .idle ∨ context.state = .solicitedConfirmWait ∧ input ≠ .txReady) :
    ∃ control, context.AnsweredBy (environment, input) control ∧ control.fir = true ∧
      control.seq = request.header.control.seq % 16 := by
  obtain ⟨serials, marks⟩ := regular.marks
  obtain ⟨points, events, log⟩ := (context.release input).prepared_keeps request
  have sound : ((context.release input).prepared request).database.Valid := points ▸ valid
  have marked : ((context.release input).prepared request).eventBuffer.Marks config serials :=
    events ▸ marks
  obtain ⟨after, responded⟩ :=
    exists_respondToReadRequest sound (points ▸ indexed) environment request
  have responds := respondToReadRequest_responds marked responded
  have part := sendsPart_respondToReadRequest sound responded
  have handled : handleRequest environment (context.release input) request = some after := by
    have fresh : (context.release input).isRepeat request = false := new
    refine (handleRequest_read isRead solicited fresh ?_).trans responded
    rcases state with idle | ⟨waits, _⟩
    · exact ne_of_eq_of_ne idle (by decide)
    · exact ne_of_eq_of_ne waits (by decide)
  refine ⟨after.answer, answers_of_handleRequest about (fun _ sent => ?_) handled responds log,
    ?_, ?_⟩
  · exact state.resolve_right fun waits => waits.2 sent
  · rw [answer_eq]
    exact part.fir
  · rw [answer_eq]
    exact congrArg (· % 16) responds.control.1

/-- Responses to READs are made of fragments that follow one another, as long as they do not have
too many, and nothing that is still to be sent is discarded. -/
theorem answersReads_of_reachesWhile {addresses : Addresses} {params : OutstationParams}
    {database : DatabaseBuffers} (never : database.NeverSelected) (indexed : database.Indexed)
    (reached : machine.ReachesWhile Proceeds (initial addresses params config database) context) :
    context.AnswersReads context.Proceeds := by
  have tells := tells_of_reachesWhile never reached
  have held := heldBack_of_reaches reached.reaches
  have regular := regular_of_reaches reached.reaches
  have databases := database_of_reaches reached.reaches
  have valid : context.database.Valid := .of_reaches never databases
  have increasing : context.database.Indexed := .of_reaches indexed databases
  have small {request : ParsedRequest} {input : Input}
      (about : context.requestOf input = some request) :
      request.header.control.seq % 16 = request.header.control.seq :=
    UInt8.mod_eq_of_lt (held.seq_of_requestOf about)
  refine ⟨tells.chain, tells.first, tells.confirms, ?_, ?_, ?_⟩
  · intro environment input request about isRead solicited new state
    obtain ⟨control, answers, fir, seq⟩ :=
      answers_read regular valid increasing about isRead solicited new state
    exact ⟨control, answers, fir, seq.trans (small about)⟩
  · rintro ⟨environment, input⟩ services after output success serves service member isRead
    obtain ⟨_, _, same⟩ := Option.map_eq_some_iff.mp success
    obtain ⟨rfl, rfl⟩ := Prod.mk.inj same
    have begins := begins_of_serves held regular valid serves member isRead
    obtain ⟨activities, log, said⟩ := begins.log
    refine ⟨_, ?_, begins.fir, begins.seq⟩
    rw [log, List.drop_left, said]
  · rintro environment input request proceeds ⟨about, awaits | unsolicited⟩ state
    · obtain ⟨con, seq, _⟩ := tells.waits state
      refine ⟨context.answer, tells.last (.inr state), ?_, ?_, fun unfinished =>
        tells.continuesLast regular valid increasing (proceeds state).1 about awaits unfinished⟩
      · rw [answer_eq]
        exact con
      · rw [answer_eq, seq, awaits.seq]
        exact small about
    · cases state.symm.trans unsolicited.state

omit [FloatOps] in
theorem neverSelected_onePoint (params : OutstationParams) :
    (onePoint params).database.NeverSelected := by
  refine ⟨fun type => by cases type <;> rfl, fun type cell member => ?_⟩
  cases type with
  | binary => rw [List.mem_singleton.mp member]
  | doubleBitBinary | counter | frozenCounter | analog | binaryOutputStatus | analogOutputStatus
  | timeAndInterval | octetString => cases member

omit [FloatOps] in
theorem indexed_onePoint (params : OutstationParams) : (onePoint params).database.Indexed := by
  intro type
  cases type with
  | binary => exact List.pairwise_singleton _ _
  | doubleBitBinary | counter | frozenCounter | analog | binaryOutputStatus | analogOutputStatus
  | timeAndInterval | octetString => exact List.Pairwise.nil

omit [FloatOps] in
/-- Two events do not fit into one fragment. A second READ comes during the transmission of the
first one, and is held back until the response is complete; a further event takes the place of the
first one meanwhile. -/
theorem answersReads_of_reachesWhile_heldBack :
    ∃ context : OContext,
      (@machine .atZero).ReachesWhile (@Proceeds .atZero) (.onePoint { maxTxFragSize := 12 })
        context ∧
      (@AnswersReads .atZero context (@Proceeds .atZero context)) ∧
      responses context.log = [⟨true, false, true, false, 0⟩, ⟨false, true, true, false, 1⟩,
        ⟨true, true, true, false, 1⟩] := by
  obtain ⟨context, reached, checked⟩ :=
    @Machine.exists_reachesWhile_of_runWhile _ _ _ (@machine .atZero) (@Proceeds .atZero) _
      (.onePoint { maxTxFragSize := 12 })
      (fun context => responses context.log ==
        [⟨true, false, true, false, 0⟩, ⟨false, true, true, false, 1⟩,
          ⟨true, true, true, false, 1⟩])
      (List.map (Environment.atZero, ·)
        [.lowerLayerUp, .binaryEvent, .binaryEvent, .fragment [0xC0, 1, 60, 2, 6],
          .fragment [0xC1, 1, 60, 2, 6], .txReady, .binaryEvent, .fragment [0xC0, 0], .txReady,
          .fragment [0xC1, 0]])
      (by decide +kernel)
  refine ⟨context, reached, ?_, beq_iff_eq.mp checked⟩
  exact @answersReads_of_reachesWhile _ _ .atZero _ _ _
    (neverSelected_onePoint { maxTxFragSize := 12 }) (indexed_onePoint { maxTxFragSize := 12 })
    reached

omit [FloatOps] in
/-- While the first fragment waits for its confirm, two further events discard the one that is
still to be sent. The confirm is not answered then, although the fragment was not the last one. -/
theorem not_answersReads_of_reaches :
    ¬∀ (floats : FloatOps) (addresses : Addresses) (params : OutstationParams)
      (config : EventBufferConfig) (database : DatabaseBuffers) (context : OContext),
      database.NeverSelected →
      (@machine floats).Reaches (initial addresses params config database) context →
        @AnswersReads floats context fun _ => True := by
  intro answersReads
  let confirm : ParsedRequest := ⟨⟨1024, 1⟩, ⟨⟨true, true, false, false, 0⟩, .confirm⟩, []⟩
  obtain ⟨context, reached, checked⟩ :=
    @Machine.exists_reaches_of_run _ _ _ (@machine .atZero) (.onePoint { maxTxFragSize := 12 })
      (fun context => context.requestOf (.fragment [0xC0, 0]) = some confirm ∧
        context.state = .solicitedConfirmWait ∧ context.sol.seq.confirmNum.seq = 0 ∧
        (responses context.log).getLast? = some ⟨true, false, true, false, 0⟩ ∧
        ((@machine .atZero).step context (.atZero, .fragment [0xC0, 0])).map
          (responses ·.2) = some [])
      (List.map (Environment.atZero, ·)
        [.lowerLayerUp, .binaryEvent, .binaryEvent, .fragment [0xC0, 1, 60, 2, 6], .txReady,
          .binaryEvent, .binaryEvent])
      (by decide +kernel)
  obtain ⟨about, waits, seq, sent, none⟩ := of_decide_eq_true checked
  have answers := answersReads .atZero _ _ _ _ context
    (neverSelected_onePoint { maxTxFragSize := 12 }) reached
  obtain ⟨last, found, _, _, further⟩ := @AnswersReads.continues .atZero _ _ answers .atZero _
    confirm trivial ⟨about, .inl ⟨rfl, waits, rfl, seq⟩⟩ waits
  obtain rfl := Option.some.inj (sent.symm.trans found)
  obtain ⟨_, ⟨after, output, stepped, said⟩, _⟩ := further rfl
  rw [stepped] at none
  cases said.symm.trans (Option.some.inj none)

end OContext

end OpenDnp3.Outstation
