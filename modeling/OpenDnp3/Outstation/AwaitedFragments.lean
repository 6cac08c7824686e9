import OpenDnp3.Outstation.ConfirmSources

/-!
# Awaited fragments

While the outstation waits for a confirm, the events that are marked as written are
those of the fragment that it waits on, which is the last one of its kind.
-/

set_option autoImplicit false

namespace OpenDnp3.Outstation

open OpenDnp3.App OpenDnp3.Library

/-! ## Fragments of a kind -/

/-- A fragment with the function code is begun. -/
def Activity.isOf (function : FunctionCode) : Activity → Bool
  | .call _ => false
  | .beginTransmit _ fragment _ => fragment[1]? == some function.toType

/-- The last fragment with the function code. -/
def lastOf (function : FunctionCode) (activities : List Activity) : Option Activity :=
  (activities.filter (Activity.isOf function)).getLast?

section kinds

variable {function : FunctionCode} {activities more : List Activity} {activity : Activity}

theorem lastOf_concat (activities : List Activity) (kind : activity.isOf function = true) :
    lastOf function (activities ++ [activity]) = some activity := by
  rw [lastOf, List.filter_append, List.filter_cons_of_pos kind, List.filter_nil]
  exact List.getLast?_concat ..

theorem lastOf_others (others : ∀ activity ∈ more, activity.isOf function = false) :
    lastOf function (activities ++ more) = lastOf function activities := by
  have none : more.filter (Activity.isOf function) = [] := by
    rw [List.filter_eq_nil_iff]
    exact fun activity member => by simp [others activity member]
  rw [lastOf, List.filter_append, none, List.append_nil, lastOf]

theorem Silent.others (silent : Silent activities) :
    ∀ activity ∈ activities, activity.isOf function = false := by
  intro activity member
  have none := silent activity member
  cases activity with
  | call _ => rfl
  | beginTransmit _ _ _ => cases none

/-- The second byte of a fragment tells what it is. -/
theorem isOf_beginTransmit {destination : UInt16} {fragment : List UInt8} {carried : List Nat}
    {control : UInt8} {code : FunctionCode} (header : fragment.take 2 = [control, code.toType]) :
    (Activity.beginTransmit destination fragment carried).isOf function =
      (code.toType == function.toType) := by
  have second : fragment[1]? = some code.toType := by
    have found := congrArg (·[1]?) header
    simpa [List.getElem?_take_of_lt (show 1 < 2 by decide)] using found
  rw [Activity.isOf, second]
  rfl

end kinds

/-! ## Marks -/

namespace EventBuffer

/-- The events that are marked as written are exactly these, as far as they are still stored. -/
structure MarksExactly (config : EventBufferConfig) (serials : List Nat) (buffer : EventBuffer) :
    Prop where
  valid : buffer.storage.Valid config
  written : ∀ record ∈ buffer.records, record.state = .written ↔ record.serial ∈ serials
  stored : ∀ serial ∈ serials, serial < buffer.storage.nextSerial

variable {config : EventBufferConfig} {buffer after : EventBuffer} {serials : List Nat}

theorem Marks.exact (marks : buffer.Marks config []) : buffer.MarksExactly config [] :=
  ⟨marks.valid, fun record member =>
    ⟨marks.written record member, fun none => absurd none List.not_mem_nil⟩,
    fun _ none => absurd none List.not_mem_nil⟩

theorem MarksExactly.isOverflown (exact : buffer.MarksExactly config serials) :
    buffer.isOverflown.2.MarksExactly config serials :=
  ⟨exact.valid, exact.written, exact.stored⟩

theorem nextSerial_update {event : AnyEvent} {config : EventBufferConfig}
    (valid : buffer.storage.Valid config) (success : buffer.update event = some after) :
    buffer.storage.nextSerial ≤ after.storage.nextSerial := by
  obtain ⟨⟨overflow, lists⟩, stored, rfl⟩ := Option.map_eq_some_iff.mp success
  exact valid.nextSerial_update stored

theorem MarksExactly.update (exact : buffer.MarksExactly config serials) {event : AnyEvent}
    (success : buffer.update event = some after) : after.MarksExactly config serials := by
  have more := nextSerial_update exact.valid success
  obtain ⟨⟨overflow, lists⟩, stored, rfl⟩ := Option.map_eq_some_iff.mp success
  refine ⟨exact.valid.update stored, fun record member => ?_, fun serial member =>
    Nat.lt_of_lt_of_le (exact.stored serial member) more⟩
  rcases exact.valid.records_update stored record member with before | ⟨unselected, fresh⟩
  · exact exact.written record before
  · refine ⟨fun written => ?_, fun member => ?_⟩
    · cases unselected.symm.trans written
    · exact absurd (exact.stored _ member) (by rw [fresh]; exact Nat.lt_irrefl _)

theorem MarksExactly.updateAll {events : List AnyEvent}
    (exact : buffer.MarksExactly config serials)
    (success : EventBuffer.updateAll events buffer = some after) :
    after.MarksExactly config serials := by
  induction events generalizing buffer with
  | nil =>
      cases success
      exact exact
  | cons event events ih =>
      obtain ⟨next, stored, others⟩ := Option.bind_eq_some_iff.mp success
      exact ih (exact.update stored) others

/-- When no event was marked before, a load marks those that it carries. -/
theorem Marks.load_exact [FloatOps] (marks : buffer.Marks config []) (writer : HeaderWriter) :
    (buffer.load writer).buffer.MarksExactly config (buffer.load writer).carried := by
  obtain ⟨taken, valid, writes, carried⟩ := marks.valid.write asduEventWriteHandler writer
  have same : (buffer.load writer).carried = taken.map (·.serial) := carried
  have values : (buffer.load writer).buffer.records = _ := writes.values
  refine ⟨valid, fun record member => ?_, fun serial member => ?_⟩
  · rw [values] at member
    obtain ⟨before, found, rfl⟩ := List.mem_map.mp member
    rw [EventRecord.serial_setStateIn, same]
    have unwritten : before.state ≠ .written := fun written =>
      List.not_mem_nil (marks.written before found written)
    by_cases now : before.serial ∈ taken.map (·.serial)
    · simp [EventRecord.setStateIn, now]
    · simp [EventRecord.setStateIn, now, unwritten]
  · rw [same] at member
    obtain ⟨record, found, rfl⟩ := List.mem_map.mp member
    have selected : record ∈ buffer.storage.selectedRecords := by
      rw [writes.first]
      exact List.mem_append_left _ found
    have fresh := marks.valid.fresh record (List.mem_of_mem_filter selected)
    exact lt_of_lt_of_eq fresh writes.nextSerial.symm

/-- A confirm keeps what is not marked, and nothing else. -/
theorem MarksExactly.mem_clearWritten (exact : buffer.MarksExactly config serials)
    {record : EventRecord} :
    record ∈ buffer.clearWritten.records ↔
      record ∈ buffer.records ∧ record.serial ∉ serials := by
  have values : buffer.clearWritten.records = _ := exact.valid.clearWritten.2.2
  rw [values, List.mem_filter]
  refine and_congr_right fun member => ?_
  rw [decide_eq_true_eq, ← exact.written record member]

end EventBuffer

namespace OContext

/-! ## Loads -/

section loads

variable [FloatOps] {config : EventBufferConfig} {environment : Environment}
  {request : ParsedRequest} {context after : OContext} {serials : List Nat}

theorem exact_loadResponse {loaded : Loaded} {writer : HeaderWriter}
    (marks : context.eventBuffer.Marks config [])
    (success : context.loadResponse writer = some loaded) :
    loaded.context.eventBuffer.MarksExactly config loaded.carried := by
  simp only [loadResponse] at success
  split at success
  · obtain ⟨_, _, rfl⟩ := Option.map_eq_some_iff.mp success
    exact marks.load_exact writer
  · obtain rfl := Option.some.inj success
    exact marks.load_exact writer

theorem exact_handleRead {loaded : Loaded} {objects : List UInt8} {writer : HeaderWriter}
    {iin : IINField} (marks : context.eventBuffer.Marks config serials)
    (success : context.handleRead objects writer = some (iin, loaded)) :
    loaded.context.eventBuffer.MarksExactly config loaded.carried := by
  have unselected : context.startRead.eventBuffer.Marks config [] := marks.unselect
  simp only [handleRead] at success
  split at success
  · obtain ⟨_, rfl⟩ := Prod.mk.inj (Option.some.inj success)
    exact unselected.exact
  · next headers _ =>
      obtain ⟨_, made, same⟩ := Option.map_eq_some_iff.mp success
      obtain ⟨_, rfl⟩ := Prod.mk.inj same
      exact exact_loadResponse (ReadHandler.marks_foldl unselected headers) made

omit [FloatOps] in
theorem exact_sendLoaded {loaded : Loaded} {destination : UInt16} {seq : AppSeqNum}
    {iin : IINField} {response : APDUResponse}
    (exact : loaded.context.eventBuffer.MarksExactly config loaded.carried) :
    EventBuffer.MarksExactly config
      (sendLoaded environment loaded destination seq iin response).sol.tx.carried
      (sendLoaded environment loaded destination seq iin response).eventBuffer := by
  rw [sendLoaded]
  cases con : loaded.control.con with
  | true =>
      simp only [con, if_true]
      exact exact.isOverflown
  | false =>
      simp only [con, Bool.false_eq_true, if_false]
      exact exact.isOverflown

theorem exact_respondToReadRequest (marks : context.eventBuffer.Marks config serials)
    (success : context.respondToReadRequest environment request = some after) :
    after.eventBuffer.MarksExactly config after.sol.tx.carried := by
  obtain ⟨⟨iin, loaded⟩, made, rfl⟩ := Option.map_eq_some_iff.mp success
  have same : OContext.eventBuffer { context with
    history := .recordLastProcessedRequest request.header request.objects } =
      context.eventBuffer := rfl
  exact exact_sendLoaded (exact_handleRead (same ▸ marks) made)

theorem exact_continueMultiFragResponse {addresses : Addresses} {seq : AppSeqNum}
    (marks : context.eventBuffer.Marks config [])
    (success : context.continueMultiFragResponse environment addresses seq = some after) :
    after.eventBuffer.MarksExactly config after.sol.tx.carried := by
  obtain ⟨loaded, made, rfl⟩ := Option.map_eq_some_iff.mp success
  exact exact_sendLoaded (exact_loadResponse marks made)

theorem exact_sendUnsolicited {classes : ClassField}
    (marks : context.eventBuffer.Marks config serials) :
    EventBuffer.MarksExactly config
      (context.sendUnsolicited environment (some classes)).unsol.tx.carried
      (context.sendUnsolicited environment (some classes)).eventBuffer :=
  ((marks.unselect.selectByClass classes EventBuffer.maxCount).load_exact
    context.unsol.tx.start.getWriter).isOverflown

end loads

/-! ## What is awaited -/

/-- The control byte of a fragment. -/
theorem control_of_header {fragment : List UInt8} {control : AppControlField} {code : UInt8}
    (header : fragment.take 2 = [control.toByte, code]) (below : control.seq < 16) :
    AppControlField.ofByte (fragment.headD 0) = control := by
  cases fragment with
  | nil => cases header
  | cons first rest =>
      obtain ⟨rfl, _⟩ := List.cons.inj header
      exact AppControlField.ofByte_toByte control below

/-- The last response asks for a confirm, and is the last one that was begun since the log had a
length. -/
structure SentResponse (config : EventBufferConfig) (since : Nat) (context : OContext) :
    Prop where
  events : context.eventBuffer.MarksExactly config context.sol.tx.carried
  header : context.sol.tx.lastResponse.take 2 =
    [context.sol.tx.control.toByte, FunctionCode.response.toType]
  con : context.sol.tx.control.con = true
  uns : context.sol.tx.control.uns = false
  seq : context.sol.tx.control.seq = context.sol.seq.confirmNum.seq
  small : context.sol.tx.control.seq < 16
  last : ∃ destination, lastOf .response (context.log.drop since) =
    some (.beginTransmit destination context.sol.tx.lastResponse context.sol.tx.carried)

/-- The last unsolicited response is the last one that was begun since the log had a length. -/
structure SentUnsolicited (config : EventBufferConfig) (since : Nat) (context : OContext) :
    Prop where
  events : context.unsol.completedNull = true →
    context.eventBuffer.MarksExactly config context.unsol.tx.carried
  header : context.unsol.tx.lastResponse.take 2 =
    [context.unsol.tx.control.toByte, FunctionCode.unsolicitedResponse.toType]
  control : context.unsol.tx.control = ⟨true, true, true, true, context.unsol.seq.confirmNum.seq⟩
  small : context.unsol.tx.control.seq < 16
  last : ∃ destination, lastOf .unsolicitedResponse (context.log.drop since) =
    some (.beginTransmit destination context.unsol.tx.lastResponse context.unsol.tx.carried)

/-- What a confirm is awaited for was sent since the log had a length, and what is not a READ is
answered without asking for one. -/
structure Tracks (config : EventBufferConfig) (since : Nat) (context : OContext) : Prop where
  below : since ≤ context.log.length
  solicited : context.state = .solicitedConfirmWait → context.SentResponse config since
  unsolicited : context.state = .unsolicitedConfirmWait → context.SentUnsolicited config since
  answered : context.history.hasLast = true → context.history.lastHeader.function ≠ .read →
    context.sol.tx.control.con = false
  number : context.unsol.seq.num.seq < 16

section tracking

variable {config : EventBufferConfig} {environment : Environment} {request : ParsedRequest}
  {context before after : OContext} {since : Nat}

/-- What is not unsolicited leaves alone what is. -/
theorem SentUnsolicited.extend (sent : context.SentUnsolicited config since)
    (below : since ≤ context.log.length) {activities : List Activity}
    (log : after.log = context.log ++ activities)
    (others : ∀ activity ∈ activities, activity.isOf .unsolicitedResponse = false)
    (unsol : after.unsol = context.unsol)
    (events : ∀ serials, context.eventBuffer.MarksExactly config serials →
      after.eventBuffer.MarksExactly config serials) : after.SentUnsolicited config since := by
  refine ⟨fun completed => ?_, unsol ▸ sent.header, unsol ▸ sent.control, unsol ▸ sent.small, ?_⟩
  · rw [unsol] at completed ⊢
    exact events _ (sent.events completed)
  · rw [unsol, log, List.drop_append_of_le_length below, lastOf_others others]
    exact sent.last

theorem RespondsWithData.tracks {destination : UInt16} {seq : AppSeqNum}
    (responds : RespondsWithData config destination seq before after)
    (exact : after.eventBuffer.MarksExactly config after.sol.tx.carried)
    (below : since ≤ before.log.length) (small : seq.seq < 16)
    (number : before.unsol.seq.num.seq < 16)
    (read : before.history.hasLast = true → before.history.lastHeader.function = .read) :
    after.Tracks config since := by
  have log := responds.log
  have split : after.log = before.log ++ [.call .getApplicationIIN] ++
      [.beginTransmit destination after.sol.tx.lastResponse after.sol.tx.carried] := by
    rw [log, List.append_assoc]
    rfl
  have begun : lastOf .response (after.log.drop since) =
      some (.beginTransmit destination after.sol.tx.lastResponse after.sol.tx.carried) := by
    rw [split, List.drop_append_of_le_length (Nat.le_trans below (by simp))]
    exact lastOf_concat _ ((isOf_beginTransmit responds.header).trans (beq_self_eq_true _))
  refine ⟨?_, fun waits => ?_, fun waits => ?_, fun has other => ?_, responds.unsol ▸ number⟩
  · rw [log, List.length_append]
    exact Nat.le_trans below (Nat.le_add_right _ _)
  · rcases responds.waits with ⟨_, con, _⟩ | ⟨idle, _⟩
    · refine ⟨exact, responds.header, con, responds.control.2, ?_, ?_, destination, begun⟩
      · rw [responds.control.1, responds.confirmNum]
      · rw [responds.control.1]
        exact small
    · cases idle.symm.trans waits
  · rcases responds.waits with ⟨other, _⟩ | ⟨idle, _⟩
    · cases other.symm.trans waits
    · cases idle.symm.trans waits
  · rw [responds.history] at has other
    exact absurd (read has) other

/-- A response to what is not a READ is not unsolicited. -/
theorem RespondsToNonRead.others (responds : RespondsToNonRead request context after) :
    ∃ activities, after.log = context.log ++ activities ∧
      ∀ activity ∈ activities, activity.isOf .unsolicitedResponse = false := by
  obtain ⟨calls, log, silent⟩ := responds.said
  refine ⟨_, log, fun activity member => ?_⟩
  rcases List.mem_append.mp member with early | late
  · exact silent.others activity early
  · rw [List.mem_singleton.mp late, isOf_beginTransmit responds.header]
    rfl

theorem RespondsToNonRead.tracks (responds : RespondsToNonRead request before after)
    (below : since ≤ before.log.length) (number : before.unsol.seq.num.seq < 16)
    (notSolicited : before.state ≠ .solicitedConfirmWait)
    (unsolicited : before.state = .unsolicitedConfirmWait →
      before.SentUnsolicited config since) : after.Tracks config since := by
  obtain ⟨activities, log, others⟩ := responds.others
  refine ⟨?_, fun waits => ?_, fun waits => ?_, fun _ _ => ?_, responds.unsol ▸ number⟩
  · rw [log, List.length_append]
    exact Nat.le_trans below (Nat.le_add_right _ _)
  · exact absurd (responds.state.symm.trans waits) notSolicited
  · refine (unsolicited (responds.state.symm.trans waits)).extend below log others responds.unsol ?_
    intro serials exact
    rw [responds.eventBuffer]
    exact exact.isOverflown
  · rw [responds.control]

/-- A state in which nothing is awaited, and nothing more has been answered. -/
theorem Tracks.idle (tracks : context.Tracks config since) (idle : after.state = .idle)
    (log : context.log <+: after.log) (sol : after.sol.tx = context.sol.tx)
    (unsol : after.unsol.seq = context.unsol.seq)
    (history : after.history.hasLast = true → after.history = context.history) :
    after.Tracks config since := by
  refine ⟨Nat.le_trans tracks.below log.length_le, fun waits => ?_, fun waits => ?_,
    fun has other => ?_, unsol ▸ tracks.number⟩
  · cases idle.symm.trans waits
  · cases idle.symm.trans waits
  · have same := history has
    rw [same] at has other
    rw [sol]
    exact tracks.answered has other

theorem tracks_initial (addresses : Addresses) (params : OutstationParams)
    (config : EventBufferConfig) (database : DatabaseBuffers) :
    (initial addresses params config database).Tracks config 0 where
  below := Nat.le_refl _
  solicited waits := by cases waits
  unsolicited waits := by cases waits
  answered has := by cases has
  number := show (0 : UInt8) < 16 by decide

variable [FloatOps]

/-- A request that is handled keeps track of what is awaited. -/
theorem Tracks.handles (tracks : context.Tracks config since) (regular : context.Regular config)
    (small : request.header.control.seq < 16)
    (handles : Handles environment request context after) : after.Tracks config since := by
  obtain ⟨serials, marks⟩ := regular.marks
  have below := tracks.below
  have repeats {other : OContext} (isRepeat : true = context.isRepeat request)
      (log : other.log = context.log ++ [.beginTransmit request.addresses.source
        context.sol.tx.lastResponse context.sol.tx.carried])
      (notSolicited : other.state ≠ .solicitedConfirmWait) (same : other.state = context.state)
      (sol : other.sol = context.sol) (unsol : other.unsol = context.unsol)
      (history : other.history = context.history)
      (buffer : other.eventBuffer = context.eventBuffer) : other.Tracks config since := by
    have header := (regular.remembers (isRepeat_hasLast isRepeat.symm)).1
    refine ⟨?_, fun waits => absurd waits notSolicited, fun waits => ?_, ?_,
      unsol ▸ tracks.number⟩
    · rw [log, List.length_append]
      exact Nat.le_trans below (Nat.le_add_right _ _)
    · refine (tracks.unsolicited (same.symm.trans waits)).extend below log ?_ unsol ?_
      · intro activity member
        rw [List.mem_singleton.mp member, isOf_beginTransmit header]
        rfl
      · rw [buffer]
        exact fun _ exact => exact
    · rw [history, sol]
      exact tracks.answered
  cases handles with
  | ignored _ => exact tracks
  | confirmedLast _ _ | confirmedEvents _ _ | confirmedNull _ _ =>
      exact tracks.idle rfl (List.prefix_refl _) rfl rfl (fun has => nomatch has)
  | confirmedMore _ _ continued =>
      exact (continueMultiFragResponse_responds marks.clearWritten continued).tracks
        (exact_continueMultiFragResponse marks.clearWritten continued) below
        (SequenceNum.seq_next_lt _) tracks.number (fun has => nomatch has)
  | readIdle requests responded =>
      have same : (context.numbered request).eventBuffer.Marks config serials := marks
      exact (respondToReadRequest_responds same responded).tracks
        (exact_respondToReadRequest same responded) below small tracks.number
        fun _ => of_decide_eq_true requests.isRead.symm
  | readWaiting requests responded =>
      have same : (context.numbered request).cancelConfirmTimer.eventBuffer.Marks config serials :=
        marks
      exact (respondToReadRequest_responds same responded).tracks
        (exact_respondToReadRequest same responded) below small tracks.number
        fun _ => of_decide_eq_true requests.isRead.symm
  | readHeld requests =>
      refine ⟨below, fun waits => ?_, fun waits => ?_, tracks.answered, tracks.number⟩
      · cases requests.state.symm.trans waits
      · obtain ⟨events, header, control, small, last⟩ := tracks.unsolicited waits
        exact ⟨events, header, control, small, last⟩
  | nonReadIdle requests =>
      refine (respondToNonReadRequest_responds environment (context.numbered request)
        request).tracks below tracks.number ?_ ?_
      · exact ne_of_eq_of_ne requests.state nofun
      · intro waits
        cases requests.state.symm.trans waits
  | nonReadWaiting requests =>
      have responds := respondToNonReadRequest_responds environment
        (context.numbered request).cancelConfirmTimer request
      obtain ⟨activities, log, _⟩ := responds.others
      refine ⟨?_, nofun, nofun, fun _ _ => ?_, ?_⟩
      · have same : (setState ((context.numbered request).cancelConfirmTimer.respondToNonReadRequest
          environment request) .idle).log = context.log ++ activities := log
        rw [same, List.length_append]
        exact Nat.le_trans below (Nat.le_add_right _ _)
      · exact congrArg AppControlField.con responds.control
      · have same := congrArg (·.seq.num) responds.unsol
        exact lt_of_eq_of_lt (congrArg SequenceNum.seq same) tracks.number
  | nonReadUnsolicited requests =>
      refine (respondToNonReadRequest_responds environment
        { context.numbered request with deferred := none } request).tracks below tracks.number ?_ ?_
      · exact ne_of_eq_of_ne requests.state nofun
      · intro waits
        obtain ⟨events, header, control, small, last⟩ := tracks.unsolicited waits
        exact ⟨events, header, control, small, last⟩
  | repeatReadIdle requests | repeatNonReadIdle requests =>
      exact repeats requests.isRepeat rfl (ne_of_eq_of_ne requests.state nofun) rfl rfl rfl rfl rfl
  | repeatReadWaiting requests =>
      refine ⟨?_, fun waits => ?_, fun waits => ?_, tracks.answered, tracks.number⟩
      · have log : (context.restartConfirmTimer.repeatResponseTx request.addresses.source).log =
          context.log ++ [_] := rfl
        rw [log, List.length_append]
        exact Nat.le_trans below (Nat.le_add_right _ _)
      · have sent := tracks.solicited requests.state
        have log : (context.restartConfirmTimer.repeatResponseTx request.addresses.source).log =
          context.log ++ [.beginTransmit request.addresses.source context.sol.tx.lastResponse
            context.sol.tx.carried] := rfl
        refine ⟨sent.events, sent.header, sent.con, sent.uns, sent.seq, sent.small,
          request.addresses.source, ?_⟩
        rw [log, List.drop_append_of_le_length below]
        exact lastOf_concat _ ((isOf_beginTransmit sent.header).trans (beq_self_eq_true _))
      · cases requests.state.symm.trans waits
  | repeatReadHeld requests =>
      refine ⟨below, fun waits => ?_, fun waits => ?_, tracks.answered, tracks.number⟩
      · cases requests.state.symm.trans waits
      · obtain ⟨events, header, control, small, last⟩ := tracks.unsolicited waits
        exact ⟨events, header, control, small, last⟩
  | repeatNonReadWaiting requests =>
      have repeated := requests.isRepeat.symm
      have isRead := regular.awaitsRead requests.state (isRepeat_hasLast repeated)
      rw [isRepeat_function repeated] at isRead
      exact absurd isRead (of_decide_eq_false requests.isRead.symm)
  | repeatNonReadUnsolicited requests =>
      exact repeats requests.isRepeat rfl (ne_of_eq_of_ne requests.state nofun) rfl rfl rfl rfl rfl

theorem Tracks.resumes (tracks : context.Tracks config since) (regular : context.Regular config)
    (small : ∀ request, context.deferred = some request → request.header.control.seq < 16)
    (resumes : Resumes environment context after) : after.Tracks config since := by
  cases resumes with
  | blocked _ | none _ | kept _ _ _ => exact tracks
  | handled _ deferred _ handles =>
      obtain ⟨below, solicited, unsolicited, answered, number⟩ :=
        tracks.handles regular (small _ deferred) handles
      refine ⟨below, fun waits => ?_, fun waits => ?_, answered, number⟩
      · obtain ⟨events, header, con, uns, seq, small, last⟩ := solicited waits
        exact ⟨events, header, con, uns, seq, small, last⟩
      · obtain ⟨events, header, control, small, last⟩ := unsolicited waits
        exact ⟨events, header, control, small, last⟩

theorem Tracks.reports (tracks : context.Tracks config since) (regular : context.Regular config)
    (reports : Reports environment context after) : after.Tracks config since := by
  obtain ⟨serials, marks⟩ := regular.marks
  have below := tracks.below
  have sends {classes : Option ClassField}
      (events : (context.sendUnsolicited environment classes).unsol.completedNull = true →
        EventBuffer.MarksExactly config
          (context.sendUnsolicited environment classes).unsol.tx.carried
          (context.sendUnsolicited environment classes).eventBuffer) :
      (context.sendUnsolicited environment classes).Tracks config since := by
    have responds := sendUnsolicited_responds environment context classes
    have log := responds.log
    have split : (context.sendUnsolicited environment classes).log =
        context.log ++ [.call .getApplicationIIN] ++ [.beginTransmit context.addresses.destination
          (context.sendUnsolicited environment classes).unsol.tx.lastResponse
          (context.sendUnsolicited environment classes).unsol.tx.carried] := by
      rw [log, List.append_assoc]
      rfl
    refine ⟨?_, fun waits => ?_,
      fun _ => ⟨events, responds.header, ?_, ?_, context.addresses.destination, ?_⟩, ?_, ?_⟩
    · rw [log, List.length_append]
      exact Nat.le_trans below (Nat.le_add_right _ _)
    · cases responds.state.symm.trans waits
    · rw [responds.control, responds.seq]
    · rw [responds.control]
      exact tracks.number
    · rw [split, List.drop_append_of_le_length (Nat.le_trans below (by simp))]
      exact lastOf_concat _ ((isOf_beginTransmit responds.header).trans (beq_self_eq_true _))
    · rw [responds.history, responds.sol]
      exact tracks.answered
    · rw [responds.seq]
      exact SequenceNum.seq_next_lt _
  cases reports with
  | nothing => exact tracks
  | null _ _ open_ =>
      refine sends fun completed => ?_
      rw [(sendUnsolicited_responds environment context none).completedNull, open_] at completed
      cases completed
  | events _ _ _ _ => exact sends fun _ => exact_sendUnsolicited marks

theorem Tracks.starts (tracks : context.Tracks config since) (regular : context.Regular config)
    (small : ∀ request, context.deferred = some request → request.header.control.seq < 16)
    (starts : Starts environment context after) : after.Tracks config since := by
  obtain ⟨resumed, resumes, reports⟩ := starts
  exact (tracks.resumes regular small resumes).reports (regular.resumes resumes) reports

omit [FloatOps] in
/-- What only the buffer of events sees. -/
theorem Tracks.carry (tracks : context.Tracks config since) (log : after.log = context.log)
    (state : after.state = context.state) (sol : after.sol = context.sol)
    (unsol : after.unsol = context.unsol) (history : after.history = context.history)
    (events : ∀ serials, context.eventBuffer.MarksExactly config serials →
      after.eventBuffer.MarksExactly config serials) : after.Tracks config since := by
  refine ⟨log ▸ tracks.below, fun waits => ?_, fun waits => ?_, ?_, unsol ▸ tracks.number⟩
  · obtain ⟨exact, header, con, uns, seq, small, last⟩ :=
      tracks.solicited (state.symm.trans waits)
    exact ⟨sol ▸ events _ exact, sol ▸ header, sol ▸ con, sol ▸ uns, sol ▸ seq, sol ▸ small,
      sol ▸ log ▸ last⟩
  · refine (tracks.unsolicited (state.symm.trans waits)).extend tracks.below
      (log.trans (List.append_nil _).symm) (fun _ member => ?_) unsol events
    cases member
  · rw [history, sol]
    exact tracks.answered

theorem exact_changeAll {updates : List DatabaseUpdate} {serials : List Nat}
    (exact : context.eventBuffer.MarksExactly config serials)
    (changed : changeAll updates context = some after) :
    after.eventBuffer.MarksExactly config serials := by
  induction updates generalizing context with
  | nil =>
      cases changed
      exact exact
  | cons update updates ih =>
      obtain ⟨next, first, others⟩ := Option.bind_eq_some_iff.mp changed
      obtain ⟨buffer, stored, rfl⟩ := Option.map_eq_some_iff.mp first
      exact ih (exact.updateAll stored) others

theorem Tracks.reacts {input : Input} (tracks : context.Tracks config since)
    (regular : context.Regular config) (reacts : Reacts environment context input after) :
    after.Tracks config since := by
  cases reacts with
  | up _ | txReady _ _ => exact tracks.carry rfl rfl rfl rfl rfl fun _ exact => exact
  | ignored _ _ => exact tracks
  | @noAck message request _ _ _ =>
      have kept : Undisturbed context (context.processRequestNoAck environment request) :=
        processRequestNoAck_undisturbed request
      have calls : Calls (some .directOperateNoAck) context.log
        (context.processRequestNoAck environment request).log := processRequestNoAck_calls request
      obtain ⟨activities, log, silent⟩ := calls.silent
      refine ⟨?_, fun waits => ?_, fun waits => ?_, ?_, kept.unsol ▸ tracks.number⟩
      · rw [log, List.length_append]
        exact Nat.le_trans tracks.below (Nat.le_add_right _ _)
      · obtain ⟨exact, header, con, uns, seq, small, last⟩ :=
          tracks.solicited (kept.state.symm.trans waits)
        refine ⟨?_, kept.sol ▸ header, kept.sol ▸ con, kept.sol ▸ uns, kept.sol ▸ seq,
          kept.sol ▸ small, ?_⟩
        · rw [kept.sol, kept.eventBuffer]
          exact exact
        · rw [kept.sol, log, List.drop_append_of_le_length tracks.below,
            lastOf_others silent.others]
          exact last
      · refine (tracks.unsolicited (kept.state.symm.trans waits)).extend tracks.below log
          silent.others kept.unsol ?_
        rw [kept.eventBuffer]
        exact fun _ exact => exact
      · rw [kept.history, kept.sol]
        exact tracks.answered
  | deferred _ _ _ _ => exact tracks.carry rfl rfl rfl rfl rfl fun _ exact => exact
  | handled _ accepted _ _ handles =>
      exact tracks.handles regular (seq_of_acceptMessage accepted) handles
  | timeout _ =>
      rw [onConfirmTimeout]
      split
      · exact tracks.carry rfl rfl rfl rfl rfl fun _ exact => exact
      · exact tracks.idle rfl (List.prefix_refl _) rfl rfl fun _ => rfl
      · split <;> exact tracks.idle rfl (List.prefix_refl _) rfl rfl fun _ => rfl
  | apply _ changed =>
      have session := session_changeAll changed
      refine tracks.carry ?_ ?_ ?_ ?_ ?_ fun _ exact => exact_changeAll exact changed
      all_goals rw [session]

/-- What is held back after an event has a number below 16. -/
theorem HeldBack.small {input : Input} (held : context.HeldBack) (regular : context.Regular config)
    (reacts : Reacts environment context input after) (deferred : after.deferred = some request) :
    request.header.control.seq < 16 := by
  rcases deferred_of_reacts regular reacts deferred with ⟨_, other, _, _, accepted, rfl⟩ | before
  · have below := seq_of_acceptMessage accepted
    exact below
  · exact held.below request before

/-- While the lower layer stays up, the outstation keeps track of what is awaited. -/
theorem Tracks.steps {input : Input} (tracks : context.Tracks config since)
    (held : context.HeldBack) (regular : context.Regular config) (stays : input ≠ .lowerLayerDown)
    (steps : Steps environment context input after) : after.Tracks config since := by
  cases steps with
  | nothing _ => exact tracks
  | down _ => exact absurd rfl stays
  | setRestartIIN => exact tracks.carry rfl rfl rfl rfl rfl fun _ exact => exact
  | starts reacts starts =>
      exact (tracks.reacts regular reacts).starts (regular.reacts reacts)
        (fun _ deferred => held.small regular reacts deferred) starts

end tracking

end OContext

end OpenDnp3.Outstation
