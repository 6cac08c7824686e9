import OpenDnp3.Outstation.ReportedSelections

/-!
# Unfinished responses

An outstation that has sent a fragment which is not the last one of its response
waits for a confirm. Until the confirm comes, the rest of the response stays as
it is, and the confirm leads to the next fragment.
-/

set_option autoImplicit false

namespace OpenDnp3.Outstation

open OpenDnp3.App OpenDnp3.Library OpenDnp3.Master

namespace OContext

variable [FloatOps] {config : EventBufferConfig} {environment : Environment}
  {request : ParsedRequest} {context after : OContext}

/-- A response has a fragment behind the one that waits for a confirm. -/
structure Unfinished (config : EventBufferConfig) (context : OContext) : Prop where
  isOnline : context.isOnline = true
  state : context.state = .solicitedConfirmWait
  more : context.hasSelection = true
  below : context.sol.seq.confirmNum.seq < 16
  reporting : context.Reporting config

omit [FloatOps] in
/-- A response is unfinished by what is selected, and by the confirm that is awaited. -/
theorem Unfinished.congr (unfinished : context.Unfinished config)
    (isOnline : after.isOnline = context.isOnline) (state : after.state = context.state)
    (sol : after.sol = context.sol) (eventBuffer : after.eventBuffer = context.eventBuffer)
    (database : after.database = context.database) : after.Unfinished config := by
  refine ⟨isOnline.trans unfinished.isOnline, state.trans unfinished.state, ?_,
    sol ▸ unfinished.below, ?_⟩
  · rw [hasSelection, eventBuffer, database]
    exact unfinished.more
  · refine ⟨?_, ?_, database ▸ unfinished.reporting.points⟩
    · rw [eventBuffer]
      exact unfinished.reporting.events
    · rw [eventBuffer]
      exact unfinished.reporting.encodable

/-- A fragment of a response is sent behind others, and it reports the first of what is
selected. -/
structure SendsFragment (config : EventBufferConfig) (selected : List Measurement)
    (sent : UInt16) (destination : UInt16) (seq : AppSeqNum) (context after : OContext) :
    Prop where
  responds : RespondsWithData config destination seq context after
  part : SendsPart (sent == 0) after
  reports : after.ReportsFirst config selected
  counts : after.fragmentCount = sent + 1

/-- A fragment that is not the last one leaves the response unfinished. -/
theorem SendsFragment.unfinished {selected : List Measurement} {sent destination : UInt16}
    {seq : AppSeqNum} (sends : SendsFragment config selected sent destination seq context after)
    (isOnline : context.isOnline = true) (below : seq.seq < 16)
    (more : after.sol.tx.control.fin = false) : after.Unfinished config := by
  have con := sends.part.confirms more
  have state : after.state = .solicitedConfirmWait := by
    rcases sends.responds.waits with waits | idle
    · exact waits.1
    · cases idle.2.1.symm.trans con
  have fin := sends.part.waits state
  rw [more] at fin
  refine ⟨sends.responds.isOnline.trans isOnline, state, by simpa using fin.symm, ?_,
    sends.reports.reporting⟩
  rw [sends.responds.confirmNum]
  exact below

theorem fragmentCount_loadResponse {loaded : Loaded} {writer : HeaderWriter}
    (success : context.loadResponse writer = some loaded) :
    loaded.context.fragmentCount = context.fragmentCount + 1 := by
  simp only [loadResponse] at success
  split at success
  · obtain ⟨static, _, rfl⟩ := Option.map_eq_some_iff.mp success
    rfl
  · obtain rfl := Option.some.inj success
    rfl

omit [FloatOps] in
theorem fragmentCount_sendLoaded (loaded : Loaded) (destination : UInt16) (seq : AppSeqNum)
    (iin : IINField) (response : APDUResponse) :
    (sendLoaded environment loaded destination seq iin response).fragmentCount =
      loaded.context.fragmentCount := by
  rw [sendLoaded]
  dsimp only
  split <;> rfl

theorem SendsFragment.read {serials : List Nat} {headers : List Header}
    (marks : context.eventBuffer.Marks config serials) (valid : context.database.Valid)
    (parsed : APDUParser.parse false ReadHandler.isAllowed request.objects = .ok headers)
    (reporting : (context.selectedBy headers).Reporting config)
    (below : request.header.control.seq < 16)
    (success : context.respondToReadRequest environment request = some after) :
    SendsFragment config (context.selectedBy headers).toReport 0 request.addresses.source
      ⟨request.header.control.seq⟩
      { context with history := .recordLastProcessedRequest request.header request.objects }
      after := by
  refine ⟨respondToReadRequest_responds marks success, sendsPart_respondToReadRequest valid success,
    respondToReadRequest_reports parsed reporting below success, ?_⟩
  obtain ⟨⟨iin, loaded⟩, made, rfl⟩ := Option.map_eq_some_iff.mp success
  simp only [handleRead, parsed] at made
  obtain ⟨_, loads, same⟩ := Option.map_eq_some_iff.mp made
  obtain ⟨_, rfl⟩ := Prod.mk.inj same
  exact (fragmentCount_sendLoaded ..).trans (fragmentCount_loadResponse loads)

/-- The number of the next fragment. -/
def nextNum (context : OContext) : AppSeqNum := context.sol.seq.confirmNum.next

theorem Unfinished.continues {serials : List Nat} (unfinished : context.Unfinished config)
    (marks : context.eventBuffer.Marks config serials)
    (counted : context.fragmentCount ≠ 0) {addresses : Addresses}
    (success : context.confirmed.clearWritten.continueMultiFragResponse environment addresses
      context.nextNum = some after) :
    SendsFragment config context.toReport context.fragmentCount addresses.source context.nextNum
      context.confirmed.clearWritten after := by
  have valid : context.confirmed.clearWritten.database.Valid := unfinished.reporting.points.valid
  refine ⟨continueMultiFragResponse_responds marks.clearWritten success, ?_, ?_, ?_⟩
  · rw [beq_eq_false_iff_ne.mpr counted]
    exact sendsPart_continueMultiFragResponse valid counted success
  · rw [← toReport_clearWritten marks]
    exact continueMultiFragResponse_reports unfinished.reporting.clearWritten
      context.sol.seq.confirmNum.seq_next_lt success
  · have same : context.confirmed.clearWritten.fragmentCount = context.fragmentCount := rfl
    obtain ⟨loaded, made, rfl⟩ := Option.map_eq_some_iff.mp success
    rw [fragmentCount_sendLoaded, fragmentCount_loadResponse made, same]

/-- The awaited confirm leads to the next fragment. -/
theorem Unfinished.handles {serials : List Nat} (unfinished : context.Unfinished config)
    (marks : context.eventBuffer.Marks config serials) (counted : context.fragmentCount ≠ 0)
    (awaits : context.AwaitsSolicited request)
    (handles : Handles environment request context after) :
    SendsFragment config context.toReport context.fragmentCount request.addresses.source
      context.nextNum context.confirmed.clearWritten after := by
  have request? {isRead isRepeat : Bool} {state : OutstationState}
      (requests : context.Requests request isRead isRepeat state) : False :=
    requests.isRequest awaits.isConfirm
  cases handles with
  | ignored ignores =>
      cases ignores with
      | confirm _ other _ => exact absurd awaits other
      | unsolicited isRequest _ => exact absurd awaits.isConfirm isRequest
  | confirmedLast _ done =>
      have more := (hasSelection_clearWritten marks).trans unfinished.more
      cases done.symm.trans more
  | confirmedMore _ _ continued =>
      rw [← awaits.seq] at continued
      exact unfinished.continues marks counted continued
  | confirmedEvents other _ | confirmedNull other _ => cases awaits.state.symm.trans other.state
  | readIdle requests _ | readWaiting requests _ | readHeld requests | nonReadIdle requests
  | nonReadWaiting requests | nonReadUnsolicited requests | repeatReadIdle requests
  | repeatReadWaiting requests | repeatReadHeld requests | repeatNonReadIdle requests
  | repeatNonReadWaiting requests | repeatNonReadUnsolicited requests =>
      exact (request? requests).elim

/-! ## Waiting -/

/-- What a confirm has not changed. -/
structure Stays (context after : OContext) : Prop where
  addresses : after.addresses = context.addresses
  params : after.params.respondToAnyMaster = context.params.respondToAnyMaster
  sol : after.sol = context.sol
  fragmentCount : after.fragmentCount = context.fragmentCount
  log : after.log = context.log
  toReport : after.toReport = context.toReport

theorem Stays.refl (context : OContext) : context.Stays context := ⟨rfl, rfl, rfl, rfl, rfl, rfl⟩

/-- Changes of the points leave an unfinished response as it is, unless they discard selected
events. -/
theorem Unfinished.apply {updates : List DatabaseUpdate} {serials : List Nat}
    (unfinished : context.Unfinished config) (marks : context.eventBuffer.Marks config serials)
    (reads : context.canTransmit = true → context.HoldsRead)
    (kept : ∀ changed ∈ changeAll updates context,
      changed.eventBuffer.storage.numSelected = context.eventBuffer.storage.numSelected)
    (steps : Steps environment context (.apply updates) after) :
    after.Unfinished config ∧ context.Stays after ∧ after.deferred = context.deferred ∧
      after.isTransmitting = context.isTransmitting := by
  cases steps with
  | nothing _ => exact ⟨unfinished, .refl context, rfl, rfl⟩
  | @starts _ reacted _ reacts starts =>
      cases reacts with
      | apply _ changed =>
          have same := kept reacted changed
          obtain ⟨reporting, toReport⟩ := unfinished.reporting.changeAll marks changed same
          have requests := sameRequests_changeAll changed
          have selection : reacted.hasSelection = context.hasSelection := by
            rw [hasSelection, hasSelection, requests.hasAnySelection, EventBuffer.hasAnySelection,
              same, EventBuffer.hasAnySelection]
          have session := session_changeAll changed
          have stays : context.Stays reacted :=
            ⟨by rw [session], by rw [session], by rw [session], by rw [session], by rw [session],
              toReport⟩
          have deferred : reacted.deferred = context.deferred := by rw [session]
          have transmitting : reacted.isTransmitting = context.isTransmitting := by rw [session]
          have online : reacted.isOnline = context.isOnline := by rw [session]
          have state : reacted.state = context.state := by rw [session]
          have waiting : reacted.Unfinished config := by
            refine ⟨online.trans unfinished.isOnline, state.trans unfinished.state,
              selection.trans unfinished.more, ?_, reporting⟩
            rw [stays.sol]
            exact unfinished.below
          obtain rfl : after = reacted := by
            refine starts.eq_of_waits (ne_of_eq_of_ne waiting.state (by decide)) fun can => ?_
            rw [canTransmit, transmitting, online] at can
            rw [HoldsRead, deferred]
            exact reads can
          exact ⟨waiting, stays, deferred, transmitting⟩

theorem Unfinished.setRestartIIN (unfinished : context.Unfinished config)
    (steps : Steps environment context .setRestartIIN after) :
    after.Unfinished config ∧ context.Stays after ∧ after.deferred = context.deferred ∧
      after.isTransmitting = context.isTransmitting := by
  have kept (staticIIN : IINField) :
      ({ context with staticIIN } : OContext).Unfinished config :=
    unfinished.congr rfl rfl rfl rfl rfl
  cases steps with
  | nothing ineffective => cases ineffective
  | setRestartIIN => exact ⟨kept _, ⟨rfl, rfl, rfl, rfl, rfl, rfl⟩, rfl, rfl⟩
  | starts reacts _ => cases reacts

/-- A transmission that ends while no confirm has come leaves the response as it is. -/
theorem Unfinished.txReady (unfinished : context.Unfinished config) (reads : context.HoldsRead)
    (steps : Steps environment context .txReady after) :
    after.Unfinished config ∧ context.Stays after ∧ after.deferred = context.deferred := by
  cases steps with
  | nothing _ => exact ⟨unfinished, .refl context, rfl⟩
  | starts reacts starts =>
      cases reacts with
      | txReady _ _ =>
          obtain rfl := starts.eq_of_waits (ne_of_eq_of_ne unfinished.state (by decide))
            fun _ => reads
          exact ⟨unfinished.congr rfl rfl rfl rfl rfl, ⟨rfl, rfl, rfl, rfl, rfl, rfl⟩, rfl⟩

/-- A confirm that had to wait for the transmission leads to the next fragment. -/
theorem Unfinished.txReady_held {serials : List Nat} (unfinished : context.Unfinished config)
    (marks : context.eventBuffer.Marks config serials) (counted : context.fragmentCount ≠ 0)
    (awaits : context.AwaitsSolicited request) (busy : context.isTransmitting = true)
    (held : context.deferred = some request)
    (steps : Steps environment context .txReady after) :
    ∃ sent, SendsFragment config context.toReport context.fragmentCount request.addresses.source
        context.nextNum
        (OContext.confirmed { context with isTransmitting := false }).clearWritten sent ∧
      after = { sent with deferred := none } := by
  have free : ({ context with isTransmitting := false } : OContext).Unfinished config :=
    unfinished.congr rfl rfl rfl rfl rfl
  cases steps with
  | nothing ineffective =>
      cases ineffective with
      | txReady idle => simp [unfinished.isOnline, busy] at idle
  | starts reacts starts =>
      cases reacts with
      | txReady _ _ =>
          have same : AwaitsSolicited request { context with isTransmitting := false } :=
            ⟨awaits.isConfirm, awaits.state, awaits.solicited, awaits.seq⟩
          obtain ⟨resumed, resumes, reports⟩ := starts
          cases resumes with
          | blocked cannot => simp [canTransmit, unfinished.isOnline] at cannot
          | none none => cases none.symm.trans held
          | kept deferred isRead _ =>
              obtain rfl := Option.some.inj (deferred.symm.trans held)
              cases isRead.symm.trans awaits.isConfirm
          | @handled _ sent _ deferred _ handles =>
              obtain rfl := Option.some.inj (deferred.symm.trans held)
              have sends := free.handles marks counted same handles
              have transmitting : sent.isTransmitting = true := sends.responds.isTransmitting
              refine ⟨sent, sends, ?_⟩
              cases reports with
              | nothing => rfl
              | null can _ _ | events can _ _ _ => simp [canTransmit, transmitting] at can

/-- The awaited confirm leads to the next fragment, or it has to wait for the transmission. -/
theorem Unfinished.receive {message : Message} {serials : List Nat}
    (unfinished : context.Unfinished config) (marks : context.eventBuffer.Marks config serials)
    (counted : context.fragmentCount ≠ 0)
    (accepted : context.acceptMessage message = some request)
    (awaits : context.AwaitsSolicited request)
    (steps : Steps environment context (.receive message) after) :
    (context.isTransmitting = false ∧
        SendsFragment config context.toReport context.fragmentCount request.addresses.source
          context.nextNum context.confirmed.clearWritten after) ∨
      (context.isTransmitting = true ∧ after = context.defer request) := by
  cases steps with
  | nothing ineffective =>
      cases ineffective with
      | receive offline => cases offline.symm.trans unfinished.isOnline
  | @starts _ reacted _ reacts starts =>
      cases reacts with
      | ignored _ refused => cases refused.symm.trans accepted
      | noAck _ other noAck =>
          obtain rfl := Option.some.inj (other.symm.trans accepted)
          rw [awaits.isConfirm] at noAck
          cases noAck
      | deferred _ other _ busy =>
          obtain rfl := Option.some.inj (other.symm.trans accepted)
          refine .inr ⟨busy, starts.eq_of_waits (ne_of_eq_of_ne unfinished.state (by decide))
            fun can => ?_⟩
          exact absurd can (by simp [canTransmit, defer, busy])
      | handled _ other _ free handles =>
          obtain rfl := Option.some.inj (other.symm.trans accepted)
          have sends := unfinished.handles marks counted awaits handles
          refine .inl ⟨free, ?_⟩
          obtain ⟨resumed, resumes, reports⟩ := starts
          have quiet : reacted.canTransmit = false := by
            simp [canTransmit, sends.responds.isTransmitting]
          have same : resumed = reacted := by
            cases resumes with
            | blocked _ | none _ | kept _ _ _ => rfl
            | handled can _ _ _ => cases quiet.symm.trans can
          subst same
          cases reports with
          | nothing => exact sends
          | null can _ _ | events can _ _ _ => cases quiet.symm.trans can

/-! ## READs -/

/-- What a READ selects can be reported when every selected event and point can be. -/
theorem reporting_selectedBy (regular : context.Regular config) (valid : context.database.Valid)
    (indexed : context.database.Indexed) {headers : List Header}
    (encodable : ∀ event ∈ (context.selectedBy headers).eventBuffer.storage.selectedEvents,
      event.Encodable)
    (reportable : ∀ type, ∀ cell ∈ (context.selectedBy headers).database.pendingPoints type,
      cell.reportable = true) : (context.selectedBy headers).Reporting config := by
  obtain ⟨serials, marks⟩ := regular.marks
  have selects := ReadHandler.database_foldl headers
    { database := context.startRead.database, eventBuffer := context.startRead.eventBuffer }
  have unselected : context.startRead.database.Valid := valid.unselect
  have same : context.startRead.database.Indexed := indexed.unselect
  have marked : context.startRead.eventBuffer.Marks config [] := marks.unselect
  exact ⟨(ReadHandler.marks_foldl marked headers).valid, encodable, unselected.behind selects,
    same.of_reaches selects, reportable⟩

omit [FloatOps] in
theorem prepared_stays (context : OContext) (request : ParsedRequest) :
    (context.prepared request).addresses = context.addresses ∧
      (context.prepared request).params = context.params ∧
      (context.prepared request).isOnline = context.isOnline ∧
      ∀ held, (context.prepared request).deferred = some held → context.deferred = some held := by
  rw [prepared]
  split
  · exact ⟨rfl, rfl, rfl, fun _ held => held⟩
  · exact ⟨rfl, rfl, rfl, fun _ held => held⟩
  · exact ⟨rfl, rfl, rfl, by rintro _ ⟨⟩⟩

omit [FloatOps] in
theorem isOnline_of_requestOf {input : Input} (about : context.requestOf input = some request) :
    context.isOnline = true := by
  cases input with
  | receive | txReady =>
      simp only [requestOf] at about
      split at about
      · next can =>
          rw [Bool.and_eq_true] at can
          exact can.1
      · cases about
  | lowerLayerUp | lowerLayerDown | confirmTimeout | apply _ | setRestartIIN => cases about

/-- A READ is answered by the first fragment of what it selects. -/
theorem sends_read {input : Input} {headers : List Header} (regular : context.Regular config)
    (held : context.HeldBack) (valid : context.database.Valid)
    (indexed : context.database.Indexed) (about : context.requestOf input = some request)
    (isRead : request.header.function = .read) (solicited : request.header.control.uns = false)
    (new : context.isRepeat request = false)
    (state : context.state = .idle ∨ context.state = .solicitedConfirmWait ∧ input ≠ .txReady)
    (parsed : APDUParser.parse false ReadHandler.isAllowed request.objects = .ok headers)
    (reporting : (context.selectedBy headers).Reporting config) (environment : Environment) :
    ∃ before sent deferred, context.step environment input = some { sent with deferred } ∧
      SendsFragment config (context.selectedBy headers).toReport 0 request.addresses.source
        ⟨request.header.control.seq⟩ before sent ∧
      before.log = context.log ∧ before.addresses = context.addresses ∧
      before.params = context.params ∧ before.isOnline = context.isOnline ∧
      HoldsRead { sent with deferred } := by
  obtain ⟨serials, marks⟩ := regular.marks
  obtain ⟨points, events, log⟩ := (context.release input).prepared_keeps request
  obtain ⟨addresses, params, isOnline, keeps⟩ := (context.release input).prepared_stays request
  have database : ((context.release input).prepared request).database = context.database := points
  have buffer : ((context.release input).prepared request).eventBuffer = context.eventBuffer :=
    events
  have sound : ((context.release input).prepared request).database.Valid := points ▸ valid
  have marked : ((context.release input).prepared request).eventBuffer.Marks config serials :=
    events ▸ marks
  obtain ⟨sent, responded⟩ :=
    exists_respondToReadRequest sound (points ▸ indexed) environment request
  have chosen : (((context.release input).prepared request).selectedBy headers).toReport =
      (context.selectedBy headers).toReport := by
    simp only [selectedBy, startRead, toReport, database, buffer]
  have whole :
      (((context.release input).prepared request).selectedBy headers).Reporting config := by
    refine ⟨?_, ?_, ?_⟩
    · simpa only [selectedBy, startRead, database, buffer] using reporting.events
    · simpa only [selectedBy, startRead, database, buffer] using reporting.encodable
    · simpa only [selectedBy, startRead, database, buffer] using reporting.points
  have sends := SendsFragment.read marked sound parsed whole (held.seq_of_requestOf about) responded
  rw [chosen] at sends
  have handled : handleRequest environment (context.release input) request = some sent := by
    have fresh : (context.release input).isRepeat request = false := new
    refine (handleRequest_read isRead solicited fresh ?_).trans responded
    rcases state with idle | ⟨waits, _⟩
    · exact ne_of_eq_of_ne idle (by decide)
    · exact ne_of_eq_of_ne waits (by decide)
  obtain ⟨deferred, stepped, kept⟩ := step_of_handleRequest about
    (fun _ ready => state.resolve_right fun waits => waits.2 ready) handled
    sends.responds.isTransmitting
  refine ⟨_, sent, deferred, stepped, sends, log, addresses, params, isOnline, ?_⟩
  rcases kept with ⟨can, rfl⟩ | rfl
  · intro waiting remains
    exact (held.waits can waiting (keeps waiting (sends.responds.deferred ▸ remains))).1
  · rintro _ ⟨⟩

end OContext

end OpenDnp3.Outstation
