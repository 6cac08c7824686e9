import OpenDnp3.Link.LinkPair

/-!
# Confirmed service

Segments that are to be confirmed are passed up once and in order, whatever is
lost. Resetting the link sets the frame count bits of both ends alike, and from
then on they tell a repeated segment from a new one.
-/

set_option autoImplicit false

namespace OpenDnp3.Link

open OpenDnp3.Library OpenDnp3.Transport
open OpenDnp3.Master (MonotonicTimestamp TimeDuration)

/-! ## Exchanges -/

/-- What is on the way of the frame that the sender has sent last: the frame, its answer, or
nothing any more. The answer to a segment comes after the segment. -/
inductive Exchange (config : LinkLayerConfig) (station : PrimaryStation) (readFCB : Bool) :
    List LinkFrame → List LinkFrame → Prop
  | quiet : Exchange config station readFCB [] []
  | request {frame : LinkFrame} (asks : station.state.asks = some frame.header.func)
      (data : frame.header.func = .priConfirmedUserData → ∃ segments,
        station.segments = some segments ∧
          frame = PrimaryStation.dataFrame config station.writeFCB segments) :
      Exchange config station readFCB [frame] []
  | reset {frame : LinkFrame} (asks : station.state.asks = some .priResetLinkStates)
      (func : frame.header.func = .secAck) (read : readFCB = true) :
      Exchange config station readFCB [] [frame]
  | received {frame : LinkFrame} (asks : station.state.asks = some .priConfirmedUserData)
      (func : frame.header.func = .secAck) (read : readFCB ≠ station.writeFCB) :
      Exchange config station readFCB [] [frame]
  | status {frame : LinkFrame} (asks : station.state.asks = some .priRequestLinkStatus)
      (func : frame.header.func = .secLinkStatus) :
      Exchange config station readFCB [] [frame]

/-- The sender is at work on what has become of its segments. -/
structure Agrees (config : LinkLayerConfig) (station : PrimaryStation)
    (requests answers : List LinkFrame) (transfer : StopAndWait Message) : Prop where
  confirms : station.state ≠ .sendUnconfirmedTransmitWait
  exchange : Exchange config station transfer.readBit requests answers
  resetting : station.state.asks = some .priResetLinkStates → station.isRemoteReset = false
  sending : station.state.asks = some .priConfirmedUserData →
    station.isRemoteReset = true ∧ station.segments ≠ none
  current : transfer.current = station.current
  writeBit : transfer.writeBit = station.writeFCB
  ordered : transfer.Ordered
  aligned : station.isRemoteReset = true → transfer.Aligned

/-- What has become of the segments when the sender goes on. -/
def goOn (transfer : StopAndWait Message) (acknowledges : Bool) (station : PrimaryStation) :
    StopAndWait Message :=
  let open_ := if acknowledges then none else transfer.current
  { transfer with
    acknowledged := transfer.acknowledged ++
      if acknowledges then transfer.current.toList else []
    offered := transfer.offered ++ if open_.isNone then station.current.toList else []
    intact := transfer.intact && (open_.isNone || station.current.isSome)
    current := station.current
    writeBit := station.writeFCB }

section goOn

variable {transfer : StopAndWait Message} {station after : PrimaryStation} {item : Message}

theorem goOn_same (current : station.current = transfer.current)
    (bit : station.writeFCB = transfer.writeBit) : goOn transfer false station = transfer := by
  obtain ⟨offered, delivered, acknowledged, waiting, writeBit, readBit, intact⟩ := transfer
  dsimp only at current bit
  cases waiting <;> simp [goOn, current, bit]

theorem goOn_offer (idle : transfer.current = none) (current : station.current = some item) :
    goOn transfer false station =
      { transfer with writeBit := station.writeFCB }.offer item := by
  simp [goOn, idle, current, StopAndWait.offer]

theorem goOn_acknowledge (idle : station.current = none)
    (bit : station.writeFCB = !transfer.writeBit) :
    goOn transfer true station = transfer.acknowledge := by
  simp [goOn, idle, bit, StopAndWait.acknowledge]

theorem goOn_acknowledge_offer (current : station.current = some item)
    (bit : station.writeFCB = !transfer.writeBit) :
    goOn transfer true station = transfer.acknowledge.offer item := by
  simp [goOn, current, bit, StopAndWait.acknowledge, StopAndWait.offer]

theorem goOn_abandon (idle : station.current = none) (bit : station.writeFCB = transfer.writeBit) :
    goOn transfer false station = transfer.abandon := by
  cases current : transfer.current with
  | none => simp [goOn, StopAndWait.abandon, current, idle, bit]
  | some item => simp [goOn, StopAndWait.abandon, current, idle, bit]

/-- What is started follows what is reacted to. Nothing is started when a segment is given up. -/
theorem goOn_goOn {acknowledges : Bool}
    (kept : station.current = none →
      acknowledges = true ∨ transfer.current = none ∨ after.current = none)
    (same : station.current ≠ none → after.current = station.current) :
    goOn (goOn transfer acknowledges station) false after = goOn transfer acknowledges after := by
  cases current : station.current with
  | none =>
      rcases kept current with rfl | idle | stopped
      · simp [goOn, current]
      · cases acknowledges <;> simp [goOn, current, idle]
      · cases acknowledges <;> cases waiting : transfer.current <;>
          simp [goOn, current, stopped, waiting]
  | some item =>
      have next : after.current = some item := (same (by simp [current])).trans current
      simp [goOn, current, next]

end goOn

/-! ## The sender -/

theorem segment_getSegment (segments : TransportTx) :
    segment segments.getSegment.1 = segment segments := by
  have same : segments.getSegment.1.getSegment = segments.getSegment := by
    cases set : segments.txSegment <;> simp [TransportTx.getSegment, set]
  rw [segment, segment, TransportTx.message_getSegment, same]

theorem dataFrame_getSegment (config : LinkLayerConfig) (fcb : Bool) (segments : TransportTx) :
    PrimaryStation.dataFrame config fcb segments.getSegment.1 =
      PrimaryStation.dataFrame config fcb segments := by
  have same : segments.getSegment.1.getSegment = segments.getSegment := by
    cases set : segments.txSegment <;> simp [TransportTx.getSegment, set]
  rw [PrimaryStation.dataFrame, PrimaryStation.dataFrame, TransportTx.message_getSegment, same]

namespace Agrees

variable {config : LinkLayerConfig} {station middle after : PrimaryStation}
  {requests answers reacted started : List LinkFrame} {transfer : StopAndWait Message}

theorem current_of_ne (other : station.state.asks ≠ some .priConfirmedUserData) :
    station.current = none :=
  if_neg other

theorem current_of_asks {segments : TransportTx}
    (asks : station.state.asks = some .priConfirmedUserData)
    (held : station.segments = some segments) : station.current = some (segment segments) := by
  rw [PrimaryStation.current, if_pos asks, held]
  rfl

theorem quiet (agrees : Agrees config station requests answers transfer)
    (idle : station.state = .idle) : requests = [] ∧ answers = [] := by
  have asks : station.state.asks = none := by
    rw [idle]
    rfl
  have exchange := agrees.exchange
  cases exchange with
  | quiet => exact ⟨rfl, rfl⟩
  | request other _ => cases asks.symm.trans other
  | reset other _ _ | received other _ _ | status other _ => cases asks.symm.trans other

theorem alone {frame : LinkFrame}
    (agrees : Agrees config station (frame :: requests) answers transfer) :
    requests = [] ∧ answers = [] := by
  have exchange := agrees.exchange
  cases exchange
  exact ⟨rfl, rfl⟩

theorem alone_answer {frame : LinkFrame}
    (agrees : Agrees config station requests (frame :: answers) transfer) :
    requests = [] ∧ answers = [] := by
  have exchange := agrees.exchange
  cases exchange <;> exact ⟨rfl, rfl⟩

theorem lose (agrees : Agrees config station requests answers transfer) :
    Agrees config station [] [] transfer :=
  { agrees with exchange := .quiet }

/-- The sender goes on with the segment that it has, or without one. -/
theorem carry (agrees : Agrees config station requests answers transfer)
    {others replies : List LinkFrame} (current : middle.current = station.current)
    (bit : middle.writeFCB = station.writeFCB)
    (reset : middle.isRemoteReset = station.isRemoteReset)
    (confirms : middle.state ≠ .sendUnconfirmedTransmitWait)
    (resetting : middle.state.asks = some .priResetLinkStates → station.isRemoteReset = false)
    (sending : middle.state.asks = some .priConfirmedUserData →
      station.isRemoteReset = true ∧ middle.segments ≠ none)
    (exchange : Exchange config middle transfer.readBit others replies) :
    Agrees config middle others replies (goOn transfer false middle) := by
  have same : goOn transfer false middle = transfer :=
    goOn_same (current.trans agrees.current.symm) (bit.trans agrees.writeBit.symm)
  rw [same]
  refine ⟨confirms, exchange, reset ▸ resetting, reset ▸ sending, ?_, ?_, agrees.ordered, ?_⟩
  · exact agrees.current.trans current.symm
  · exact agrees.writeBit.trans bit.symm
  · exact reset ▸ agrees.aligned

end Agrees

/-- What is on the way depends on the question, the segment and the bit. -/
theorem Exchange.congr {config : LinkLayerConfig} {station middle : PrimaryStation}
    {readFCB : Bool} {requests answers : List LinkFrame}
    (exchange : Exchange config station readFCB requests answers)
    (asks : middle.state.asks = station.state.asks)
    (data : station.state.asks = some .priConfirmedUserData → ∀ segments,
      station.segments = some segments → ∃ same, middle.segments = some same ∧
        PrimaryStation.dataFrame config middle.writeFCB same =
          PrimaryStation.dataFrame config station.writeFCB segments)
    (bit : middle.writeFCB = station.writeFCB) :
    Exchange config middle readFCB requests answers := by
  cases exchange with
  | quiet => exact .quiet
  | request asked carries =>
      refine .request (asks.trans asked) fun isData => ?_
      obtain ⟨segments, held, rfl⟩ := carries isData
      obtain ⟨same, still, frame⟩ := data (asked.trans (congrArg some isData)) segments held
      exact ⟨same, still, frame.symm⟩
  | reset asked func read => exact .reset (asks.trans asked) func read
  | received asked func read => exact .received (asks.trans asked) func (bit ▸ read)
  | status asked func => exact .status (asks.trans asked) func

theorem PriState.asks_of_waits {state next : PriState} (waits : state.waits = some next) :
    next.asks = state.asks := by
  cases state <;> cases waits <;> rfl

namespace Agrees

variable {config : LinkLayerConfig} {station middle after : PrimaryStation}
  {requests answers reacted started : List LinkFrame} {transfer : StopAndWait Message}

theorem other (agrees : Agrees config station requests answers transfer)
    (reacts : PrimaryStation.Reacts config .other station reacted middle) :
    Agrees config middle (requests ++ reacted) answers (goOn transfer false middle) ∧
      middle.current = station.current := by
  cases reacts with
  | same =>
      rw [List.append_nil]
      exact ⟨agrees.carry rfl rfl rfl agrees.confirms agrees.resetting agrees.sending
        agrees.exchange, rfl⟩
  | @take _ segments free =>
      have notData : station.state.asks ≠ some .priConfirmedUserData := fun asks =>
        (agrees.sending asks).2 free
      have same : ({ station with segments := some segments } : PrimaryStation).current =
          station.current := by
        rw [current_of_ne notData]
        exact current_of_ne notData
      rw [List.append_nil]
      refine ⟨agrees.carry same rfl rfl agrees.confirms agrees.resetting ?_ ?_, same⟩
      · exact fun asks => absurd asks notData
      · exact agrees.exchange.congr rfl (fun asks => absurd asks notData) rfl
  | @transmitted _ state waits =>
      have asks := PriState.asks_of_waits waits
      have same : ({ station with state } : PrimaryStation).current = station.current := by
        simp only [PrimaryStation.current, asks]
      rw [List.append_nil]
      refine ⟨agrees.carry same rfl rfl ?_ (asks ▸ agrees.resetting) (asks ▸ agrees.sending) ?_,
        same⟩
      · rintro rfl
        cases here : station.state <;> rw [here] at waits <;> cases waits
      · exact agrees.exchange.congr asks (fun _ segments held => ⟨segments, held, rfl⟩) rfl
  | unconfirmedMore state | unconfirmedLast state => exact absurd state agrees.confirms
  | statusDone _ told => exact absurd rfl told
  | resetFailed _ fails | dataFailed _ fails => cases fails

/-- A segment that is given up before it has been passed up leaves the bits alike. -/
theorem timeout {retries : UInt32} (agrees : Agrees config station [] [] transfer)
    (unread : station.state = .confDataWait → retries = 0 →
      transfer.readBit = transfer.writeBit)
    (reacts : PrimaryStation.Reacts config (.timeout retries) station reacted middle) :
    Agrees config middle reacted [] (goOn transfer false middle) ∧
      (middle.current = station.current ∨ middle.segments = none) := by
  have without (notData : station.state.asks ≠ some .priConfirmedUserData) :
      station.current = none := current_of_ne notData
  cases reacts with
  | same =>
      exact ⟨agrees.carry rfl rfl rfl agrees.confirms agrees.resetting agrees.sending .quiet,
        .inl rfl⟩
  | resetFailed state =>
      have none := without (by rw [state]; decide)
      exact ⟨agrees.carry none.symm rfl rfl nofun nofun nofun .quiet, .inr rfl⟩
  | dataFailed state fails =>
      have alike := unread state (of_decide_eq_true fails)
      have stopped : goOn transfer false { station with state := .idle, segments := none } =
          transfer.abandon := goOn_abandon rfl agrees.writeBit.symm
      rw [stopped]
      exact ⟨⟨nofun, .quiet, nofun, nofun, rfl, agrees.writeBit, agrees.ordered.abandon,
        fun _ => StopAndWait.aligned_of_idle rfl alike⟩, .inr rfl⟩
  | resetRepeated state func =>
      have asks : station.state.asks = some .priResetLinkStates := by
        rw [state]
        rfl
      have none := without (by rw [state]; decide)
      refine ⟨agrees.carry none.symm rfl rfl nofun (fun _ => agrees.resetting asks) nofun ?_,
        .inl none.symm⟩
      refine .request (func ▸ rfl) fun data => ?_
      cases func.symm.trans data
  | @dataRepeated _ _ segments state held =>
      have asks : station.state.asks = some .priConfirmedUserData := by
        rw [state]
        rfl
      have same : ({ station with
          state := .confUserDataTransmitWait
          segments := some segments.getSegment.1 } : PrimaryStation).current =
          station.current := by
        rw [current_of_asks asks held, current_of_asks rfl rfl, segment_getSegment]
      refine ⟨agrees.carry same rfl rfl nofun nofun
        (fun _ => ⟨(agrees.sending asks).1, Option.some_ne_none _⟩) ?_, .inl same⟩
      refine .request rfl fun _ => ⟨_, rfl, ?_⟩
      rw [dataFrame_getSegment]
  | statusDone state =>
      have none := without (by rw [state]; decide)
      exact ⟨agrees.carry none.symm rfl rfl nofun nofun nofun .quiet, .inl none.symm⟩

theorem starts (agrees : Agrees config station requests answers transfer)
    (confirms : config.useConfirms = true)
    (starts : PrimaryStation.Starts config station started after) :
    Agrees config after (requests ++ started) answers (goOn transfer false after) ∧
      (station.current ≠ none → after.current = station.current) := by
  have without (idle : station.state = .idle) : station.current = none :=
    current_of_ne (by rw [idle]; decide)
  cases starts with
  | nothing =>
      rw [List.append_nil]
      exact ⟨agrees.carry rfl rfl rfl agrees.confirms agrees.resetting agrees.sending
        agrees.exchange, fun _ => rfl⟩
  | asks idle func =>
      obtain ⟨rfl, rfl⟩ := agrees.quiet idle
      have none := without idle
      refine ⟨agrees.carry none.symm rfl rfl nofun nofun nofun ?_, fun some => absurd none some⟩
      refine .request (func ▸ rfl) fun data => ?_
      cases func.symm.trans data
  | @data segments idle held reset =>
      obtain ⟨rfl, rfl⟩ := agrees.quiet idle
      have none := without idle
      have unoffered := agrees.current.trans none
      have same : { transfer with writeBit := station.writeFCB } = transfer := by
        rw [← agrees.writeBit]
      refine ⟨?_, fun some => absurd none some⟩
      have current : ({ station with
          state := .confUserDataTransmitWait
          segments := some segments.getSegment.1 } : PrimaryStation).current =
          some (segment segments) := by
        rw [current_of_asks rfl rfl, segment_getSegment]
      rw [goOn_offer unoffered current]
      refine ⟨nofun, ?_, nofun, fun _ => ⟨reset, Option.some_ne_none _⟩, current.symm, rfl, ?_,
        fun _ => ?_⟩
      · refine .request rfl fun _ => ⟨_, rfl, ?_⟩
        rw [dataFrame_getSegment]
      · rw [same]
        exact agrees.ordered.offer unoffered
      · rw [same]
        exact (agrees.aligned reset).offer agrees.ordered unoffered
  | resets idle held unset func =>
      obtain ⟨rfl, rfl⟩ := agrees.quiet idle
      have none := without idle
      refine ⟨agrees.carry none.symm rfl rfl nofun (fun _ => unset) nofun ?_,
        fun some => absurd none some⟩
      refine .request (func ▸ rfl) fun data => ?_
      cases func.symm.trans data
  | unconfirmed _ _ unconfirmed => cases confirms.symm.trans unconfirmed

/-- An acknowledgement of a reset sets the bits of both ends alike; then the segment is sent. -/
theorem resetAcknowledged {segments : TransportTx}
    (agrees : Agrees config station [] answers transfer)
    (asks : station.state.asks = some .priResetLinkStates) (read : transfer.readBit = true) :
    Agrees config ⟨.confUserDataTransmitWait, some segments.getSegment.1, true, true⟩
      [PrimaryStation.dataFrame config true segments] []
      (goOn transfer false ⟨.confUserDataTransmitWait, some segments.getSegment.1, true, true⟩) := by
  have none : station.current = none := current_of_ne (by rw [asks]; decide)
  have unoffered := agrees.current.trans none
  have current : PrimaryStation.current
      ⟨.confUserDataTransmitWait, some segments.getSegment.1, true, true⟩ =
        some (segment segments) := by
    rw [current_of_asks rfl rfl, segment_getSegment]
  rw [goOn_offer unoffered current]
  have ordered : { transfer with writeBit := true }.Ordered :=
    agrees.ordered.bits true transfer.readBit
  have aligned : { transfer with writeBit := true }.Aligned :=
    StopAndWait.aligned_of_idle unoffered read
  refine ⟨nofun, ?_, nofun, fun _ => ⟨rfl, Option.some_ne_none _⟩, current.symm, rfl, ?_,
    fun _ => ?_⟩
  · refine .request rfl fun _ => ⟨_, rfl, ?_⟩
    rw [dataFrame_getSegment]
  · exact ordered.offer unoffered
  · exact aligned.offer ordered unoffered

/-- An acknowledgement of a segment comes when the segment has been passed up. -/
theorem dataAcknowledged (agrees : Agrees config station [] answers transfer)
    (asks : station.state.asks = some .priConfirmedUserData)
    (read : transfer.readBit ≠ station.writeFCB) :
    transfer.acknowledge.Ordered ∧ transfer.acknowledge.Aligned := by
  have unread : transfer.readBit ≠ transfer.writeBit := agrees.writeBit ▸ read
  exact ⟨agrees.ordered.acknowledge (agrees.aligned (agrees.sending asks).1) unread,
    .acknowledge unread⟩

theorem answer {frame : LinkFrame} {func : LinkFunction}
    (agrees : Agrees config station [] [frame] transfer) (same : frame.header.func = func)
    (reacts : PrimaryStation.Reacts config (.answer func) station reacted middle) :
    Agrees config middle reacted []
        (goOn transfer (decide (func = .secAck ∧ station.state = .confDataWait)) middle) ∧
      (middle.current = none → (func = .secAck ∧ station.state = .confDataWait) ∨
        station.current = none) := by
  have exchange := agrees.exchange
  have ignored (other : ¬ (func = .secAck ∧ station.state = .confDataWait)) :
      Agrees config station [] [] (goOn transfer
        (decide (func = .secAck ∧ station.state = .confDataWait)) station) := by
    rw [decide_eq_false other]
    exact agrees.carry rfl rfl rfl agrees.confirms agrees.resetting agrees.sending .quiet
  have stops (notData : station.state.asks ≠ some .priConfirmedUserData)
      (segments : Option TransportTx) :
      Agrees config { station with state := .idle, segments } [] [] (goOn transfer
        (decide (func = .secAck ∧ station.state = .confDataWait))
        { station with state := .idle, segments }) ∧ station.current = none := by
    have none := current_of_ne notData
    have other : ¬ (func = .secAck ∧ station.state = .confDataWait) := by
      rintro ⟨_, waits⟩
      exact notData (by rw [waits]; rfl)
    rw [decide_eq_false other]
    exact ⟨agrees.carry none.symm rfl rfl nofun nofun nofun .quiet, none⟩
  cases reacts with
  | same quiet =>
      refine ⟨ignored ?_, fun idle => .inr idle⟩
      rintro ⟨rfl, waits⟩
      exact quiet rfl waits
  | @resetAcknowledged _ segments state held =>
      have asks : station.state.asks = some .priResetLinkStates := by
        rw [state]
        rfl
      rw [state, decide_eq_false (by decide)]
      refine ⟨?_, nofun⟩
      cases exchange with
      | reset _ _ read => exact agrees.resetAcknowledged asks read
      | received other _ _ | status other _ => cases asks.symm.trans other
  | @dataAcknowledgedMore _ segments state held more =>
      have asks : station.state.asks = some .priConfirmedUserData := by
        rw [state]
        rfl
      rw [state, decide_eq_true (by decide)]
      refine ⟨?_, fun _ => .inl ⟨rfl, rfl⟩⟩
      cases exchange with
      | reset other _ _ | status other _ => cases asks.symm.trans other
      | received _ _ read =>
          obtain ⟨ordered, aligned⟩ := agrees.dataAcknowledged asks read
          have current : PrimaryStation.current ⟨.confUserDataTransmitWait,
              some segments.advance.1.getSegment.1, station.isRemoteReset, !station.writeFCB⟩ =
                some (segment segments.advance.1) := by
            rw [current_of_asks rfl rfl, segment_getSegment]
          rw [goOn_acknowledge_offer current (congrArg (!·) agrees.writeBit.symm)]
          refine ⟨nofun, ?_, nofun, fun _ => ⟨(agrees.sending asks).1, Option.some_ne_none _⟩,
            current.symm, congrArg (!·) agrees.writeBit, ordered.offer rfl,
            fun _ => aligned.offer ordered rfl⟩
          refine .request rfl fun _ => ⟨_, rfl, ?_⟩
          rw [dataFrame_getSegment]
  | @dataAcknowledgedLast _ segments state held last =>
      have asks : station.state.asks = some .priConfirmedUserData := by
        rw [state]
        rfl
      rw [state, decide_eq_true (by decide)]
      refine ⟨?_, fun _ => .inl ⟨rfl, rfl⟩⟩
      cases exchange with
      | reset other _ _ | status other _ => cases asks.symm.trans other
      | received _ _ read =>
          obtain ⟨ordered, aligned⟩ := agrees.dataAcknowledged asks read
          rw [goOn_acknowledge rfl (congrArg (!·) agrees.writeBit.symm)]
          exact ⟨nofun, .quiet, nofun, nofun, rfl, congrArg (!·) agrees.writeBit, ordered,
            fun _ => aligned⟩
  | resetFailed state =>
      have stopped := stops (by rw [state]; decide) none
      exact ⟨stopped.1, fun _ => .inr stopped.2⟩
  | statusDone state =>
      have stopped := stops (by rw [state]; decide) station.segments
      exact ⟨stopped.1, fun _ => .inr stopped.2⟩
  | dataFailed state fails =>
      have asks : station.state.asks = some .priConfirmedUserData := by
        rw [state]
        rfl
      cases exchange with
      | reset other _ _ | status other _ => cases asks.symm.trans other
      | received _ ack _ =>
          rw [← same, ack] at fails
          cases fails
  | dataRefused state =>
      have asks : station.state.asks = some .priConfirmedUserData := by
        rw [state]
        rfl
      cases exchange with
      | reset other _ _ | status other _ => cases asks.symm.trans other
      | received _ ack _ => cases ack.symm.trans same

/-! ## The receiver -/

theorem deliver {frame : LinkFrame} {receiver next : SecondaryStation} {passed : List Message}
    (agrees : Agrees config station [frame] [] transfer) (bit : transfer.readBit = receiver.readFCB)
    (reacts : SecondaryStation.Reacts (some frame) receiver answers passed next) :
    Agrees config station [] answers
      { transfer with
        delivered := transfer.delivered ++ passed, readBit := next.readFCB } := by
  have exchange := agrees.exchange
  have still (exchange : Exchange config station receiver.readFCB [] answers) :
      Agrees config station [] answers
        { transfer with delivered := transfer.delivered ++ [], readBit := receiver.readFCB } := by
    rw [List.append_nil, ← bit]
    exact { agrees with exchange := bit ▸ exchange }
  cases exchange with
  | request asks data =>
      cases reacts with
      | same => exact still .quiet
      | @resets _ _ answer func ack =>
          have unset := agrees.resetting (asks.trans (congrArg some func))
          refine { agrees with
            exchange := .reset (asks.trans (congrArg some func)) ack rfl
            ordered := ?_
            aligned := fun set => ?_ }
          · rw [List.append_nil]
            exact agrees.ordered.bits transfer.writeBit true
          · cases unset.symm.trans set
      | @delivers _ _ answer func state expected ack =>
          have isData := asks.trans (congrArg some func)
          obtain ⟨segments, held, rfl⟩ := data func
          have current : transfer.current = some (segment segments) :=
            agrees.current.trans (current_of_asks isData held)
          have unread : transfer.readBit = transfer.writeBit :=
            bit.trans (expected.trans agrees.writeBit.symm)
          have received : transfer.receive transfer.writeBit (segment segments) =
              { transfer with
                delivered := transfer.delivered ++ [segment segments]
                readBit := !receiver.readFCB } := by
            rw [StopAndWait.receive, if_pos unread, ← bit]
          have aligned := agrees.aligned (agrees.sending isData).1
          have ordered := agrees.ordered.receive aligned current
          have stillAligned := aligned.receive agrees.ordered current
          rw [received] at ordered stillAligned
          refine ⟨agrees.confirms, .received isData ack ?_, agrees.resetting, agrees.sending,
            agrees.current, agrees.writeBit, ordered, fun _ => stillAligned⟩
          have flipped : receiver.readFCB = station.writeFCB := expected
          simp [flipped]
      | @repeats _ _ answer func state unexpected ack =>
          have isData := asks.trans (congrArg some func)
          obtain ⟨segments, held, rfl⟩ := data func
          exact still (.received isData ack unexpected)
      | tests func =>
          rw [func] at asks
          cases state : station.state <;> rw [state] at asks <;> cases asks
      | @asked _ _ answer _ func waits status =>
          exact still (.status (asks.trans (congrArg some func)) status)
      | unconfirmed func =>
          rw [func] at asks
          refine absurd ?_ agrees.confirms
          cases state : station.state <;> rw [state] at asks <;> first | rfl | cases asks

end Agrees

/-! ## Both ends -/

namespace LinkPair

variable {pair after : LinkPair}

/-- The sender's frames that are on the way, or wait to be transmitted. -/
def requests (pair : LinkPair) : List LinkFrame :=
  pair.forward.filter (·.header.func.isPrimary) ++ pair.sender.pendingPriTx.toList

/-- Their answers. -/
def answers (pair : LinkPair) : List LinkFrame :=
  pair.backward.filter (!·.header.func.isPrimary) ++ pair.receiver.pendingSecTx.toList

/-- What has become of the segments. -/
def transfer (pair : LinkPair) : StopAndWait Message where
  offered := pair.offered
  delivered := pair.delivered
  acknowledged := pair.acknowledged
  current := pair.sender.primaryStation.current
  writeBit := pair.sender.nextWriteFCB
  readBit := pair.receiver.nextReadFCB
  intact := pair.intact

/-- Both ends are in order, and the sender is at work on what has become of the segments. -/
structure Serves (pair : LinkPair) : Prop where
  sender : pair.sender.Sound
  receiver : pair.receiver.Sound
  senderRests : pair.sender.Rests
  receiverRests : pair.receiver.Rests
  confirms : pair.sender.config.useConfirms = true
  agrees : Agrees pair.sender.config pair.sender.primaryStation pair.requests pair.answers
    pair.transfer

/-! ## Frames -/

variable {before context : LinkContext} {input : LinkInput} {requests answers : List LinkFrame}
  {passed : List Message}

theorem requests_of_emits (emits : (before.prepare input).Emits requests answers passed context)
    (forward : List LinkFrame) :
    (forward ++ newFrames before context).filter (·.header.func.isPrimary) ++
        context.pendingPriTx.toList =
      forward.filter (·.header.func.isPrimary) ++ before.pendingPriTx.toList ++ requests := by
  obtain ⟨_, _, activities, log, pri, _⟩ := emits.of_prepare
  rw [newFrames, log, List.drop_left, List.filter_append, List.append_assoc, pri,
    List.append_assoc]

theorem answers_of_emits (emits : (before.prepare input).Emits requests answers passed context)
    (backward : List LinkFrame) :
    (backward ++ newFrames before context).filter (!·.header.func.isPrimary) ++
        context.pendingSecTx.toList =
      backward.filter (!·.header.func.isPrimary) ++ before.pendingSecTx.toList ++ answers := by
  obtain ⟨_, _, activities, log, _, sec, _⟩ := emits.of_prepare
  rw [newFrames, log, List.drop_left, List.filter_append, List.append_assoc, sec,
    List.append_assoc]

theorem newMessages_of_emits
    (emits : (before.prepare input).Emits requests answers passed context) :
    newMessages before context = passed := by
  obtain ⟨_, _, activities, log, _, _, rfl, _⟩ := emits.of_prepare
  rw [newMessages, log, List.drop_left]

/-! ## Steps -/

theorem serves_advance (pair : LinkPair) {acknowledges : Bool}
    {reacted started others : List LinkFrame} {middle : PrimaryStation}
    (sender : context.Sound) (receiver : pair.receiver.Sound)
    (senderRests : context.Rests) (receiverRests : pair.receiver.Rests)
    (confirms : pair.sender.config.useConfirms = true)
    (emits : (pair.sender.prepare input).Emits (reacted ++ started) others passed context)
    (agrees : Agrees pair.sender.config middle (pair.requests ++ reacted) pair.answers
      (goOn pair.transfer acknowledges middle))
    (kept : middle.current = none → acknowledges = true ∨
      pair.sender.primaryStation.current = none ∨ context.primaryStation.current = none)
    (starts : PrimaryStation.Starts pair.sender.config middle started context.primaryStation) :
    (pair.advance acknowledges context).Serves := by
  obtain ⟨goes, same⟩ := agrees.starts confirms starts
  have joined : (pair.advance acknowledges context).requests =
      pair.requests ++ reacted ++ started := by
    rw [List.append_assoc]
    exact requests_of_emits emits pair.forward
  rw [goOn_goOn kept same, ← joined, ← emits.of_prepare.1] at goes
  have confirming : context.config.useConfirms = true := by
    rw [emits.of_prepare.1]
    exact confirms
  exact ⟨sender, receiver, senderRests, receiverRests, confirming, goes⟩

theorem stimulus_of_local {context : LinkContext} {input : LinkInput}
    (isLocal : input.isLocal = true) :
    context.stimulus input = .other ∨
      input = .responseTimeout ∧ context.stimulus input = .timeout context.numRetryRemaining := by
  cases input with
  | frame _ _ _ => cases isLocal
  | responseTimeout => exact .inr ⟨rfl, rfl⟩
  | lowerLayerUp _ | lowerLayerDown | send _ | txReady | keepAliveTimeout _ => exact .inl rfl

theorem connected_of_local {input : LinkInput} (isLocal : input.isLocal = true) :
    input ≠ .lowerLayerDown := by
  rintro rfl
  cases isLocal

theorem received_of_local {input : LinkInput} (isLocal : input.isLocal = true) :
    input.received = none := by
  cases input with
  | frame _ _ _ => cases isLocal
  | _ => rfl

/-- A segment is given up only when the receiver has not passed it up: the bits of both ends are
still alike. -/
def KeepsPassed (pair : LinkPair) : PairInput → Prop
  | .sender .responseTimeout =>
      pair.sender.priState = .confDataWait → pair.sender.numRetryRemaining = 0 →
        pair.receiver.nextReadFCB = pair.sender.nextWriteFCB
  | _ => True

instance : DecidableRel KeepsPassed
  | _, .sender .responseTimeout => inferInstanceAs (Decidable (_ → _ → _))
  | _, .sender (.lowerLayerUp _) | _, .sender .lowerLayerDown | _, .sender (.send _)
  | _, .sender .txReady | _, .sender (.frame _ _ _) | _, .sender (.keepAliveTimeout _)
  | _, .receiver _ | _, .deliver _ | _, .answer _ | _, .lose | _, .loseAnswer | _, .disconnect =>
      .isTrue trivial

theorem Serves.settled (serves : pair.Serves) (active : pair.sender.rspTimeoutTimer = true)
    (settled : pair.settled = true) : pair.requests = [] ∧ pair.answers = [] := by
  simp only [LinkPair.settled, Bool.and_eq_true, List.all_eq_true, Bool.not_eq_true',
    Option.isNone_iff_eq_none] at settled
  obtain ⟨⟨forward, backward⟩, pending⟩ := settled
  have awaits := serves.sender.timer.symm.trans active
  have done : pair.sender.priState.transmits = none := by
    cases state : pair.sender.priState <;> first | rfl | (rw [state] at awaits; cases awaits)
  have free : pair.sender.pendingPriTx = none := (serves.sender.free done).pendingPriTx_eq
  constructor
  · rw [requests, free, Option.toList_none, List.append_nil, List.filter_eq_nil_iff]
    intro frame member
    simp [forward frame member]
  · rw [answers, pending, Option.toList_none, List.append_nil, List.filter_eq_nil_iff]
    intro frame member
    simp [backward frame member]

theorem Serves.sender_step {input : LinkInput} (serves : pair.Serves)
    (isLocal : input.isLocal = true)
    (settled : input = .responseTimeout → pair.settled = true)
    (keeps : pair.KeepsPassed (.sender input))
    (received : pair.sender.receive input = some context) :
    (pair.advance false context).Serves := by
  obtain ⟨reacted, started, others, passed, middle, emits, reacts, _, starts, _⟩ :=
    LinkContext.receive_moves serves.sender (connected_of_local isLocal) received
  have sender := serves.sender.receive received
  have senderRests := serves.senderRests.receive serves.sender received
  rcases @stimulus_of_local pair.sender _ isLocal with other | ⟨rfl, timeout⟩
  · rw [other] at reacts
    obtain ⟨agrees, same⟩ := serves.agrees.other reacts
    exact serves_advance pair sender serves.receiver senderRests serves.receiverRests
      serves.confirms emits agrees (fun none => .inr (.inl (same ▸ none))) starts
  · rw [timeout] at reacts
    have active : pair.sender.rspTimeoutTimer = true := LinkContext.due_of_receive received
    obtain ⟨noRequests, noAnswers⟩ := serves.settled active (settled rfl)
    have agrees := serves.agrees
    rw [noRequests, noAnswers] at agrees
    obtain ⟨goes, kept⟩ := agrees.timeout (fun waits last => keeps waits last) reacts
    have stays : middle.current = none → pair.sender.primaryStation.current = none ∨
        context.primaryStation.current = none := by
      rcases kept with same | free
      · exact fun idle => .inl (same ▸ idle)
      · refine fun _ => .inr ?_
        rw [PrimaryStation.current, starts.segments_eq_none.mpr free]
        exact ite_self _
    refine serves_advance pair sender serves.receiver senderRests serves.receiverRests
      serves.confirms emits ?_ (fun idle => .inr (stays idle)) starts
    rwa [noRequests, noAnswers, List.nil_append]

/-- The receiver's station is told nothing of the sender's frames. -/
theorem Serves.receiver_step {input : LinkInput} (serves : pair.Serves)
    (isLocal : input.isLocal = true) (received : pair.receiver.receive input = some context) :
    (pair.arrive context).Serves := by
  obtain ⟨_, _, replies, passed, _, emits, _, _, _, reacts⟩ :=
    LinkContext.receive_moves serves.receiver (connected_of_local isLocal) received
  have receiver := serves.receiver.receive received
  have rests := serves.receiverRests.receive serves.receiver received
  refine ⟨serves.sender, receiver, serves.senderRests, rests, serves.confirms, ?_⟩
  rw [received_of_local isLocal] at reacts
  have quiet : replies = [] ∧ passed = [] ∧
      context.nextReadFCB = pair.receiver.nextReadFCB := by
    generalize heard : pair.receiver.secondaryStation = station at reacts
    generalize told : context.secondaryStation = next at reacts
    have bit : station.readFCB = pair.receiver.nextReadFCB := heard ▸ rfl
    have nextBit : next.readFCB = context.nextReadFCB := told ▸ rfl
    cases reacts with
    | same => exact ⟨rfl, rfl, nextBit.symm.trans bit⟩
    | transmitted => exact ⟨rfl, rfl, nextBit.symm.trans bit⟩
  obtain ⟨rfl, rfl, bit⟩ := quiet
  have same : (pair.arrive context).answers = pair.answers := by
    have all := answers_of_emits emits pair.backward
    rwa [List.append_nil] at all
  have transfer : (pair.arrive context).transfer = pair.transfer := by
    simp only [LinkPair.transfer, arrive, newMessages_of_emits emits, List.append_nil, bit]
  rw [same, transfer]
  exact serves.agrees

theorem Serves.deliver {frame : LinkFrame} {forward : List LinkFrame} {now : MonotonicTimestamp}
    (serves : pair.Serves) (first : pair.forward = frame :: forward)
    (received : pair.receiver.receive (.frame now frame.header frame.userData) = some context) :
    (({ pair with forward } : LinkPair).arrive context).Serves := by
  obtain ⟨_, _, replies, passed, _, emits, _, _, _, reacts⟩ :=
    LinkContext.receive_moves serves.receiver (by rintro ⟨⟩) received
  have receiver := serves.receiver.receive received
  have rests := serves.receiverRests.receive serves.receiver received
  refine ⟨serves.sender, receiver, serves.senderRests, rests, serves.confirms, ?_⟩
  have sent : pair.requests = (frame :: forward).filter (·.header.func.isPrimary) ++
      pair.sender.pendingPriTx.toList := by rw [LinkPair.requests, first]
  have told : (({ pair with forward } : LinkPair).arrive context).answers =
      pair.answers ++ replies := answers_of_emits emits pair.backward
  have transfer : (({ pair with forward } : LinkPair).arrive context).transfer =
      { pair.transfer with
        delivered := pair.transfer.delivered ++ passed
        readBit := context.secondaryStation.readFCB } := by
    simp only [LinkPair.transfer, arrive, newMessages_of_emits emits]
    rfl
  have agrees := serves.agrees
  rw [told, transfer]
  cases primary : frame.header.func.isPrimary with
  | true =>
      rw [List.filter_cons, if_pos (by exact primary), List.cons_append] at sent
      rw [sent] at agrees
      obtain ⟨none, noAnswers⟩ := agrees.alone
      rw [none, noAnswers] at agrees
      rw [noAnswers]
      have requests : (({ pair with forward } : LinkPair).arrive context).requests = [] := none
      rw [requests, List.nil_append]
      exact agrees.deliver rfl reacts
  | false =>
      rw [List.filter_cons, if_neg (by simp [primary])] at sent
      have ignored : replies = [] ∧ passed = [] ∧
          context.secondaryStation = pair.receiver.secondaryStation := by
        have other {func : LinkFunction} (request : func.isPrimary = true)
            (same : frame.header.func = func) {claim : Prop} : claim := by
          rw [same, request] at primary
          cases primary
        generalize pair.receiver.secondaryStation = station at reacts
        generalize context.secondaryStation = next at reacts
        generalize received : (LinkInput.frame now frame.header frame.userData).received =
          heard at reacts
        obtain rfl : some frame = heard := received
        cases reacts with
        | same => exact ⟨rfl, rfl, rfl⟩
        | resets func => exact other rfl func
        | delivers func => exact other rfl func
        | repeats func => exact other rfl func
        | tests func => exact other rfl func
        | asked func => exact other rfl func
        | unconfirmed func => exact other rfl func
      obtain ⟨rfl, rfl, same⟩ := ignored
      have still : (({ pair with forward } : LinkPair).arrive context).requests =
          pair.requests := sent.symm
      rw [still, same, List.append_nil, List.append_nil]
      exact agrees

theorem Serves.answer {frame : LinkFrame} {backward : List LinkFrame} {now : MonotonicTimestamp}
    (serves : pair.Serves) (first : pair.backward = frame :: backward)
    (received : pair.sender.receive (.frame now frame.header frame.userData) = some context) :
    (({ pair with backward } : LinkPair).advance (pair.acknowledges frame) context).Serves := by
  obtain ⟨reacted, started, others, passed, middle, emits, reacts, _, starts, _⟩ :=
    LinkContext.receive_moves serves.sender (by rintro ⟨⟩) received
  have sender := serves.sender.receive received
  have senderRests := serves.senderRests.receive serves.sender received
  have told : pair.answers = (frame :: backward).filter (!·.header.func.isPrimary) ++
      pair.receiver.pendingSecTx.toList := by rw [LinkPair.answers, first]
  have agrees := serves.agrees
  rw [told] at agrees
  -- An answer that the sender does not listen to is lost.
  have ignored (quiet : pair.sender.stimulus (.frame now frame.header frame.userData) = .other)
      (unheard : pair.acknowledges frame = false)
      (kept : Agrees pair.sender.config pair.sender.primaryStation pair.requests
        ({ pair with backward } : LinkPair).answers pair.transfer) :
      (({ pair with backward } : LinkPair).advance (pair.acknowledges frame) context).Serves := by
    rw [quiet] at reacts
    rw [unheard]
    obtain ⟨goes, same⟩ := kept.other reacts
    exact serves_advance { pair with backward } sender serves.receiver senderRests
      serves.receiverRests serves.confirms emits goes (fun none => .inr (.inl (same ▸ none))) starts
  cases primary : frame.header.func.isPrimary with
  | true =>
      rw [List.filter_cons, if_neg (by simp [primary])] at agrees
      refine ignored ?_ ?_ agrees
      · rw [LinkContext.stimulus, if_neg (by simp [primary])]
      · refine decide_eq_false ?_
        rintro ⟨_, ack, _⟩
        rw [ack] at primary
        cases primary
  | false =>
      rw [List.filter_cons, if_pos (by simp [primary]), List.cons_append] at agrees
      obtain ⟨noRequests, noAnswers⟩ := agrees.alone_answer
      rw [noAnswers, noRequests] at agrees
      by_cases accepts : pair.sender.Accepts frame.header
      · rw [LinkContext.stimulus, if_pos ⟨accepts, primary⟩] at reacts
        obtain ⟨goes, kept⟩ := agrees.answer rfl reacts
        have heard : pair.acknowledges frame = decide (frame.header.func = .secAck ∧
            pair.sender.primaryStation.state = .confDataWait) :=
          decide_eq_decide.mpr (and_iff_right accepts)
        rw [← heard] at goes
        refine serves_advance { pair with backward } sender serves.receiver senderRests
          serves.receiverRests serves.confirms emits ?_ (fun none => ?_) starts
        · have requests : ({ pair with backward } : LinkPair).requests = [] := noRequests
          have answers : ({ pair with backward } : LinkPair).answers = [] := noAnswers
          rwa [requests, answers, List.nil_append]
        · rw [heard, decide_eq_true_iff]
          exact (kept none).imp_right .inl
      · refine ignored ?_ ?_ ?_
        · rw [LinkContext.stimulus, if_neg fun heard => accepts heard.1]
        · exact decide_eq_false fun heard => accepts heard.1
        · have answers : ({ pair with backward } : LinkPair).answers = [] := noAnswers
          rw [noRequests, answers]
          exact agrees.lose

theorem Serves.lose (serves : pair.Serves) :
    ({ pair with forward := pair.forward.tail } : LinkPair).Serves := by
  refine ⟨serves.sender, serves.receiver, serves.senderRests, serves.receiverRests,
    serves.confirms, ?_⟩
  have agrees := serves.agrees
  cases held : pair.forward with
  | nil =>
      rw [LinkPair.requests, held] at agrees
      exact agrees
  | cons frame forward =>
      rw [LinkPair.requests, held] at agrees
      cases primary : frame.header.func.isPrimary with
      | true =>
          rw [List.filter_cons, if_pos (by exact primary), List.cons_append] at agrees
          obtain ⟨noRequests, noAnswers⟩ := agrees.alone
          have requests : ({ pair with forward } : LinkPair).requests = [] := noRequests
          have answers : ({ pair with forward } : LinkPair).answers = [] := noAnswers
          change Agrees _ _ ({ pair with forward } : LinkPair).requests
            ({ pair with forward } : LinkPair).answers _
          rw [requests, answers]
          exact agrees.lose
      | false =>
          rw [List.filter_cons, if_neg (by simp [primary])] at agrees
          exact agrees

theorem Serves.loseAnswer (serves : pair.Serves) :
    ({ pair with backward := pair.backward.tail } : LinkPair).Serves := by
  refine ⟨serves.sender, serves.receiver, serves.senderRests, serves.receiverRests,
    serves.confirms, ?_⟩
  have agrees := serves.agrees
  cases held : pair.backward with
  | nil =>
      rw [LinkPair.answers, held] at agrees
      exact agrees
  | cons frame backward =>
      rw [LinkPair.answers, held] at agrees
      cases primary : frame.header.func.isPrimary with
      | true =>
          rw [List.filter_cons, if_neg (by simp [primary])] at agrees
          exact agrees
      | false =>
          rw [List.filter_cons, if_pos (by simp [primary]), List.cons_append] at agrees
          obtain ⟨noRequests, noAnswers⟩ := agrees.alone_answer
          have requests : ({ pair with backward } : LinkPair).requests = [] := noRequests
          have answers : ({ pair with backward } : LinkPair).answers = [] := noAnswers
          change Agrees _ _ ({ pair with backward } : LinkPair).requests
            ({ pair with backward } : LinkPair).answers _
          rw [requests, answers]
          exact agrees.lose

theorem log_onLowerLayerDown (context : LinkContext) :
    newFrames context context.onLowerLayerDown = [] ∧
      newMessages context context.onLowerLayerDown = [] := by
  unfold LinkContext.onLowerLayerDown
  split
  · constructor
    · simp [newFrames, LinkActivity.allBegun, LinkActivity.begun, LinkContext.record,
        LinkContext.onStateChange]
    · simp [newMessages, LinkActivity.allPassed, LinkActivity.passed, LinkContext.record,
        LinkContext.onStateChange]
  · constructor
    · simp [newFrames, LinkActivity.allBegun]
    · simp [newMessages, LinkActivity.allPassed]

theorem closed_onLowerLayerDown (rests : context.Rests) :
    context.onLowerLayerDown.pendingPriTx = none ∧ context.onLowerLayerDown.pendingSecTx = none ∧
      context.onLowerLayerDown.nextReadFCB = context.nextReadFCB ∧
      context.onLowerLayerDown.config = context.config := by
  unfold LinkContext.onLowerLayerDown
  split
  · exact ⟨rfl, rfl, rfl, rfl⟩
  · next offline =>
      have closed := Bool.eq_false_of_not_eq_true offline
      exact ⟨rests.pendingPriTx closed, rests.pendingSecTx closed, rfl, rfl⟩

theorem Agrees.disconnect {config : LinkLayerConfig} {transfer : StopAndWait Message}
    {requests answers : List LinkFrame}
    (agrees : Agrees config context.primaryStation requests answers transfer) :
    Agrees config context.onLowerLayerDown.primaryStation [] []
      (goOn transfer false context.onLowerLayerDown.primaryStation) := by
  unfold LinkContext.onLowerLayerDown
  split
  · have stopped : goOn transfer false ⟨.idle, none, false, context.nextWriteFCB⟩ =
        transfer.abandon := goOn_abandon rfl agrees.writeBit.symm
    have kept : Agrees config ⟨.idle, none, false, context.nextWriteFCB⟩ [] []
        (goOn transfer false ⟨.idle, none, false, context.nextWriteFCB⟩) := by
      rw [stopped]
      exact ⟨nofun, .quiet, nofun, nofun, rfl, agrees.writeBit, agrees.ordered.abandon, nofun⟩
    exact kept
  · rw [goOn_same agrees.current.symm agrees.writeBit.symm]
    exact agrees.lose

theorem Serves.disconnect (serves : pair.Serves) :
    ((({ pair with forward := [], backward := [] } : LinkPair).advance false
      pair.sender.onLowerLayerDown).arrive pair.receiver.onLowerLayerDown).Serves := by
  obtain ⟨senderPri, _, _, config⟩ := closed_onLowerLayerDown serves.senderRests
  obtain ⟨_, receiverSec, bit, _⟩ := closed_onLowerLayerDown serves.receiverRests
  obtain ⟨senderFrames, _⟩ := log_onLowerLayerDown pair.sender
  obtain ⟨receiverFrames, receiverMessages⟩ := log_onLowerLayerDown pair.receiver
  have down (context : LinkContext) :
      context.receive .lowerLayerDown = some context.onLowerLayerDown := rfl
  refine ⟨serves.sender.receive (down pair.sender),
    serves.receiver.receive (down pair.receiver),
    LinkContext.rests_onLowerLayerDown serves.senderRests,
    LinkContext.rests_onLowerLayerDown serves.receiverRests, config ▸ serves.confirms, ?_⟩
  have agrees := Agrees.disconnect serves.agrees
  have requests : ((({ pair with forward := [], backward := [] } : LinkPair).advance false
      pair.sender.onLowerLayerDown).arrive pair.receiver.onLowerLayerDown).requests = [] := by
    simp only [LinkPair.requests, arrive, advance, senderFrames, senderPri, List.append_nil,
      List.filter_nil, Option.toList_none]
  have answers : ((({ pair with forward := [], backward := [] } : LinkPair).advance false
      pair.sender.onLowerLayerDown).arrive pair.receiver.onLowerLayerDown).answers = [] := by
    simp only [LinkPair.answers, arrive, advance, receiverFrames, receiverSec, List.append_nil,
      List.filter_nil, Option.toList_none]
  have transfer : ((({ pair with forward := [], backward := [] } : LinkPair).advance false
      pair.sender.onLowerLayerDown).arrive pair.receiver.onLowerLayerDown).transfer =
        goOn pair.transfer false pair.sender.onLowerLayerDown.primaryStation := by
    simp only [LinkPair.transfer, arrive, advance, receiverMessages, bit, List.append_nil]
    rfl
  rw [requests, answers, transfer]
  exact config ▸ agrees

/-! ## Runs -/

theorem serves_initial (sender receiver : LinkLayerConfig) (now : MonotonicTimestamp)
    (confirms : sender.useConfirms = true) : (initial sender receiver now).Serves where
  sender := LinkContext.sound_of_reaches .start
  receiver := LinkContext.sound_of_reaches .start
  senderRests := LinkContext.rests_initial sender now
  receiverRests := LinkContext.rests_initial receiver now
  confirms := confirms
  agrees := ⟨nofun, .quiet, nofun, nofun, rfl, rfl, StopAndWait.ordered_init _ _, nofun⟩

theorem Serves.step {input : PairInput} (serves : pair.Serves) (keeps : pair.KeepsPassed input)
    (stepped : pair.step input = some after) : after.Serves := by
  cases input with
  | sender input =>
      rw [LinkPair.step] at stepped
      split at stepped
      · next allowed =>
          obtain ⟨context, received, rfl⟩ := Option.map_eq_some_iff.mp stepped
          simp only [Bool.and_eq_true, Bool.or_eq_true, decide_eq_true_eq] at allowed
          refine serves.sender_step allowed.1 (fun timeout => ?_) keeps received
          exact allowed.2.resolve_left (absurd timeout ·)
      · cases stepped
  | receiver input =>
      rw [LinkPair.step] at stepped
      split at stepped
      · next isLocal =>
          obtain ⟨context, received, rfl⟩ := Option.map_eq_some_iff.mp stepped
          exact serves.receiver_step isLocal received
      · cases stepped
  | deliver now =>
      rw [LinkPair.step] at stepped
      split at stepped
      · cases stepped
      · next frame forward first =>
          obtain ⟨context, received, rfl⟩ := Option.map_eq_some_iff.mp stepped
          exact serves.deliver first received
  | answer now =>
      rw [LinkPair.step] at stepped
      split at stepped
      · cases stepped
      · next frame backward first =>
          obtain ⟨context, received, rfl⟩ := Option.map_eq_some_iff.mp stepped
          exact serves.answer first received
  | lose =>
      rw [LinkPair.step] at stepped
      split at stepped
      · cases stepped
      · obtain rfl := Option.some.inj stepped
        exact serves.lose
  | loseAnswer =>
      rw [LinkPair.step] at stepped
      split at stepped
      · cases stepped
      · obtain rfl := Option.some.inj stepped
        exact serves.loseAnswer
  | disconnect =>
      obtain rfl := Option.some.inj stepped
      exact serves.disconnect

theorem Serves.run (serves : pair.Serves) (run : machine.ReachesWhile KeepsPassed pair after) :
    after.Serves := by
  refine run.invariant serves ?_
  intro before after input output serves keeps stepped
  obtain ⟨next, success, same⟩ := Option.map_eq_some_iff.mp stepped
  obtain ⟨rfl, _⟩ := Prod.mk.inj same
  exact serves.step keeps success

theorem serves_of_reachesWhile {sender receiver : LinkLayerConfig} {now : MonotonicTimestamp}
    (confirms : sender.useConfirms = true)
    (reached : machine.ReachesWhile KeepsPassed (initial sender receiver now) pair) :
    pair.Serves :=
  (serves_initial sender receiver now confirms).run reached

end LinkPair

end OpenDnp3.Link
