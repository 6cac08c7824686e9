import OpenDnp3.Master.PollContinuations
import OpenDnp3.Outstation.UnfinishedResponses

/-!
# Polled selections

A master and an outstation, and the messages between them. A poll hands over
what its READ has selected at the outstation, in order and only once.
-/

set_option autoImplicit false

namespace OpenDnp3

open OpenDnp3.App OpenDnp3.Library OpenDnp3.Master OpenDnp3.Outstation

/-- A master and an outstation, with the messages that are under way. -/
structure Association (Runner : Type) where
  session : Session Runner
  outstation : OContext
  requests : List Message := []
  responses : List Message := []

/-- What happens to a master and an outstation while they are connected and no timer expires. -/
inductive AssociationInput (Runner : Type) where
  /-- The first message arrives at the outstation. -/
  | request (environment : Outstation.Environment)
  /-- The first message arrives at the master. -/
  | response (environment : Master.Environment Runner)
  | requestSent (environment : Master.Environment Runner)
  | responseSent (environment : Outstation.Environment)
  | apply (environment : Outstation.Environment) (updates : List DatabaseUpdate)
  | setRestartIIN (environment : Outstation.Environment)

namespace Association

variable {Runner : Type}

/-- The message that an outstation sends. -/
def responseOf (addresses : Addresses) : Activity → Option Message
  | .beginTransmit destination fragment _ => some ⟨⟨addresses.source, destination⟩, fragment⟩
  | .call _ => none

/-- The master has gone on. -/
def withSession (association : Association Runner) (session : Session Runner) :
    Association Runner :=
  let fragments := fragmentsOf
    (session.common.history.drop association.session.common.history.length)
  { association with
    session
    requests := association.requests ++ fragments.map (Message.mk session.context.addresses) }

/-- The outstation has gone on. -/
def withOutstation (association : Association Runner) (outstation : OContext) :
    Association Runner :=
  let activities := outstation.log.drop association.outstation.log.length
  { association with
    outstation
    responses :=
      association.responses ++ activities.filterMap (responseOf outstation.addresses) }

variable [DecidableEq Runner] [FloatOps] (runner : Runner)

def step (association : Association Runner) : AssociationInput Runner → Option (Association Runner)
  | .request environment =>
      match association.requests with
      | [] => some association
      | message :: requests =>
          (association.outstation.step environment (.receive message)).map
            { association with requests }.withOutstation
  | .response environment =>
      match association.responses with
      | [] => some association
      | message :: responses =>
          some ({ association with responses }.withSession
            (association.session.onReceive runner environment message))
  | .requestSent environment =>
      some (association.withSession (association.session.onTxReady runner environment))
  | .responseSent environment =>
      (association.outstation.step environment .txReady).map association.withOutstation
  | .apply environment updates =>
      (association.outstation.step environment (.apply updates)).map association.withOutstation
  | .setRestartIIN environment =>
      (association.outstation.step environment .setRestartIIN).map association.withOutstation

def machine : Machine (Association Runner) (AssociationInput Runner) Unit where
  step association input := (association.step runner input).map fun after => (after, ())

/-- Changes of the points discard no event that is still to be sent. -/
def KeepsSelected (association : Association Runner) : AssociationInput Runner → Prop
  | .apply _ updates => ∀ after ∈ OContext.changeAll updates association.outstation,
      after.eventBuffer.storage.numSelected =
        association.outstation.eventBuffer.storage.numSelected
  | _ => True

/-- While the outstation awaits a confirm, the fragments can be counted, and nothing is
discarded. -/
def Proceeds (association : Association Runner) (input : AssociationInput Runner) : Prop :=
  association.outstation.state = .solicitedConfirmWait →
    association.outstation.fragmentCount ≠ 0 ∧ association.KeepsSelected input

instance (association : Association Runner) :
    (input : AssociationInput Runner) → Decidable (association.KeepsSelected input)
  | .apply _ updates => inferInstanceAs
      (Decidable (∀ after ∈ OContext.changeAll updates association.outstation, _))
  | .request _ | .response _ | .requestSent _ | .responseSent _ | .setRestartIIN _ => isTrue trivial

instance : DecidableRel (@Proceeds Runner _) := fun _ _ =>
  inferInstanceAs (Decidable (_ → _ ∧ _))

/-! ## Messages -/

omit [DecidableEq Runner] [FloatOps] in
theorem withSession_of_adds {association : Association Runner} {session : Session Runner}
    {measurements : List Measurement} {fragments : List (List UInt8)}
    (adds : association.session.Adds session measurements fragments) :
    association.withSession session =
      { association with
        session
        requests := association.requests ++
          fragments.map (Message.mk session.context.addresses) } := by
  rw [withSession, adds.fragments]

omit [DecidableEq Runner] [FloatOps] in
/-- A master that sends nothing leaves the requests as they are. -/
theorem withSession_of_quiet {association : Association Runner} {session : Session Runner}
    {measurements : List Measurement}
    (adds : association.session.Adds session measurements []) :
    association.withSession session = { association with session } := by
  rw [withSession_of_adds adds, List.map_nil, List.append_nil]

omit [DecidableEq Runner] [FloatOps] in
theorem withOutstation_of_log {association : Association Runner} {outstation : OContext}
    (same : outstation.log = association.outstation.log) :
    association.withOutstation outstation = { association with outstation } := by
  simp only [withOutstation, same, List.drop_length, List.filterMap_nil, List.append_nil]

/-- An outstation takes the messages of a master. -/
structure Paired (addresses : Addresses) (outstation : OContext) : Prop where
  source : outstation.addresses.source = addresses.destination
  accepts : outstation.params.respondToAnyMaster = true ∨
    outstation.addresses.destination = addresses.source

omit [DecidableEq Runner] [FloatOps] in
/-- The confirm of a master is taken. -/
theorem Paired.acceptMessage {addresses : Addresses} {outstation : OContext}
    (paired : Paired addresses outstation) {seq : SequenceNum 16} (below : seq.seq < 16) :
    outstation.acceptMessage ⟨addresses, confirmBytes (.solicitedConfirm seq.seq)⟩ =
      some ⟨addresses, .solicitedConfirm seq.seq, []⟩ := by
  have other : ¬(!outstation.params.respondToAnyMaster ∧
      addresses.source ≠ outstation.addresses.destination) := by
    rintro ⟨only, different⟩
    rcases paired.accepts with any | same
    · simp [any] at only
    · exact different same.symm
  have control : AppControlField.ofByte (APDUHeader.solicitedConfirm seq.seq).control.toByte =
      (APDUHeader.solicitedConfirm seq.seq).control := AppControlField.ofByte_toByte _ below
  have parsed : APDUHeader.parseRequest (confirmBytes (.solicitedConfirm seq.seq)) =
      some (.solicitedConfirm seq.seq, []) := by
    rw [confirmBytes, APDUHeader.parseRequest, control, FunctionCode.fromType_toType]
  rw [OContext.acceptMessage, if_neg (not_not.mpr paired.source.symm), if_neg other]
  dsimp only
  rw [parsed]
  rfl

omit [DecidableEq Runner] in
/-- The message that a fragment of a response is sent in. -/
theorem withOutstation_of_sends {association : Association Runner} {config : EventBufferConfig}
    {selected : List Measurement} {sent destination : UInt16} {seq : SequenceNum 16}
    {context after : OContext}
    (sends : OContext.SendsFragment config selected sent destination seq context after)
    (log : context.log = association.outstation.log) (deferred : Option ParsedRequest) :
    association.withOutstation { after with deferred } =
      { association with
        outstation := { after with deferred }
        responses := association.responses ++
          [⟨⟨after.addresses.source, destination⟩, after.sol.tx.lastResponse⟩] } := by
  simp only [withOutstation, sends.responds.log, log, List.drop_left]
  rfl

/-! ## Stages of a poll -/

/-- An outstation holds the rest of a response, and awaits the confirm of what it has sent. -/
structure Holds (config : EventBufferConfig) (addresses : Addresses) (seq : SequenceNum 16)
    (left : List Measurement) (outstation : OContext) : Prop where
  unfinished : outstation.Unfinished config
  paired : Paired addresses outstation
  confirmNum : outstation.sol.seq.confirmNum = seq
  toReport : outstation.toReport = left

/-- A message is the fragment that is expected behind a number of others. -/
def Continues (addresses : Addresses) (count : RxCount) (seq : SequenceNum 16) (fin : Bool)
    (measurements : List Measurement) (message : Message) : Prop :=
  ∃ control, Session.Carries addresses control measurements message ∧ control.seq = seq.seq ∧
    control.fir = decide (count = 0) ∧ control.fin = fin ∧ (fin = false → control.con = true)

/-- Where the confirm of a fragment is. -/
inductive Confirming (addresses : Addresses) (seq : SequenceNum 16)
    (association : Association Runner) : Prop
  | queued (busy : association.session.context.isSending = true)
      (queue : association.session.context.confirmQueue = [.solicitedConfirm seq.seq])
      (requests : association.requests = []) (reads : association.outstation.HoldsRead)
  | sent (queue : association.session.context.confirmQueue = [])
      (requests : association.requests =
        [⟨addresses, confirmBytes (.solicitedConfirm seq.seq)⟩])
      (reads : association.outstation.HoldsRead)
  | held (queue : association.session.context.confirmQueue = [])
      (requests : association.requests = [])
      (busy : association.outstation.isTransmitting = true)
      (deferred : association.outstation.deferred =
        some ⟨addresses, .solicitedConfirm seq.seq, []⟩)

section stages

variable (config : EventBufferConfig) (addresses : Addresses) (id : TaskId Runner)
  (total : List Measurement) (count : RxCount) (seq : SequenceNum 16)

/-- A fragment that is not the last one is on its way. -/
structure Arriving (now left : List Measurement) (message : Message)
    (association : Association Runner) : Prop where
  waits : association.session.WaitsFor addresses id count seq
  whole : total = delivered association.session.common.history ++ (now ++ left)
  queue : association.session.context.confirmQueue = []
  requests : association.requests = []
  responses : association.responses = [message]
  continues : Continues addresses count seq false now message
  holds : Holds config addresses seq left association.outstation
  reads : association.outstation.HoldsRead
  counts : association.outstation.fragmentCount ≠ 0 →
    association.outstation.fragmentCount.toNat = count.toNat + 1

/-- A fragment has arrived, and its confirm is on its way. -/
structure Returning (left : List Measurement) (association : Association Runner) : Prop where
  waits : association.session.WaitsFor addresses id count seq.next
  whole : total = delivered association.session.common.history ++ left
  responses : association.responses = []
  confirming : Confirming addresses seq association
  holds : Holds config addresses seq left association.outstation
  counts : association.outstation.fragmentCount.toNat = count.toNat

/-- The last fragment is on its way. -/
structure Ending (now : List Measurement) (message : Message) (others : List Message)
    (association : Association Runner) : Prop where
  waits : association.session.WaitsFor addresses id count seq
  whole : total = delivered association.session.common.history ++ now
  queue : association.session.context.confirmQueue = []
  requests : association.requests = []
  responses : association.responses = message :: others
  continues : Continues addresses count seq true now message

/-- How far a poll has come since a history, that is to deliver some measurements in total. -/
inductive Stage (start : List (Event Runner)) (association : Association Runner) : Prop
  | arriving {count : RxCount} {seq : SequenceNum 16} {now left : List Measurement}
      {message : Message}
      (arriving : Arriving config addresses id total count seq now left message association)
  | returning {count : RxCount} {seq : SequenceNum 16} {left : List Measurement}
      (returning : Returning config addresses id total count seq left association)
  | ending {count : RxCount} {seq : SequenceNum 16} {now : List Measurement} {message : Message}
      {others : List Message}
      (ending : Ending addresses id total count seq now message others association)
  | done (completes : CompletesWith id total start association.session.common.history)

end stages

variable {runner : Runner} {config : EventBufferConfig} {addresses : Addresses}
  {id : TaskId Runner} {total now left : List Measurement} {count : RxCount}
  {seq : SequenceNum 16} {message : Message} {others : List Message}
  {association after : Association Runner} {input : AssociationInput Runner}
  {start : List (Event Runner)}

omit [DecidableEq Runner] [FloatOps] in
theorem toNat_succ {number : UInt16} (fits : number + 1 ≠ 0) :
    (number + 1).toNat = number.toNat + 1 := by
  have below := number.toNat_lt
  have nonzero : (number + 1).toNat ≠ 0 := fun zero => fits (UInt16.toNat_inj.mp zero)
  rw [UInt16.toNat_add] at nonzero ⊢
  have one : (1 : UInt16).toNat = 1 := rfl
  omega

omit [DecidableEq Runner] in
/-- A fragment is on its way when it is sent. -/
theorem Stage.of_sends {sent : UInt16} {context outstation : OContext}
    {deferred : Option ParsedRequest}
    (sends : OContext.SendsFragment config left sent addresses.source seq context outstation)
    (same : sent.toNat = count.toNat) (paired : Paired addresses context)
    (online : context.isOnline = true) (below : seq.seq < 16)
    (reads : OContext.HoldsRead { outstation with deferred })
    (waits : association.session.WaitsFor addresses id count seq)
    (whole : total = delivered association.session.common.history ++ left)
    (queue : association.session.context.confirmQueue = [])
    (requests : association.requests = [])
    (responses : association.responses = [⟨⟨outstation.addresses.source, addresses.source⟩,
      outstation.sol.tx.lastResponse⟩])
    (gone : association.outstation = { outstation with deferred }) :
    Stage config addresses id total start association := by
  obtain ⟨now, split, delivers⟩ := sends.reports.delivers
  have source : outstation.addresses.source = addresses.destination := by
    rw [sends.responds.addresses]
    exact paired.source
  have first : (sent == 0) = decide (count = 0) := by
    rw [beq_eq_decide, decide_eq_decide, ← UInt16.toNat_inj, ← UInt32.toNat_inj, same]
    rfl
  have continues : Continues addresses count seq outstation.sol.tx.control.fin now
      ⟨⟨outstation.addresses.source, addresses.source⟩, outstation.sol.tx.lastResponse⟩ :=
    ⟨outstation.sol.tx.control, ⟨source, rfl, delivers⟩, sends.responds.control.1,
      sends.part.fir.trans first, rfl, sends.part.confirms⟩
  cases fin : outstation.sol.tx.control.fin with
  | false =>
      have unfinished := sends.unfinished online below fin
      have counts := sends.counts
      rw [fin] at continues
      have accepts : outstation.params.respondToAnyMaster = true ∨
          outstation.addresses.destination = addresses.source := by
        rw [sends.responds.addresses, sends.responds.params]
        exact paired.accepts
      refine .arriving ⟨waits, split ▸ whole, queue, requests, responses, continues, ?_,
        gone ▸ reads, ?_⟩
      · rw [gone]
        exact ⟨unfinished.congr rfl rfl rfl rfl rfl, ⟨source, accepts⟩,
          sends.responds.confirmNum, rfl⟩
      · rw [gone]
        change outstation.fragmentCount ≠ 0 → outstation.fragmentCount.toNat = _
        rw [counts]
        intro fits
        rw [toNat_succ fits, same]
  | true =>
      have none := sends.reports.done fin
      rw [none, List.append_nil] at split
      rw [fin] at continues
      exact .ending ⟨waits, split ▸ whole, queue, requests, responses, continues⟩

/-! ## Fragments that arrive -/

omit [DecidableEq Runner] in
theorem Holds.stays {context outstation : OContext}
    (holds : Holds config addresses seq left context)
    (unfinished : outstation.Unfinished config) (stays : context.Stays outstation) :
    Holds config addresses seq left outstation where
  unfinished := unfinished
  paired := ⟨stays.addresses ▸ holds.paired.source,
    by rw [stays.params, stays.addresses]; exact holds.paired.accepts⟩
  confirmNum := stays.sol ▸ holds.confirmNum
  toReport := stays.toReport.trans holds.toReport

namespace Arriving

omit [DecidableEq Runner] in
theorem stays
    (arriving : Arriving config addresses id total count seq now left message association)
    {outstation : OContext} (unfinished : outstation.Unfinished config)
    (stays : association.outstation.Stays outstation)
    (deferred : outstation.deferred = association.outstation.deferred) :
    Arriving config addresses id total count seq now left message
      (association.withOutstation outstation) := by
  rw [withOutstation_of_log stays.log]
  refine ⟨arriving.waits, arriving.whole, arriving.queue, arriving.requests, arriving.responses,
    arriving.continues, arriving.holds.stays unfinished stays, ?_, ?_⟩
  · intro request held
    exact arriving.reads request (deferred ▸ held)
  · rw [stays.fragmentCount]
    exact arriving.counts

/-- The fragment is taken in, and its confirm is sent or waits to be sent. -/
theorem response
    (arriving : Arriving config addresses id total count seq now left message association)
    (counted : association.outstation.fragmentCount ≠ 0)
    (environment : Master.Environment Runner) :
    Returning config addresses id total (count + 1) seq left
      ({ association with responses := [] }.withSession
        (association.session.onReceive runner environment message)) := by
  obtain ⟨control, carries, number, fir, fin, con⟩ := arriving.continues
  obtain ⟨waits, confirms⟩ := arriving.waits.receive environment arriving.queue carries number fir
    fin (con rfl)
  have counts : association.outstation.fragmentCount.toNat = (count + 1).toNat := by
    have known := arriving.counts counted
    have below := association.outstation.fragmentCount.toNat_lt
    have one : (1 : UInt32).toNat = 1 := rfl
    rw [UInt32.toNat_add, known]
    omega
  cases sending : association.session.context.isSending with
  | true =>
      obtain ⟨queue, adds⟩ := confirms.queued sending
      rw [@withSession_of_adds _ { association with responses := [] } _ _ _ adds]
      refine ⟨waits, ?_, rfl, .queued confirms.isSending queue ?_ arriving.reads, arriving.holds,
        counts⟩
      · rw [adds.delivered, List.append_assoc]
        exact arriving.whole
      · rw [arriving.requests]
        rfl
  | false =>
      obtain ⟨queue, adds⟩ := confirms.sent sending
      rw [@withSession_of_adds _ { association with responses := [] } _ _ _ adds]
      refine ⟨waits, ?_, rfl, .sent queue ?_ arriving.reads, arriving.holds, counts⟩
      · rw [adds.delivered, List.append_assoc]
        exact arriving.whole
      · rw [arriving.requests, waits.addresses]
        rfl

/-- A fragment that is on its way stays there until it is taken in. -/
theorem step
    (arriving : Arriving config addresses id total count seq now left message association)
    (regular : association.outstation.Regular config) (proceeds : association.Proceeds input)
    (success : association.step runner input = some after) :
    Stage config addresses id total start after := by
  have waiting := proceeds arriving.holds.unfinished.state
  cases input with
  | request environment =>
      simp only [Association.step, arriving.requests] at success
      obtain rfl := Option.some.inj success
      exact .arriving arriving
  | response environment =>
      simp only [Association.step, arriving.responses] at success
      obtain rfl := Option.some.inj success
      exact .returning (arriving.response waiting.1 environment)
  | requestSent environment =>
      obtain rfl := Option.some.inj success
      obtain ⟨waits, quiet, _⟩ := arriving.waits.txReady runner environment
      obtain ⟨queue, adds⟩ := quiet arriving.queue
      rw [withSession_of_quiet adds]
      refine .arriving ⟨waits, ?_, queue, arriving.requests, arriving.responses,
        arriving.continues, arriving.holds, arriving.reads, arriving.counts⟩
      rw [adds.delivered, List.append_nil]
      exact arriving.whole
  | responseSent environment =>
      obtain ⟨outstation, stepped, rfl⟩ := Option.map_eq_some_iff.mp success
      obtain ⟨unfinished, stays, deferred⟩ := arriving.holds.unfinished.txReady arriving.reads
        (OContext.steps_of_step stepped)
      exact .arriving (arriving.stays unfinished stays deferred)
  | apply environment updates =>
      obtain ⟨outstation, stepped, rfl⟩ := Option.map_eq_some_iff.mp success
      obtain ⟨serials, marks⟩ := regular.marks
      obtain ⟨unfinished, stays, deferred, _⟩ := arriving.holds.unfinished.apply marks
        (fun _ => arriving.reads) waiting.2 (OContext.steps_of_step stepped)
      exact .arriving (arriving.stays unfinished stays deferred)
  | setRestartIIN environment =>
      rw [Association.step] at success
      obtain ⟨outstation, stepped, rfl⟩ := Option.map_eq_some_iff.mp success
      obtain ⟨unfinished, stays, deferred, _⟩ := arriving.holds.unfinished.setRestartIIN
        (OContext.steps_of_step stepped)
      exact .arriving (arriving.stays unfinished stays deferred)

end Arriving

/-! ## Confirms that return -/

omit [DecidableEq Runner] [FloatOps] in
theorem Confirming.reads (confirming : Confirming addresses seq association)
    (can : association.outstation.canTransmit = true) : association.outstation.HoldsRead := by
  cases confirming with
  | queued _ _ _ reads | sent _ _ reads => exact reads
  | held _ _ busy _ => simp [OContext.canTransmit, busy] at can

omit [DecidableEq Runner] [FloatOps] in
theorem Confirming.stays (confirming : Confirming addresses seq association)
    {outstation : OContext} (deferred : outstation.deferred = association.outstation.deferred)
    (transmitting : outstation.isTransmitting = association.outstation.isTransmitting) :
    Confirming addresses seq { association with outstation } := by
  have same (reads : association.outstation.HoldsRead) : outstation.HoldsRead :=
    fun request held => reads request (deferred ▸ held)
  cases confirming with
  | queued busy queue requests reads => exact .queued busy queue requests (same reads)
  | sent queue requests reads => exact .sent queue requests (same reads)
  | held queue requests busy held =>
      exact .held queue requests (transmitting.trans busy) (deferred.trans held)

namespace Returning

omit [DecidableEq Runner] in
theorem awaits (returning : Returning config addresses id total count seq left association) :
    OContext.AwaitsSolicited ⟨addresses, .solicitedConfirm seq.seq, []⟩ association.outstation where
  isConfirm := rfl
  state := returning.holds.unfinished.state
  solicited := rfl
  seq := congrArg SequenceNum.seq returning.holds.confirmNum

omit [DecidableEq Runner] in
theorem stays (returning : Returning config addresses id total count seq left association)
    {outstation : OContext} (unfinished : outstation.Unfinished config)
    (stays : association.outstation.Stays outstation)
    (confirming : Confirming addresses seq { association with outstation }) :
    Returning config addresses id total count seq left
      (association.withOutstation outstation) := by
  rw [withOutstation_of_log stays.log]
  refine ⟨returning.waits, returning.whole, returning.responses, confirming,
    returning.holds.stays unfinished stays, ?_⟩
  rw [stays.fragmentCount]
  exact returning.counts

omit [DecidableEq Runner] in
theorem sends (returning : Returning config addresses id total count seq left association)
    {context outstation : OContext} (deferred : Option ParsedRequest) {requests : List Message}
    (sends : OContext.SendsFragment config association.outstation.toReport
      association.outstation.fragmentCount addresses.source association.outstation.nextNum context
      outstation)
    (log : context.log = association.outstation.log) (paired : Paired addresses context)
    (online : context.isOnline = true) (reads : OContext.HoldsRead { outstation with deferred })
    (queue : association.session.context.confirmQueue = []) (empty : requests = []) :
    Stage config addresses id total start
      ({ association with requests }.withOutstation { outstation with deferred }) := by
  have next : association.outstation.nextNum = seq.next :=
    congrArg SequenceNum.next returning.holds.confirmNum
  rw [returning.holds.toReport, next] at sends
  have sent := @withOutstation_of_sends _ _ { association with requests } _ _ _ _ _ _ _ sends log
    deferred
  rw [sent]
  refine Stage.of_sends sends returning.counts paired online seq.seq_next_lt reads returning.waits
    returning.whole queue empty ?_ rfl
  dsimp only
  rw [returning.responses]
  rfl

omit [DecidableEq Runner] in
theorem request (returning : Returning config addresses id total count seq left association)
    (regular : association.outstation.Regular config)
    (counted : association.outstation.fragmentCount ≠ 0)
    (queue : association.session.context.confirmQueue = [])
    (reads : association.outstation.HoldsRead) {environment : Outstation.Environment}
    {outstation : OContext}
    (stepped : association.outstation.step environment
      (.receive ⟨addresses, confirmBytes (.solicitedConfirm seq.seq)⟩) = some outstation) :
    Stage config addresses id total start
      ({ association with requests := [] }.withOutstation outstation) := by
  have unfinished := returning.holds.unfinished
  have below : seq.seq < 16 := returning.holds.confirmNum ▸ unfinished.below
  obtain ⟨serials, marks⟩ := regular.marks
  rcases unfinished.receive marks counted (returning.holds.paired.acceptMessage below)
    returning.awaits (OContext.steps_of_step stepped) with ⟨_, sends⟩ | ⟨busy, rfl⟩
  · have kept : outstation.deferred = association.outstation.deferred := sends.responds.deferred
    refine returning.sends outstation.deferred sends rfl ?_ unfinished.isOnline ?_ queue rfl
    · exact ⟨returning.holds.paired.source, returning.holds.paired.accepts⟩
    · exact fun request held => reads request (kept ▸ held)
  · have copied : (association.outstation.defer
        ⟨addresses, .solicitedConfirm seq.seq, []⟩).deferred =
          some ⟨addresses, .solicitedConfirm seq.seq, []⟩ := by
      simp [OContext.defer, ParsedRequest.copyTo]
    have same := @withOutstation_of_log _ { association with requests := [] }
      (association.outstation.defer ⟨addresses, .solicitedConfirm seq.seq, []⟩) rfl
    rw [same]
    exact .returning ⟨returning.waits, returning.whole, returning.responses,
      .held queue rfl busy copied,
      returning.holds.stays (unfinished.congr rfl rfl rfl rfl rfl) ⟨rfl, rfl, rfl, rfl, rfl, rfl⟩,
      returning.counts⟩

omit [DecidableEq Runner] in
theorem responseSent (returning : Returning config addresses id total count seq left association)
    (regular : association.outstation.Regular config)
    (counted : association.outstation.fragmentCount ≠ 0)
    (queue : association.session.context.confirmQueue = []) (requests : association.requests = [])
    (busy : association.outstation.isTransmitting = true)
    (deferred : association.outstation.deferred =
      some ⟨addresses, .solicitedConfirm seq.seq, []⟩)
    {environment : Outstation.Environment} {outstation : OContext}
    (stepped : association.outstation.step environment .txReady = some outstation) :
    Stage config addresses id total start (association.withOutstation outstation) := by
  obtain ⟨serials, marks⟩ := regular.marks
  obtain ⟨sent, sends, rfl⟩ := returning.holds.unfinished.txReady_held marks counted
    returning.awaits busy deferred (OContext.steps_of_step stepped)
  have reads : OContext.HoldsRead { sent with deferred := none } := by rintro _ ⟨⟩
  have paired : Paired addresses
      (OContext.confirmed { association.outstation with isTransmitting := false }).clearWritten :=
    ⟨returning.holds.paired.source, returning.holds.paired.accepts⟩
  exact returning.sends none sends rfl paired returning.holds.unfinished.isOnline reads queue
    requests

omit [DecidableEq Runner] in
theorem requestSent (returning : Returning config addresses id total count seq left association)
    {session : Session Runner} (waits : session.WaitsFor addresses id count seq.next)
    (adds : association.session.Adds session [] [])
    (confirming : Confirming addresses seq { association with session }) :
    Returning config addresses id total count seq left (association.withSession session) := by
  rw [withSession_of_quiet adds]
  refine ⟨waits, ?_, returning.responses, confirming, returning.holds, returning.counts⟩
  rw [adds.delivered, List.append_nil]
  exact returning.whole

/-- A confirm that is on its way stays there until it is taken, and then the next fragment is
sent. -/
theorem step (returning : Returning config addresses id total count seq left association)
    (regular : association.outstation.Regular config) (proceeds : association.Proceeds input)
    (success : association.step runner input = some after) :
    Stage config addresses id total start after := by
  have waiting := proceeds returning.holds.unfinished.state
  have confirming := returning.confirming
  cases input with
  | request environment =>
      cases confirming with
      | queued _ _ requests _ | held _ requests _ _ =>
          simp only [Association.step, requests] at success
          obtain rfl := Option.some.inj success
          exact .returning returning
      | sent queue requests reads =>
          simp only [Association.step, requests] at success
          obtain ⟨outstation, stepped, rfl⟩ := Option.map_eq_some_iff.mp success
          exact returning.request regular waiting.1 queue reads stepped
  | response environment =>
      simp only [Association.step, returning.responses] at success
      obtain rfl := Option.some.inj success
      exact .returning returning
  | requestSent environment =>
      obtain rfl := Option.some.inj success
      obtain ⟨waits, quiet, sends⟩ := returning.waits.txReady runner environment
      cases confirming with
      | queued busy queue requests reads =>
          obtain ⟨queue, adds⟩ := sends _ queue busy
          rw [withSession_of_adds adds]
          refine .returning ⟨waits, ?_, returning.responses, .sent queue ?_ reads,
            returning.holds, returning.counts⟩
          · rw [adds.delivered, List.append_nil]
            exact returning.whole
          · rw [requests, waits.addresses]
            rfl
      | sent queue requests reads =>
          obtain ⟨queue, adds⟩ := quiet queue
          exact .returning (returning.requestSent waits adds (.sent queue requests reads))
      | held queue requests busy deferred =>
          obtain ⟨queue, adds⟩ := quiet queue
          exact .returning (returning.requestSent waits adds (.held queue requests busy deferred))
  | responseSent environment =>
      obtain ⟨outstation, stepped, rfl⟩ := Option.map_eq_some_iff.mp success
      cases confirming with
      | queued busy queue requests reads =>
          obtain ⟨unfinished, stays, deferred⟩ := returning.holds.unfinished.txReady reads
            (OContext.steps_of_step stepped)
          exact .returning (returning.stays unfinished stays (.queued busy queue requests
            fun request held => reads request (deferred ▸ held)))
      | sent queue requests reads =>
          obtain ⟨unfinished, stays, deferred⟩ := returning.holds.unfinished.txReady reads
            (OContext.steps_of_step stepped)
          exact .returning (returning.stays unfinished stays (.sent queue requests
            fun request held => reads request (deferred ▸ held)))
      | held queue requests busy deferred =>
          exact returning.responseSent regular waiting.1 queue requests busy deferred stepped
  | apply environment updates =>
      obtain ⟨outstation, stepped, rfl⟩ := Option.map_eq_some_iff.mp success
      obtain ⟨serials, marks⟩ := regular.marks
      obtain ⟨unfinished, stays, deferred, transmitting⟩ := returning.holds.unfinished.apply marks
        confirming.reads waiting.2 (OContext.steps_of_step stepped)
      exact .returning (returning.stays unfinished stays (confirming.stays deferred transmitting))
  | setRestartIIN environment =>
      rw [Association.step] at success
      obtain ⟨outstation, stepped, rfl⟩ := Option.map_eq_some_iff.mp success
      obtain ⟨unfinished, stays, deferred, transmitting⟩ :=
        returning.holds.unfinished.setRestartIIN (OContext.steps_of_step stepped)
      exact .returning (returning.stays unfinished stays (confirming.stays deferred transmitting))

end Returning

/-! ## Runs of a poll -/

omit [DecidableEq Runner] in
theorem Ending.withOutstation
    (ending : Ending addresses id total count seq now message others association)
    (outstation : OContext) :
    ∃ more, Ending addresses id total count seq now message (others ++ more)
      (association.withOutstation outstation) :=
  ⟨_, ending.waits, ending.whole, ending.queue, ending.requests,
    congrArg (· ++ _) ending.responses, ending.continues⟩

/-- The last fragment completes the poll. -/
theorem Ending.step
    (ending : Ending addresses id total count seq now message others association)
    (grown : start <+: association.session.common.history)
    (success : association.step runner input = some after) :
    Stage config addresses id total start after := by
  have later (outstation : OContext) :
      Stage config addresses id total start (association.withOutstation outstation) :=
    have ⟨_, still⟩ := ending.withOutstation outstation
    .ending still
  cases input with
  | request environment =>
      simp only [Association.step, ending.requests] at success
      obtain rfl := Option.some.inj success
      exact .ending ending
  | response environment =>
      simp only [Association.step, ending.responses] at success
      obtain rfl := Option.some.inj success
      obtain ⟨control, carries, number, fir, fin, _⟩ := ending.continues
      have completes := ending.waits.finishes runner environment carries number fir fin
      rw [← ending.whole] at completes
      exact .done (completes.mono grown (List.prefix_refl _))
  | requestSent environment =>
      obtain rfl := Option.some.inj success
      obtain ⟨waits, quiet, _⟩ := ending.waits.txReady runner environment
      obtain ⟨queue, adds⟩ := quiet ending.queue
      rw [withSession_of_quiet adds]
      refine .ending ⟨waits, ?_, queue, ending.requests, ending.responses, ending.continues⟩
      rw [adds.delivered, List.append_nil]
      exact ending.whole
  | responseSent environment | apply environment updates =>
      obtain ⟨outstation, _, rfl⟩ := Option.map_eq_some_iff.mp success
      exact later outstation
  | setRestartIIN environment =>
      rw [Association.step] at success
      obtain ⟨outstation, _, rfl⟩ := Option.map_eq_some_iff.mp success
      exact later outstation

/-- An outstation moves as it does on its own, and the history of a master only grows. -/
theorem ends_of_step (success : association.step runner input = some after) :
    (after.outstation = association.outstation ∨ ∃ environment message,
      association.outstation.step environment message = some after.outstation) ∧
        association.session.common.history <+: after.session.common.history := by
  cases input with
  | request environment =>
      simp only [Association.step] at success
      split at success
      · obtain rfl := Option.some.inj success
        exact ⟨.inl rfl, List.prefix_refl _⟩
      · obtain ⟨outstation, stepped, rfl⟩ := Option.map_eq_some_iff.mp success
        exact ⟨.inr ⟨_, _, stepped⟩, List.prefix_refl _⟩
  | response environment =>
      simp only [Association.step] at success
      split at success
      · obtain rfl := Option.some.inj success
        exact ⟨.inl rfl, List.prefix_refl _⟩
      · obtain rfl := Option.some.inj success
        exact ⟨.inl rfl, association.session.history_onReceive environment _⟩
  | requestSent environment =>
      obtain rfl := Option.some.inj success
      exact ⟨.inl rfl, association.session.history_onTxReady environment⟩
  | responseSent environment | apply environment updates =>
      obtain ⟨outstation, stepped, rfl⟩ := Option.map_eq_some_iff.mp success
      exact ⟨.inr ⟨_, _, stepped⟩, List.prefix_refl _⟩
  | setRestartIIN environment =>
      rw [Association.step] at success
      obtain ⟨outstation, stepped, rfl⟩ := Option.map_eq_some_iff.mp success
      exact ⟨.inr ⟨_, _, stepped⟩, List.prefix_refl _⟩

theorem reaches_of_step {start : OContext}
    (reached : OContext.machine.Reaches start association.outstation)
    (success : association.step runner input = some after) :
    OContext.machine.Reaches start after.outstation := by
  rcases (ends_of_step success).1 with same | ⟨environment, message, stepped⟩
  · rw [same]
    exact reached
  · exact .step reached trivial (OContext.machine_step stepped)

theorem Stage.step (stage : Stage config addresses id total start association)
    (regular : association.outstation.Regular config) (proceeds : association.Proceeds input)
    (grown : start <+: association.session.common.history)
    (success : association.step runner input = some after) :
    Stage config addresses id total start after := by
  cases stage with
  | arriving arriving => exact arriving.step regular proceeds success
  | returning returning => exact returning.step regular proceeds success
  | ending ending => exact ending.step grown success
  | done completes => exact .done (completes.mono (List.prefix_refl _) (ends_of_step success).2)

/-- A poll goes on, with something under way, or it is done with what its READ has selected. -/
def Polled (id : TaskId Runner) (total : List Measurement) (start : List (Event Runner))
    (association : Association Runner) : Prop :=
  CompletesWith id total start association.session.common.history ∨
    delivered association.session.common.history <+: total ∧
      association.session.context.activeTask = some id ∧
      (association.requests ≠ [] ∨ association.responses ≠ [] ∨
        association.session.context.isSending = true ∨
        association.outstation.isTransmitting = true)

omit [DecidableEq Runner] in
theorem Stage.polled (stage : Stage config addresses id total start association) :
    association.Polled id total start := by
  cases stage with
  | arriving arriving =>
      refine .inr ⟨⟨_, arriving.whole.symm⟩, arriving.waits.activeTask, .inr (.inl ?_)⟩
      rw [arriving.responses]
      exact List.cons_ne_nil _ _
  | returning returning =>
      refine .inr ⟨⟨_, returning.whole.symm⟩, returning.waits.activeTask, ?_⟩
      cases returning.confirming with
      | queued busy _ _ _ => exact .inr (.inr (.inl busy))
      | sent _ requests _ => exact .inl (by rw [requests]; exact List.cons_ne_nil _ _)
      | held _ _ busy _ => exact .inr (.inr (.inr busy))
  | ending ending =>
      refine .inr ⟨⟨_, ending.whole.symm⟩, ending.waits.activeTask, .inr (.inl ?_)⟩
      rw [ending.responses]
      exact List.cons_ne_nil _ _
  | done completes => exact .inl completes

/-- A poll whose READ has just been answered gets what the READ has selected, in order and only
once, as long as no timer expires, the response does not have too many fragments, and nothing that
is still to be sent is discarded. -/
theorem polled_of_reachesWhile {own : Addresses} {params : OutstationParams}
    {database : DatabaseBuffers} (never : database.NeverSelected) (indexed : database.Indexed)
    {context : OContext}
    (reached : OContext.machine.Reaches (OContext.initial own params config database) context)
    {arrival : Outstation.Input} {request : ParsedRequest}
    (about : context.requestOf arrival = some request)
    (isRead : request.header.function = .read) (solicited : request.header.control.uns = false)
    (new : context.isRepeat request = false)
    (state : context.state = .idle ∨ context.state = .solicitedConfirmWait ∧ arrival ≠ .txReady)
    {headers : List Header}
    (parsed : APDUParser.parse false ReadHandler.isAllowed request.objects = .ok headers)
    (encodable : ∀ event ∈ (context.selectedBy headers).eventBuffer.storage.selectedEvents,
      event.Encodable)
    (reportable : ∀ type, ∀ cell ∈ (context.selectedBy headers).database.pendingPoints type,
      cell.reportable = true)
    {session : Session Runner} (paired : Paired addresses context)
    (source : request.addresses.source = addresses.source)
    (waits : session.WaitsFor addresses id 0 ⟨request.header.control.seq⟩)
    (queue : session.context.confirmQueue = []) (environment : Outstation.Environment) :
    ∃ answered, context.step environment arrival = some answered ∧
      ∀ association, (machine runner).ReachesWhile Proceeds
          ((⟨session, context, [], []⟩ : Association Runner).withOutstation answered) association →
        association.Polled id (delivered session.common.history ++
          (context.selectedBy headers).toReport) session.common.history := by
  have regular := OContext.regular_of_reaches reached
  have held := OContext.heldBack_of_reaches reached
  have databases := OContext.database_of_reaches reached
  have valid : context.database.Valid := .of_reaches never databases
  have increasing : context.database.Indexed := .of_reaches indexed databases
  have reporting := OContext.reporting_selectedBy regular valid increasing encodable reportable
  obtain ⟨before, sent, deferred, stepped, sends, log, sameAddresses, sameParams, isOnline,
    reads⟩ := OContext.sends_read regular held valid increasing about isRead solicited new state
      parsed reporting environment
  refine ⟨_, stepped, fun association run => ?_⟩
  rw [source] at sends
  have begins := @withOutstation_of_sends _ _ ⟨session, context, [], []⟩ _ _ _ _ _ _ _ sends log
    deferred
  have first : Stage config addresses id (delivered session.common.history ++
      (context.selectedBy headers).toReport) session.common.history
      ((⟨session, context, [], []⟩ : Association Runner).withOutstation
        { sent with deferred }) := by
    rw [begins]
    refine Stage.of_sends sends rfl ⟨?_, ?_⟩ ?_ (held.seq_of_requestOf about) reads waits rfl queue
      rfl rfl rfl
    · rw [sameAddresses]
      exact paired.source
    · rw [sameAddresses, sameParams]
      exact paired.accepts
    · rw [isOnline]
      exact OContext.isOnline_of_requestOf about
  have answered : OContext.machine.Reaches (OContext.initial own params config database)
      { sent with deferred } := .step reached trivial (OContext.machine_step stepped)
  have both := @Machine.ReachesWhile.invariant _ _ _ _ _ _ _
    (fun association : Association Runner =>
      OContext.machine.Reaches (OContext.initial own params config database)
          association.outstation ∧
        session.common.history <+: association.session.common.history ∧
        Stage config addresses id (delivered session.common.history ++
          (context.selectedBy headers).toReport) session.common.history association) run
    ⟨answered, List.prefix_refl _, first⟩
    fun both proceeds success => by
      obtain ⟨next, moved, same⟩ := Option.map_eq_some_iff.mp success
      obtain ⟨rfl, _⟩ := Prod.mk.inj same
      obtain ⟨reached, grown, stage⟩ := both
      exact ⟨reaches_of_step reached moved, grown.trans (ends_of_step moved).2,
        stage.step (OContext.regular_of_reaches reached) proceeds grown moved⟩
  exact both.2.2.polled

/-! ## Two fragments -/

def twoEventInputs : List (Outstation.Environment × Outstation.Input) :=
  List.map (Outstation.Environment.atZero, ·) [.lowerLayerUp, .binaryEvent, .binaryEvent]

/-- An outstation with two events that do not fit into one fragment. -/
def twoEvents : OContext :=
  ((@OContext.machine .atZero).run (.onePoint { maxTxFragSize := 12 }) twoEventInputs).elim
    (.onePoint {}) Prod.fst

/-- A master that has sent a READ of the events of class 1. -/
def readsClass1 : Session Unit :=
  let channel := @Channel.after Unit _ .atZero
    (.initial (fun _ => ⟨1024, 1⟩) fun _ =>
      { disableUnsolOnStartup := false
        startupIntegrityClassMask := ⟨false, true, false, false⟩ })
    [(.atZero, .lowerLayerUp ()), (.atZero, .runPosted)]
  ⟨channel.master (), channel.common⟩

/-- The READ has been answered by the first of two fragments. -/
def answersClass1 : Association Unit :=
  (⟨readsClass1, twoEvents, [], []⟩ : Association Unit).withOutstation
    ((@OContext.step .atZero twoEvents .atZero (.fragment [0xC0, 1, 60, 2, 6])).getD twoEvents)

omit [FloatOps] in
theorem reaches_twoEvents :
    (@OContext.machine .atZero).Reaches (.onePoint { maxTxFragSize := 12 }) twoEvents := by
  have ran : ((@OContext.machine .atZero).run (.onePoint { maxTxFragSize := 12 })
      twoEventInputs).isSome = true := by decide +kernel
  obtain ⟨⟨last, outputs⟩, same⟩ := Option.isSome_iff_exists.mp ran
  have known : twoEvents = last := by
    rw [twoEvents, same]
    rfl
  rw [known]
  exact Machine.reaches_of_run same

omit [FloatOps] in
/-- Two events in two fragments, and the confirm of the first one has to wait at both ends. -/
theorem polled_of_reachesWhile_twoFragments :
    ∃ association : Association Unit,
      (@machine Unit _ .atZero ()).ReachesWhile (@Proceeds Unit .atZero) answersClass1
        association ∧
      association.Polled (.own () .startupIntegrity)
        [⟨.binary, ⟨true, 0x81, 0⟩, 0⟩, ⟨.binary, ⟨true, 0x81, 0⟩, 0⟩]
        readsClass1.common.history ∧
      delivered association.session.common.history =
        [⟨.binary, ⟨true, 0x81, 0⟩, 0⟩, ⟨.binary, ⟨true, 0x81, 0⟩, 0⟩] := by
  obtain ⟨association, run, checked⟩ :=
    @Machine.exists_reachesWhile_of_runWhile _ _ _ (@machine Unit _ .atZero ())
      (@Proceeds Unit .atZero) _ answersClass1
      (fun association => delivered association.session.common.history ==
        [⟨.binary, ⟨true, 0x81, 0⟩, 0⟩, ⟨.binary, ⟨true, 0x81, 0⟩, 0⟩])
      [.response .atZero, .requestSent .atZero, .request .atZero, .responseSent .atZero,
        .response .atZero]
      (by decide +kernel)
  have point (type : StaticType) : ∀ cell ∈ (twoEvents.selectedBy
      [.allObjects ⟨⟨.group60Var2, .event, 60, 2⟩, 6, 0⟩]).database.pendingPoints type,
      cell.reportable = true := by
    cases type <;> decide +kernel
  obtain ⟨answered, stepped, polls⟩ := @polled_of_reachesWhile Unit _ .atZero () _ ⟨1024, 1⟩
    (.own () .startupIntegrity) _ _ _ (OContext.neverSelected_onePoint { maxTxFragSize := 12 })
    (OContext.indexed_onePoint { maxTxFragSize := 12 }) _ reaches_twoEvents
    (.fragment [0xC0, 1, 60, 2, 6])
    ⟨⟨1024, 1⟩, ⟨⟨true, true, false, false, 0⟩, .read⟩, [60, 2, 6]⟩ (by decide +kernel) rfl rfl
    (by decide +kernel) (.inl (by decide +kernel))
    [.allObjects ⟨⟨.group60Var2, .event, 60, 2⟩, 6, 0⟩] rfl
    (by decide +kernel) point readsClass1 ⟨by decide +kernel, .inr (by decide +kernel)⟩ rfl
    ⟨by decide +kernel, by decide +kernel, by decide +kernel, by decide +kernel,
      by decide +kernel, by decide +kernel⟩ (by decide +kernel) .atZero
  have same : (@OContext.step .atZero twoEvents .atZero
      (.fragment [0xC0, 1, 60, 2, 6])).getD twoEvents = answered := by
    rw [stepped]
    rfl
  have total : delivered readsClass1.common.history ++ @OContext.toReport .atZero
      (twoEvents.selectedBy [.allObjects ⟨⟨.group60Var2, .event, 60, 2⟩, 6, 0⟩]) =
        [⟨.binary, ⟨true, 0x81, 0⟩, 0⟩, ⟨.binary, ⟨true, 0x81, 0⟩, 0⟩] := by decide +kernel
  rw [answersClass1, same] at run
  have polled := polls association run
  rw [total] at polled
  exact ⟨association, by rw [answersClass1, same]; exact run, polled, beq_iff_eq.mp checked⟩

end Association

end OpenDnp3
