import OpenDnp3.Master.MasterIntake
import OpenDnp3.Master.SelectBeforeOperate

/-!
# Responses to polls

The fragments whose measurements a poll delivers are those of one response to
its request, in order and without a gap.
-/

set_option autoImplicit false

namespace OpenDnp3.Master

open OpenDnp3.App OpenDnp3.Library

variable {Runner : Type}

/-! ## Exchanges -/

/-- The last request that a master has sent for a task, and the fragments that were taken in
since. -/
structure Exchange (Runner : Type) where
  request : Option (TaskId Runner × List UInt8) := none
  received : Option (APDUResponseHeader × List UInt8) := none
  fragments : List (APDUResponseHeader × List UInt8) := []

namespace Exchange

/-- The measurements of the fragment that was received are delivered. -/
def deliver (exchange : Exchange Runner) : Exchange Runner :=
  match exchange.received with
  | none => exchange
  | some fragment =>
      { exchange with
        received := none
        fragments :=
          exchange.fragments ++ if fragment.1.function = .response then [fragment] else [] }

variable [DecidableEq Runner]

def observe (runner : Runner) (exchange : Exchange Runner) : Event Runner → Exchange Runner
  | .beginTransmit sender (some id) apdu =>
      if sender = runner then { request := some (id, apdu) } else exchange
  | .received receiver header objects =>
      if receiver = runner then { exchange with received := some (header, objects) } else exchange
  | .measurements receiver _ => if receiver = runner then exchange.deliver else exchange
  | _ => exchange

def ofHistory (runner : Runner) (history : List (Event Runner)) : Exchange Runner :=
  history.foldl (observe runner) {}

theorem ofHistory_append (runner : Runner) (history events : List (Event Runner)) :
    ofHistory runner (history ++ events) =
      events.foldl (observe runner) (ofHistory runner history) :=
  List.foldl_append

end Exchange

/-- An event that an exchange of a master consists of. -/
def Event.Exchanges (runner : Runner) : Event Runner → Prop
  | .beginTransmit sender (some _) _ => sender = runner
  | .received receiver _ _ | .measurements receiver _ => receiver = runner
  | _ => False

theorem Event.Ends.not_exchanges {event : Event Runner} (ends : event.Ends) (runner : Runner) :
    ¬event.Exchanges runner := by
  cases event with
  | beginTransmit | received | measurements => cases ends
  | _ => exact not_false

theorem Exchange.observe_of_not_exchanges [DecidableEq Runner] {runner : Runner}
    {event : Event Runner} (other : ¬event.Exchanges runner) (exchange : Exchange Runner) :
    exchange.observe runner event = exchange := by
  cases event with
  | beginTransmit sender task apdu =>
      cases task with
      | none => rfl
      | some id => exact if_neg other
  | received | measurements => exact if_neg other
  | _ => rfl

theorem Exchange.foldl_observe [DecidableEq Runner] {runner : Runner}
    {events : List (Event Runner)} (other : ∀ event ∈ events, ¬event.Exchanges runner)
    (exchange : Exchange Runner) : events.foldl (observe runner) exchange = exchange := by
  induction events generalizing exchange with
  | nil => rfl
  | cons event events ih =>
      obtain ⟨first, others⟩ := List.forall_mem_cons.mp other
      rw [List.foldl_cons, observe_of_not_exchanges first]
      exact ih others exchange

/-- The number of a request. -/
def requestSeq (apdu : List UInt8) : Nat := (AppControlField.ofByte (apdu.headD 0)).seq.toNat

/-! ## Fragments in order -/

variable [FloatOps]

/-- The fragments of a response so far: the first one has the number of the request, each one
behind it the next number, and the one before it is not final. -/
inductive Contiguous (start : Nat) : List (APDUResponseHeader × List UInt8) → Prop
  | nil : Contiguous start []
  | concat {fragments : List (APDUResponseHeader × List UInt8)} {header : APDUResponseHeader}
      {objects : List UInt8} {calls : List SOECall} (contiguous : Contiguous start fragments)
      (unfinished : ∀ fragment ∈ fragments, fragment.1.control.fin = false)
      (fir : header.control.fir = fragments.isEmpty)
      (seq : SequenceNum.Counts start fragments.length (⟨header.control.seq⟩ : AppSeqNum))
      (parsed : MeasurementHandler.processMeasurements objects = .ok calls) :
      Contiguous start (fragments ++ [(header, objects)])

variable [DecidableEq Runner]

/-- Measurements are delivered for a fragment that was received: an unsolicited one, or the next
one of the response to the last request. -/
def DeliversInOrder (runner : Runner) (before : List (Event Runner)) : Event Runner → Prop
  | .measurements receiver calls =>
      receiver = runner → calls ≠ [] →
        ∃ header objects, (Exchange.ofHistory runner before).received = some (header, objects) ∧
          (header.function = .unsolicitedResponse ∨
            header.function = .response ∧
              MeasurementHandler.processMeasurements objects = .ok calls ∧
              ∃ id apdu, (Exchange.ofHistory runner before).request = some (id, apdu) ∧
                Contiguous (requestSeq apdu)
                  ((Exchange.ofHistory runner before).fragments ++ [(header, objects)]))
  | _ => True

theorem deliversInOrder_of_not_exchanges {runner : Runner} {event : Event Runner}
    (other : ¬event.Exchanges runner) (before : List (Event Runner)) :
    DeliversInOrder runner before event := by
  cases event with
  | measurements receiver calls => exact fun own => absurd own other
  | _ => trivial

/-! ## Polls -/

/-- The number of fragments that a poll has taken in. -/
def MasterTask.rxCount? : MasterTask → Option RxCount
  | .userPoll _ _ rxCount | .startupIntegrity _ rxCount | .eventScan _ rxCount => some rxCount
  | _ => none

namespace MasterTask

variable {task next : MasterTask} {rxCount : RxCount}

theorem rxCount_of_expectsMeasurements (expects : task.expectsMeasurements = true) :
    ∃ rxCount, task.rxCount? = some rxCount ∧ ∀ header objects,
      task.refuses header objects = PollTaskBase.refuses rxCount header objects := by
  cases task with
  | userPoll | startupIntegrity | eventScan => exact ⟨_, rfl, fun _ _ => rfl⟩
  | _ => cases expects

omit [FloatOps] in
theorem rxCount_of_initializeTask (counts : task.initializeTask.rxCount? = some rxCount) :
    rxCount = 0 := by
  cases task with
  | userPoll | startupIntegrity | eventScan => exact (Option.some.inj counts).symm
  | _ => cases counts

omit [FloatOps] in
/-- The request of a poll has the number that it is given, and the poll has taken in nothing. -/
theorem rxCount_of_buildRequest {application : IMasterApplication} {request apdu : APDURequest}
    {seq : UInt8} {success : Bool}
    (built : task.buildRequest application request seq = (next, apdu, success))
    (counts : next.rxCount? = some rxCount) :
    (∃ before, task.rxCount? = some before ∧ (rxCount = before ∨ rxCount = 0)) ∧
      apdu.control = (AppControlField.request seq).toByte := by
  cases task with
  | userPoll builder recurring before =>
      obtain ⟨rfl, same⟩ := Prod.mk.inj built
      obtain ⟨rfl, rfl⟩ := Prod.mk.inj same
      exact ⟨⟨before, rfl, .inr (Option.some.inj counts).symm⟩, rfl⟩
  | startupIntegrity classes before | eventScan classes before =>
      obtain ⟨rfl, same⟩ := Prod.mk.inj built
      obtain ⟨rfl, rfl⟩ := Prod.mk.inj same
      exact ⟨⟨before, rfl, .inl (Option.some.inj counts).symm⟩, rfl⟩
  | _ =>
      obtain ⟨rfl, _⟩ := Prod.mk.inj built
      cases counts

/-- Only polls deliver measurements. -/
theorem processResponse_of_rxCount_none {application : IMasterApplication}
    {header : APDUResponseHeader} {objects : List UInt8} {calls : List SOECall}
    {result : ResponseResult}
    (response : task.processResponse application header objects = (next, calls, result))
    (counts : task.rxCount? = none) : next.rxCount? = none ∧ calls = [] := by
  cases task with
  | userPoll | startupIntegrity | eventScan => cases counts
  | _ =>
      obtain ⟨rfl, same⟩ := Prod.mk.inj response
      exact ⟨rfl, (Prod.mk.inj same).1.symm⟩

/-- What a poll makes of a fragment. -/
theorem processResponse_of_rxCount {application : IMasterApplication}
    {header : APDUResponseHeader} {objects : List UInt8} {calls : List SOECall}
    {result : ResponseResult}
    (response : task.processResponse application header objects = (next, calls, result))
    (counts : task.rxCount? = some rxCount) :
    ∃ count, next.rxCount? = some count ∧
      PollTaskBase.processResponse rxCount header objects = (count, calls, result) := by
  cases task with
  | userPoll | startupIntegrity | eventScan =>
      obtain rfl := Option.some.inj counts
      obtain ⟨rfl, same⟩ := Prod.mk.inj response
      obtain ⟨rfl, rfl⟩ := Prod.mk.inj same
      exact ⟨_, rfl, rfl⟩
  | _ => cases counts

end MasterTask

/-- A poll takes in the first fragment, or a later one, or it refuses a fragment. -/
theorem PollTaskBase.processResponse_cases {rxCount count : RxCount} {header : APDUResponseHeader}
    {objects : List UInt8} {calls : List SOECall} {result : ResponseResult}
    (response : processResponse rxCount header objects = (count, calls, result)) :
    (header.control.fir = decide (rxCount = 0) ∧ count = rxCount + 1 ∧
        MeasurementHandler.processMeasurements objects = .ok calls ∧
        result = if header.control.fin then .okFinal else .okContinue) ∨
      (calls = [] ∧ result = .errorBadResponse) := by
  have accepts (first : header.control.fir = decide (rxCount = 0))
      (accepted : processMeasurements rxCount header objects = (count, calls, result)) :
      (header.control.fir = decide (rxCount = 0) ∧ count = rxCount + 1 ∧
        MeasurementHandler.processMeasurements objects = .ok calls ∧
        result = if header.control.fin then .okFinal else .okContinue) ∨
      (calls = [] ∧ result = .errorBadResponse) := by
    rw [processMeasurements] at accepted
    cases parsed : MeasurementHandler.processMeasurements objects with
    | ok delivered =>
        rw [parsed] at accepted
        obtain ⟨rfl, same⟩ := Prod.mk.inj accepted
        obtain ⟨rfl, rfl⟩ := Prod.mk.inj same
        exact .inl ⟨first, rfl, rfl, rfl⟩
    | error problem =>
        rw [parsed] at accepted
        obtain ⟨_, same⟩ := Prod.mk.inj accepted
        obtain ⟨rfl, rfl⟩ := Prod.mk.inj same
        exact .inr ⟨rfl, rfl⟩
  rw [processResponse] at response
  have positive : rxCount > 0 ↔ rxCount ≠ 0 := UInt32.pos_iff_ne_zero
  split_ifs at response with fir some some
  · obtain ⟨_, same⟩ := Prod.mk.inj response
    obtain ⟨rfl, rfl⟩ := Prod.mk.inj same
    exact .inr ⟨rfl, rfl⟩
  · refine accepts ?_ response
    rw [fir, decide_eq_true (not_not.mp (mt positive.mpr some))]
  · refine accepts ?_ response
    rw [decide_eq_false (positive.mp some)]
    exact Bool.not_eq_true _ ▸ fir
  · obtain ⟨_, same⟩ := Prod.mk.inj response
    obtain ⟨rfl, rfl⟩ := Prod.mk.inj same
    exact .inr ⟨rfl, rfl⟩

omit [DecidableEq Runner] in
theorem PollTaskBase.refuses_eq_false {rxCount : RxCount} {header : APDUResponseHeader}
    {objects : List UInt8} {calls : List SOECall} (fir : header.control.fir = decide (rxCount = 0))
    (parsed : MeasurementHandler.processMeasurements objects = .ok calls) :
    refuses rxCount header objects = false := by
  have positive : rxCount > 0 ↔ rxCount ≠ 0 := UInt32.pos_iff_ne_zero
  rw [refuses, parsed, fir, decide_eq_decide.mpr positive, decide_not]
  cases decide (rxCount = 0) <;> rfl

omit [DecidableEq Runner] [FloatOps] in
theorem PollTaskBase.toNat_add_one {rxCount : RxCount} (fits : rxCount + 1 ≠ 0) :
    (rxCount + 1).toNat = rxCount.toNat + 1 := by
  have below := rxCount.toNat_lt
  rw [UInt32.toNat_add]
  refine Nat.mod_eq_of_lt (lt_of_le_of_ne (Nat.succ_le_of_lt below) fun overflow => fits ?_)
  rw [← UInt32.toNat_inj, UInt32.toNat_add]
  exact (congrArg (· % 2 ^ 32) overflow).trans (Nat.mod_self _)

/-- A poll that refuses a fragment delivers nothing. -/
theorem MasterTask.calls_of_refuses {task : MasterTask} {application : IMasterApplication}
    {header : APDUResponseHeader} {objects : List UInt8}
    (expects : task.expectsMeasurements = true) (refused : task.refuses header objects = true) :
    (task.processResponse application header objects).2.1 = [] := by
  obtain ⟨rxCount, counts, _⟩ := rxCount_of_expectsMeasurements expects
  have result := (task.processResponse_refuses application header objects).mpr refused
  rcases response : task.processResponse application header objects with ⟨next, calls, other⟩
  rw [response] at result
  obtain ⟨count, _, response⟩ := processResponse_of_rxCount response counts
  rcases PollTaskBase.processResponse_cases response with ⟨_, _, _, rfl⟩ | ⟨empty, _⟩
  · dsimp only at result
    split at result <;> cases result
  · exact empty

/-- A poll that counts its last fragment is done with it, or does not count it. -/
def PollTaskBase.CountsFragment (rxCount : RxCount) (header : APDUResponseHeader)
    (objects : List UInt8) : Prop :=
  rxCount + 1 = 0 → header.control.fin = true ∨ refuses rxCount header objects = true

def Permits.counting : Permits Runner :=
  ⟨fun _ => True, fun body header objects =>
    ∀ rxCount, body.rxCount? = some rxCount → PollTaskBase.CountsFragment rxCount header objects⟩

/-! ## Moves of a master -/

/-- The fragments of an exchange are those that a poll has counted, and the next one is
expected. -/
structure Exchange.Continues (exchange : Exchange Runner) (id : TaskId Runner)
    (rxCount : RxCount) (solSeq : AppSeqNum) : Prop where
  request : ∃ apdu, exchange.request = some (id, apdu) ∧
    Contiguous (requestSeq apdu) exchange.fragments ∧
    solSeq.Counts (requestSeq apdu) exchange.fragments.length
  unfinished : ∀ fragment ∈ exchange.fragments, fragment.1.control.fin = false
  count : exchange.fragments.length = rxCount.toNat

/-- What is known of the poll that a master runs. -/
def Polls (runner : Runner) (party : Party Runner) (ledger : Ledger Runner) : Prop :=
  ∀ id rxCount, party.activeTask = some id → (ledger.body id).rxCount? = some rxCount →
    (party.tstate = .waitForResponse →
      (Exchange.ofHistory runner ledger.history).Continues id rxCount party.solSeq) ∧
    (party.tstate ≠ .waitForResponse → rxCount = 0)

/-- The measurements of a master are those of responses in order. -/
structure World.Polled (runner : Runner) (world : World Runner) : Prop where
  lawful : Lawful (DeliversInOrder runner) world.ledger.history
  below : (world.party runner).solSeq.seq < 16
  polls : Polls runner (world.party runner) world.ledger

section moves

variable {permits : Permits Runner} {runner : Runner} {party after : Party Runner}
  {ledger next : Ledger Runner}

omit [DecidableEq Runner] [FloatOps] in
theorem AppSeqNum.next_below (solSeq : AppSeqNum) : solSeq.next.seq < 16 := by
  rw [SequenceNum.next, UInt8.lt_iff_toNat_lt, UInt8.toNat_ofNat']
  exact (Nat.mod_le _ _).trans_lt (Nat.mod_lt _ (by decide))

omit [FloatOps] in
theorem Ledger.body_create {id : TaskId Runner} (used : ¬id.Unused ledger.created)
    (body : MasterTask) : (ledger.create runner body).body id = ledger.body id := by
  refine Function.update_of_ne ?_ ..
  rintro rfl
  exact used ⟨runner, ledger.created, rfl, le_rfl⟩

/-- A move changes only the task that its master runs, or one that is not known yet. -/
theorem Move.body_eq (move : Move permits runner party ledger after next) {id : TaskId Runner}
    (used : ¬id.Unused ledger.created) (before : party.activeTask ≠ some id)
    (now : after.activeTask ≠ some id) : next.body id = ledger.body id := by
  have changed {other : TaskId Runner} (body : MasterTask) (active : party.activeTask = some other) :
      Function.update ledger.body other body id = ledger.body id := by
    refine Function.update_of_ne ?_ ..
    rintro rfl
    exact before active
  cases move with
  | note | opened | refused | ignored | reported | unsolicited | confirmed | ready | expired => rfl
  | added other =>
      obtain ⟨tasks, added⟩ := ledger.add_eq other runner
      rw [added]
  | scheduled params request =>
      obtain ⟨tasks, added⟩ := Ledger.add_eq (ledger.create runner (request.body params))
        (.user runner ledger.created) runner
      rw [added]
      exact Ledger.body_create used _
  | declined | bound => exact Ledger.body_create used _
  | started other =>
      refine Function.update_of_ne ?_ ..
      rintro rfl
      exact now rfl
  | requested other application buffer apdu body tstate active => exact changed body active
  | unformatted other application buffer apdu body tstate active =>
      obtain ⟨current, tasks, released⟩ := Ledger.release_eq
        ((ledger.setBody other body).complete other .failureMessageFormatError) runner
      rw [released]
      exact changed body active
  | timedOut other =>
      obtain ⟨current, tasks, released⟩ := Ledger.release_eq
        (ledger.complete other .failureResponseTimeout) runner
      rw [released]
      rfl
  | continued answers | repeated answers =>
      rw [Ledger.body_confirming]
      exact changed _ answers.activeTask
  | @finished other header objects body calls result completion answers =>
      obtain ⟨current, tasks, released⟩ := Ledger.release_eq (Ledger.confirming (Ledger.complete
        (ledger.answered runner other body header objects calls) other completion) runner
          header) runner
      rw [released]
      refine (congrFun (Ledger.body_confirming _ runner header) id).trans ?_
      exact changed body answers.activeTask

omit [DecidableEq Runner] [FloatOps] in
theorem Event.not_exchanges_confirming (runner : Runner) (header : APDUResponseHeader)
    (other : Runner) :
    ∀ event ∈ if header.control.con then
        [Event.queueConfirm runner (.solicitedConfirm header.control.seq)] else [],
      ¬event.Exchanges other := by
  split
  · exact List.forall_mem_singleton.mpr not_false
  · simp

omit [DecidableEq Runner] [FloatOps] in
theorem Ledger.confirming_history (ledger : Ledger Runner) (header : APDUResponseHeader) :
    (ledger.confirming runner header).history =
      ledger.history ++
        if header.control.con then
          [.queueConfirm runner (.solicitedConfirm header.control.seq)]
        else [] := by
  rw [Ledger.confirming]
  split
  · rfl
  · rw [List.append_nil]

/-- The exchanges of other masters go on unchanged. -/
theorem Move.exchanges_foreign (move : Move permits runner party ledger after next)
    {other : Runner} (foreign : runner ≠ other) :
    ∃ events, next.history = ledger.history ++ events ∧
      ∀ event ∈ events, ¬event.Exchanges other := by
  have nothing : ledger.history = ledger.history ++ [] := (List.append_nil _).symm
  have own : ∀ {events : List (Event Runner)} {header objects} {calls : List SOECall},
      (∀ event ∈ events, ¬event.Exchanges other) →
        ∀ event ∈ .received runner header objects :: .measurements runner calls :: events,
          ¬event.Exchanges other := fun quiet =>
    List.forall_mem_cons.mpr ⟨foreign, List.forall_mem_cons.mpr ⟨foreign, quiet⟩⟩
  cases move with
  | note event silent =>
      refine ⟨[event], rfl, List.forall_mem_singleton.mpr ?_⟩
      cases event with
      | onStart | onReceiveIIN => exact not_false
      | _ => cases silent
  | opened | refused | declined | confirmed | ready =>
      exact ⟨[_], rfl, List.forall_mem_singleton.mpr not_false⟩
  | requested | ignored => exact ⟨[_], rfl, List.forall_mem_singleton.mpr foreign⟩
  | bound | expired => exact ⟨[], nothing, by simp⟩
  | added | scheduled =>
      rw [Ledger.history_add]
      exact ⟨[], nothing, by simp⟩
  | started id =>
      exact ⟨[.run runner id true, .onStart id], List.append_assoc _ _ _,
        by simp [Event.Exchanges]⟩
  | unformatted | timedOut =>
      rw [Ledger.history_release]
      exact ⟨[_], rfl, List.forall_mem_singleton.mpr not_false⟩
  | reported header objects calls =>
      exact ⟨[.received runner header objects, .measurements runner calls],
        List.append_assoc _ _ _, own (by simp)⟩
  | unsolicited header objects calls =>
      exact ⟨[.received runner header objects, .measurements runner calls,
          .queueConfirm runner (.unsolicitedConfirm header.control.seq)],
        by simp [Ledger.log], own (List.forall_mem_singleton.mpr not_false)⟩
  | @continued id header objects body calls | @repeated id header objects body calls =>
      rw [Ledger.confirming_history, Ledger.events_answered, List.append_assoc]
      exact ⟨_, rfl, own (Event.not_exchanges_confirming runner header other)⟩
  | @finished id header objects body calls result completion =>
      rw [Ledger.history_release, Ledger.confirming_history, Ledger.complete, Ledger.log,
        Ledger.events_answered, List.append_assoc, List.append_assoc]
      exact ⟨_, rfl, own (List.forall_mem_cons.mpr ⟨not_false,
        Event.not_exchanges_confirming runner header other⟩)⟩

end moves

/-! ## Steps of a world -/

namespace World.Polled

variable {runner : Runner} {world : World Runner}

/-- A master goes on with its poll, or gives it up. -/
theorem kept (polled : world.Polled runner) {party : Runner → Party Runner}
    {next : Ledger Runner} {events : List (Event Runner)}
    (grown : next.history = world.ledger.history ++ events)
    (quiet : ∀ event ∈ events, ¬event.Exchanges runner)
    (below : (party runner).solSeq.seq < 16)
    (active : ∀ id, (party runner).activeTask = some id →
      (world.party runner).activeTask = some id ∧
        (party runner).tstate = (world.party runner).tstate ∧
        (party runner).solSeq = (world.party runner).solSeq ∧
        next.body id = world.ledger.body id) :
    World.Polled runner ⟨party, next⟩ := by
  have same : Exchange.ofHistory runner next.history =
      Exchange.ofHistory runner world.ledger.history := by
    rw [grown, Exchange.ofHistory_append]
    exact Exchange.foldl_observe quiet _
  refine ⟨?_, below, fun id rxCount busy counts => ?_⟩
  · change Lawful _ next.history
    rw [grown]
    exact polled.lawful.append fun event member before =>
      deliversInOrder_of_not_exchanges (quiet event member) before
  · obtain ⟨busy, tstate, solSeq, body⟩ := active id busy
    change (next.body id).rxCount? = some rxCount at counts
    rw [body] at counts
    change ((party runner).tstate = .waitForResponse →
      (Exchange.ofHistory runner next.history).Continues id rxCount (party runner).solSeq) ∧ _
    rw [tstate, solSeq, same]
    exact polled.polls id rxCount busy counts

/-- What another master does. -/
theorem foreign {permits : Permits Runner} {other : Runner} {after : Party Runner}
    {next : Ledger Runner} (polled : world.Polled runner) (booked : world.Booked)
    (different : other ≠ runner)
    (move : Move permits other (world.party other) world.ledger after next) :
    World.Polled runner ⟨Function.update world.party other after, next⟩ := by
  obtain ⟨events, grown, quiet⟩ := move.exchanges_foreign different
  have party : Function.update world.party other after runner = world.party runner :=
    Function.update_of_ne different.symm ..
  have afterwards := booked.step (.act move)
  refine polled.kept grown quiet (party ▸ polled.below) fun id busy => ?_
  rw [party] at busy ⊢
  refine ⟨busy, rfl, rfl, move.body_eq (booked.registered.active runner id busy) ?_ ?_⟩
  · exact fun before => different (booked.exclusive.scheduled.single before busy)
  · intro now
    have there : (Function.update world.party other after other).activeTask = some id :=
      (congrArg Party.activeTask (Function.update_self other after world.party)).trans now
    have here : (Function.update world.party other after runner).activeTask = some id :=
      (congrArg Party.activeTask party).trans busy
    exact different (afterwards.exclusive.scheduled.single there here)

/-- The next fragment of a response is taken in. -/
theorem contiguous_concat (polled : world.Polled runner) {id : TaskId Runner}
    {header : APDUResponseHeader} {objects : List UInt8} {body : MasterTask}
    {calls : List SOECall} {result : ResponseResult} {permits : Permits Runner}
    (answers : Answers permits (world.party runner) world.ledger id header objects body calls
      result) {rxCount : RxCount} (counts : (world.ledger.body id).rxCount? = some rxCount)
    (fir : header.control.fir = decide (rxCount = 0))
    (parsed : MeasurementHandler.processMeasurements objects = .ok calls) :
    ∃ apdu, (Exchange.ofHistory runner world.ledger.history).request = some (id, apdu) ∧
      Contiguous (requestSeq apdu)
        ((Exchange.ofHistory runner world.ledger.history).fragments ++ [(header, objects)]) := by
  obtain ⟨⟨apdu, request, contiguous, expected⟩, unfinished, count⟩ :=
    (polled.polls id rxCount answers.activeTask counts).1 answers.tstate
  refine ⟨apdu, request, contiguous.concat unfinished ?_ ?_ parsed⟩
  · rw [fir, Bool.eq_iff_iff, decide_eq_true_iff, List.isEmpty_iff_length_eq_zero, count]
    exact UInt32.toNat_inj.symm
  · rw [SequenceNum.Counts, answers.seq]
    exact expected

/-- Whatever a task makes of a response, its measurements are those of a fragment in order. -/
theorem lawful_answered (polled : world.Polled runner) {id : TaskId Runner}
    {header : APDUResponseHeader} {objects : List UInt8} {body : MasterTask}
    {calls : List SOECall} {result : ResponseResult} {permits : Permits Runner}
    (answers : Answers permits (world.party runner) world.ledger id header objects body calls
      result) :
    Lawful (DeliversInOrder runner)
      (world.ledger.answered runner id body header objects calls).history := by
  obtain ⟨application, response⟩ := answers.response
  have received : Lawful (DeliversInOrder runner)
      (world.ledger.history ++ [.received runner header objects]) := polled.lawful.concat trivial
  refine received.concat fun _ delivered => ?_
  have before : Exchange.ofHistory runner
      (world.ledger.history ++ [.received runner header objects]) =
        { Exchange.ofHistory runner world.ledger.history with
          received := some (header, objects) } := by
    rw [Exchange.ofHistory_append]
    exact if_pos rfl
  change ∃ header objects, (Exchange.ofHistory runner (world.ledger.history ++ _)).received = _ ∧ _
  rw [before]
  refine ⟨header, objects, rfl, .inr ⟨answers.function, ?_⟩⟩
  cases counts : (world.ledger.body id).rxCount? with
  | none => exact absurd (MasterTask.processResponse_of_rxCount_none response counts).2 delivered
  | some rxCount =>
      obtain ⟨count, _, response⟩ := MasterTask.processResponse_of_rxCount response counts
      rcases PollTaskBase.processResponse_cases response with ⟨fir, _, parsed, _⟩ | ⟨empty, _⟩
      · obtain ⟨apdu, request, contiguous⟩ := polled.contiguous_concat answers counts fir parsed
        exact ⟨parsed, id, apdu, request, contiguous⟩
      · exact absurd empty delivered

omit [FloatOps] in
theorem ofHistory_answered (id : TaskId Runner) {header : APDUResponseHeader}
    (objects : List UInt8) (body : MasterTask) (calls : List SOECall)
    (function : header.function = .response) :
    Exchange.ofHistory runner
        (world.ledger.answered runner id body header objects calls).history =
      { Exchange.ofHistory runner world.ledger.history with
        received := none
        fragments :=
          (Exchange.ofHistory runner world.ledger.history).fragments ++ [(header, objects)] } := by
  rw [Ledger.events_answered, Exchange.ofHistory_append, List.foldl_cons, List.foldl_cons,
    List.foldl_nil, Exchange.observe, if_pos rfl, Exchange.observe, if_pos rfl, Exchange.deliver]
  simp only [function, if_true]

/-- A poll that goes on has counted the fragment, and does not send its request again. -/
theorem continues_answered (polled : world.Polled runner) {id : TaskId Runner}
    {header : APDUResponseHeader} {objects : List UInt8} {body : MasterTask}
    {calls : List SOECall} {result : ResponseResult}
    (answers : Answers .counting (world.party runner) world.ledger id header objects body calls
      result) {count : RxCount} (counts : body.rxCount? = some count) :
    result ≠ .okRepeat ∧
      (result = .okContinue →
        (Exchange.ofHistory runner
          (world.ledger.answered runner id body header objects calls).history).Continues id count
            (world.party runner).solSeq.next) := by
  obtain ⟨application, response⟩ := answers.response
  cases before : (world.ledger.body id).rxCount? with
  | none =>
      rw [(MasterTask.processResponse_of_rxCount_none response before).1] at counts
      cases counts
  | some rxCount =>
      obtain ⟨_, same, response⟩ := MasterTask.processResponse_of_rxCount response before
      obtain rfl := Option.some.inj (same.symm.trans counts)
      rcases PollTaskBase.processResponse_cases response with
        ⟨fir, rfl, parsed, rfl⟩ | ⟨_, rfl⟩
      · refine ⟨by split <;> nofun, fun goesOn => ?_⟩
        have unfinal : header.control.fin = false := by
          by_contra final
          rw [if_pos (Bool.not_eq_false _ ▸ final)] at goesOn
          cases goesOn
        obtain ⟨⟨apdu, request, _, expected⟩, unfinished, count⟩ :=
          (polled.polls id rxCount answers.activeTask before).1 answers.tstate
        obtain ⟨again, same, contiguous⟩ := polled.contiguous_concat answers before fir parsed
        obtain ⟨_, rfl⟩ := Prod.mk.inj (Option.some.inj (same.symm.trans request))
        have fits : rxCount + 1 ≠ 0 := by
          intro overflow
          rcases answers.permitted rxCount before overflow with final | refused
          · rw [unfinal] at final
            cases final
          · rw [PollTaskBase.refuses_eq_false fir parsed] at refused
            cases refused
        rw [ofHistory_answered id objects body calls answers.function]
        refine ⟨⟨again, same, contiguous, ?_⟩, ?_, ?_⟩
        · dsimp only
          rw [List.length_append]
          exact expected.next (by decide) (by decide)
        · exact List.forall_mem_append.mpr ⟨unfinished, List.forall_mem_singleton.mpr unfinal⟩
        · dsimp only
          rw [List.length_append, count, PollTaskBase.toNat_add_one fits]
          rfl
      · exact ⟨nofun, nofun⟩

theorem of_own {after : Party Runner} {next : Ledger Runner}
    (lawful : Lawful (DeliversInOrder runner) next.history) (below : after.solSeq.seq < 16)
    (polls : Polls runner after next) :
    World.Polled runner ⟨Function.update world.party runner after, next⟩ := by
  refine ⟨lawful, ?_, ?_⟩
  · dsimp only
    rwa [Function.update_self]
  · dsimp only
    rwa [Function.update_self]

/-- A master that runs no task. -/
theorem of_inactive {after : Party Runner} {next : Ledger Runner}
    (lawful : Lawful (DeliversInOrder runner) next.history) (below : after.solSeq.seq < 16)
    (inactive : after.activeTask = none) :
    World.Polled runner ⟨Function.update world.party runner after, next⟩ := by
  refine of_own lawful below fun id rxCount busy => ?_
  rw [inactive] at busy
  cases busy

/-- A master goes on with its poll, and what it takes in is not part of the response. -/
theorem aside (polled : world.Polled runner) {party : Party Runner} {next : Ledger Runner}
    (lawful : Lawful (DeliversInOrder runner) next.history)
    (request : (Exchange.ofHistory runner next.history).request =
      (Exchange.ofHistory runner world.ledger.history).request)
    (fragments : (Exchange.ofHistory runner next.history).fragments =
      (Exchange.ofHistory runner world.ledger.history).fragments)
    (body : next.body = world.ledger.body)
    (activeTask : party.activeTask = (world.party runner).activeTask)
    (tstate : party.tstate = (world.party runner).tstate)
    (solSeq : party.solSeq = (world.party runner).solSeq) :
    World.Polled runner ⟨Function.update world.party runner party, next⟩ := by
  refine of_own lawful (solSeq ▸ polled.below) fun id rxCount busy counts => ?_
  rw [activeTask] at busy
  rw [body] at counts
  obtain ⟨waiting, other⟩ := polled.polls id rxCount busy counts
  rw [tstate, solSeq]
  refine ⟨fun now => ?_, other⟩
  obtain ⟨known, unfinished, count⟩ := waiting now
  refine ⟨?_, ?_, ?_⟩
  · rw [request, fragments]
    exact known
  · rw [fragments]
    exact unfinished
  · rw [fragments]
    exact count

/-- The measurements of an unsolicited response. -/
theorem unsolicited (polled : world.Polled runner) {header : APDUResponseHeader}
    (objects : List UInt8) (calls : List SOECall) {events : List (Event Runner)}
    (function : header.function = .unsolicitedResponse)
    (quiet : ∀ event ∈ events, ¬event.Exchanges runner) {party : Party Runner}
    (activeTask : party.activeTask = (world.party runner).activeTask)
    (tstate : party.tstate = (world.party runner).tstate)
    (solSeq : party.solSeq = (world.party runner).solSeq) {next : Ledger Runner}
    (grown : next.history = world.ledger.history ++
      .received runner header objects :: .measurements runner calls :: events)
    (body : next.body = world.ledger.body) :
    World.Polled runner ⟨Function.update world.party runner party, next⟩ := by
  have split : next.history = world.ledger.history ++ [.received runner header objects] ++
      [.measurements runner calls] ++ events := by
    rw [grown, List.append_assoc, List.append_assoc]
    rfl
  have received : Lawful (DeliversInOrder runner)
      (world.ledger.history ++ [.received runner header objects]) := polled.lawful.concat trivial
  have before : Exchange.ofHistory runner
      (world.ledger.history ++ [.received runner header objects]) =
        { Exchange.ofHistory runner world.ledger.history with
          received := some (header, objects) } := by
    rw [Exchange.ofHistory_append]
    exact if_pos rfl
  have delivered : Exchange.ofHistory runner (world.ledger.history ++
      [.received runner header objects] ++ [.measurements runner calls]) =
        { Exchange.ofHistory runner world.ledger.history with received := none } := by
    rw [Exchange.ofHistory_append, before, List.foldl_cons, List.foldl_nil, Exchange.observe,
      if_pos rfl, Exchange.deliver]
    simp [function]
  have measured : Lawful (DeliversInOrder runner) (world.ledger.history ++
      [.received runner header objects] ++ [.measurements runner calls]) := by
    refine received.concat fun _ _ => ?_
    rw [before]
    exact ⟨header, objects, rfl, .inl function⟩
  have last : Exchange.ofHistory runner next.history =
      { Exchange.ofHistory runner world.ledger.history with received := none } := by
    rw [split, Exchange.ofHistory_append, delivered]
    exact Exchange.foldl_observe quiet _
  refine polled.aside ?_ (by rw [last]) (by rw [last]) body activeTask tstate solSeq
  rw [split]
  exact measured.append fun event member before =>
    deliversInOrder_of_not_exchanges (quiet event member) before

/-- A poll sends its request. -/
theorem requested (polled : world.Polled runner) {id : TaskId Runner}
    {application : IMasterApplication} {buffer : List UInt8} {apdu : APDURequest}
    {body : MasterTask} (tstate : (world.party runner).tstate = .taskReady)
    (active : (world.party runner).activeTask = some id)
    (built : (world.ledger.body id).buildRequest application (.ofBuffer buffer)
      (world.party runner).solSeq.seq = (body, apdu, true)) :
    World.Polled runner
      ⟨Function.update world.party runner
        { world.party runner with
          responseTimer := true, isSending := true, tstate := .waitForResponse },
        (world.ledger.setBody id body).log (.beginTransmit runner (some id) apdu.toRSlice)⟩ := by
  have history : Exchange.ofHistory runner
      (world.ledger.history ++ [.beginTransmit runner (some id) apdu.toRSlice]) =
        { request := some (id, apdu.toRSlice) } := by
    rw [Exchange.ofHistory_append]
    exact if_pos rfl
  refine of_own (polled.lawful.concat trivial) polled.below fun other rxCount busy counts => ?_
  obtain rfl := Option.some.inj (active.symm.trans busy)
  refine ⟨fun _ => ?_, fun idle => absurd rfl idle⟩
  have counts : (Function.update world.ledger.body id body id).rxCount? = some rxCount := counts
  rw [Function.update_self] at counts
  obtain ⟨⟨before, known, next⟩, control⟩ := MasterTask.rxCount_of_buildRequest built counts
  have none : before = 0 := (polled.polls id before active known).2 (by rw [tstate]; decide)
  have zero : rxCount = 0 := by
    rcases next with rfl | rfl
    · exact none
    · rfl
  have number : requestSeq apdu.toRSlice = (world.party runner).solSeq.seq.toNat := by
    rw [requestSeq, APDURequest.toRSlice, List.headD_cons, control,
      AppControlField.ofByte_toByte _ polled.below]
    rfl
  change (Exchange.ofHistory runner (world.ledger.history ++ [_])).Continues _ _ _
  rw [history]
  refine ⟨⟨_, rfl, .nil, ?_⟩, by simp, by rw [zero]; rfl⟩
  rw [number]
  exact SequenceNum.Counts.zero (UInt8.lt_iff_toNat_lt.mp polled.below)

/-- What a master does itself. -/
theorem own (polled : world.Polled runner) (booked : world.Booked) {after : Party Runner}
    {next : Ledger Runner}
    (move : Move .counting runner (world.party runner) world.ledger after next) :
    World.Polled runner ⟨Function.update world.party runner after, next⟩ := by
  have nothing : world.ledger.history = world.ledger.history ++ [] := (List.append_nil _).symm
  have self : Function.update world.party runner after runner = after := Function.update_self ..
  have quiet (header : APDUResponseHeader) :=
    Event.not_exchanges_confirming runner header runner
  have lawful {history events : List (Event Runner)}
      (lawful : Lawful (DeliversInOrder runner) history)
      (quiet : ∀ event ∈ events, ¬event.Exchanges runner) :
      Lawful (DeliversInOrder runner) (history ++ events) :=
    lawful.append fun event member before =>
      deliversInOrder_of_not_exchanges (quiet event member) before
  -- most moves leave the poll as it is
  have same {events : List (Event Runner)} (grown : next.history = world.ledger.history ++ events)
      (quiet : ∀ event ∈ events, ¬event.Exchanges runner)
      (below : after.solSeq.seq < 16)
      (active : ∀ id, after.activeTask = some id →
        (world.party runner).activeTask = some id ∧ after.tstate = (world.party runner).tstate ∧
          after.solSeq = (world.party runner).solSeq ∧
          next.body id = world.ledger.body id) :
      World.Polled runner ⟨Function.update world.party runner after, next⟩ :=
    polled.kept grown quiet (self.symm ▸ below) (self.symm ▸ active)
  have created (id : TaskId Runner) (busy : (world.party runner).activeTask = some id)
      (body : MasterTask) : (world.ledger.create runner body).body id = world.ledger.body id :=
    Ledger.body_create (booked.registered.active runner id busy) body
  cases move with
  | note event silent =>
      refine same rfl (List.forall_mem_singleton.mpr ?_) polled.below
        fun id busy => ⟨busy, rfl, rfl, rfl⟩
      cases event with
      | onStart | onReceiveIIN => exact not_false
      | _ => cases silent
  | opened | refused | confirmed | ready =>
      exact same rfl (List.forall_mem_singleton.mpr not_false) polled.below
        fun id busy => ⟨busy, rfl, rfl, rfl⟩
  | expired =>
      exact same nothing (by simp) polled.below fun id busy => ⟨busy, rfl, rfl, rfl⟩
  | added other =>
      obtain ⟨tasks, added⟩ := world.ledger.add_eq other runner
      rw [added] at same ⊢
      exact same nothing (by simp) polled.below fun id busy => ⟨busy, rfl, rfl, rfl⟩
  | scheduled params request =>
      obtain ⟨tasks, added⟩ := Ledger.add_eq (world.ledger.create runner (request.body params))
        (.user runner world.ledger.created) runner
      rw [added] at same ⊢
      exact same nothing (by simp) polled.below
        fun id busy => ⟨busy, rfl, rfl, created id busy _⟩
  | declined params request =>
      exact same rfl (List.forall_mem_singleton.mpr not_false) polled.below
        fun id busy => ⟨busy, rfl, rfl, created id busy _⟩
  | bound builder =>
      exact same nothing (by simp) polled.below
        fun id busy => ⟨busy, rfl, rfl, created id busy _⟩
  | started id position running free chosen inactive =>
      have history : world.ledger.history ++ [.run runner id true] ++ [.onStart id] =
          world.ledger.history ++ [.run runner id true, .onStart id] := List.append_assoc _ _ _
      refine of_own ?_ polled.below fun other rxCount busy counts => ?_
      · change Lawful _ (world.ledger.history ++ _ ++ _)
        rw [history]
        exact lawful polled.lawful (by simp [Event.Exchanges])
      · obtain rfl := Option.some.inj busy
        have counts : (Function.update world.ledger.body id
          (world.ledger.body id).initializeTask id).rxCount? = some rxCount := counts
        rw [Function.update_self] at counts
        exact ⟨nofun, fun _ => MasterTask.rxCount_of_initializeTask counts⟩
  | requested id application buffer apdu body tstate active quiet built =>
      exact polled.requested tstate active built
  | unformatted id application buffer apdu body | timedOut id =>
      refine of_inactive ?_ ?_ rfl
      · rw [Ledger.history_release]
        exact lawful polled.lawful (List.forall_mem_singleton.mpr not_false)
      · first
          | exact polled.below
          | exact AppSeqNum.next_below _
  | ignored header objects =>
      have history : Exchange.ofHistory runner
          (world.ledger.history ++ [.received runner header objects]) =
            { Exchange.ofHistory runner world.ledger.history with
              received := some (header, objects) } := by
        rw [Exchange.ofHistory_append]
        exact if_pos rfl
      have received : Lawful (DeliversInOrder runner)
          (world.ledger.history ++ [.received runner header objects]) :=
        polled.lawful.concat trivial
      exact polled.aside received (congrArg Exchange.request history :)
        (congrArg Exchange.fragments history :) rfl rfl rfl rfl
  | reported header objects calls online function =>
      have none : ∀ event ∈ ([] : List (Event Runner)), ¬event.Exchanges runner := by simp
      exact polled.unsolicited objects calls function none rfl rfl rfl (List.append_assoc _ _ _) rfl
  | unsolicited header objects calls online function =>
      have queued : ∀ event ∈ [Event.queueConfirm runner
          (.unsolicitedConfirm header.control.seq)], ¬event.Exchanges runner :=
        List.forall_mem_singleton.mpr not_false
      have history : world.ledger.history ++ [.received runner header objects] ++
          [.measurements runner calls] ++
            [.queueConfirm runner (.unsolicitedConfirm header.control.seq)] =
          world.ledger.history ++ .received runner header objects :: .measurements runner calls ::
            [.queueConfirm runner (.unsolicitedConfirm header.control.seq)] := by
        rw [List.append_assoc, List.append_assoc]
        rfl
      refine polled.unsolicited objects calls function queued ?_ ?_ ?_ ?_ ?_
      · rfl
      · rfl
      · rfl
      · exact history
      · rfl
  | @continued id header objects body calls answers =>
      have answered := polled.lawful_answered answers
      rw [Party.confirming_eq]
      refine of_own ?_ (AppSeqNum.next_below _) fun other rxCount busy counts => ?_
      · rw [Ledger.confirming_history]
        exact lawful answered (quiet header)
      · obtain rfl := Option.some.inj (answers.activeTask.symm.trans busy)
        rw [Ledger.body_confirming] at counts
        have counts : (Function.update world.ledger.body id body id).rxCount? = some rxCount :=
          counts
        rw [Function.update_self] at counts
        refine ⟨fun _ => ?_, fun idle => absurd answers.tstate idle⟩
        rw [Ledger.confirming_history, Exchange.ofHistory_append,
          Exchange.foldl_observe (quiet header)]
        exact (polled.continues_answered answers counts).2 rfl
  | @repeated id header objects body calls answers =>
      have answered := polled.lawful_answered answers
      rw [Party.confirming_eq]
      refine of_own ?_ (AppSeqNum.next_below _) fun other rxCount busy counts => ?_
      · rw [Ledger.confirming_history]
        exact lawful answered (quiet header)
      · obtain rfl := Option.some.inj (answers.activeTask.symm.trans busy)
        rw [Ledger.body_confirming] at counts
        have counts : (Function.update world.ledger.body id body id).rxCount? = some rxCount :=
          counts
        rw [Function.update_self] at counts
        exact absurd rfl (polled.continues_answered answers counts).1
  | @finished id header objects body calls result completion answers =>
      have answered := polled.lawful_answered answers
      refine of_inactive ?_ ?_ rfl
      · have completed : Lawful (DeliversInOrder runner)
            ((world.ledger.answered runner id body header objects calls).complete id
              completion).history :=
          lawful answered (List.forall_mem_singleton.mpr not_false)
        rw [Ledger.history_release, Ledger.confirming_history]
        exact lawful completed (quiet header)
      · rw [Party.confirming_eq]
        exact AppSeqNum.next_below _

/-- Every step keeps the order of what a master delivers. -/
theorem step {next : World Runner} (polled : world.Polled runner) (booked : world.Booked)
    (step : World.Step .counting world next) : next.Polled runner := by
  have nothing : world.ledger.history = world.ledger.history ++ [] := (List.append_nil _).symm
  cases step with
  | @act other party ledger move =>
      rcases eq_or_ne other runner with rfl | different
      · exact polled.own booked move
      · exact polled.foreign booked different move
  | closed other online =>
      have quiet := Ledger.Quiet.close world.ledger other
      obtain ⟨events, grown, ends⟩ := quiet.history
      refine polled.kept grown (fun event member => (ends event member).not_exchanges runner) ?_ ?_
      · rcases eq_or_ne other runner with rfl | different
        · rw [Function.update_self]
          exact (by decide : (0 : UInt8) < 16)
        · rw [Function.update_of_ne different.symm]
          exact polled.below
      · intro id busy
        rcases eq_or_ne other runner with rfl | different
        · rw [Function.update_self] at busy
          cases busy
        · rw [Function.update_of_ne different.symm] at busy ⊢
          exact ⟨busy, rfl, rfl, congrFun quiet.body id⟩
  | erased result selects =>
      obtain ⟨_, _, events, grown, ends⟩ := Ledger.Quiet.completeRecords world.ledger result
        (world.ledger.tasks.filter selects) world.ledger.current
        (world.ledger.tasks.filter (!selects ·))
      exact polled.kept grown (fun event member => (ends event member).not_exchanges runner)
        polled.below fun id busy => ⟨busy, rfl, rfl, rfl⟩
  | shutdown =>
      exact polled.kept nothing (by simp) polled.below fun id busy => ⟨busy, rfl, rfl, rfl⟩

end World.Polled

structure World.PolledInOrder (runner : Runner) (world : World Runner) : Prop where
  booked : world.Booked
  polled : world.Polled runner

theorem World.PolledInOrder.step {runner : Runner} {world next : World Runner}
    (inOrder : world.PolledInOrder runner) (step : World.Step .counting world next) :
    next.PolledInOrder runner :=
  ⟨inOrder.booked.step step, inOrder.polled.step inOrder.booked step⟩

theorem World.polledInOrder_initial (addresses : Runner → Addresses)
    (params : Runner → MasterParams) (runner : Runner) :
    (Channel.initial addresses params).world.PolledInOrder runner where
  booked := World.booked_initial addresses params
  polled := ⟨.nil, (by decide : (0 : UInt8) < 16), nofun⟩

/-! ## Channels -/

namespace Session

variable {runner : Runner} (session : Session Runner) (environment : Environment Runner)

/-- A fragment that a master waits for is taken in by its task. -/
theorem onReceive_of_awaits {message : Message} {id : TaskId Runner}
    {header : APDUResponseHeader} {objects : List UInt8}
    (awaits : session.context.Awaits message id header objects) :
    session.onReceive runner environment message =
      let (taken, result) := Session.taskOnResponse runner
        { context :=
            { session.context with
              responseTimer := false
              solSeq := session.context.solSeq.next }
          common := session.common.log (.received runner header objects) } environment id header
        objects
      (assignState (taken.afterOnResponse runner environment header result)).processIIN runner
        header.iin := by
  have awaiting : (session.log (.received runner header objects)).awaiting header = some id := by
    rw [awaiting, if_pos ⟨awaits.tstate, awaits.seq⟩]
    exact awaits.activeTask
  rw [onReceive, if_neg (by simp [awaits.isOnline]), if_neg (not_not.mpr awaits.destination),
    if_neg (not_not.mpr awaits.source), awaits.parsed]
  dsimp only
  rw [processAPDU, awaits.function]
  dsimp only
  rw [processResponse, onResponseEvent_eq, awaiting]
  rfl

omit [DecidableEq Runner] [FloatOps] in
theorem history_checkConfirmTransmit :
    session.common.history <+: (session.checkConfirmTransmit runner).common.history := by
  rw [checkConfirmTransmit]
  split
  · exact List.prefix_refl _
  · split
    · exact List.prefix_refl _
    · exact List.prefix_append _ _

omit [DecidableEq Runner] [FloatOps] in
theorem history_confirmSolicited (header : APDUResponseHeader) :
    session.common.history <+: (session.confirmSolicited runner header).common.history := by
  rw [confirmSolicited]
  split
  · rw [queueConfirm]
    refine List.IsPrefix.trans ?_ (history_checkConfirmTransmit _)
    exact List.prefix_append _ _
  · exact List.prefix_refl _

/-- A fragment that completes the active task. -/
theorem onReceive_of_completes {message : Message} {id : TaskId Runner}
    {header : APDUResponseHeader} {objects : List UInt8}
    (awaits : session.context.Awaits message id header objects) {body : MasterTask}
    {calls : List SOECall} {result : ResponseResult} {completion : TaskCompletion}
    (response : (session.common.body id).processResponse (environment.application id.context)
      header objects = (body, calls, result))
    (completes : result.completion = some completion) :
    (session.onReceive runner environment message).context.activeTask = none ∧
      ∃ report events, (session.onReceive runner environment message).common.history =
        session.common.history ++ [.received runner header objects] ++
          [.measurements runner calls] ++ .onTaskComplete id completion report :: events := by
  rw [onReceive_of_awaits session environment awaits]
  obtain ⟨taken, answered, context, _, completed⟩ := taskOnResponse_eq
    { context :=
        { session.context with
          responseTimer := false
          solSeq := session.context.solSeq.next }
      common := session.common.log (.received runner header objects) } environment id header
    objects response
  have ledger := completed completion completes
  rw [answered]
  dsimp only
  have active : (taken.confirmSolicited runner header).context.activeTask.isSome = true := by
    rw [activeTask_confirmSolicited, context]
    exact Option.isSome_iff_exists.mpr ⟨id, awaits.activeTask⟩
  have given : taken.afterOnResponse runner environment header result =
      ((taken.confirmSolicited runner header).completeActiveTask runner, .idle) := by
    cases result with
    | errorBadResponse | okFinal => rfl
    | okRepeat | okContinue => cases completes
  have finished := @view_completeActiveTask _ _ runner _ active
  rw [given]
  obtain ⟨party, after⟩ := Prod.mk.inj (@view_processIIN _ _ runner
    (((taken.confirmSolicited runner header).completeActiveTask runner).setState .idle) header.iin)
  obtain ⟨idle, released⟩ := Prod.mk.inj finished
  constructor
  · exact congrArg Party.activeTask (party.trans idle)
  · obtain ⟨report, known⟩ : ∃ report, session.common.history ++
        [.received runner header objects] ++ [.measurements runner calls] ++
          [.onTaskComplete id completion report] = taken.common.history :=
      ⟨_, (congrArg Ledger.history ledger).symm⟩
    obtain ⟨events, confirmed⟩ := @history_confirmSolicited _ runner taken header
    have history := congrArg Ledger.history (after.trans (congrArg (Ledger.log ·
      (.onReceiveIIN runner header.iin)) released))
    change _ = Ledger.history (Ledger.release _ runner) ++ [_] at history
    rw [Ledger.history_release] at history
    change _ = (taken.confirmSolicited runner header).common.history ++ [_] at history
    rw [← confirmed, ← known, List.append_assoc, List.append_assoc _ [_]] at history
    exact ⟨report, _, history⟩

end Session

namespace Channel

/-- A fragment with the expected number that is not the next one, or that cannot be parsed. -/
def Unfit (channel : Channel Runner) (runner : Runner) (header : APDUResponseHeader)
    (objects : List UInt8) : Prop :=
  header.control.fir ≠ (Exchange.ofHistory runner channel.common.history).fragments.isEmpty ∨
    ∀ calls, MeasurementHandler.processMeasurements objects ≠ .ok calls

/-- A poll refuses a fragment that does not fit. -/
theorem refuses_of_unfit {channel : Channel Runner} {runner : Runner}
    (polled : channel.world.Polled runner) {message : Message} {id : TaskId Runner}
    {header : APDUResponseHeader} {objects : List UInt8}
    (awaits : (channel.master runner).Awaits message id header objects) {rxCount : RxCount}
    (counts : (channel.common.body id).rxCount? = some rxCount)
    (unfit : channel.Unfit runner header objects) :
    PollTaskBase.refuses rxCount header objects = true := by
  have expected := (polled.polls id rxCount awaits.activeTask counts).1 awaits.tstate
  have first : (Exchange.ofHistory runner channel.common.history).fragments.isEmpty =
      decide (rxCount = 0) := by
    have count : (Exchange.ofHistory runner channel.common.history).fragments.length =
        rxCount.toNat := expected.count
    rw [Bool.eq_iff_iff, decide_eq_true_iff, List.isEmpty_iff_length_eq_zero, count]
    exact UInt32.toNat_inj (b := 0)
  rw [PollTaskBase.refuses, Bool.or_eq_true]
  rcases unfit with disordered | unparsed
  · left
    have positive : rxCount > 0 ↔ rxCount ≠ 0 := UInt32.pos_iff_ne_zero
    rw [first] at disordered
    rw [decide_eq_decide.mpr positive, decide_not]
    revert disordered
    cases header.control.fir <;> cases decide (rxCount = 0) <;> decide
  · right
    cases parsed : MeasurementHandler.processMeasurements objects with
    | ok calls => exact absurd parsed (unparsed calls)
    | error problem => rfl

/-- Every fragment that a poll waits for is the last one, or it is refused, or its number does not
overflow. -/
def CountsFragments (channel : Channel Runner) (input : Environment Runner × Input Runner) : Prop :=
  ∀ runner message, input.2 = .receive runner message → ∀ id header objects rxCount,
    (channel.master runner).Awaits message id header objects →
      (channel.common.body id).rxCount? = some rxCount →
        PollTaskBase.CountsFragment rxCount header objects

/-- A poll delivers the measurements of one response without a gap, and is ended by a fragment
that does not fit, as long as it does not count to the end of its range. -/
theorem deliversInOrder_of_reaches {addresses : Runner → Addresses}
    {params : Runner → MasterParams} {channel : Channel Runner}
    (reached : machine.ReachesWhile CountsFragments (initial addresses params) channel)
    (runner : Runner) :
    Lawful (DeliversInOrder runner) channel.common.history ∧
      ∀ environment message id header objects,
        (channel.master runner).Awaits message id header objects →
          (channel.common.body id).expectsMeasurements = true →
            channel.Unfit runner header objects →
              ((channel.step environment (.receive runner message)).master runner).activeTask =
                  none ∧
                (∃ report, .onTaskComplete id .failureBadResponse report ∈
                  channel.newEvents environment (.receive runner message)) ∧
                ∀ calls, .measurements runner calls ∈
                  channel.newEvents environment (.receive runner message) → calls = [] := by
  have kept : channel.world.PolledInOrder runner := by
    refine world_invariant reached (fun {channel input} allowed => ?_)
      (World.polledInOrder_initial addresses params runner) fun step inOrder => inOrder.step step
    cases given : input.2 with
    | lowerLayerDown runner => exact fun _ => trivial
    | receive runner message =>
        exact fun id header objects awaits rxCount counts =>
          allowed runner message given id header objects rxCount awaits counts
    | _ => trivial
  refine ⟨kept.polled.lawful, fun environment message id header objects awaits expects unfit => ?_⟩
  obtain ⟨rxCount, counts, refuses⟩ := MasterTask.rxCount_of_expectsMeasurements expects
  have refused := refuses_of_unfit kept.polled awaits counts unfit
  have result := ((channel.common.body id).processResponse_refuses
    (environment.application id.context) header objects).mpr
      ((refuses header objects).trans refused)
  obtain ⟨inactive, report, events, history⟩ := Session.onReceive_of_completes
    ⟨channel.master runner, channel.common⟩ environment awaits rfl
      (congrArg ResponseResult.completion result)
  refine ⟨?_, ⟨report, ?_⟩, fun calls delivered => ?_⟩
  · change (Function.update channel.master runner _ runner).activeTask = none
    rw [Function.update_self]
    exact inactive
  · have history : (channel.step environment (.receive runner message)).common.history = _ :=
      history
    rw [newEvents, history, List.append_assoc, List.append_assoc, List.drop_left]
    exact List.mem_append_right _ (List.mem_append_right _ List.mem_cons_self)
  · rw [mem_newEvents rfl, messageIntake_of_awaits awaits, answerIntake] at delivered
    rcases List.mem_cons.mp delivered with same | confirm
    · obtain ⟨_, rfl⟩ := Event.measurements.inj same
      exact MasterTask.calls_of_refuses expects ((refuses header objects).trans refused)
    · split at confirm
      · simp at confirm
      · simp at confirm

omit [DecidableEq Runner] in
/-- A count that is not at its end. -/
theorem countsFragments_of_active {channel : Channel Runner} {runner : Runner} {message : Message}
    (environment : Environment Runner) {id : TaskId Runner} {rxCount : RxCount}
    (active : (channel.master runner).activeTask = some id)
    (counts : (channel.common.body id).rxCount? = some rxCount) (fits : rxCount + 1 ≠ 0) :
    channel.CountsFragments (environment, .receive runner message) := by
  intro _ _ same other header objects count awaits known overflow
  obtain ⟨rfl, rfl⟩ := Input.receive.inj same
  obtain rfl := Option.some.inj (active.symm.trans awaits.activeTask)
  obtain rfl := Option.some.inj (counts.symm.trans known)
  exact absurd overflow fits

omit [FloatOps] in
/-- Two fragments with a value each. -/
theorem deliversInOrder_of_reaches_two :
    ∃ channel : Channel Unit,
      (@machine Unit _ .atZero).ReachesWhile (@CountsFragments Unit .atZero)
        (initial (fun _ => ⟨1, 10⟩) fun _ => { disableUnsolOnStartup := false }) channel ∧
      (Exchange.ofHistory () channel.common.history).fragments.length = 2 ∧
      Lawful (@DeliversInOrder Unit .atZero _ ()) channel.common.history := by
  have sent := @reachesWhile_after Unit _ .atZero (@CountsFragments Unit .atZero)
    (initial (fun _ => ⟨1, 10⟩) fun _ => { disableUnsolOnStartup := false })
    [(.atZero, .lowerLayerUp ()), (.atZero, .runPosted)]
    (fun channel => List.forall_mem_cons.mpr ⟨nofun, List.forall_mem_singleton.mpr nofun⟩)
  have stepped (channel : Channel Unit) (message : Message) :
      (@machine Unit _ .atZero).step channel (.atZero, .receive () message) = some _ := rfl
  have first := Machine.ReachesWhile.step sent (@countsFragments_of_active Unit .atZero _ _ _ _
      (.own () .startupIntegrity) 0 (by decide +kernel) (by decide +kernel) (by decide))
    (stepped _ ⟨⟨10, 1⟩, [0x80, 0x81, 0, 0, 1, 2, 0, 0, 0, 0x81]⟩)
  have second := Machine.ReachesWhile.step first (@countsFragments_of_active Unit .atZero _ _ _ _
      (.own () .startupIntegrity) 1 (by decide +kernel) (by decide +kernel) (by decide))
    (stepped _ ⟨⟨10, 1⟩, [0x41, 0x81, 0, 0, 1, 2, 0, 1, 1, 0x81]⟩)
  exact ⟨_, second, by decide +kernel,
    (@deliversInOrder_of_reaches Unit .atZero _ _ _ _ second ()).1⟩

end Channel

/-! ## A count that overflows -/

/-- A fragment of a response, in one message. -/
def fragment (control : UInt8) (objects : List UInt8) : Message :=
  ⟨⟨10, 1⟩, control :: 0x81 :: 0 :: 0 :: objects⟩

def fragmentHeader (control : UInt8) : APDUResponseHeader :=
  ⟨⟨.ofByte control, .response⟩, ⟨0, 0⟩⟩

/-- An integrity poll has taken in a number of fragments. -/
structure Polling (count : Nat) (channel : Channel Unit) : Prop where
  isOnline : (channel.master ()).isOnline = true
  addresses : (channel.master ()).addresses = ⟨1, 10⟩
  tstate : (channel.master ()).tstate = .waitForResponse
  activeTask : (channel.master ()).activeTask = some (.own () .startupIntegrity)
  solSeq : (channel.master ()).solSeq.seq.toNat = count % 16
  rxCount : ∃ classes, channel.common.body (.own () .startupIntegrity) =
    .startupIntegrity classes (UInt32.ofNat count)
  fragments : (Exchange.ofHistory () channel.common.history).fragments.length = count

omit [FloatOps] in
theorem Polling.awaits {count : Nat} {channel : Channel Unit} (polling : Polling count channel)
    {control : UInt8} (seq : (AppControlField.ofByte control).seq.toNat = count % 16)
    (objects : List UInt8) :
    (channel.master ()).Awaits (fragment control objects) (.own () .startupIntegrity)
      (fragmentHeader control) objects where
  isOnline := polling.isOnline
  destination := congrArg Addresses.source polling.addresses.symm
  source := congrArg Addresses.destination polling.addresses.symm
  parsed := rfl
  function := rfl
  tstate := polling.tstate
  activeTask := polling.activeTask
  seq := UInt8.toNat_inj.mp (seq.trans polling.solSeq.symm)

omit [FloatOps] in
theorem processIIN_zero (session : Session Unit) :
    session.processIIN () ⟨0, 0⟩ = session.log (.onReceiveIIN () ⟨0, 0⟩) := rfl

/-- The master takes in one more fragment that is neither the first one nor the last one. -/
theorem Polling.step {count : Nat} {channel : Channel Unit} (polling : Polling count channel)
    (some : 0 < count) (below : count < 2 ^ 32) :
    Polling (count + 1) (channel.step .atZero
      (.receive () (fragment (UInt8.ofNat (count % 16)) []))) := by
  obtain ⟨classes, body⟩ := polling.rxCount
  have bits : ∀ low : Fin 16, AppControlField.ofByte (UInt8.ofNat low) =
      ⟨false, false, false, false, UInt8.ofNat low⟩ := by decide +kernel
  have control := bits ⟨count % 16, Nat.mod_lt _ (by decide)⟩
  dsimp only at control
  have low : (UInt8.ofNat (count % 16)).toNat = count % 16 :=
    Nat.mod_eq_of_lt ((Nat.mod_lt count (by decide)).trans (by decide))
  have seq : (AppControlField.ofByte (UInt8.ofNat (count % 16))).seq.toNat = count % 16 := by
    rw [control]
    exact low
  have positive : UInt32.ofNat count > 0 := by
    rw [gt_iff_lt, UInt32.lt_iff_toNat_lt, UInt32.toNat_ofNat', Nat.mod_eq_of_lt below]
    exact some
  have response : MasterTask.processResponse (Environment.atZero.application ())
      (fragmentHeader (UInt8.ofNat (count % 16))) []
        (channel.common.body (.own () .startupIntegrity)) =
      (.startupIntegrity classes (UInt32.ofNat count + 1), [], .okContinue) := by
    rw [body]
    simp only [MasterTask.processResponse, PollTaskBase.processResponse, fragmentHeader, control]
    rw [if_neg Bool.false_ne_true, if_pos positive]
    rfl
  have received := @Session.onReceive_of_awaits Unit _ _ () ⟨channel.master (), channel.common⟩
    .atZero _ _ _ _ (polling.awaits seq [])
  obtain ⟨taken, answered, context, ledger, _⟩ := @Session.taskOnResponse_eq Unit _ _ ()
    { context :=
        { channel.master () with
          responseTimer := false
          solSeq := (channel.master ()).solSeq.next }
      common := channel.common.log (.received () (fragmentHeader _) []) } .atZero
    (.own () .startupIntegrity) _ _ _ _ _ response
  have ledger := ledger rfl
  rw [answered] at received
  dsimp only at received
  have goesOn : Session.assignState (taken.afterOnResponse () .atZero
      (fragmentHeader (UInt8.ofNat (count % 16))) .okContinue) =
        taken.startResponseTimer.setState .waitForResponse := by
    rw [Session.afterOnResponse, Session.confirmSolicited, fragmentHeader, control]
    rfl
  rw [goesOn, show (fragmentHeader (UInt8.ofNat (count % 16))).iin = ⟨0, 0⟩ from rfl,
    processIIN_zero] at received
  have after : channel.step .atZero (.receive () (fragment (UInt8.ofNat (count % 16)) [])) =
      ⟨Function.update channel.master () { taken.context with
          responseTimer := true, tstate := .waitForResponse },
        taken.common.log (.onReceiveIIN () ⟨0, 0⟩)⟩ :=
    congrArg (fun session : Session Unit =>
      Channel.mk (Function.update channel.master () session.context) session.common) received
  have history : taken.common.history = channel.common.history ++
      [.received () (fragmentHeader (UInt8.ofNat (count % 16))) []] ++ [.measurements () []] :=
    congrArg Ledger.history ledger
  have bodies : taken.common.body = Function.update channel.common.body _ _ :=
    congrArg Ledger.body ledger
  rw [after, context]
  refine ⟨?_, ?_, ?_, ?_, ?_, ⟨classes, ?_⟩, ?_⟩
  · dsimp only
    rw [Function.update_self]
    exact polling.isOnline
  · dsimp only
    rw [Function.update_self]
    exact polling.addresses
  · dsimp only
    rw [Function.update_self]
  · dsimp only
    rw [Function.update_self]
    exact polling.activeTask
  · dsimp only
    rw [Function.update_self]
    have counts : (channel.master ()).solSeq.Counts 0 count := by
      rw [SequenceNum.Counts, Nat.zero_add]
      exact polling.solSeq
    have next := counts.next (by decide) (by decide)
    rwa [SequenceNum.Counts, Nat.zero_add] at next
  · change taken.common.body _ = _
    rw [bodies, Function.update_self, UInt32.ofNat_add]
    rfl
  · change (Exchange.ofHistory () (taken.common.history ++ [_])).fragments.length = _
    rw [history, List.append_assoc, List.append_assoc, Exchange.ofHistory_append]
    simp [Exchange.observe, Exchange.deliver, fragmentHeader, polling.fragments]

omit [FloatOps] in
/-- A poll can take in any number of fragments. -/
theorem exists_polling (count : Nat) (first : 1 ≤ count) (below : count ≤ 2 ^ 32) :
    ∃ channel : Channel Unit, (@Channel.machine Unit _ .atZero).Reaches
      (Channel.initial (fun _ => ⟨1, 10⟩) fun _ => { disableUnsolOnStartup := false }) channel ∧
        Polling count channel := by
  induction count, first using Nat.le_induction with
  | base =>
      refine ⟨_, @Channel.reaches_after Unit _ .atZero
        (Channel.initial (fun _ => ⟨1, 10⟩) fun _ => { disableUnsolOnStartup := false })
        [(.atZero, .lowerLayerUp ()), (.atZero, .runPosted),
          (.atZero, .receive () (fragment 0x80 []))], ?_⟩
      exact ⟨by decide +kernel, by decide +kernel, by decide +kernel, by decide +kernel,
        by decide +kernel, ⟨.allClasses, rfl⟩, by decide +kernel⟩
  | succ count first ih =>
      obtain ⟨channel, reached, polling⟩ := ih (Nat.le_of_succ_le below)
      have next : (@Channel.machine Unit _ .atZero).step channel
          (.atZero, .receive () (fragment (UInt8.ofNat (count % 16)) [])) = some _ := rfl
      exact ⟨_, .step reached trivial next,
        @Polling.step .atZero count channel polling first below⟩

theorem Contiguous.fir_of_concat {start : Nat}
    {fragments : List (APDUResponseHeader × List UInt8)} {header : APDUResponseHeader}
    {objects : List UInt8} (contiguous : Contiguous start (fragments ++ [(header, objects)])) :
    header.control.fir = fragments.isEmpty := by
  generalize all : fragments ++ [(header, objects)] = list at contiguous
  cases contiguous with
  | nil => simp at all
  | concat _ _ fir =>
      obtain ⟨rfl, last⟩ := List.append_inj' all rfl
      obtain ⟨rfl, rfl⟩ := Prod.mk.inj (List.singleton_inj.mp last)
      exact fir

omit [FloatOps] in
/-- After 2³² fragments a poll takes in a first fragment again. -/
theorem Channel.first_fragment_after_overflow :
    ∃ channel : Channel Unit,
      (@machine Unit _ .atZero).Reaches
        (initial (fun _ => ⟨1, 10⟩) fun _ => { disableUnsolOnStartup := false }) channel ∧
      ¬Lawful (@DeliversInOrder Unit .atZero _ ()) channel.common.history := by
  obtain ⟨channel, reached, polling⟩ := exists_polling (2 ^ 32) (by decide) le_rfl
  have last : (@machine Unit _ .atZero).step channel
      (.atZero, .receive () (fragment 0xC0 [1, 2, 0, 0, 0, 0x81])) = some _ := rfl
  refine ⟨_, .step reached trivial last, fun lawful => ?_⟩
  obtain ⟨classes, body⟩ := polling.rxCount
  obtain ⟨calls, response, delivered⟩ : ∃ calls,
      @PollTaskBase.processResponse .atZero (UInt32.ofNat (2 ^ 32)) (fragmentHeader 0xC0)
        [1, 2, 0, 0, 0, 0x81] = (1, calls, .okFinal) ∧ calls.isEmpty = false := ⟨_, rfl, rfl⟩
  have answered : @MasterTask.processResponse .atZero (Environment.atZero.application ())
      (fragmentHeader 0xC0) [1, 2, 0, 0, 0, 0x81]
        (channel.common.body (.own () .startupIntegrity)) =
          (.startupIntegrity classes 1, calls, .okFinal) := by
    rw [body]
    simp only [MasterTask.processResponse, response]
  obtain ⟨_, report, events, history⟩ := @Session.onReceive_of_completes Unit .atZero _ ()
    ⟨channel.master (), channel.common⟩ .atZero _ _ _ _ (polling.awaits rfl _) _ _ _ _ answered rfl
  have known : (@Channel.step Unit _ .atZero channel .atZero (.receive ()
      (fragment 0xC0 [1, 2, 0, 0, 0, 0x81]))).common.history = _ := history
  have law := lawful _ _ ⟨_, known.symm⟩ rfl (by simpa using delivered)
  rw [Exchange.ofHistory_append] at law
  obtain ⟨header, objects, received, ordered⟩ := law
  obtain ⟨rfl, rfl⟩ := Prod.mk.inj (Option.some.inj received)
  rcases ordered with unsolicited | ⟨_, _, id, apdu, _, contiguous⟩
  · cases unsolicited
  · have empty := @Contiguous.fir_of_concat .atZero _ _ _ _ contiguous
    have none : (Exchange.ofHistory () channel.common.history).fragments = [] :=
      List.isEmpty_iff.mp empty.symm
    have count := polling.fragments
    rw [none] at count
    cases count

end OpenDnp3.Master
