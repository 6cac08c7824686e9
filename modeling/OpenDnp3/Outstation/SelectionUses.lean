import OpenDnp3.Library.History
import OpenDnp3.Outstation.CommandResponses
import OpenDnp3.Outstation.RepeatedRequests

/-!
# Uses of selections

A selection is not forgotten when its commands are operated. It is used once as long as
the operation is not requested again, other than as a repeat, before it is too late.
-/

set_option autoImplicit false

namespace OpenDnp3.Outstation

open OpenDnp3.App OpenDnp3.Library OpenDnp3.Link

/-- The commands that are operated on the strength of a selection. -/
def operatedIn (log : List Activity) : List Command :=
  log.filterMap fun
    | .call (.operate type command .selectBeforeOperate) => some ⟨type, command⟩
    | _ => none

theorem operatedIn_append (log others : List Activity) :
    operatedIn (log ++ others) = operatedIn log ++ operatedIn others :=
  List.filterMap_append

theorem Calls.operatedIn_eq {operates : Option OperateType} {before after : List Activity}
    (calls : Calls operates before after) (other : operates ≠ some .selectBeforeOperate) :
    operatedIn after = operatedIn before := by
  obtain ⟨calls, rfl, ways⟩ := calls
  have none : operatedIn (calls.map Activity.call) = [] := by
    rw [operatedIn, List.filterMap_map, List.filterMap_eq_nil_iff]
    intro call member
    cases call with
    | operate type command opType =>
        cases opType with
        | selectBeforeOperate =>
            rcases ways _ member with way | way
            · cases way
            · exact absurd way.symm other
        | directOperate => rfl
        | directOperateNoAck => rfl
    | _ => rfl
  rw [operatedIn_append, none, List.append_nil]

namespace Service

variable [FloatOps]

/-- The commands of a request that are operated on the strength of a selection. -/
def operated (service : Service) : List Command :=
  operatedIn (service.result.log.drop service.context.log.length)

/-- A request to select is accepted: there is space for the response, and no command is refused. -/
def accepts (service : Service) : Bool :=
  let result := service.context.selectHandler.parse service.environment service.request.objects
  decide (service.request.header.function = .select) &&
    decide (service.request.objects.length ≤ service.context.responseSpace) &&
      result.1.isNone && result.2.allCommandsSuccessful

/-- The request has the number, and objects of the length and with the digest, of an earlier one. -/
structure Resembles (service earlier : Service) : Prop where
  seq : service.request.header.control.seq = earlier.request.header.control.seq
  length : service.request.objects.length = earlier.request.objects.length
  digest : CRC.calcCrc service.request.objects = CRC.calcCrc earlier.request.objects

/-- It is not too late for what was selected. -/
structure InTime (service : Service) : Prop where
  notBefore : service.context.control.selectTime ≤ service.environment.now
  elapsed : service.environment.now - service.context.control.selectTime <
    service.context.params.selectTimeout

/-- A request to operate is refused: its commands are answered with NO_SELECT or TIMEOUT, as far as
there may be so many, and none is operated. -/
structure Refused (service : Service) : Prop where
  operated : service.operated = []
  answered : ∃ status fragment, (status = .noSelect ∨ status = .timeout) ∧
    (service.context.respondToNonReadRequest service.environment service.request).log.getLast? =
      some (.beginTransmit service.request.addresses.source fragment []) ∧
    ∀ commands, parseCommands service.request.objects = .ok commands →
      service.request.objects.length ≤ service.context.responseSpace →
        parseCommands (fragment.drop 4) =
          .ok ((service.context.passedOn commands).map
              (CommandResponseHandler.answered · status) ++
            (commands.drop service.context.params.maxControlsPerRequest.toNat).map
              (CommandResponseHandler.answered · .tooManyOps))

end Service

section uses

variable [FloatOps]

/-- The requests that were carried out since a selection was accepted. -/
def uses (services : List Service) : List Service :=
  since Service.accepts (fun service => if service.operated.isEmpty then [] else [service]) services

/-- The selection is the last one that was accepted. -/
def Last (selection : Service) (services : List Service) : Prop :=
  ∃ earlier later, services = earlier ++ selection :: later ∧ selection.accepts = true ∧
    ∀ other ∈ later, other.accepts = false

/-- The selection was accepted and not used yet. -/
def Available (selection : Service) (services : List Service) : Prop :=
  ∃ earlier later, services = earlier ++ selection :: later ∧ selection.accepts = true ∧
    ∀ other ∈ later, other.accepts = false ∧ other.operated = []

/-- Only a selection that was not used yet is operated, and without one a request to operate is
refused. -/
structure Once (before : List Service) (service : Service) : Prop where
  once : service.operated ≠ [] → service.request.header.function = .operate ∧
    ∃ selection, Available selection before ∧
      service.request.header.control.seq =
        (⟨selection.request.header.control.seq⟩ : AppSeqNum).next.seq ∧
      SameDigest selection.request.objects service.request.objects
  refused : service.request.header.function = .operate → (∀ selection, ¬Available selection before) →
    service.Refused

/-- A request to operate does not resemble one that was carried out since a selection was accepted,
unless it is too late. -/
def Unspent (before : List Service) (service : Service) : Prop :=
  service.request.header.function = .operate → ∀ earlier ∈ uses before,
    service.Resembles earlier → ¬service.InTime

theorem uses_concat (services : List Service) (service : Service) :
    uses (services ++ [service]) =
      if service.accepts then []
      else uses services ++ if service.operated.isEmpty then [] else [service] :=
  since_concat _ _ services service

variable {selection service : Service} {services : List Service}

/-- After the last selection nothing starts anew. -/
theorem Last.available (last : Last selection services) (unused : uses services = []) :
    Available selection services := by
  obtain ⟨earlier, later, rfl, accepts, none⟩ := last
  refine ⟨earlier, later, rfl, accepts, ?_⟩
  induction later using List.reverseRecOn with
  | nil => rintro _ ⟨⟩
  | append_singleton later other ih =>
      have refused := none other (by simp)
      rw [← List.cons_append, ← List.append_assoc, uses_concat, if_neg (by simp [refused]),
        List.append_eq_nil_iff] at unused
      intro one member
      rcases List.mem_append.mp member with before | here
      · exact ih unused.1 (fun other member => none other (List.mem_append_left _ member)) one before
      · obtain rfl := List.mem_singleton.mp here
        refine ⟨refused, ?_⟩
        by_contra operated
        simp [operated] at unused

theorem Available.uses_eq_nil (available : Available selection services) : uses services = [] := by
  obtain ⟨earlier, later, rfl, accepts, none⟩ := available
  induction later using List.reverseRecOn with
  | nil => rw [uses_concat, if_pos accepts]
  | append_singleton later other ih =>
      obtain ⟨refused, unused⟩ := none other (by simp)
      rw [← List.cons_append, ← List.append_assoc, uses_concat, if_neg (by simp [refused]),
        ih fun other member => none other (List.mem_append_left _ member), unused]
      rfl

end uses

namespace Service

variable [FloatOps] {service : Service}

theorem result_of_read (isRead : service.request.header.function = .read) :
    service.result = service.start := by
  rw [result, if_pos isRead]

theorem result_of_other (other : service.request.header.function ≠ .read) :
    service.result = (service.context.handled service.environment service.request).2.2 := by
  rw [result, if_neg other]

/-- Only a request to operate with a selection that is valid operates commands. -/
theorem operated_eq_nil
    (refused : service.request.header.function = .operate →
      service.context.control.validateSelection service.context.sol.seq.num service.environment.now
        service.context.params.selectTimeout service.request.objects ≠ .success) :
    service.operated = [] := by
  by_cases isRead : service.request.header.function = .read
  · rw [operated, result_of_read isRead]
    exact congrArg operatedIn (List.drop_length ..)
  · rw [operated, result_of_other isRead]
    by_cases operates : service.request.header.function = .operate
    · have same : (service.context.handled service.environment service.request).2.2.log =
          service.context.log := by
        simp only [OContext.handled, OContext.handleNonReadResponse, operates,
          OContext.handleOperate]
        split
        · rfl
        · split
          · next valid => exact absurd valid (refused operates)
          · rfl
      rw [same]
      exact congrArg operatedIn (List.drop_length ..)
    · obtain ⟨calls, log, ways⟩ : Calls (OContext.operatesOf service.request.header.function)
          service.context.log (service.context.handled service.environment
            service.request).2.2.log := OContext.handleNonReadResponse_calls ..
      have other : OContext.operatesOf service.request.header.function ≠
          some .selectBeforeOperate := by
        rw [OContext.operatesOf.eq_def]
        split
        · next isOperate => exact absurd isOperate operates
        · rintro ⟨⟩
        · rintro ⟨⟩
      have none : Calls (OContext.operatesOf service.request.header.function) []
          (calls.map Activity.call) := ⟨calls, rfl, ways⟩
      rw [log, List.drop_left]
      exact none.operatedIn_eq other

theorem valid_of_operated (operated : service.operated ≠ []) :
    service.request.header.function = .operate ∧
      service.context.control.validateSelection service.context.sol.seq.num service.environment.now
        service.context.params.selectTimeout service.request.objects = .success := by
  by_contra invalid
  exact operated (operated_eq_nil (not_and.mp invalid))

/-- A selection is remembered when a request to select is accepted. -/
theorem control_result : service.result.control =
    if service.accepts then
      ControlState.select service.context.sol.seq.num service.environment.now
        service.request.objects
    else service.context.control := by
  by_cases isSelect : service.request.header.function = .select
  · rw [result_of_other (by simp [isSelect])]
    by_cases enough : service.request.objects.length ≤ service.context.responseSpace
    · obtain ⟨_, _, control⟩ := @OContext.handled_select _ _ service.environment _ isSelect enough
        service.context.control
      rw [accepts]
      simp only [isSelect, enough, decide_true, Bool.true_and, Bool.and_eq_true,
        Option.isNone_iff_eq_none]
      exact control
    · rw [if_neg (by simp [accepts, enough])]
      exact OContext.handled_select_of_small isSelect enough service.context.control
  · rw [if_neg (by simp [accepts, isSelect])]
    have changes := OContext.changes_result service
    generalize service.result = result at changes
    cases changes with
    | same same _ => exact same.control
    | write _ =>
        rw [OContext.handleWrite]
        split <;> rfl
    | select select _ _ => exact absurd select isSelect
    | record _ _ => rfl

omit [FloatOps] in
theorem answers_constant (environment : Environment) (status : CommandStatus)
    (log : List Activity) (commands : List Command) :
    (CommandAction.constant status).answers environment log commands =
      List.replicate commands.length status := by
  induction commands generalizing log with
  | nil => rfl
  | cons command commands ih =>
      rw [CommandAction.answers, ih, List.length_cons, List.replicate_succ]
      rfl

omit [FloatOps] in
theorem zipWith_answered_too_many (commands : List Command) (most : Nat)
    (status : CommandStatus) :
    List.zipWith CommandResponseHandler.answered commands
        (List.replicate (commands.take most).length status ++
          List.replicate (commands.length - most) .tooManyOps) =
      (commands.take most).map (CommandResponseHandler.answered · status) ++
        (commands.drop most).map (CommandResponseHandler.answered · .tooManyOps) := by
  conv_lhs => rw [← List.take_append_drop most commands]
  rw [List.zipWith_append (by rw [List.length_replicate, List.take_append_drop]),
    List.take_append_drop, zipWith_answered_replicate, ← List.length_drop,
    zipWith_answered_replicate]

/-- Without a valid selection a request to operate is refused. -/
theorem refused_of_invalid (operates : service.request.header.function = .operate)
    (invalid : service.context.control.validateSelection service.context.sol.seq.num
      service.environment.now service.context.params.selectTimeout service.request.objects ≠
        .success) :
    service.Refused := by
  refine ⟨operated_eq_nil fun _ => invalid, ?_⟩
  obtain ⟨status, valid, kind⟩ : ∃ status,
      service.context.control.validateSelection service.context.sol.seq.num
        service.environment.now service.context.params.selectTimeout service.request.objects =
          status ∧ (status = .noSelect ∨ status = .timeout) := by
    rw [ControlState.validateSelection] at invalid ⊢
    repeat' split
    all_goals simp_all
  have action : service.context.commandAction service.environment service.request =
      some (.constant status) := by
    rw [OContext.commandAction, operates, valid]
    rcases kind with rfl | rfl <;> rfl
  refine ⟨status, (service.context.respondToNonReadRequest service.environment
    service.request).sol.tx.lastResponse, kind, ?_, fun commands parsed enough => ?_⟩
  · rw [OContext.log_respondToNonReadRequest, List.append_cons, List.getLast?_concat]
  · obtain ⟨writer, _⟩ := OContext.handled_command action enough
    obtain ⟨statuses, echoes, done, after, result, carried, written, bytes, answers⟩ :=
      (service.context.commandHandler (.constant status)).parse_of_commands service.environment
        parsed rfl enough
    have kept : CommandResponseHandler.writer
        (if done.isStarted = true then { done with log := done.log ++ [.call .finish] }
          else done) = some after := by
      split <;> exact written
    have given : statuses = List.replicate (service.context.passedOn commands).length status ++
        List.replicate (commands.length - service.context.params.maxControlsPerRequest.toNat)
          .tooManyOps := by
      refine carried.statuses.trans ?_
      rw [show (service.context.commandHandler (.constant status)).action = .constant status from
        rfl, answers_constant]
      rfl
    rw [result] at writer
    rw [OContext.objects_respondToNonReadRequest, writer, kept, Option.getD_some, bytes]
    rw [given] at answers
    exact (CommandHeader.parseCommands_bytes echoes).trans
      (congrArg Except.ok (answers.trans (zipWith_answered_too_many ..)))

end Service

namespace OContext

variable [FloatOps] {config : EventBufferConfig} {environment : Environment}
  {request : ParsedRequest} {context after : OContext} {services more : List Service}

/-! ## What is operated -/

theorem operatedIn_respondToNonReadRequest (other : request.header.function ≠ .read) :
    operatedIn (context.respondToNonReadRequest environment request).log =
      operatedIn context.log ++ Service.operated ⟨environment, request, context⟩ := by
  obtain ⟨calls, log, _⟩ : Calls (operatesOf request.header.function) context.log
      (context.handled environment request).2.2.log := handleNonReadResponse_calls ..
  have result : Service.result ⟨environment, request, context⟩ =
      (context.handled environment request).2.2 := Service.result_of_other other
  rw [Service.operated, result, log_respondToNonReadRequest, log, List.drop_left,
    operatedIn_append, operatedIn_append]
  exact List.append_nil _

omit [FloatOps] in
theorem RespondsWithData.operatedIn_eq {destination : UInt16} {seq : AppSeqNum}
    (responds : RespondsWithData config destination seq context after) :
    operatedIn after.log = operatedIn context.log := by
  rw [responds.log, operatedIn_append]
  exact List.append_nil _

/-- A request that is handled operates commands only if it is processed. -/
theorem operatedIn_of_handles {serials : List Nat}
    (marks : context.eventBuffer.Marks config serials)
    (handles : Handles environment request context after) :
    operatedIn after.log = operatedIn context.log ++
      (context.processed environment request).flatMap Service.operated := by
  have reads {service : Service} (isRead : service.request.header.function = .read) :
      [service].flatMap Service.operated = [] := by
    have none : service.operated = [] := Service.operated_eq_nil fun operates =>
      nomatch isRead.symm.trans operates
    rw [List.flatMap_singleton, none]
  have repeats (destination : UInt16) (repeated : OContext) :
      operatedIn (repeated.repeatResponseTx destination).log =
        operatedIn repeated.log ++ [] := operatedIn_append _ _
  cases handles with
  | ignored ignores =>
      have none : context.processed environment request = [] := by
        cases ignores with
        | confirm isConfirm _ _ => exact processed_of_confirm isConfirm
        | unsolicited _ unsolicited => rw [processed, if_pos (.inr unsolicited)]
      rw [none]
      exact (List.append_nil _).symm
  | confirmedLast awaits _ | confirmedEvents awaits _ | confirmedNull awaits _ =>
      rw [processed_of_confirm awaits.isConfirm]
      exact (List.append_nil _).symm
  | confirmedMore awaits _ continued =>
      have responds := continueMultiFragResponse_responds marks.clearWritten continued
      rw [processed_of_confirm awaits.isConfirm]
      exact responds.operatedIn_eq.trans (List.append_nil _).symm
  | readIdle requests responded =>
      have same : (context.numbered request).eventBuffer.Marks config serials := marks
      rw [processed_of_new requests (by simp), reads (of_decide_eq_true requests.isRead.symm)]
      exact (respondToReadRequest_responds same responded).operatedIn_eq.trans
        (List.append_nil _).symm
  | readWaiting requests responded =>
      have same : (context.numbered request).cancelConfirmTimer.eventBuffer.Marks config serials :=
        marks
      rw [processed_of_new requests (by simp), reads (of_decide_eq_true requests.isRead.symm)]
      exact (respondToReadRequest_responds same responded).operatedIn_eq.trans
        (List.append_nil _).symm
  | readHeld requests =>
      rw [processed_of_held requests]
      exact (List.append_nil _).symm
  | nonReadIdle requests | nonReadWaiting requests | nonReadUnsolicited requests =>
      rw [processed_of_new requests (by simp), prepared, requests.state, List.flatMap_singleton]
      exact operatedIn_respondToNonReadRequest (of_decide_eq_false requests.isRead.symm)
  | repeatReadIdle requests | repeatReadWaiting requests | repeatNonReadIdle requests
  | repeatNonReadWaiting requests | repeatNonReadUnsolicited requests =>
      rw [processed_of_repeat requests]
      exact repeats _ _
  | repeatReadHeld requests =>
      rw [processed_of_repeat requests]
      exact (List.append_nil _).symm

theorem operatedIn_of_reacts {input : Input} (regular : context.Regular config)
    (reacts : Reacts environment context input after) :
    operatedIn after.log = operatedIn context.log ++
      (context.received environment input).flatMap Service.operated := by
  obtain ⟨serials, marks⟩ := regular.marks
  cases reacts with
  | up _ | txReady _ _ => exact (List.append_nil _).symm
  | ignored _ refused =>
      rw [received, refused]
      exact (List.append_nil _).symm
  | @noAck message request _ accepted noAck =>
      have calls : Calls (some .directOperateNoAck) context.log
        (context.processRequestNoAck environment request).log := processRequestNoAck_calls request
      simp only [received, accepted, noAck, Bool.or_true, Bool.true_or, if_true]
      rw [calls.operatedIn_eq (by decide)]
      exact (List.append_nil _).symm
  | deferred _ accepted _ busy =>
      simp only [received, accepted, busy, Bool.or_true, if_true]
      exact (List.append_nil _).symm
  | handled online accepted acked free handles =>
      simp only [received, accepted, online, acked, free, Bool.not_true, Bool.or_false,
        Bool.false_eq_true, if_false]
      exact operatedIn_of_handles marks handles
  | timeout _ =>
      have same : context.cancelConfirmTimer.onConfirmTimeout.log = context.log := by
        rw [onConfirmTimeout]
        split
        · rfl
        · rfl
        · split <;> rfl
      rw [same]
      exact (List.append_nil _).symm
  | apply _ changed =>
      rw [session_changeAll changed]
      exact (List.append_nil _).symm

theorem operatedIn_of_resumes (regular : context.Regular config)
    (resumes : Resumes environment context after) :
    operatedIn after.log = operatedIn context.log ++
      (context.resumed environment).flatMap Service.operated := by
  obtain ⟨serials, marks⟩ := regular.marks
  cases resumes with
  | blocked cannot =>
      rw [resumed, if_neg (by simp [cannot])]
      exact (List.append_nil _).symm
  | none none =>
      rw [resumed, none, ite_self]
      exact (List.append_nil _).symm
  | kept deferred isRead busy =>
      simp only [resumed, deferred, if_pos (And.intro isRead busy), ite_self]
      exact (List.append_nil _).symm
  | handled can deferred free handles =>
      have idle : ¬(_ ∧ context.state ≠ .idle) := fun held => held.2 (free held.1)
      simp only [resumed, deferred, can, if_true, if_neg idle]
      exact operatedIn_of_handles marks handles

theorem operatedIn_of_reports (reports : Reports environment context after) :
    operatedIn after.log = operatedIn context.log := by
  cases reports with
  | nothing => rfl
  | null _ _ _ | events _ _ _ _ =>
      rw [(sendUnsolicited_responds environment context _).log, operatedIn_append]
      exact List.append_nil _

/-- What is operated in a step is what the requests operate that are processed in it. -/
theorem operatedIn_of_serves {input : Environment × Input} (regular : context.Regular config)
    (serves : context.Serves input services after) :
    operatedIn after.log = operatedIn context.log ++ services.flatMap Service.operated := by
  cases serves with
  | nothing _ | setRestartIIN => exact (List.append_nil _).symm
  | down online =>
      rw [onLowerLayerDown, if_neg (by simp [online])]
      exact (List.append_nil _).symm
  | starts reacts starts =>
      obtain ⟨resumed, resumes, reports⟩ := starts
      rw [operatedIn_of_reports reports, operatedIn_of_resumes (regular.reacts reacts) resumes,
        operatedIn_of_reacts regular reacts, List.flatMap_append, List.append_assoc]

theorem reaches_of_serving {start : OContext} (serving : start.Serving services context) :
    machine.Reaches start context := by
  induction serving with
  | start => exact .start
  | step _ success _ ih => exact ih.step trivial success

theorem operatedIn_of_serving {addresses : Addresses} {params : OutstationParams}
    {database : DatabaseBuffers}
    (serving : (initial addresses params config database).Serving services context) :
    operatedIn context.log = services.flatMap Service.operated := by
  induction serving with
  | start => rfl
  | step serving _ serves ih =>
      rw [operatedIn_of_serves (regular_of_reaches (reaches_of_serving serving)) serves, ih,
        List.flatMap_append]

/-! ## What a selection is used for -/

/-- What is remembered is the selection that was accepted last, and what it was used for. -/
structure Selected (services : List Service) (context : OContext) : Prop where
  control : context.control = {} ∨ ∃ selection, Last selection services ∧
    ∃ now, context.control =
      ControlState.select ⟨selection.request.header.control.seq⟩ now selection.request.objects
  used : ∀ service ∈ uses services,
    context.control.expectedSeq = ⟨service.request.header.control.seq⟩ ∧
      context.control.length = service.request.objects.length ∧
      context.control.digest = CRC.calcCrc service.request.objects
  once : Lawful Unspent services → Lawful Once services

theorem Selected.of_eq (selected : Selected services context)
    (same : after.control = context.control) : Selected services after := by
  refine ⟨?_, ?_, selected.once⟩
  · rw [same]
    exact selected.control
  · rw [same]
    exact selected.used

/-- A request is carried out once, or the condition is not met. -/
theorem Selected.once_of_unspent {service : Service}
    (selected : Selected services service.context)
    (numbered : service.context.sol.seq.num = ⟨service.request.header.control.seq⟩)
    (unspent : Unspent services service) : Once services service := by
  by_cases valid : service.context.control.validateSelection service.context.sol.seq.num
      service.environment.now service.context.params.selectTimeout service.request.objects =
        .success
  · obtain ⟨seq, notBefore, elapsed, length, digest⟩ := ControlState.valid_of_success valid
    have unused (operates : service.request.header.function = .operate) : uses services = [] := by
      refine List.eq_nil_iff_forall_not_mem.mpr fun earlier member => ?_
      obtain ⟨earlierSeq, earlierLength, earlierDigest⟩ := selected.used earlier member
      refine unspent operates earlier member ⟨?_, ?_, ?_⟩ ⟨notBefore, elapsed⟩
      · exact congrArg SequenceNum.seq (numbered.symm.trans (seq.symm.trans earlierSeq))
      · exact length.symm.trans earlierLength
      · exact digest.symm.trans earlierDigest
    obtain ⟨selection, last, now, control⟩ : ∃ selection, Last selection services ∧
        ∃ now, service.context.control = ControlState.select
          ⟨selection.request.header.control.seq⟩ now selection.request.objects := by
      rcases selected.control with none | found
      · rw [none] at length digest
        obtain empty := List.eq_nil_of_length_eq_zero length.symm
        rw [empty] at digest
        cases digest
      · exact found
    have available (operates : service.request.header.function = .operate) :=
      last.available (unused operates)
    refine ⟨fun operated => ?_, fun operates none => absurd (available operates) (none selection)⟩
    have operates := (Service.valid_of_operated operated).1
    refine ⟨operates, selection, available operates, ?_, ?_⟩
    · rw [control, numbered] at seq
      exact (congrArg SequenceNum.seq seq).symm
    · rw [control] at length digest
      exact sameDigest_of_eq length digest
  · exact ⟨fun operated => absurd (Service.valid_of_operated operated).2 valid,
      fun operates _ => Service.refused_of_invalid operates valid⟩

theorem carries_selected : Carries Selected where
  same := fun same selected => selected.of_eq same.control
  forgets := fun selected => selected.of_eq rfl
  leaves := by
    intro services service after leaves selected
    have once (unspent : Lawful Unspent (services ++ [service])) :
        Lawful Once (services ++ [service]) := by
      obtain ⟨before, now⟩ := Lawful.concat_iff.mp unspent
      exact (selected.once before).concat (selected.once_of_unspent leaves.numbered now)
    cases accepts : service.accepts with
    | true =>
        refine ⟨.inr ⟨service, ⟨services, [], rfl, accepts, List.forall_mem_nil _⟩,
          service.environment.now, ?_⟩, ?_, once⟩
        · rw [leaves.control, Service.control_result, if_pos accepts, leaves.numbered]
        · rw [uses_concat, if_pos accepts]
          exact List.forall_mem_nil _
    | false =>
        have control : after.control = service.context.control := by
          rw [leaves.control, Service.control_result, if_neg (by simp [accepts])]
        refine ⟨?_, ?_, once⟩
        · rw [control]
          refine selected.control.imp_right ?_
          rintro ⟨selection, ⟨earlier, later, rfl, accepted, none⟩, rest⟩
          refine ⟨selection, ⟨earlier, later ++ [service], by simp, accepted, ?_⟩, rest⟩
          intro other member
          rcases List.mem_append.mp member with before | here
          · exact none other before
          · exact List.mem_singleton.mp here ▸ accepts
        · rw [control, uses_concat, if_neg (by simp [accepts])]
          intro other member
          rcases List.mem_append.mp member with before | here
          · exact selected.used other before
          · by_cases operated : service.operated = []
            · simp [operated] at here
            · obtain rfl : other = service := by simpa [operated] using here
              obtain ⟨_, valid⟩ := Service.valid_of_operated operated
              obtain ⟨seq, _, _, length, digest⟩ := ControlState.valid_of_success valid
              exact ⟨seq.trans leaves.numbered, length, digest⟩

/-- Each selection is operated at most once, when no request to operate resembles one that was
carried out before. -/
theorem once_of_serving {addresses : Addresses} {params : OutstationParams}
    {database : DatabaseBuffers}
    (serving : (initial addresses params config database).Serving services context)
    (unspent : Lawful Unspent services) :
    operatedIn context.log = services.flatMap Service.operated ∧ Lawful Once services := by
  refine ⟨operatedIn_of_serving serving, ?_⟩
  have selected : Selected services context :=
    carries_selected.serving serving ⟨.inl rfl, List.forall_mem_nil _, fun _ => .nil⟩
  exact selected.once unspent

/-! ## Answers -/

/-- A request that is not a READ is answered at once, and nothing else is waiting. -/
def answersAtOnce (context : OContext) (message : Message) (request : ParsedRequest) : Bool :=
  decide (context.acceptMessage message = some request) && context.isOnline &&
    !context.isTransmitting && decide (context.state = .idle) && context.deferred.isNone &&
    !context.params.allowUnsolicited && decide (request.header.function ≠ .confirm) &&
    decide (request.header.function ≠ .read) && !request.header.function.isNoAckFuncCode &&
    !request.header.control.uns && !context.isRepeat request

/-- The request was answered, and the transmission is done. -/
def answered (environment : Environment) (context : OContext) (request : ParsedRequest) :
    OContext :=
  { (context.numbered request).respondToNonReadRequest environment request with
    isTransmitting := false }

theorem processMessage_of_nonRead {message : Message}
    (accepted : context.acceptMessage message = some request)
    (acked : request.header.function.isNoAckFuncCode = false)
    (free : context.isTransmitting = false)
    (requests : context.Requests request false false .idle) :
    context.processMessage environment message =
      some ((context.numbered request).respondToNonReadRequest environment request) := by
  have notRead := of_decide_eq_false requests.isRead.symm
  have idle : (context.numbered request).state = .idle := requests.state
  have processed : context.processNewRequest environment request =
      some ((context.numbered request).respondToNonReadRequest environment request) := by
    have responded : (context.numbered request).onNewNonReadRequest environment request =
        (context.numbered request).respondToNonReadRequest environment request := by
      rw [onNewNonReadRequest, idle]
    rw [processNewRequest, if_neg notRead]
    exact congrArg some responded
  rw [processMessage, accepted]
  simp only [processObjects, acked, free, if_neg requests.isRequest, processRequest,
    requests.solicited, onReceiveSolRequest, requests.isRepeat.symm, Bool.false_eq_true, if_false]
  exact processed

theorem Serving.answer {start : OContext} {message : Message}
    (serving : start.Serving services context)
    (atOnce : context.answersAtOnce message request = true) (environment : Environment) :
    start.Serving (services ++ [⟨environment, request, context.numbered request⟩])
      (context.answered environment request) := by
  simp only [answersAtOnce, Bool.and_eq_true, decide_eq_true_eq, Bool.not_eq_true',
    Option.isNone_iff_eq_none, ne_eq] at atOnce
  obtain ⟨⟨⟨⟨⟨⟨⟨⟨⟨⟨accepted, online⟩, free⟩, idle⟩, deferred⟩, quiet⟩, isRequest⟩, notRead⟩, acked⟩,
    solicited⟩, isNew⟩ := atOnce
  have requests : context.Requests request false false .idle :=
    ⟨isRequest, solicited, (decide_eq_false notRead).symm, isNew.symm, idle⟩
  have processed := @processMessage_of_nonRead _ environment _ _ _ accepted acked free requests
  have responds := respondToNonReadRequest_responds environment (context.numbered request) request
  generalize same : (context.numbered request).respondToNonReadRequest environment request =
    responded at processed responds
  have busy : responded.canTransmit = false := by
    rw [canTransmit, responds.isTransmitting, Bool.not_true, Bool.and_false]
  have first : start.Serving (services ++ [⟨environment, request, context.numbered request⟩])
      responded := by
    have success : context.step environment (.receive message) = some responded := by
      rw [OContext.step, onReceive, if_neg (by simp [online]), processed]
      exact checkForTaskStart_blocked busy
    have serves : context.Serves (environment, .receive message) _ responded :=
      .starts (.handled online accepted acked free (same ▸ .nonReadIdle requests))
        ⟨_, .blocked busy, .nothing⟩
    have received : context.received environment (.receive message) ++
        responded.resumed environment = [⟨environment, request, context.numbered request⟩] := by
      have processed := @processed_of_new environment _ _ _ _ requests (by simp)
      rw [prepared, idle] at processed
      simp [received, accepted, online, acked, free, processed, resumed, busy]
    exact received ▸ serving.step (machine_step success) serves
  have none : responded.deferred = none := responds.deferred.trans deferred
  have success : responded.step environment .txReady =
      some { responded with isTransmitting := false } := by
    have up : responded.isOnline = true := responds.isOnline.trans online
    rw [OContext.step, onTxReady, if_neg (by simp [up, responds.isTransmitting])]
    exact checkForTaskStart_quiet none
      ((congrArg OutstationParams.allowUnsolicited responds.params).trans quiet)
  have serves : responded.Serves (environment, .txReady) _
      { responded with isTransmitting := false } :=
    .starts (.txReady (responds.isOnline.trans online) responds.isTransmitting)
      ⟨_, .none none, .nothing⟩
  have nothing : responded.received environment .txReady ++
      ({ responded with isTransmitting := false } : OContext).resumed environment = [] := by
    simp [received, resumed, none]
  have done := first.step (machine_step success) serves
  rw [nothing, List.append_nil] at done
  rw [answered, same]
  exact done

end OContext

/-! ## An operation that is requested again -/

namespace OContext

/-- A request of the master, with a number. -/
def masterRequest (function : FunctionCode) (seq : UInt8) (objects : List UInt8) : ParsedRequest :=
  ⟨⟨1024, 1⟩, ⟨⟨true, true, false, false, seq⟩, function⟩, objects⟩

/-- An outstation that has come online. -/
def online : OContext := { onePoint {} with isOnline := true }

/-- The outstation after requests that it answers one after the other. -/
def answeredAll (requests : List ParsedRequest) : OContext :=
  requests.foldl (@answered .atZero .accepting) online

/-- The next request is processed. -/
def serviceAfter (requests : List ParsedRequest) (request : ParsedRequest) : Service :=
  ⟨.accepting, request, (answeredAll requests).numbered request⟩

theorem serving_online [FloatOps] : (onePoint {}).Serving [] online := by
  have serves : (onePoint {}).Serves (.accepting, .lowerLayerUp) [] online :=
    .starts (.up rfl) ⟨_, .none rfl, .nothing⟩
  exact Serving.start.step (machine_step rfl) serves

/-- Select the first relay and operate it. -/
def operation : List ParsedRequest :=
  [masterRequest .select 0 pulse, masterRequest .operate 1 pulse]

theorem serving_operation : @Serving .atZero (onePoint {})
    [serviceAfter [] (masterRequest .select 0 pulse),
      serviceAfter [masterRequest .select 0 pulse] (masterRequest .operate 1 pulse)]
    (answeredAll operation) := by
  have selected := @Serving.answer .atZero _ _ _ _ ⟨⟨1024, 1⟩, 0xC0 :: 0x03 :: pulse⟩
    (@serving_online .atZero)
    (show answersAtOnce _ _ (masterRequest .select 0 pulse) = true by decide +kernel) .accepting
  exact @Serving.answer .atZero _ _ _ _ ⟨⟨1024, 1⟩, 0xC1 :: 0x04 :: pulse⟩ selected
    (show answersAtOnce _ _ (masterRequest .operate 1 pulse) = true by decide +kernel) .accepting

/-- After a request to measure the delay, the same operation is carried out again. -/
theorem operates_twice :
    ∃ (services : List Service) (context : OContext),
      @Serving .atZero (onePoint {}) services context ∧
        ¬(operatedIn context.log = services.flatMap (@Service.operated .atZero) ∧
          Lawful (@Once .atZero) services) := by
  have measured := @Serving.answer .atZero _ _ _ _ ⟨⟨1024, 1⟩, [0xC2, 0x17]⟩ serving_operation
    (show answersAtOnce _ _ (masterRequest .delayMeasure 2 []) = true by decide +kernel) .accepting
  have again := @Serving.answer .atZero _ _ _ _ ⟨⟨1024, 1⟩, 0xC1 :: 0x04 :: pulse⟩ measured
    (show answersAtOnce _ _ (masterRequest .operate 1 pulse) = true by decide +kernel) .accepting
  refine ⟨_, _, again, fun claimed => ?_⟩
  have last := (@Lawful.concat_iff _ (@Once .atZero) _ _).mp claimed.2
  obtain ⟨_, selection, available, _⟩ := @Once.once .atZero _ _ last.2 (by decide +kernel)
  have used := congrArg List.isEmpty (@Available.uses_eq_nil .atZero _ _ available)
  revert used
  decide +kernel

/-- The operation is carried out once. -/
theorem once_of_serving_operation :
    ∃ services : List Service, @Serving .atZero (onePoint {}) services (answeredAll operation) ∧
      operatedIn (answeredAll operation).log = services.flatMap (@Service.operated .atZero) ∧
        Lawful (@Once .atZero) services := by
  refine ⟨_, serving_operation, @once_of_serving .atZero _ _ _ _ _ _ serving_operation ?_⟩
  have free (before : List Service) (service : Service)
      (unused : (@uses .atZero before).isEmpty = true) : @Unspent .atZero before service := by
    intro _ earlier member
    rw [List.isEmpty_iff.mp unused] at member
    cases member
  exact (Lawful.nil.concat (free [] _ rfl)).concat (free [_] _ (by decide +kernel))

end OContext

end OpenDnp3.Outstation
