import OpenDnp3.Outstation.CommandEcho
import OpenDnp3.Outstation.OutstationContext

/-!
# Selections

When a request to select is remembered, so that the same commands may be
operated.
-/

set_option autoImplicit false

namespace OpenDnp3.Outstation

open OpenDnp3.App OpenDnp3.Library

/-- The commands that are passed on to be selected. -/
def selectedIn (activities : List Activity) : List Command :=
  activities.filterMap fun
    | .call (.select type command) => some ⟨type, command⟩
    | _ => none

theorem selectedIn_calls (commands : List Command) :
    selectedIn (commands.flatMap CommandAction.select.calls) = commands := by
  induction commands with
  | nil => rfl
  | cons command commands ih =>
      rw [List.flatMap_cons, selectedIn, List.filterMap_append]
      exact congrArg (command :: ·) ih

theorem zipWith_answered_replicate (commands : List Command) (status : CommandStatus) :
    List.zipWith CommandResponseHandler.answered commands
        (List.replicate commands.length status) =
      commands.map (CommandResponseHandler.answered · status) := by
  induction commands with
  | nil => rfl
  | cons command commands ih =>
      rw [List.length_cons, List.replicate_succ, List.zipWith_cons_cons, ih, List.map_cons]

namespace OContext

variable [FloatOps] (context : OContext) (environment : Environment) (request : ParsedRequest)

/-- The request is remembered, whatever was selected before. -/
def RecordsSelection : Prop :=
  ∀ control, (respondToNonReadRequest environment { context with control } request).control =
    ControlState.select context.sol.seq.num environment.now request.objects

/-- Every command of the request is passed on to be selected, and its status in the response is
a success. -/
def SelectsAll : Prop :=
  ∃ commands activities fragment,
    parseCommands request.objects = .ok commands ∧
      (context.respondToNonReadRequest environment request).log =
        context.log ++ activities ++ [.beginTransmit request.addresses.source fragment []] ∧
      selectedIn activities = commands ∧
      parseCommands (fragment.drop 4) =
        .ok (commands.map (CommandResponseHandler.answered · .success))

/-- The space for the objects of a response. -/
def responseSpace : Nat := (context.sol.tx.buffer.drop 4).length

/-- The handler of the commands of a request to select. -/
def selectHandler : CommandResponseHandler :=
  { maxCommands := context.params.maxControlsPerRequest, action := .select,
    writer := some context.sol.tx.start.getWriter, log := context.log }

/-- The commands that are passed on: the first ones, as many as a request may have. -/
def passedOn (commands : List Command) : List Command :=
  commands.take context.params.maxControlsPerRequest.toNat

/-- What the code of the user answers when these commands are selected. -/
def answersTo (commands : List Command) : List CommandStatus :=
  CommandAction.select.answers environment (context.log ++ [.call .start]) commands

/-- What handles a request that is not a READ, and writes the objects of the response. -/
def handled : IINField × HeaderWriter × OContext :=
  handleNonReadResponse environment
    { context with history := .recordLastProcessedRequest request.header request.objects }
    request.header request.objects context.sol.tx.start.getWriter

theorem control_respondToNonReadRequest :
    (context.respondToNonReadRequest environment request).control =
      (context.handled environment request).2.2.control := rfl

theorem log_respondToNonReadRequest :
    (context.respondToNonReadRequest environment request).log =
      (context.handled environment request).2.2.log ++ [.call .getApplicationIIN,
        .beginTransmit request.addresses.source
          (context.respondToNonReadRequest environment request).sol.tx.lastResponse []] :=
  List.append_assoc _ _ _

theorem objects_respondToNonReadRequest :
    (context.respondToNonReadRequest environment request).sol.tx.lastResponse.drop 4 =
      (context.handled environment request).2.1.position.written := rfl

variable {context environment request}

theorem handled_select (isSelect : request.header.function = .select)
    (enough : request.objects.length ≤ context.responseSpace) (control : ControlState) :
    let result := context.selectHandler.parse environment request.objects
    let handled := handled { context with control } environment request
    handled.2.1 = result.2.writer.getD context.sol.tx.start.getWriter ∧
      handled.2.2.log = result.2.log ∧
      handled.2.2.control =
        if result.1 = none ∧ result.2.allCommandsSuccessful = true then
          ControlState.select context.sol.seq.num environment.now request.objects
        else control := by
  have room : ¬context.sol.tx.start.getWriter.remaining < request.objects.length :=
    Nat.not_lt.mpr enough
  simp only [handled, handleNonReadResponse, isSelect, handleSelect, if_neg room]
  exact ⟨rfl, rfl, rfl⟩

variable (context environment) in
/-- The first commands are passed on, the others are too many. The handler takes the request for
a success if no command that is passed on is refused. -/
structure SelectsFirst (commands : List Command)
    (result : Option ParseError × CommandResponseHandler) : Prop where
  parsed : result.1 = none
  log : ∃ activities, result.2.log = context.log ++ activities ∧
    selectedIn activities = context.passedOn commands
  allSuccessful : result.2.allCommandsSuccessful = true ↔
    ∀ status ∈ context.answersTo environment (context.passedOn commands), status = .success
  echoed : ∃ after, result.2.writer = some after ∧
    parseCommands after.position.written =
      .ok (List.zipWith CommandResponseHandler.answered commands
        (context.answersTo environment (context.passedOn commands) ++
          List.replicate (commands.length - context.params.maxControlsPerRequest.toNat)
            .tooManyOps))

variable (environment) in
theorem selectHandler_parse {commands : List Command}
    (parsed : parseCommands request.objects = .ok commands)
    (enough : request.objects.length ≤ context.responseSpace) :
    context.SelectsFirst environment commands
      (context.selectHandler.parse environment request.objects) := by
  obtain ⟨statuses, echoes, done, after, result, carried, written, bytes, answers⟩ :=
    context.selectHandler.parse_of_commands environment parsed rfl enough
  have given : statuses = context.answersTo environment (context.passedOn commands) ++
      List.replicate (commands.length - context.params.maxControlsPerRequest.toNat)
        .tooManyOps := carried.statuses
  have opened : done.begun = context.log ++ [.call .start] ++
      (context.passedOn commands).flatMap CommandAction.select.calls := carried.begun
  have started : done.isStarted = !(context.passedOn commands).isEmpty := by
    rw [carried.isStarted]
    rfl
  rw [result]
  constructor
  · rfl
  · cases isStarted : done.isStarted with
    | true =>
        rw [CommandResponseHandler.begun_of_started done (.inl isStarted)] at opened
        refine ⟨[.call .start] ++ (context.passedOn commands).flatMap
          CommandAction.select.calls ++ [.call .finish], ?_, ?_⟩
        · simp [opened]
        · rw [selectedIn, List.filterMap_append, List.filterMap_append]
          exact (List.append_nil _).trans (selectedIn_calls _)
    | false =>
        rw [isStarted] at started
        have none : context.passedOn commands = [] := by simpa using started
        have behind : done.begun = done.log ++ [.call .start] := by
          rw [CommandResponseHandler.begun, isStarted, carried.action]
          rfl
        rw [behind, none, List.flatMap_nil, List.append_nil] at opened
        refine ⟨[], ?_, none.symm⟩
        simpa using List.append_cancel_right opened
  · have requests : done.numRequests =
        min context.params.maxControlsPerRequest.toNat commands.length :=
      carried.numRequests.trans (Nat.zero_add _)
    have successes : done.numSuccess = statuses.count .success :=
      carried.numSuccess.trans (Nat.zero_add _)
    have length : (context.answersTo environment (context.passedOn commands)).length =
        min context.params.maxControlsPerRequest.toNat commands.length := by
      rw [answersTo, CommandAction.length_answers, passedOn, List.length_take]
    have many : (List.replicate (commands.length -
        context.params.maxControlsPerRequest.toNat) CommandStatus.tooManyOps).count .success =
          0 := by
      rw [List.count_replicate]
      rfl
    rw [given, List.count_append, many, Nat.add_zero] at successes
    have same : CommandResponseHandler.allCommandsSuccessful
        (if done.isStarted = true then { done with log := done.log ++ [.call .finish] }
          else done) = (done.numRequests == done.numSuccess) := by
      split <;> rfl
    rw [same, beq_iff_eq, requests, successes, ← length, eq_comm, List.count_eq_length]
    exact forall₂_congr fun status _ => eq_comm
  · refine ⟨after, ?_, ?_⟩
    · simp only
      split <;> exact written
    · rw [bytes, ← given, ← answers]
      exact CommandHeader.parseCommands_bytes echoes

omit [FloatOps] in
theorem exists_control_ne (control : ControlState) : ∃ other, other ≠ control := by
  refine ⟨{ control with length := control.length + 1 }, fun same => ?_⟩
  exact absurd (congrArg ControlState.length same) (Nat.succ_ne_self _)

theorem handled_select_of_small (isSelect : request.header.function = .select)
    (small : ¬request.objects.length ≤ context.responseSpace) (control : ControlState) :
    (handled { context with control } environment request).2.2.control = control := by
  have room : context.sol.tx.start.getWriter.remaining < request.objects.length :=
    Nat.not_le.mp small
  simp only [handled, handleNonReadResponse, isSelect, handleSelect, if_pos room]

/-- The handler decides whether a request is remembered. -/
theorem recordsSelection_iff_successful (isSelect : request.header.function = .select) :
    context.RecordsSelection environment request ↔
      request.objects.length ≤ context.responseSpace ∧
        (context.selectHandler.parse environment request.objects).1 = none ∧
        (context.selectHandler.parse environment request.objects).2.allCommandsSuccessful =
          true := by
  obtain ⟨other, different⟩ := exists_control_ne
    (ControlState.select context.sol.seq.num environment.now request.objects)
  by_cases enough : request.objects.length ≤ context.responseSpace
  · constructor
    · intro records
      refine ⟨enough, ?_⟩
      by_contra failed
      have kept := records other
      rw [control_respondToNonReadRequest, (handled_select isSelect enough other).2.2,
        if_neg failed] at kept
      exact different kept
    · intro ⟨_, successful⟩ control
      rw [control_respondToNonReadRequest, (handled_select isSelect enough control).2.2,
        if_pos successful]
  · constructor
    · intro records
      have kept := records other
      rw [control_respondToNonReadRequest, handled_select_of_small isSelect enough] at kept
      exact absurd kept different
    · exact fun successful => absurd successful.1 enough

/-- A request is remembered when its commands fit in the response and none that is passed on is
refused. -/
theorem recordsSelection_iff (isSelect : request.header.function = .select) :
    context.RecordsSelection environment request ↔
      request.objects.length ≤ context.responseSpace ∧
        ∃ commands, parseCommands request.objects = .ok commands ∧
          ∀ status ∈ context.answersTo environment (context.passedOn commands),
            status = .success := by
  rw [recordsSelection_iff_successful isSelect]
  refine and_congr_right fun enough => ?_
  cases parsed : parseCommands request.objects with
  | error error =>
      have failed : (context.selectHandler.parse environment request.objects).1 ≠ none := by
        rw [parseCommands] at parsed
        rw [CommandResponseHandler.parse]
        cases read : APDUParser.parse true CommandResponseHandler.isAllowed request.objects with
        | error error => simp
        | ok headers =>
            rw [read] at parsed
            cases parsed
      simp [failed]
  | ok commands =>
      have selects := selectHandler_parse environment parsed enough
      rw [selects.allSuccessful]
      simp [selects.parsed]

/-- When nothing that is passed on is refused, everything is selected as long as everything is
passed on. -/
theorem selectsAll_iff (isSelect : request.header.function = .select)
    (enough : request.objects.length ≤ context.responseSpace) {commands : List Command}
    (parsed : parseCommands request.objects = .ok commands)
    (successful : ∀ status ∈ context.answersTo environment (context.passedOn commands),
      status = .success) :
    context.SelectsAll environment request ↔
      commands.length ≤ context.params.maxControlsPerRequest.toNat := by
  have selects := selectHandler_parse environment parsed enough
  obtain ⟨activities, log, passed⟩ := selects.log
  obtain ⟨after, written, echoed⟩ := selects.echoed
  obtain ⟨writer, handledLog, _⟩ :
      (context.handled environment request).2.1 = _ ∧
        (context.handled environment request).2.2.log = _ ∧ _ :=
    handled_select isSelect enough context.control
  have logged := context.log_respondToNonReadRequest environment request
  rw [handledLog, log, List.append_assoc] at logged
  constructor
  · intro ⟨commands', activities', fragment, parsed', logged', selected, _⟩
    obtain rfl : commands = commands' := Except.ok.inj (parsed.symm.trans parsed')
    rw [logged, List.append_assoc] at logged'
    have same := List.append_cancel_left logged'
    have tail : activities ++ [.call .getApplicationIIN] = activities' := by
      have last := congrArg List.dropLast same
      rw [List.dropLast_concat] at last
      exact (List.dropLast_append_cons ..).symm.trans last
    rw [← tail, selectedIn, List.filterMap_append] at selected
    have taken : context.passedOn commands = commands :=
      passed.symm.trans ((List.append_nil _).symm.trans selected)
    exact List.take_eq_self_iff _ |>.mp taken
  · intro few
    have taken : context.passedOn commands = commands := List.take_of_length_le few
    have all : context.answersTo environment (context.passedOn commands) =
        List.replicate commands.length .success := by
      rw [List.eq_replicate_iff]
      refine ⟨?_, successful⟩
      rw [answersTo, CommandAction.length_answers, taken]
    refine ⟨commands, activities ++ [.call .getApplicationIIN],
      (context.respondToNonReadRequest environment request).sol.tx.lastResponse, parsed,
      ?_, ?_, ?_⟩
    · rw [logged]
      simp only [List.append_assoc]
      rfl
    · rw [selectedIn, List.filterMap_append]
      exact (List.append_nil _).trans (passed.trans taken)
    · rw [objects_respondToNonReadRequest, writer, written, Option.getD_some, echoed, all,
        Nat.sub_eq_zero_of_le few, List.replicate_zero, List.append_nil,
        zipWith_answered_replicate]

/-- A selection is remembered only if everything was selected, exactly when the request does not
fit, has no more commands than are passed on, or has one of these refused. -/
theorem records_only_if_selectsAll_iff (isSelect : request.header.function = .select) :
    (context.RecordsSelection environment request → context.SelectsAll environment request) ↔
      context.responseSpace < request.objects.length ∨
        ∀ commands, parseCommands request.objects = .ok commands →
          commands.length ≤ context.params.maxControlsPerRequest.toNat ∨
            ∃ status ∈ context.answersTo environment (context.passedOn commands),
              status ≠ .success := by
  rw [recordsSelection_iff isSelect]
  constructor
  · intro only
    by_cases enough : request.objects.length ≤ context.responseSpace
    · refine .inr fun commands parsed => ?_
      by_cases refused : ∃ status ∈ context.answersTo environment (context.passedOn commands),
          status ≠ .success
      · exact .inr refused
      · push Not at refused
        exact .inl ((selectsAll_iff isSelect enough parsed refused).mp
          (only ⟨enough, commands, parsed, refused⟩))
    · exact .inl (Nat.not_le.mp enough)
  · rintro condition ⟨enough, commands, parsed, successful⟩
    rcases condition with small | limited
    · omega
    · rcases limited commands parsed with few | ⟨status, member, refused⟩
      · exact (selectsAll_iff isSelect enough parsed successful).mpr few
      · exact absurd (successful status member) refused

end OContext

/-! ## Too many commands -/

/-- A request to select the points 0 and 1. -/
def selectTwo : ParsedRequest where
  addresses := ⟨1024, 1⟩
  header := ⟨⟨true, true, false, false, 0⟩, .select⟩
  objects := [12, 1, 23, 2, 0, 3, 1, 100, 0, 0, 0, 100, 0, 0, 0, 0,
    1, 3, 1, 100, 0, 0, 0, 100, 0, 0, 0, 0]

/-- The command to a point of the request. -/
def crobTo (index : UInt16) : Command :=
  ⟨.controlRelayOutputBlock, ⟨3, 1, 100, 100, .success⟩, index⟩

/-- With one command a request, the second one is too many and yet the request is remembered. -/
theorem selectTwo_recorded :
    ¬((@OContext.RecordsSelection .atZero (.onePoint { maxControlsPerRequest := 1 }) .accepting
        selectTwo) →
      @OContext.SelectsAll .atZero (.onePoint { maxControlsPerRequest := 1 }) .accepting
        selectTwo) := by
  intro only
  have enough : selectTwo.objects.length ≤
      OContext.responseSpace (.onePoint { maxControlsPerRequest := 1 }) := by decide +kernel
  have parsed : @parseCommands .atZero selectTwo.objects =
      .ok [crobTo 0, crobTo 1] := by decide +kernel
  have accepted : ∀ status ∈
      OContext.answersTo (.onePoint { maxControlsPerRequest := 1 }) .accepting
        (OContext.passedOn (.onePoint { maxControlsPerRequest := 1 }) [crobTo 0, crobTo 1]),
      status = .success := by decide +kernel
  have few := (@OContext.selectsAll_iff .atZero _ _ _ rfl enough _ parsed accepted).mp
    (only ((@OContext.recordsSelection_iff .atZero _ _ _ rfl).mpr
      ⟨enough, _, parsed, accepted⟩))
  exact absurd few (by decide)

/-- With two commands a request it is remembered because both are selected. -/
theorem selectTwo_condition :
    selectTwo.header.function = .select ∧
      ((@OContext.RecordsSelection .atZero (.onePoint { maxControlsPerRequest := 2 }) .accepting
          selectTwo) →
        @OContext.SelectsAll .atZero (.onePoint { maxControlsPerRequest := 2 }) .accepting
          selectTwo) := by
  refine ⟨rfl, (@OContext.records_only_if_selectsAll_iff .atZero _ _ _ rfl).mpr (.inr ?_)⟩
  intro commands parsed
  have two : @parseCommands .atZero selectTwo.objects = .ok [crobTo 0, crobTo 1] := by
    decide +kernel
  obtain rfl := Except.ok.inj (two.symm.trans parsed)
  exact .inl (by decide)

end OpenDnp3.Outstation
