import OpenDnp3.Outstation.Selections

/-!
# Command responses

The response to a request with commands is the request again, apart from the
statuses, and the commands are passed on once and in their order.
-/

set_option autoImplicit false

namespace OpenDnp3.Outstation

open OpenDnp3.App OpenDnp3.Library
open OpenDnp3.Master (CommandType)

/-! ## Statuses -/

/-- Commands as if none of them was answered yet. -/
def unanswered (type : CommandType) (values : List (Indexed type.Value)) :
    List (Indexed type.Value) :=
  values.map fun pair => ⟨setStatus type .success pair.value, pair.index⟩

/-- A header as if none of its commands was answered yet. -/
def withoutStatuses : Header → Header
  | .prefixOf record count .controlRelayOutputBlock values =>
      .prefixOf record count .controlRelayOutputBlock
        (unanswered .controlRelayOutputBlock values)
  | .prefixOf record count .analogOutputInt32 values =>
      .prefixOf record count .analogOutputInt32 (unanswered .analogOutputInt32 values)
  | .prefixOf record count .analogOutputInt16 values =>
      .prefixOf record count .analogOutputInt16 (unanswered .analogOutputInt16 values)
  | .prefixOf record count .analogOutputFloat32 values =>
      .prefixOf record count .analogOutputFloat32 (unanswered .analogOutputFloat32 values)
  | .prefixOf record count .analogOutputDouble64 values =>
      .prefixOf record count .analogOutputDouble64 (unanswered .analogOutputDouble64 values)
  | header => header

theorem setStatus_setStatus (type : CommandType) (first second : CommandStatus)
    (command : type.Value) :
    setStatus type second (setStatus type first command) = setStatus type second command := by
  cases type <;> rfl

namespace CommandResponseHandler

theorem unanswered_echo {type : CommandType} {values : List (Indexed type.Value)}
    {statuses : List CommandStatus} (length : statuses.length = values.length) :
    unanswered type (echo values statuses) = unanswered type values := by
  induction values generalizing statuses with
  | nil => rfl
  | cons pair values ih =>
      cases statuses with
      | nil => cases length
      | cons status statuses =>
          have rest := @ih statuses (Nat.succ.inj length)
          simp only [unanswered, echo] at rest ⊢
          rw [List.zipWith_cons_cons, List.map_cons, List.map_cons, rest, setStatus_setStatus]

theorem withoutStatuses_parsed (header : CommandHeader) (position : Nat) :
    withoutStatuses (header.parsed position) =
      .prefixOf (recordOf header.type.serializer.id header.index.countIndex position)
        (UInt16.ofNat header.values.length) header.type.objectType
        (unanswered header.type header.values) := by
  obtain ⟨type, index, values, _, _, _⟩ := header
  cases type with
  | controlRelayOutputBlock => rfl
  | analogOutputInt32 => rfl
  | analogOutputInt16 => rfl
  | analogOutputFloat32 => rfl
  | analogOutputDouble64 => rfl

theorem Echoed.withoutStatuses_eq {header echo : CommandHeader} (echoed : Echoed header echo)
    (position : Nat) :
    withoutStatuses (echo.parsed position) = withoutStatuses (header.parsed position) := by
  obtain ⟨statuses, length, rfl⟩ := echoed
  rw [withoutStatuses_parsed, withoutStatuses_parsed]
  simp only [CommandResponseHandler.echoed, length_echo length, unanswered_echo length]

/-- Headers that are echoed differ from the others in their statuses only. -/
theorem withoutStatuses_echoes {headers echoes : List CommandHeader}
    (echoed : List.Forall₂ Echoed headers echoes) (position : Nat) :
    (CommandHeader.parsedFrom position echoes).map withoutStatuses =
      (CommandHeader.parsedFrom position headers).map withoutStatuses := by
  induction echoed generalizing position with
  | nil => rfl
  | cons here _ ih =>
      rw [CommandHeader.parsedFrom, CommandHeader.parsedFrom, List.map_cons, List.map_cons, ih,
        here.withoutStatuses_eq]

/-! ## Space -/

variable (environment : Environment)

/-- There is space for the next command. -/
def Responding.Writes {type : CommandType} (responding : Responding type)
    (pair : Indexed type.Value) : Prop :=
  ∃ iterator position, responding.target = some (iterator, position) ∧
    (iterator.write position (setStatus type
      (responding.handler.processCommand environment type pair).1 pair.value)
        pair.index).isSome = true

/-- There is space for a header, and for each of its commands behind the others. -/
def HasRoom (handler : CommandResponseHandler) (header : CommandHeader) : Prop :=
  ∃ writer, handler.writer = some writer ∧
    let (iterator, writer) := writer.iterateOverCountWithPrefix header.index
      header.index.countIndex header.type.serializer
    iterator.isValid = true ∧
      ∀ before pair after, header.values = before ++ pair :: after →
        (before.foldl (process environment)
          ⟨handler, some (iterator, writer.position), .empty⟩).Writes environment pair

variable {environment}

theorem hasRoom {header : CommandHeader} {handler : CommandResponseHandler}
    {writer : HeaderWriter} (written : handler.writer = some writer)
    (enough : header.size ≤ writer.remaining) : handler.HasRoom environment header := by
  have positive := List.length_pos_iff.mpr header.nonempty
  have first := Nat.le_mul_of_pos_left (header.type.serializer.size + header.index.size) positive
  rw [CommandHeader.size, HeaderWriter.remaining] at enough
  obtain ⟨valid, size⟩ := writer.iterateOverCountWithPrefix_of_room header.index
    header.type.serializer (by omega)
  refine ⟨writer, written, ?_⟩
  rcases made : writer.iterateOverCountWithPrefix header.index header.index.countIndex
    header.type.serializer with ⟨iterator, started⟩
  rw [made] at valid size
  refine ⟨valid, ?_⟩
  intro before pair after split
  rcases writer.iterateOverCountWithPrefix_cases _ _ made with ⟨invalid, _⟩ | start
  · rw [invalid] at valid
    cases valid
  · have left : started.position.size = writer.position.size - (3 + header.index.size) := size
    have total : header.values.length = before.length + (after.length + 1) := by
      rw [split, List.length_append, List.length_cons]
    have taken : header.values.length * (header.type.serializer.size + header.index.size) =
        before.length * (header.type.serializer.size + header.index.size) +
          (after.length * (header.type.serializer.size + header.index.size) +
            (header.type.serializer.size + header.index.size)) := by
      rw [total, Nat.add_mul, Nat.succ_mul]
    obtain ⟨iterator', position, target, holds, behind⟩ :=
      target_foldl_process start.holds before handler .empty (by simp only; omega)
    obtain ⟨next, more, _⟩ := holds.write_of_room
      (setStatus header.type ((before.foldl (process environment)
        ⟨handler, some (iterator, started.position), .empty⟩).handler.processCommand environment
          header.type pair).1 pair.value) pair.index
      (header.type.descriptor.codec.length_write _) (by simp only at behind; omega)
    exact ⟨iterator', position, target, by rw [more]; rfl⟩

end CommandResponseHandler

/-! ## Requests -/

/-- The commands that are passed on, and what for. -/
def passedIn (activities : List Activity) : List (CommandAction × Command) :=
  activities.filterMap fun
    | .call (.select type command) => some (.select, ⟨type, command⟩)
    | .call (.operate type command opType) => some (.operate opType, ⟨type, command⟩)
    | _ => none

theorem passedIn_append (activities others : List Activity) :
    passedIn (activities ++ others) = passedIn activities ++ passedIn others :=
  List.filterMap_append

theorem passedIn_calls {action : CommandAction} (isPassed : action.isPassed = true)
    (commands : List Command) :
    passedIn (commands.flatMap action.calls) = commands.map fun command => (action, command) := by
  induction commands with
  | nil => rfl
  | cons command commands ih =>
      rw [List.flatMap_cons, passedIn_append, ih, List.map_cons]
      cases action with
      | select => rfl
      | operate opType => rfl
      | constant status => cases isPassed

/-- What a handler that was not started yet passes on. -/
theorem CommandResponseHandler.Carried.exists_passed {environment : Environment}
    {handler done : CommandResponseHandler} {commands : List Command}
    {statuses : List CommandStatus}
    (carried : handler.Carried environment commands (statuses, done))
    (fresh : handler.isStarted = false) (isPassed : handler.action.isPassed = true) :
    ∃ activities, done.log = handler.log ++ activities ∧
      passedIn activities =
        (commands.take handler.room).map fun command => (handler.action, command) := by
  have opened : done.begun = handler.log ++ [.call .start] ++
      (commands.take handler.room).flatMap handler.action.calls := by
    have start : handler.begun = handler.log ++ [.call .start] := by
      rw [CommandResponseHandler.begun, fresh, CommandAction.opening, isPassed]
      rfl
    rw [← start]
    exact carried.begun
  have started : done.isStarted = !(commands.take handler.room).isEmpty := by
    rw [carried.isStarted, fresh, isPassed]
    rfl
  cases isStarted : done.isStarted with
  | true =>
      rw [CommandResponseHandler.begun_of_started done (.inl isStarted)] at opened
      refine ⟨_, opened.trans (List.append_assoc ..), ?_⟩
      rw [passedIn_append, passedIn_calls isPassed]
      rfl
  | false =>
      rw [isStarted] at started
      have none : commands.take handler.room = [] := by simpa using started
      have behind : done.begun = done.log ++ [.call .start] := by
        rw [CommandResponseHandler.begun, isStarted, carried.action, CommandAction.opening,
          isPassed]
        rfl
      rw [behind, none, List.flatMap_nil, List.append_nil] at opened
      refine ⟨[], ?_, by rw [none]; rfl⟩
      rw [List.append_nil]
      exact List.append_cancel_right opened

/-- Both lists are split where the second one is. -/
theorem exists_split_of_forall₂ {α β : Type} {related : α → β → Prop} {left : List α}
    {before after : List β} {here : β}
    (all : List.Forall₂ related left (before ++ here :: after)) :
    ∃ first middle last, left = first ++ middle :: last ∧
      List.Forall₂ related first before ∧ related middle here := by
  induction before generalizing left with
  | nil =>
      cases all with
      | cons one _ => exact ⟨[], _, _, rfl, .nil, one⟩
  | cons other before ih =>
      cases all with
      | cons one others =>
          obtain ⟨first, middle, last, rfl, some, rest⟩ := ih others
          exact ⟨_ :: first, middle, last, rfl, .cons one some, rest⟩

namespace OContext

variable (context : OContext) (environment : Environment) (request : ParsedRequest)

/-- Where the commands of a request go. -/
def commandAction : Option CommandAction :=
  match request.header.function with
  | .select => some .select
  | .directOperate => some (.operate .directOperate)
  | .operate =>
      match context.control.validateSelection context.sol.seq.num environment.now
          context.params.selectTimeout request.objects with
      | .success => some (.operate .selectBeforeOperate)
      | status => some (.constant status)
  | _ => none

/-- The handler of the commands of a request. -/
def commandHandler (action : CommandAction) : CommandResponseHandler :=
  { maxCommands := context.params.maxControlsPerRequest, action,
    writer := some context.sol.tx.start.getWriter, log := context.log }

variable [FloatOps]

/-- The request is echoed, and its commands are passed on. -/
structure EchoesCommands (action : CommandAction) (headers : List Header) : Prop where
  /-- The headers of the response differ from those of the request in their statuses only. -/
  echoed : ∃ echoes,
    APDUParser.parse true CommandResponseHandler.isAllowed
        ((context.respondToNonReadRequest environment request).sol.tx.lastResponse.drop 4) =
      .ok echoes ∧ echoes.map withoutStatuses = headers.map withoutStatuses
  /-- The writer never runs out of space. -/
  hasRoom : ∀ before header after, headers = before ++ header :: after →
    ∃ described : CommandHeader, described.Describes header ∧
      (before.foldl (CommandResponseHandler.onHeader environment)
        (context.commandHandler action)).HasRoom environment described
  /-- The first commands are passed on, as many as a request may have. -/
  passed : ∃ activities,
    (context.respondToNonReadRequest environment request).log =
        context.log ++ activities ++ [.beginTransmit request.addresses.source
          (context.respondToNonReadRequest environment request).sol.tx.lastResponse []] ∧
      passedIn activities =
        if action.isPassed then
          ((headers.flatMap commandsIn).take context.params.maxControlsPerRequest.toNat).map
            fun command => (action, command)
        else []

variable {context environment request}

theorem handled_command {action : CommandAction}
    (commands : context.commandAction environment request = some action)
    (enough : request.objects.length ≤ context.responseSpace) :
    let result := (context.commandHandler action).parse environment request.objects
    (context.handled environment request).2.1 =
        result.2.writer.getD context.sol.tx.start.getWriter ∧
      (context.handled environment request).2.2.log =
        if action.isPassed then result.2.log else context.log := by
  have room : ¬context.sol.tx.start.getWriter.remaining < request.objects.length :=
    Nat.not_lt.mpr enough
  rw [commandAction] at commands
  cases function : request.header.function with
  | select =>
      rw [function] at commands
      cases commands
      simp only [handled, handleNonReadResponse, function, handleSelect, if_neg room]
      exact ⟨rfl, rfl⟩
  | directOperate =>
      rw [function] at commands
      cases commands
      simp only [handled, handleNonReadResponse, function, handleDirectOperate, Option.any_some,
        decide_eq_true_eq, if_neg room]
      exact ⟨rfl, rfl⟩
  | operate =>
      rw [function] at commands
      simp only [handled, handleNonReadResponse, function, handleOperate, if_neg room]
      cases valid : context.control.validateSelection context.sol.seq.num environment.now
        context.params.selectTimeout request.objects with
      | success =>
          simp only [valid, Option.some.injEq] at commands
          subst commands
          exact ⟨rfl, rfl⟩
      | _ =>
          simp only [valid, Option.some.injEq] at commands
          subst commands
          exact ⟨rfl, rfl⟩
  | _ =>
      rw [function] at commands
      cases commands

omit [FloatOps] in
theorem hasRoom_commandHandler {action : CommandAction} {headers : List CommandHeader}
    (enough : (headers.map CommandHeader.size).sum ≤ context.responseSpace)
    {before after : List Header} {header : Header}
    (split : CommandHeader.parsedFrom 0 headers = before ++ header :: after) :
    ∃ described : CommandHeader, described.Describes header ∧
      (before.foldl (CommandResponseHandler.onHeader environment)
        (context.commandHandler action)).HasRoom environment described := by
  have all := CommandHeader.describes_parsedFrom headers 0
  rw [split] at all
  obtain ⟨first, middle, last, rfl, others, describes⟩ := exists_split_of_forall₂ all
  rw [List.map_append, List.sum_append, List.map_cons, List.sum_cons] at enough
  have start : context.sol.tx.start.getWriter.remaining = context.responseSpace := rfl
  obtain ⟨_, _, writer, _, written, _, remaining, _⟩ :=
    CommandResponseHandler.foldl_onHeader environment others (context.commandHandler action)
      (show (context.commandHandler action).writer = some context.sol.tx.start.getWriter from rfl)
      (by omega)
  refine ⟨middle, describes, CommandResponseHandler.hasRoom written ?_⟩
  rw [remaining]
  omega

/-- The response echoes every command of the request, and the first ones are passed on. -/
theorem echoesCommands_of_parse
    (isCommand : request.header.function ∈ [.select, .operate, .directOperate])
    {headers : List Header}
    (parsed : APDUParser.parse true CommandResponseHandler.isAllowed request.objects =
      .ok headers)
    (enough : request.objects.length ≤ context.responseSpace) :
    ∃ action, context.commandAction environment request = some action ∧
      context.EchoesCommands environment request action headers := by
  have commands : ∃ action, context.commandAction environment request = some action := by
    rw [commandAction]
    simp only [List.mem_cons, List.not_mem_nil, or_false] at isCommand
    rcases isCommand with is | is | is
    · exact ⟨.select, by rw [is]⟩
    · rw [is]
      simp only
      split
      · exact ⟨_, rfl⟩
      · exact ⟨_, rfl⟩
    · exact ⟨.operate .directOperate, by rw [is]⟩
  obtain ⟨action, commands⟩ := commands
  obtain ⟨listed, rfl, length⟩ := CommandHeader.exists_of_parse parsed
  obtain ⟨writer, log⟩ := handled_command commands enough
  obtain ⟨statuses, echoes, done, after, result, carried, written, bytes, echoed, _⟩ :=
    (context.commandHandler action).parse_of_headers environment parsed
      (show (context.commandHandler action).writer = some context.sol.tx.start.getWriter from rfl)
      (length ▸ enough)
  rw [result] at writer log
  refine ⟨action, commands, ?_, fun before header after split =>
    hasRoom_commandHandler (by omega) split, ?_⟩
  · refine ⟨CommandHeader.parsedFrom 0 echoes, ?_,
      CommandResponseHandler.withoutStatuses_echoes echoed 0⟩
    have kept : CommandResponseHandler.writer
        (if done.isStarted = true then { done with log := done.log ++ [.call .finish] }
          else done) = some after := by
      split <;> exact written
    rw [objects_respondToNonReadRequest, writer, kept, Option.getD_some, bytes]
    exact APDUParser.parse_of_allowed (CommandHeader.parses_bytes echoes 0)
      (CommandHeader.isAllowed_parsedFrom echoes 0)
  · have logged := context.log_respondToNonReadRequest environment request
    have all : (CommandHeader.parsedFrom 0 listed).flatMap commandsIn =
        CommandResponseHandler.allCommands listed := CommandHeader.commandsIn_parsedFrom listed 0
    rw [log] at logged
    cases isPassed : action.isPassed with
    | false =>
        refine ⟨[.call .getApplicationIIN], ?_, rfl⟩
        rw [logged, isPassed]
        simp only [Bool.false_eq_true, if_false, List.append_assoc]
        rfl
    | true =>
        obtain ⟨activities, more, passed⟩ := carried.exists_passed rfl isPassed
        rw [isPassed, if_pos rfl] at logged
        have ends : ∃ finish, passedIn finish = [] ∧ CommandResponseHandler.log
            (if done.isStarted = true then { done with log := done.log ++ [.call .finish] }
              else done) = context.log ++ activities ++ finish := by
          split
          · exact ⟨[.call .finish], rfl, by rw [more]; rfl⟩
          · exact ⟨[], rfl, by rw [more, List.append_nil]; rfl⟩
        obtain ⟨finish, none, ends⟩ := ends
        refine ⟨activities ++ finish ++ [.call .getApplicationIIN], ?_, ?_⟩
        · rw [logged, ends]
          simp only [List.append_assoc]
          rfl
        · rw [passedIn_append, passedIn_append, passed, none, all, List.append_nil, if_pos rfl]
          exact List.append_nil _

end OContext

/-- The two points of the request are selected one after the other, when there is room for two
commands. -/
theorem echoesCommands_selectTwo :
    ∃ action, OContext.commandAction (.onePoint { maxControlsPerRequest := 2 }) .accepting
        selectTwo = some action ∧
      @OContext.EchoesCommands (.onePoint { maxControlsPerRequest := 2 }) .accepting selectTwo
        .atZero action
        [(⟨.controlRelayOutputBlock, .uint8, [⟨⟨3, 1, 100, 100, .success⟩, 0⟩,
          ⟨⟨3, 1, 100, 100, .success⟩, 1⟩], by decide, by decide, by decide⟩ :
            CommandHeader).parsed 0] :=
  @OContext.echoesCommands_of_parse _ _ selectTwo .atZero (by decide) _ (by decide +kernel)
    (by decide +kernel)

end OpenDnp3.Outstation
