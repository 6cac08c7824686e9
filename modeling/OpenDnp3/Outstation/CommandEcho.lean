import OpenDnp3.Outstation.CommandHeaders

/-!
# Command responses

Which commands of a request reach the command handler, what the statuses in the
response are, and when a selection is remembered.
-/

set_option autoImplicit false

namespace OpenDnp3.Outstation

open OpenDnp3.App OpenDnp3.Library
open OpenDnp3.Master (CommandType)

/-! ## Answers -/

namespace CommandAction

variable (environment : Environment)

def isPassed : CommandAction → Bool
  | .constant _ => false
  | _ => true

/-- What is called before the first command. -/
def opening (action : CommandAction) : List Activity :=
  if action.isPassed then [.call .start] else []

def calls : CommandAction → Command → List Activity
  | .select, ⟨type, command⟩ => [.call (.select type command)]
  | .operate opType, ⟨type, command⟩ => [.call (.operate type command opType)]
  | .constant _, _ => []

def answer : CommandAction → List Activity → Command → CommandStatus
  | .select, log, ⟨type, command⟩ => environment.application log (.select type command)
  | .operate opType, log, ⟨type, command⟩ =>
      environment.application log (.operate type command opType)
  | .constant status, _, _ => status

/-- The answers to commands that are passed on one after the other. -/
def answers (action : CommandAction) : List Activity → List Command → List CommandStatus
  | _, [] => []
  | log, command :: commands =>
      action.answer environment log command ::
        answers action (log ++ action.calls command) commands

theorem answers_append (action : CommandAction) (log : List Activity)
    (commands others : List Command) :
    action.answers environment log (commands ++ others) =
      action.answers environment log commands ++
        action.answers environment (log ++ commands.flatMap action.calls) others := by
  induction commands generalizing log with
  | nil => simp [answers]
  | cons command commands ih => simp [answers, ih]

@[simp] theorem length_answers (action : CommandAction) (log : List Activity)
    (commands : List Command) :
    (action.answers environment log commands).length = commands.length := by
  induction commands generalizing log with
  | nil => rfl
  | cons command commands ih => rw [answers, List.length_cons, List.length_cons, ih]

end CommandAction

/-! ## Carrying out -/

namespace CommandResponseHandler

variable (environment : Environment)

/-- Carry out a command and count a success. -/
def carryOutOne (handler : CommandResponseHandler) (command : Command) :
    CommandStatus × CommandResponseHandler :=
  let (status, handler) := handler.processCommand environment command.1 command.2
  (status,
    if status = .success then { handler with numSuccess := handler.numSuccess + 1 } else handler)

/-- Carry out commands whatever headers they are in. -/
def carryOut : CommandResponseHandler → List Command →
    List CommandStatus × CommandResponseHandler
  | handler, [] => ([], handler)
  | handler, command :: commands =>
      let (status, handler) := handler.carryOutOne environment command
      let (statuses, handler) := carryOut handler commands
      (status :: statuses, handler)

/-- The log once the adapter is started. -/
def begun (handler : CommandResponseHandler) : List Activity :=
  handler.log ++ if handler.isStarted then [] else handler.action.opening

theorem begun_of_started (handler : CommandResponseHandler)
    (started : handler.isStarted = true ∨ handler.action.isPassed = false) :
    handler.begun = handler.log := by
  rcases started with started | constant
  · simp [begun, started]
  · simp [begun, CommandAction.opening, constant]

/-- How many more commands may be carried out. -/
def room (handler : CommandResponseHandler) : Nat :=
  handler.maxCommands.toNat - handler.numRequests

theorem act_eq (handler : CommandResponseHandler) (command : Command) :
    handler.act environment command.1 command.2 =
      (handler.action.answer environment handler.begun command,
        { handler with
          isStarted := handler.isStarted || handler.action.isPassed
          log := handler.begun ++ handler.action.calls command }) := by
  obtain ⟨maxCommands, action, writer, log, isStarted, numRequests, numSuccess, errors⟩ := handler
  cases action <;> cases isStarted <;>
    simp [act, checkStart, begun, CommandAction.opening, CommandAction.isPassed,
      CommandAction.answer, CommandAction.calls, Environment.ask]

/-- What carrying out commands does: those that there is room for are answered, the others are
too many. -/
structure Carried (handler : CommandResponseHandler) (commands : List Command)
    (result : List CommandStatus × CommandResponseHandler) : Prop where
  statuses : result.1 =
    handler.action.answers environment handler.begun (commands.take handler.room) ++
      List.replicate (commands.length - handler.room) .tooManyOps
  begun : result.2.begun =
    handler.begun ++ (commands.take handler.room).flatMap handler.action.calls
  isStarted : result.2.isStarted =
    (handler.isStarted || (handler.action.isPassed && !(commands.take handler.room).isEmpty))
  numRequests : result.2.numRequests = handler.numRequests + min handler.room commands.length
  numSuccess : result.2.numSuccess = handler.numSuccess + result.1.count .success
  maxCommands : result.2.maxCommands = handler.maxCommands
  action : result.2.action = handler.action

variable {environment} {handler : CommandResponseHandler}

theorem Carried.nil : handler.Carried environment [] ([], handler) :=
  ⟨by simp [CommandAction.answers], by simp, by simp, by simp, by simp, rfl, rfl⟩

/-- Commands are carried out after others as if they had come with them. -/
theorem Carried.append {commands others : List Command}
    {first second : List CommandStatus × CommandResponseHandler}
    (carried : handler.Carried environment commands first)
    (more : first.2.Carried environment others second) :
    handler.Carried environment (commands ++ others) (first.1 ++ second.1, second.2) := by
  have left : first.2.room = handler.room - commands.length := by
    have total := carried.numRequests
    rw [room] at total
    rw [room, room, carried.maxCommands, total]
    omega
  have taken : (commands ++ others).take handler.room =
      commands.take handler.room ++ others.take first.2.room := by
    rw [List.take_append, left]
  constructor
  · simp only
    rw [carried.statuses, more.statuses, carried.begun, carried.action, taken,
      CommandAction.answers_append, List.length_append]
    rcases Nat.le_total commands.length handler.room with few | many
    · have none : commands.length - handler.room = 0 := by omega
      have rest : others.length - first.2.room =
          commands.length + others.length - handler.room := by omega
      simp [none, rest]
    · have none : first.2.room = 0 := by omega
      have rest : commands.length + others.length - handler.room =
          commands.length - handler.room + others.length := by omega
      simp [none, rest, CommandAction.answers, List.replicate_append_replicate]
  · rw [more.begun, carried.begun, carried.action, taken, List.flatMap_append, List.append_assoc]
  · rw [more.isStarted, carried.isStarted, carried.action, taken]
    cases commands.take handler.room <;> cases handler.isStarted <;>
      cases handler.action.isPassed <;> simp
  · have total := carried.numRequests
    rw [more.numRequests, total, left, List.length_append]
    omega
  · rw [more.numSuccess, carried.numSuccess, List.count_append, Nat.add_assoc]
  · exact more.maxCommands.trans carried.maxCommands
  · exact more.action.trans carried.action

theorem carryOutOne_carried (command : Command) :
    handler.Carried environment [command]
      ([(handler.carryOutOne environment command).1],
        (handler.carryOutOne environment command).2) := by
  by_cases within : handler.numRequests < handler.maxCommands.toNat
  · have some : handler.room ≠ 0 := by
      rw [room]
      omega
    have taken : [command].take handler.room = [command] :=
      List.take_of_length_le (Nat.one_le_iff_ne_zero.mpr some)
    have few : 1 - handler.room = 0 := by omega
    have least : min handler.room 1 = 1 := by omega
    have started : (handler.isStarted || handler.action.isPassed) = true ∨
        handler.action.isPassed = false := by
      cases handler.isStarted <;> cases handler.action.isPassed <;> simp
    generalize answered : handler.action.answer environment handler.begun command = status
    have result : handler.carryOutOne environment command =
        (status,
          { handler with
            isStarted := handler.isStarted || handler.action.isPassed
            log := handler.begun ++ handler.action.calls command
            numRequests := handler.numRequests + 1
            numSuccess := handler.numSuccess + [status].count .success }) := by
      have same : CommandResponseHandler.begun
          { handler with numRequests := handler.numRequests + 1 } = handler.begun := rfl
      rw [carryOutOne, processCommand, if_pos within, act_eq]
      simp only [same, answered]
      by_cases success : status = .success
      · simp [success]
      · simp [success]
    rw [result]
    exact ⟨by simp [taken, few, CommandAction.answers, answered],
      by rw [taken, List.flatMap_singleton]; exact begun_of_started _ started,
      by simp [taken], by simp [least], rfl, rfl, rfl⟩
  · have none : handler.room = 0 := by
      rw [room]
      omega
    have result : handler.carryOutOne environment command = (.tooManyOps, handler) := by
      rw [carryOutOne, processCommand, if_neg within]
      rfl
    rw [result]
    exact ⟨by simp [none, CommandAction.answers], by simp [none], by simp [none],
      by simp [none], by simp, rfl, rfl⟩

theorem carryOut_carried (commands : List Command) :
    handler.Carried environment commands (handler.carryOut environment commands) := by
  induction commands generalizing handler with
  | nil => exact .nil
  | cons command commands ih => exact (carryOutOne_carried command).append ih

/-! ## Echoes -/

section echo

variable {type : CommandType}

/-- Commands with the statuses they were given. -/
def echo (values : List (Indexed type.Value)) (statuses : List CommandStatus) :
    List (Indexed type.Value) :=
  List.zipWith (fun pair status => ⟨setStatus type status pair.value, pair.index⟩) values statuses

variable (environment) in
theorem handler_foldl_process (values : List (Indexed type.Value)) (responding : Responding type) :
    (values.foldl (process environment) responding).handler =
      (responding.handler.carryOut environment (commandsOf values)).2 := by
  induction values generalizing responding with
  | nil => rfl
  | cons pair values ih =>
      rw [List.foldl_cons, ih]
      rfl

/-- An iterator with room for the commands echoes them all. -/
theorem target_foldl_process {index : IndexType} {origin : List UInt8}
    {entries : List (Indexed type.Value)} {iterator : PrefixedWriteIterator type.Value}
    {position : Cursor}
    (holds : iterator.Holds position index origin type.serializer entries)
    (values : List (Indexed type.Value)) (handler : CommandResponseHandler) (ret : IINField)
    (enough : values.length * (type.serializer.size + index.size) ≤ position.size) :
    ∃ iterator' position', (values.foldl (process environment)
        ⟨handler, some (iterator, position), ret⟩).target = some (iterator', position') ∧
      iterator'.Holds position' index origin type.serializer
        (entries ++ echo values (handler.carryOut environment (commandsOf values)).1) ∧
      position'.size = position.size - values.length * (type.serializer.size + index.size) := by
  induction values generalizing entries iterator position handler ret with
  | nil => exact ⟨iterator, position, rfl, by simpa [echo] using holds, by simp⟩
  | cons pair values ih =>
      rw [List.length_cons, Nat.succ_mul] at enough
      have sized (command : type.Value) : (type.serializer.write command).length =
          type.serializer.size := type.descriptor.codec.length_write command
      obtain ⟨next, written, held, size⟩ := holds.write_of_room
        (setStatus type (handler.carryOutOne environment ⟨type, pair⟩).1 pair.value) pair.index
        (sized _) (by omega)
      have one : process environment ⟨handler, some (iterator, position), ret⟩ pair =
          ⟨(handler.carryOutOne environment ⟨type, pair⟩).2, some next,
            if (handler.carryOutOne environment ⟨type, pair⟩).1 = .notSupported then
              ret.setBit .paramError else ret⟩ := by
        rw [← Option.getD_some (a := next) (b := (iterator, position)), ← written]
        rfl
      obtain ⟨iterator', position', target, all, left⟩ :=
        ih held (handler.carryOutOne environment ⟨type, pair⟩).2 _ (by omega)
      refine ⟨iterator', position', ?_, ?_, ?_⟩
      · rw [List.foldl_cons, one]
        exact target
      · rw [List.append_assoc] at all
        exact all
      · rw [left, size]
        rw [List.length_cons, Nat.succ_mul]
        omega

/-- A command as it is answered. -/
def answered (command : Command) (status : CommandStatus) : Command :=
  ⟨command.1, ⟨setStatus command.1 status command.2.value, command.2.index⟩⟩

theorem length_echo {values : List (Indexed type.Value)} {statuses : List CommandStatus}
    (length : statuses.length = values.length) : (echo values statuses).length = values.length := by
  rw [echo, List.length_zipWith, length, Nat.min_self]

theorem commandsOf_echo (values : List (Indexed type.Value)) (statuses : List CommandStatus) :
    commandsOf (echo values statuses) = List.zipWith answered (commandsOf values) statuses := by
  rw [commandsOf, echo, List.map_zipWith, commandsOf, List.zipWith_map_left]
  rfl

/-- The header of a response. -/
def echoed (header : CommandHeader) (statuses : List CommandStatus)
    (length : statuses.length = header.values.length) : CommandHeader where
  type := header.type
  index := header.index
  values := echo header.values statuses
  nonempty := by
    have positive := List.length_pos_iff.mpr header.nonempty
    rw [← List.length_pos_iff, length_echo length]
    exact positive
  fits := by
    rw [length_echo length]
    exact header.fits
  small := by
    intro pair member
    obtain ⟨place, inside, rfl⟩ := List.mem_iff_getElem.mp member
    rw [length_echo length] at inside
    simp only [echo, List.getElem_zipWith]
    exact header.small _ (List.getElem_mem inside)

/-- The second header is the first one, with the statuses that its commands were given. -/
def Echoed (header echo : CommandHeader) : Prop :=
  ∃ statuses length, echo = echoed header statuses length

variable (environment) in
theorem length_carryOut (handler : CommandResponseHandler) (commands : List Command) :
    (handler.carryOut environment commands).1.length = commands.length := by
  induction commands generalizing handler with
  | nil => rfl
  | cons command commands ih => exact congrArg (· + 1) (ih _)

variable (environment) in
/-- With room for them the commands of a header are echoed. -/
theorem respondToHeader_echo (header : CommandHeader) (handler : CommandResponseHandler)
    {writer : HeaderWriter} (written : handler.writer = some writer)
    (enough : header.size ≤ writer.remaining) :
    ∃ (length : (handler.carryOut environment (commandsOf header.values)).1.length =
        header.values.length) (after : HeaderWriter),
      (handler.respondToHeader environment header.type header.index header.values).2 =
          { (handler.carryOut environment (commandsOf header.values)).2 with
            writer := some after } ∧
        after.position.written = writer.position.written ++ (echoed header _ length).bytes ∧
        after.remaining = writer.remaining - header.size := by
  have length : (handler.carryOut environment (commandsOf header.values)).1.length =
      header.values.length := by
    rw [length_carryOut, commandsOf, List.length_map]
  have positive := List.length_pos_iff.mpr header.nonempty
  have first := Nat.le_mul_of_pos_left (header.type.serializer.size + header.index.size) positive
  rw [CommandHeader.size, HeaderWriter.remaining] at enough
  obtain ⟨valid, size⟩ := writer.iterateOverCountWithPrefix_of_room header.index
    header.type.serializer (by omega)
  rcases made : writer.iterateOverCountWithPrefix header.index header.index.countIndex
    header.type.serializer with ⟨iterator, started⟩
  rw [made] at valid size
  rcases writer.iterateOverCountWithPrefix_cases _ _ made with ⟨invalid, _⟩ | start
  · rw [invalid] at valid
    cases valid
  · have left : started.position.size = writer.position.size - (3 + header.index.size) := size
    obtain ⟨iterator', position', target, all, behind⟩ :=
      target_foldl_process start.holds header.values handler .empty (by simp only; omega)
    refine ⟨length, { started with position := iterator'.finish position' }, ?_, ?_, ?_⟩
    · simp only [respondToHeader, written, made]
      rw [target, handler_foldl_process]
      rfl
    · exact all.finish
    · have kept : (iterator'.finish position').size = position'.size := by
        rw [PrefixedWriteIterator.finish]
        split <;> simp
      simp only [HeaderWriter.remaining, CommandHeader.size]
      rw [kept, behind, left]
      omega

end echo

/-! ## Requests -/

theorem processAny_eq {type : CommandType} {index : IndexType} {record : HeaderRecord}
    (code : record.getQualifierCode = index.countIndex) (handler : CommandResponseHandler)
    (values : List (Indexed type.Value)) :
    handler.processAny environment type record values =
      handler.respondToHeader environment type index values := by
  rw [processAny, code]
  cases index <;> rfl

theorem processHeader_eq {header : CommandHeader} {parsed : Header}
    (describes : header.Describes parsed) (handler : CommandResponseHandler) :
    handler.processHeader environment parsed =
      handler.respondToHeader environment header.type header.index header.values := by
  obtain ⟨type, index, values, _, _, _⟩ := header
  obtain ⟨record, count, code, rfl⟩ := describes
  cases type with
  | controlRelayOutputBlock => exact processAny_eq code handler values
  | analogOutputInt32 => exact processAny_eq code handler values
  | analogOutputInt16 => exact processAny_eq code handler values
  | analogOutputFloat32 => exact processAny_eq code handler values
  | analogOutputDouble64 => exact processAny_eq code handler values

/-- What is carried out does not depend on indications, nor on where it is echoed. -/
theorem Carried.after {commands : List Command} {statuses : List CommandStatus}
    {result : CommandResponseHandler} (carried : handler.Carried environment commands
      (statuses, result)) (writer : Option HeaderWriter) (errors : IINField) :
    handler.Carried environment commands (statuses, { result with writer, errors }) :=
  ⟨carried.statuses, carried.begun, carried.isStarted, carried.numRequests, carried.numSuccess,
    carried.maxCommands, carried.action⟩

/-- The commands of all of the headers, one after the other. -/
def allCommands (headers : List CommandHeader) : List Command :=
  headers.flatMap fun header => commandsOf header.values

variable (environment) in
/-- With room for all of the commands they are all carried out, and echoed as they are
answered. -/
theorem foldl_onHeader {headers : List CommandHeader} {parsed : List Header}
    (describes : List.Forall₂ CommandHeader.Describes headers parsed)
    (handler : CommandResponseHandler) {writer : HeaderWriter}
    (written : handler.writer = some writer)
    (enough : (headers.map CommandHeader.size).sum ≤ writer.remaining) :
    ∃ (statuses : List CommandStatus) (echoes : List CommandHeader) (after : HeaderWriter),
      handler.Carried environment (allCommands headers)
        (statuses, parsed.foldl (onHeader environment) handler) ∧
      (parsed.foldl (onHeader environment) handler).writer = some after ∧
      after.position.written = writer.position.written ++ echoes.flatMap CommandHeader.bytes ∧
      after.remaining = writer.remaining - (headers.map CommandHeader.size).sum ∧
      List.Forall₂ Echoed headers echoes ∧
      allCommands echoes = List.zipWith answered (allCommands headers) statuses := by
  induction describes generalizing handler writer with
  | nil => exact ⟨[], [], writer, .nil, written, by simp, by simp, .nil, rfl⟩
  | @cons header parsed headers _ here _ ih =>
      rw [List.map_cons, List.sum_cons] at enough
      obtain ⟨length, after, result, bytes, left⟩ :=
        respondToHeader_echo environment header handler written (by omega)
      have one : handler.onHeader environment parsed =
          { (handler.carryOut environment (commandsOf header.values)).2 with
            writer := some after
            errors := (handler.onHeader environment parsed).errors } := by
        rw [onHeader, processHeader_eq here]
        simp only [result]
      have carried : handler.Carried environment (commandsOf header.values)
          ((handler.carryOut environment (commandsOf header.values)).1,
            handler.onHeader environment parsed) := by
        rw [one]
        exact (carryOut_carried _).after _ _
      obtain ⟨statuses, echoes, final, more, behind, all, remaining, others, answers⟩ :=
        @ih (handler.onHeader environment parsed) after (by rw [one]) (by omega)
      refine ⟨(handler.carryOut environment (commandsOf header.values)).1 ++ statuses,
        echoed header _ length :: echoes, final, carried.append more, behind, ?_, ?_,
        .cons ⟨_, length, rfl⟩ others, ?_⟩
      · rw [all, bytes, List.flatMap_cons, List.append_assoc]
      · rw [remaining, left, List.map_cons, List.sum_cons]
        omega
      · have same : (commandsOf header.values).length =
            (handler.carryOut environment (commandsOf header.values)).1.length := by
          rw [length_carryOut]
        change commandsOf (echo header.values _) ++ allCommands echoes =
          List.zipWith answered (commandsOf header.values ++ allCommands headers) _
        rw [List.zipWith_append same, commandsOf_echo, answers]

variable (environment) (handler) in
/-- A request whose headers fit in the response is carried out and echoed. -/
theorem parse_of_headers [FloatOps] {objects : List UInt8} {headers : List CommandHeader}
    (read : APDUParser.parse true isAllowed objects = .ok (CommandHeader.parsedFrom 0 headers))
    {writer : HeaderWriter} (written : handler.writer = some writer)
    (enough : (headers.map CommandHeader.size).sum ≤ writer.remaining) :
    ∃ (statuses : List CommandStatus) (echoes : List CommandHeader)
      (done : CommandResponseHandler) (after : HeaderWriter),
      handler.parse environment objects =
          (none, if done.isStarted then
            { done with log := done.log ++ [.call .finish] } else done) ∧
        handler.Carried environment (allCommands headers) (statuses, done) ∧
        done.writer = some after ∧
        after.position.written = writer.position.written ++ echoes.flatMap CommandHeader.bytes ∧
        List.Forall₂ Echoed headers echoes ∧
        allCommands echoes = List.zipWith answered (allCommands headers) statuses := by
  obtain ⟨statuses, echoes, after, carried, target, bytes, _, echoed, answers⟩ :=
    foldl_onHeader environment (CommandHeader.describes_parsedFrom headers 0) handler written
      enough
  refine ⟨statuses, echoes, _, after, ?_, carried, target, bytes, echoed, answers⟩
  rw [parse, read]
  simp only
  split <;> rfl

variable (environment) (handler) in
/-- A request whose commands fit in the response is carried out and echoed. -/
theorem parse_of_commands [FloatOps] {objects : List UInt8} {commands : List Command}
    (parsed : parseCommands objects = .ok commands) {writer : HeaderWriter}
    (written : handler.writer = some writer) (enough : objects.length ≤ writer.remaining) :
    ∃ (statuses : List CommandStatus) (echoes : List CommandHeader)
      (done : CommandResponseHandler) (after : HeaderWriter),
      handler.parse environment objects =
          (none, if done.isStarted then
            { done with log := done.log ++ [.call .finish] } else done) ∧
        handler.Carried environment commands (statuses, done) ∧
        done.writer = some after ∧
        after.position.written = writer.position.written ++ echoes.flatMap CommandHeader.bytes ∧
        allCommands echoes = List.zipWith answered commands statuses := by
  obtain ⟨headers, read, length, rfl⟩ := CommandHeader.exists_of_parseCommands parsed
  obtain ⟨statuses, echoes, done, after, result, carried, target, bytes, _, answers⟩ :=
    handler.parse_of_headers environment read written (by omega)
  exact ⟨statuses, echoes, done, after, result, carried, target, bytes, answers⟩

end CommandResponseHandler

end OpenDnp3.Outstation
