import OpenDnp3.App.Parsing.APDUParserProperties
import OpenDnp3.Master.CommandRequests
import OpenDnp3.Outstation.CommandResponseHandler

/-!
# Command headers

The headers that an outstation accepts in a request with commands: they take as
many bytes as the same commands take in a response.
-/

set_option autoImplicit false

namespace OpenDnp3.Outstation

open OpenDnp3.App OpenDnp3.Library
open OpenDnp3.Master (CommandType)

/-- A command of any type. -/
abbrev Command := (type : CommandType) × Indexed type.Value

/-- The commands of one header. -/
def commandsOf {type : CommandType} (values : List (Indexed type.Value)) : List Command :=
  values.map fun pair => ⟨type, pair⟩

/-- The commands that a header carries. -/
def commandsIn : Header → List Command
  | .prefixOf _ _ .controlRelayOutputBlock values => @commandsOf .controlRelayOutputBlock values
  | .prefixOf _ _ .analogOutputInt32 values => @commandsOf .analogOutputInt32 values
  | .prefixOf _ _ .analogOutputInt16 values => @commandsOf .analogOutputInt16 values
  | .prefixOf _ _ .analogOutputFloat32 values => @commandsOf .analogOutputFloat32 values
  | .prefixOf _ _ .analogOutputDouble64 values => @commandsOf .analogOutputDouble64 values
  | _ => []

/-- The commands of a request or of its response. -/
def parseCommands [FloatOps] (objects : List UInt8) : Except ParseError (List Command) :=
  (APDUParser.parse true CommandResponseHandler.isAllowed objects).map (·.flatMap commandsIn)

/-- A header with commands, each behind its index. -/
structure CommandHeader where
  type : CommandType
  index : IndexType
  values : List (Indexed type.Value)
  nonempty : values ≠ []
  fits : values.length ≤ index.max
  small : ∀ pair ∈ values, pair.index.toNat ≤ index.max

namespace CommandHeader

/-- The bytes that the header takes. -/
def size (header : CommandHeader) : Nat :=
  3 + header.index.size + header.values.length * (header.type.serializer.size + header.index.size)

def bytes (header : CommandHeader) : List UInt8 :=
  prefixedBytes header.index header.type.serializer header.values

/-- The header is what was parsed. -/
def Describes (header : CommandHeader) (parsed : Header) : Prop :=
  ∃ record count, record.getQualifierCode = header.index.countIndex ∧
    parsed = .prefixOf record count header.type.objectType header.values

theorem Describes.commandsIn_eq {header : CommandHeader} {parsed : Header}
    (describes : header.Describes parsed) : commandsIn parsed = commandsOf header.values := by
  obtain ⟨type, index, values, _, _, _⟩ := header
  obtain ⟨record, count, _, rfl⟩ := describes
  cases type <;> rfl

/-- What is read where the header was written. -/
def parsed (header : CommandHeader) (position : Nat) : Header :=
  .prefixOf (recordOf header.type.serializer.id header.index.countIndex position)
    (UInt16.ofNat header.values.length) header.type.objectType header.values

theorem describes_parsed (header : CommandHeader) (position : Nat) :
    header.Describes (header.parsed position) :=
  ⟨_, _, getQualifierCode_recordOf _ _ _, rfl⟩

/-- The headers of a request or a response, from some position on. -/
def parsedFrom : Nat → List CommandHeader → List Header
  | _, [] => []
  | position, header :: headers =>
      header.parsed position :: parsedFrom (position + 1) headers

theorem describes_parsedFrom (headers : List CommandHeader) (position : Nat) :
    List.Forall₂ Describes headers (parsedFrom position headers) := by
  induction headers generalizing position with
  | nil => exact .nil
  | cons header headers ih => exact .cons (header.describes_parsed position) (ih (position + 1))

/-! ## Requests -/

/-- A count and the index of an object are as small as the bytes that they take. -/
theorem readNum_le (index : IndexType) (bytes : List UInt8) :
    (index.parser.readNum bytes).1.toNat ≤ index.max := by
  have below := leValue_lt (bytes.take index.parser.numBytes)
  have short : (bytes.take index.parser.numBytes).length ≤ index.size := by
    rw [List.length_take, numBytes_eq_size]
    exact Nat.min_le_left _ _
  have most := Nat.pow_le_pow_right (show 0 < 256 by decide) short
  have reduced := Nat.mod_le (leValue (bytes.take index.parser.numBytes)) (2 ^ 16)
  rw [NumParser.readNum, UInt16.toNat_ofNat']
  rw [← index.max_lt] at most
  omega

theorem readCollection_small (index : IndexType) (object : FixedSize) (count pos : Nat)
    (bytes : List UInt8) :
    ∀ pair ∈ readCollection
        (fun _ => CountIndexParser.readIndexed index.parser object.readTarget) count pos bytes,
      pair.index.toNat ≤ index.max := by
  induction count generalizing pos bytes with
  | zero => simp [readCollection]
  | succ count ih =>
      rw [readCollection]
      exact List.forall_mem_cons.mpr ⟨readNum_le index bytes, ih _ _⟩

/-- The white list lets only the types of commands through, with a count and indices. -/
theorem exists_recordOf {group variation qualifier : UInt8} {position headerIndex : Nat}
    (allowed : CommandResponseHandler.isAllowed headerIndex
      (GroupVariationRecord.getEnumeration group variation) (.fromType qualifier) = true) :
    ∃ (type : CommandType) (index : IndexType),
      (⟨.getRecord group variation, qualifier, position⟩ : HeaderRecord) =
        recordOf type.serializer.id index.countIndex position := by
  simp only [CommandResponseHandler.isAllowed, commandWhiteList, Bool.and_eq_true,
    Bool.or_eq_true, beq_iff_eq, List.contains_iff_mem, List.mem_cons, List.not_mem_nil,
    or_false] at allowed
  have code : ∃ index : IndexType, qualifier = index.countIndex.toType := by
    rcases allowed.1 with single | double
    · exact ⟨.uint8, QualifierCode.eq_toType single (by decide)⟩
    · exact ⟨.uint16, QualifierCode.eq_toType double (by decide)⟩
  have numbers : ∃ type : CommandType,
      group = type.serializer.id.group ∧ variation = type.serializer.id.variation := by
    have number (type : CommandType)
        (same : GroupVariationRecord.getEnumeration group variation =
          type.serializer.id.enumeration) :
        group = type.serializer.id.group ∧ variation = type.serializer.id.variation := by
      refine GroupVariationRecord.getGroupVar_inj
        ((GroupVariationRecord.getGroupVar_of_getEnumeration same ?_).trans ?_)
      · cases type <;> decide +kernel
      · cases type <;> decide +kernel
    rcases allowed.2 with same | same | same | same | same
    · exact ⟨.controlRelayOutputBlock, number _ same⟩
    · exact ⟨.analogOutputInt32, number _ same⟩
    · exact ⟨.analogOutputInt16, number _ same⟩
    · exact ⟨.analogOutputFloat32, number _ same⟩
    · exact ⟨.analogOutputDouble64, number _ same⟩
  obtain ⟨index, rfl⟩ := code
  obtain ⟨type, rfl, rfl⟩ := numbers
  exact ⟨type, index, rfl⟩

section requests

variable [FloatOps]

/-- The header that is read behind a count and a qualifier of commands. -/
theorem exists_parsed_of_objects {type : CommandType} {index : IndexType} {position : Nat}
    {bytes rest : List UInt8} {read : Header}
    (success : CountIndexParser.parseHeader index.parser
      (recordOf type.serializer.id index.countIndex position) bytes = .ok (read, rest)) :
    ∃ header : CommandHeader, read = header.parsed position ∧
      3 + bytes.length = header.size + rest.length := by
  have objects : (recordOf type.serializer.id index.countIndex
      position).enumeration.prefixObjects =
        some (.fixedSize ⟨type.objectType, type.descriptor.codec⟩) := by
    rw [enumeration_recordOf]
    exact type.prefixObjects
  rw [CountIndexParser.parseHeader, NumParser.parseCount] at success
  by_cases short : bytes.length < index.parser.numBytes
  · rw [if_pos short] at success
    cases success
  · rw [if_neg short] at success
    rcases number : index.parser.readNum bytes with ⟨count, behind⟩
    have most := readNum_le index bytes
    have left : behind = bytes.drop index.parser.numBytes := (congrArg Prod.snd number).symm
    rw [number] at most
    simp only [number] at success
    by_cases zero : count = 0
    · rw [if_pos zero] at success
      cases success
    · simp only [if_neg zero, CountIndexParser.parseCountOfObjects, objects,
        CountIndexParser.fromFixedSize] at success
      have positive : 0 < count.toNat :=
        Nat.pos_of_ne_zero fun none => zero (UInt16.toNat_inj.mp none)
      obtain ⟨long, rfl⟩ := process_ok success
      rw [process, if_neg (Nat.not_lt.mpr long)] at success
      obtain ⟨rfl, _⟩ := Prod.mk.inj (Except.ok.inj success)
      refine ⟨⟨type, index, _, List.ne_nil_of_length_pos ?_, ?_,
        readCollection_small index ⟨type.objectType, type.descriptor.codec⟩ count.toNat 0
          behind⟩, ?_, ?_⟩
      · rw [length_readCollection]
        exact positive
      · rw [length_readCollection]
        exact most
      · refine congrArg (Header.prefixOf _ · _ _) ?_
        simp only [length_readCollection, UInt16.ofNat_toNat]
      · simp only [size, length_readCollection, List.length_drop]
        rw [numBytes_eq_size] at short long left ⊢
        have total : behind.length = bytes.length - index.size := by
          rw [left, List.length_drop]
        change _ = 3 + index.size + count.toNat * (type.descriptor.codec.size + index.size) + _
        omega

/-- The white list lets only commands through. -/
theorem exists_parsed {position : Nat} {bytes rest : List UInt8} {read : Header}
    (success : APDUParser.parseHeader true none position bytes = .ok (read, rest))
    (allowed : CommandResponseHandler.isAllowed read.record.headerIndex
      read.record.enumeration read.record.getQualifierCode = true) :
    ∃ header : CommandHeader, read = header.parsed position ∧
      bytes.length = header.size + rest.length := by
  match bytes, success with
  | group :: variation :: qualifier :: bytes, success =>
      rw [APDUParser.parseHeader] at success
      by_cases unknown : (GroupVariationRecord.getRecord group variation).enumeration = .unknown
      · simp only [if_pos unknown] at success
        cases success
      · simp only [if_neg unknown, Option.any_none, Bool.false_eq_true, if_false] at success
        obtain ⟨_, _, _, sound⟩ := APDUParser.exact_parseQualifier true _ bytes read rest success
        rw [sound.record] at allowed
        obtain ⟨type, index, same⟩ := @exists_recordOf group variation qualifier position _ allowed
        rw [same] at success
        have qualified : CountIndexParser.parseHeader index.parser
            (recordOf type.serializer.id index.countIndex position) bytes = .ok (read, rest) := by
          rw [APDUParser.parseQualifier, getQualifierCode_recordOf] at success
          cases index <;> exact success
        obtain ⟨header, is, length⟩ := exists_parsed_of_objects qualified
        refine ⟨header, is, ?_⟩
        rw [← length, List.length_cons, List.length_cons, List.length_cons]
        omega

/-- A request is made of headers with commands, which take as many bytes. -/
theorem exists_parsedFrom {position : Nat} {bytes : List UInt8} {read : List Header}
    (parses : Parses true position bytes read)
    (allowed : ∀ header ∈ read, CommandResponseHandler.isAllowed header.record.headerIndex
      header.record.enumeration header.record.getQualifierCode = true) :
    ∃ headers, read = parsedFrom position headers ∧ bytes.length = (headers.map size).sum := by
  induction parses with
  | nil => exact ⟨[], rfl, rfl⟩
  | cons first _ ih =>
      obtain ⟨here, others⟩ := List.forall_mem_cons.mp allowed
      obtain ⟨header, rfl, length⟩ := exists_parsed (first []) here
      obtain ⟨headers, rfl, total⟩ := ih others
      refine ⟨header :: headers, rfl, ?_⟩
      rw [List.append_nil] at length
      rw [List.length_append, length, total]
      simp

theorem exists_of_parse {objects : List UInt8} {read : List Header}
    (success : APDUParser.parse true CommandResponseHandler.isAllowed objects = .ok read) :
    ∃ headers, read = parsedFrom 0 headers ∧ objects.length = (headers.map size).sum :=
  exists_parsedFrom (APDUParser.parses_of_parse success).1 (APDUParser.allowed_of_parse success)

/-! ## Responses -/

theorem parseHeader_bytes (header : CommandHeader) (position : Nat) (after : List UInt8) :
    APDUParser.parseHeader true none position (header.bytes ++ after) =
      .ok (header.parsed position, after) := by
  have read := parseHeader_prefixedObjects header.index
    ⟨header.type.objectType, header.type.descriptor.codec⟩ header.type.prefixObjects
    header.nonempty header.fits header.small position after
  have same : header.values.map (fun entry =>
      (⟨header.type.descriptor.codec.kept entry.value, entry.index⟩ :
        Indexed header.type.Value)) = header.values := by
    simp only [header.type.kept_command, List.map_id']
  rw [same] at read
  exact read

theorem parses_bytes (headers : List CommandHeader) (position : Nat) :
    Parses true position (headers.flatMap bytes) (parsedFrom position headers) := by
  induction headers generalizing position with
  | nil => exact .nil
  | cons header headers ih =>
      exact .cons (header.parseHeader_bytes position) (ih (position + 1))

omit [FloatOps] in
theorem isAllowed_parsedFrom (headers : List CommandHeader) (position : Nat) :
    ∀ header ∈ parsedFrom position headers, CommandResponseHandler.isAllowed
      header.record.headerIndex header.record.enumeration header.record.getQualifierCode =
        true := by
  induction headers generalizing position with
  | nil => simp [parsedFrom]
  | cons header headers ih =>
      exact List.forall_mem_cons.mpr ⟨header.type.isAllowed _ position _, ih (position + 1)⟩

omit [FloatOps] in
theorem commandsIn_parsedFrom (headers : List CommandHeader) (position : Nat) :
    (parsedFrom position headers).flatMap commandsIn =
      headers.flatMap fun header => commandsOf header.values := by
  induction headers generalizing position with
  | nil => rfl
  | cons header headers ih =>
      rw [parsedFrom, List.flatMap_cons, List.flatMap_cons, ih,
        (header.describes_parsed position).commandsIn_eq]

/-- The commands that were written are read. -/
theorem parseCommands_bytes (headers : List CommandHeader) :
    parseCommands (headers.flatMap bytes) =
      .ok (headers.flatMap fun header => commandsOf header.values) := by
  rw [parseCommands, APDUParser.parse_of_allowed (parses_bytes headers 0)
    (isAllowed_parsedFrom headers 0)]
  exact congrArg Except.ok (commandsIn_parsedFrom headers 0)

/-- The commands of a request stand in headers that take as many bytes. -/
theorem exists_of_parseCommands {objects : List UInt8} {commands : List Command}
    (success : parseCommands objects = .ok commands) :
    ∃ headers, APDUParser.parse true CommandResponseHandler.isAllowed objects =
        .ok (parsedFrom 0 headers) ∧ objects.length = (headers.map size).sum ∧
      commands = headers.flatMap fun header => commandsOf header.values := by
  rw [parseCommands] at success
  cases read : APDUParser.parse true CommandResponseHandler.isAllowed objects with
  | error error =>
      rw [read] at success
      cases success
  | ok parsed =>
      rw [read] at success
      cases success
      obtain ⟨headers, rfl, length⟩ := exists_of_parse read
      exact ⟨headers, rfl, length, commandsIn_parsedFrom headers 0⟩

end requests

end CommandHeader

end OpenDnp3.Outstation
