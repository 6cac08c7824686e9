import OpenDnp3.App.RoundTrip
import OpenDnp3.Library.PrefixParser
import Mathlib.Data.List.GetD
import Mathlib.Algebra.Order.BigOperators.Group.List
import Mathlib.Algebra.Order.Ring.Nat

/-!
# What the APDU parser accepts

Every header takes a prefix of the bytes, its collections have the count it
declares, and its sizes are small. A parse hands over all of the headers or none.
-/

set_option autoImplicit false

namespace OpenDnp3.App

open OpenDnp3.Library

/-- The collection of a header has as many elements as the header declares. -/
def Header.Counted : Header → Prop
  | .rangeOf _ indices _ values => values.length = indices.count
  | .countOf _ number _ values => values.length = number.toNat
  | .prefixOf _ number _ values => values.length = number.toNat
  | .allObjects _ | .range _ _ | .count _ _ | .freeFormat _ _ => True

/-- A count of one byte is below 256. -/
def Header.Narrow : Header → Prop
  | .prefixOf record number _ _ =>
      record.getQualifierCode = .uint8CntUint8Index → number.toNat < 256
  | _ => True

/-- What is known of a header that was parsed with a record. -/
structure Header.Sound (record : HeaderRecord) (header : Header) : Prop where
  record : header.record = record
  counted : header.Counted
  narrow : header.Narrow

/-! ## Collections -/

section collections

variable {α : Type}

@[simp] theorem length_readCollection (read : Nat → List UInt8 → α × List UInt8)
    (count pos : Nat) (bytes : List UInt8) :
    (readCollection read count pos bytes).length = count := by
  induction count generalizing pos bytes with
  | zero => rfl
  | succ count ih => rw [readCollection, List.length_cons, ih]

/-- A reader that takes a number of bytes and looks at no others. -/
def Reads (size : Nat) (read : List UInt8 → α × List UInt8) : Prop :=
  ∀ own after, own.length = size → read (own ++ after) = ((read own).1, after)

theorem Reads.readCollection {size : Nat} {read : Nat → List UInt8 → α × List UInt8}
    (reads : ∀ pos, Reads size (read pos)) (count pos : Nat) (own after : List UInt8)
    (length : own.length = count * size) :
    App.readCollection read count pos (own ++ after) = App.readCollection read count pos own := by
  induction count generalizing pos own with
  | zero => rfl
  | succ count ih =>
      rw [Nat.succ_mul] at length
      have first : (own.take size).length = size := by
        rw [List.length_take]
        omega
      have others : (own.drop size).length = count * size := by
        rw [List.length_drop]
        omega
      have whole := reads pos (own.take size) (own.drop size) first
      have more := reads pos (own.take size) (own.drop size ++ after) first
      rw [List.take_append_drop] at whole
      rw [← List.append_assoc, List.take_append_drop] at more
      simp only [App.readCollection, whole, more, ih (pos + 1) (own.drop size) others]

/-- A reader that takes nothing, and looks at what the position tells it. -/
theorem readCollection_peek (peek : Nat → List UInt8 → α) (count pos : Nat)
    {one two : List UInt8}
    (same : ∀ between, pos ≤ between → between < pos + count → peek between one = peek between two) :
    readCollection (fun pos bytes => (peek pos bytes, bytes)) count pos one =
      readCollection (fun pos bytes => (peek pos bytes, bytes)) count pos two := by
  induction count generalizing pos with
  | zero => rfl
  | succ count ih =>
      simp only [readCollection]
      rw [same pos (Nat.le_refl pos) (by omega),
        ih (pos + 1) fun between low high => same between (by omega) (by omega)]

theorem Reads.readAt {size : Nat} {read : List UInt8 → α × List UInt8} (reads : Reads size read)
    (range : Range) (pos : Nat) : Reads size (RangeParser.readAt range (fun _ => read) pos) := by
  intro own after length
  simp only [RangeParser.readAt, reads own after length]

theorem Reads.readIndexed {size : Nat} {read : List UInt8 → α × List UInt8}
    (reads : Reads size read) (parser : NumParser) :
    Reads (parser.numBytes + size) (CountIndexParser.readIndexed parser read) := by
  intro own after length
  have short : parser.numBytes ≤ own.length := by omega
  have left : (own.drop parser.numBytes).length = size := by
    rw [List.length_drop]
    omega
  simp only [CountIndexParser.readIndexed, NumParser.readNum, List.take_append_of_le_length short,
    List.drop_append_of_le_length short, reads _ after left]

end collections

theorem FixedSize.reads (object : FixedSize) : Reads object.codec.size object.readTarget := by
  intro own after length
  obtain ⟨value, success⟩ := object.codec.read_own own length
  have alone := success []
  rw [List.append_nil] at alone
  rw [FixedSize.readTarget, FixedSize.readTarget, success, alone]
  rfl

theorem reads_readOctets (size : Nat) : Reads size (readOctets size) := by
  intro own after length
  rw [readOctets, readOctets, List.take_left' length, List.drop_left' length,
    List.take_of_length_le (Nat.le_of_eq length)]

/-! ## Headers by qualifier -/

/-- A parser of headers with a record that takes a prefix, and fills the collection of a header. -/
abbrev Exact (record : HeaderRecord)
    (parse : List UInt8 → Except ParseError (Header × List UInt8)) : Prop :=
  TakesPrefix (Header.Sound record) parse

theorem exact_process {record : HeaderRecord} {size : Nat} {header : List UInt8 → Header}
    (settled : ∀ own, own.length = size →
      (∀ after, header (own ++ after) = header own) ∧ (header own).Sound record) :
    Exact record fun bytes => process bytes size (header bytes) :=
  .take (fun _ short => if_pos short) (fun _ long => if_neg (Nat.not_lt.mpr long)) settled

theorem NumParser.parseCount_takesPrefix (parser : NumParser) :
    TakesPrefix (fun count => parser = .oneByte → count.toNat < 256) parser.parseCount := by
  refine .bind (takeTokens_takesPrefix ParseError.notEnoughDataForRange parser.numBytes)
    (fun own rest => if UInt16.ofNat (leValue own) = 0 then .error .countOfZero
      else .ok (UInt16.ofNat (leValue own), rest))
    (fun own length => ?_) (fun bytes error failed => ?_) (fun bytes own rest success => ?_)
  · by_cases zero : UInt16.ofNat (leValue own) = 0
    · simp only [if_pos zero]
      exact .fail _
    · simp only [if_neg zero]
      refine .pure fun narrow => ?_
      have below := leValue_lt own
      rw [length, narrow] at below
      rw [UInt16.toNat_ofNat']
      exact lt_of_le_of_lt (Nat.mod_le _ _) below
  · obtain ⟨rfl, short⟩ := takeTokens_error failed
    rw [parseCount, if_pos short]
  · obtain ⟨long, rfl, rfl⟩ := takeTokens_ok success
    rw [parseCount, if_neg long]
    rfl

theorem NumParser.parseRange_takesPrefix (parser : NumParser) :
    TakesPrefix (fun _ => True) parser.parseRange := by
  refine .bind (takeTokens_takesPrefix ParseError.notEnoughDataForRange (2 * parser.numBytes))
    (fun own rest =>
      let range : Range := ⟨(parser.readNum own).1, (parser.readNum (parser.readNum own).2).1⟩
      if range.isValid then .ok (range, rest) else .error .badStartStop)
    (fun own _ => ?_) (fun bytes error failed => ?_) (fun bytes own rest success => ?_)
  · cases valid : Range.isValid
        ⟨(parser.readNum own).1, (parser.readNum (parser.readNum own).2).1⟩ with
    | true =>
        simp only [valid, if_true]
        exact .pure trivial
    | false =>
        simp only [valid, Bool.false_eq_true, if_false]
        exact .fail _
  · obtain ⟨rfl, short⟩ := takeTokens_error failed
    rw [parseRange, if_pos short]
  · obtain ⟨long, rfl, rfl⟩ := takeTokens_ok success
    rw [parseRange, if_neg long]
    simp only [readNum, Nat.two_mul, List.take_take, List.drop_take, List.drop_drop,
      Nat.add_sub_cancel, Nat.min_self, Nat.min_eq_left (Nat.le_add_left _ _)]

namespace RangeParser

theorem exact_fromFixedSize (object : FixedSize) (record : HeaderRecord) (range : Range) :
    Exact record (fromFixedSize object record range) :=
  exact_process fun own length =>
    ⟨fun after => congrArg (Header.rangeOf record range object.type)
      (Reads.readCollection (object.reads.readAt range) range.count 0 own after length),
      ⟨rfl, length_readCollection _ _ _ _, trivial⟩⟩

theorem getBit_append {own : List UInt8} {position : Nat} (inside : position / 8 < own.length)
    (after : List UInt8) : getBit (own ++ after) position = getBit own position := by
  rw [getBit, getBit, List.getD_append _ _ _ _ inside]

theorem getDoubleBit_append {own : List UInt8} {index : Nat} (inside : index / 4 < own.length)
    (after : List UInt8) : getDoubleBit (own ++ after) index = getDoubleBit own index := by
  rw [getDoubleBit, getDoubleBit, List.getD_append _ _ _ _ inside]

theorem lt_numBytesInBits {position count : Nat} (below : position < count) :
    position / 8 < numBytesInBits count := by
  rw [numBytesInBits]
  split <;> omega

theorem lt_numBytesInDoubleBits {position count : Nat} (below : position < count) :
    position / 4 < numBytesInDoubleBits count := by
  rw [numBytesInDoubleBits]
  split <;> omega

theorem exact_fromBitfieldType (type : ObjectType) (ofBit : Bool → type.Value)
    (record : HeaderRecord) (range : Range) :
    Exact record (fromBitfieldType type ofBit record range) := by
  refine exact_process fun own length => ⟨fun after => ?_, ⟨rfl, length_readCollection _ _ _ _, trivial⟩⟩
  refine congrArg (Header.rangeOf record range type) ?_
  refine readCollection_peek (fun pos bytes =>
    (⟨ofBit (getBit bytes pos), range.start + UInt16.ofNat pos⟩ : Indexed type.Value))
    _ _ fun position _ below => ?_
  rw [Nat.zero_add] at below
  rw [getBit_append (length ▸ lt_numBytesInBits below)]

theorem exact_fromDoubleBitfieldType (type : ObjectType) (ofBits : DoubleBit → type.Value)
    (record : HeaderRecord) (range : Range) :
    Exact record (fromDoubleBitfieldType type ofBits record range) := by
  refine exact_process fun own length => ⟨fun after => ?_, ⟨rfl, length_readCollection _ _ _ _, trivial⟩⟩
  refine congrArg (Header.rangeOf record range type) ?_
  refine readCollection_peek (fun pos bytes =>
    (⟨ofBits (getDoubleBit bytes pos), range.start + UInt16.ofNat pos⟩ : Indexed type.Value))
    _ _ fun position _ below => ?_
  rw [Nat.zero_add] at below
  rw [getDoubleBit_append (length ▸ lt_numBytesInDoubleBits below)]

theorem exact_parseRangeOfOctetData (record : HeaderRecord) (range : Range) :
    Exact record (parseRangeOfOctetData record range) := by
  unfold parseRangeOfOctetData
  by_cases sized : 0 < record.variation
  · simp only [if_pos sized]
    refine exact_process fun own length => ⟨fun after => ?_, ⟨rfl, length_readCollection _ _ _ _, trivial⟩⟩
    rw [Nat.mul_comm] at length
    exact congrArg (Header.rangeOf record range .octetString)
      (Reads.readCollection ((reads_readOctets _).readAt range) range.count 0 own after length)
  · simp only [if_neg sized]
    exact .fail _

theorem exact_parseRangeOfObjects [FloatOps] (record : HeaderRecord) (range : Range) :
    Exact record (parseRangeOfObjects record range) := by
  unfold parseRangeOfObjects
  cases record.enumeration.rangeObjects with
  | none => exact .fail _
  | some objects =>
      cases objects with
      | fixedSize object => exact exact_fromFixedSize object record range
      | bitfield type ofBit => exact exact_fromBitfieldType type ofBit record range
      | doubleBitfield type ofBits => exact exact_fromDoubleBitfieldType type ofBits record range
      | octetData => exact exact_parseRangeOfOctetData record range

theorem exact_parseHeader [FloatOps] (parser : NumParser) (expectsContents : Bool)
    (record : HeaderRecord) : Exact record (parseHeader parser expectsContents record) := by
  refine .bind parser.parseRange_takesPrefix
    (fun range rest =>
      if expectsContents then parseRangeOfObjects record range rest
      else .ok (.range record range, rest))
    (fun range _ => ?_) (fun bytes error failed => by rw [parseHeader, failed])
    (fun bytes range rest success => by rw [parseHeader, success])
  cases expectsContents with
  | false => exact .pure ⟨rfl, trivial, trivial⟩
  | true => exact exact_parseRangeOfObjects record range

end RangeParser

namespace CountParser

theorem exact_parseCountOfObjects (record : HeaderRecord) (count : UInt16) :
    Exact record (parseCountOfObjects record count) := by
  unfold parseCountOfObjects
  cases record.enumeration.countObjects with
  | none => exact .fail _
  | some object =>
      exact exact_process fun own length =>
        ⟨fun after => congrArg (Header.countOf record count object.type)
          (Reads.readCollection (fun _ => object.reads) count.toNat 0 own after length),
          ⟨rfl, length_readCollection _ _ _ _, trivial⟩⟩

theorem exact_parseHeader (parser : NumParser) (expectsContents : Bool) (record : HeaderRecord) :
    Exact record (parseHeader parser expectsContents record) := by
  refine .bind parser.parseCount_takesPrefix
    (fun count rest =>
      if expectsContents then parseCountOfObjects record count rest
      else .ok (.count record count, rest))
    (fun count _ => ?_) (fun bytes error failed => by rw [parseHeader, failed])
    (fun bytes count rest success => by rw [parseHeader, success])
  cases expectsContents with
  | false => exact .pure ⟨rfl, trivial, trivial⟩
  | true => exact exact_parseCountOfObjects record count

end CountParser

namespace CountIndexParser

variable {record : HeaderRecord} {count : UInt16}

theorem exact_fromFixedSize (object : FixedSize) (parser : NumParser)
    (narrow : record.getQualifierCode = .uint8CntUint8Index → count.toNat < 256) :
    Exact record (fromFixedSize object parser record count) := by
  refine exact_process fun own length => ⟨fun after => ?_, ⟨rfl, length_readCollection _ _ _ _, narrow⟩⟩
  rw [Nat.add_comm] at length
  exact congrArg (Header.prefixOf record count object.type)
    (Reads.readCollection (fun _ => object.reads.readIndexed parser) count.toNat 0 own after length)

theorem exact_parseIndexPrefixedOctetData (parser : NumParser)
    (narrow : record.getQualifierCode = .uint8CntUint8Index → count.toNat < 256) :
    Exact record (parseIndexPrefixedOctetData parser record count) := by
  unfold parseIndexPrefixedOctetData
  by_cases empty : record.variation = 0
  · simp only [if_pos empty]
    exact .fail _
  · simp only [if_neg empty]
    exact exact_process fun own length =>
      ⟨fun after => congrArg (Header.prefixOf record count .octetString)
        (Reads.readCollection (fun _ => (reads_readOctets _).readIndexed parser)
          count.toNat 0 own after length),
        ⟨rfl, length_readCollection _ _ _ _, narrow⟩⟩

theorem exact_parseCountOfObjects [FloatOps] (parser : NumParser)
    (narrow : record.getQualifierCode = .uint8CntUint8Index → count.toNat < 256) :
    Exact record (parseCountOfObjects parser record count) := by
  unfold parseCountOfObjects
  cases record.enumeration.prefixObjects with
  | none => exact .fail _
  | some objects =>
      cases objects with
      | fixedSize object => exact exact_fromFixedSize object parser narrow
      | octetData => exact exact_parseIndexPrefixedOctetData parser narrow

theorem exact_parseHeader [FloatOps] (parser : NumParser)
    (single : record.getQualifierCode = .uint8CntUint8Index → parser = .oneByte) :
    Exact record (parseHeader parser record) :=
  .bind parser.parseCount_takesPrefix (parseCountOfObjects parser record)
    (fun _ small => exact_parseCountOfObjects parser fun code => small (single code))
    (fun bytes error failed => by rw [parseHeader, failed])
    (fun bytes count rest success => by rw [parseHeader, success])

end CountIndexParser

namespace FreeFormatParser

/-- What is read once the object is cut off. -/
def parseObject (record : HeaderRecord) (object : List UInt8) : Except ParseError Header :=
  match record.enumeration.freeFormat with
  | none => .error .invalidObjectQualifier
  | some format =>
      match readObject format object with
      | none => .error .notEnoughDataForObjects
      | some object => .ok (.freeFormat record object)

theorem parseObject_sound (record : HeaderRecord) (object : List UInt8) (header : Header)
    (parsed : parseObject record object = .ok header) : header.Sound record := by
  unfold parseObject at parsed
  split at parsed
  · cases parsed
  · split at parsed
    · cases parsed
    · cases parsed
      exact ⟨rfl, trivial, trivial⟩

theorem exact_parseHeader (record : HeaderRecord) : Exact record (parseHeader record) := by
  refine .bind (takeTokens_takesPrefix ParseError.notEnoughDataForHeader 3)
    (fun own rest =>
      if leValue (own.take 1) ≠ 1 then .error .unreasonableObjectCount
      else if rest.length < leValue ((own.drop 1).take 2) then .error .notEnoughDataForObjects
      else
        match parseObject record (rest.take (leValue ((own.drop 1).take 2))) with
        | .error error => .error error
        | .ok header => .ok (header, rest.drop (leValue ((own.drop 1).take 2))))
    (fun own _ => ?_) (fun bytes error failed => ?_) (fun bytes own rest success => ?_)
  · by_cases other : leValue (own.take 1) ≠ 1
    · simp only [if_pos other]
      exact .fail _
    · simp only [if_neg other]
      refine .bind (takeTokens_takesPrefix ParseError.notEnoughDataForObjects
          (leValue ((own.drop 1).take 2)))
        (fun object rest =>
          match parseObject record object with
          | .error error => .error error
          | .ok header => .ok (header, rest))
        (fun object _ => ?_) (fun bytes error failed => ?_) (fun bytes object rest success => ?_)
      · have sound := parseObject_sound record object
        cases parsed : parseObject record object with
        | error error => exact .fail _
        | ok header => exact .pure (sound header parsed)
      · obtain ⟨rfl, short⟩ := takeTokens_error failed
        exact if_pos short
      · obtain ⟨long, rfl, rfl⟩ := takeTokens_ok success
        exact if_neg long
  · obtain ⟨rfl, short⟩ := takeTokens_error failed
    rw [parseHeader, if_pos short]
  · obtain ⟨long, rfl, rfl⟩ := takeTokens_ok success
    have count : (bytes.take 3).take 1 = bytes.take 1 := by rw [List.take_take]; rfl
    have size : ((bytes.take 3).drop 1).take 2 = (bytes.drop 1).take 2 := by
      rw [List.drop_take, List.take_take]
      rfl
    rw [parseHeader, if_neg long, count, size]
    cases free : record.enumeration.freeFormat with
    | none => simp only [parseObject, free]
    | some format =>
        simp only [parseObject, free]
        cases readObject format _ <;> rfl

end FreeFormatParser

namespace APDUParser

variable [FloatOps]

theorem exact_parseQualifier (expectsContents : Bool) (record : HeaderRecord) :
    Exact record (parseQualifier expectsContents record) := by
  unfold parseQualifier
  cases code : record.getQualifierCode with
  | allObjects => exact .pure ⟨rfl, trivial, trivial⟩
  | uint8Cnt => exact CountParser.exact_parseHeader .oneByte expectsContents record
  | uint16Cnt => exact CountParser.exact_parseHeader .twoByte expectsContents record
  | uint8StartStop => exact RangeParser.exact_parseHeader .oneByte expectsContents record
  | uint16StartStop => exact RangeParser.exact_parseHeader .twoByte expectsContents record
  | uint8CntUint8Index => exact CountIndexParser.exact_parseHeader .oneByte fun _ => rfl
  | uint16CntUint16Index =>
      refine CountIndexParser.exact_parseHeader .twoByte fun single => ?_
      rw [code] at single
      cases single
  | uint16FreeFormat => exact FreeFormatParser.exact_parseHeader record
  | undefined => exact .fail _

/-- A header that is parsed takes bytes of its own, and looks at no others. -/
theorem exact_parseHeader (expectsContents : Bool) (index : Nat) :
    TakesPrefix (fun header => header.Counted ∧ header.Narrow)
      (parseHeader expectsContents none index) := by
  intro bytes header rest success
  match bytes, success with
  | group :: variation :: qualifier :: bytes, success =>
      rw [parseHeader] at success
      by_cases unknown : (GroupVariationRecord.getRecord group variation).enumeration = .unknown
      · simp only [if_pos unknown] at success
        cases success
      · simp only [if_neg unknown, Option.any_none, Bool.false_eq_true, if_false] at success
        obtain ⟨own, split, same, sound⟩ :=
          exact_parseQualifier expectsContents _ bytes header rest success
        refine ⟨group :: variation :: qualifier :: own, by rw [split]; rfl, fun after => ?_,
          sound.counted, sound.narrow⟩
        simp only [List.cons_append, parseHeader, if_neg unknown, Option.any_none,
          Bool.false_eq_true, if_false, same after]

/-! ## Passes -/

/-- The white list refuses headers only; it changes none. -/
theorem parseHeader_of_whiteList {expectsContents : Bool} {whiteList : Option WhiteList}
    {index : Nat} {bytes rest : List UInt8} {header : Header}
    (success : parseHeader expectsContents whiteList index bytes = .ok (header, rest)) :
    parseHeader expectsContents none index bytes = .ok (header, rest) := by
  match bytes, success with
  | group :: variation :: qualifier :: bytes, success =>
      rw [parseHeader] at success ⊢
      by_cases unknown : (GroupVariationRecord.getRecord group variation).enumeration = .unknown
      · simp only [if_pos unknown] at success
        cases success
      · simp only [if_neg unknown, Option.any_none, Bool.false_eq_true, if_false] at success ⊢
        split at success
        · cases success
        · exact success

theorem parseHeaders_of_whiteList {expectsContents : Bool} {whiteList : Option WhiteList}
    {fuel index : Nat} {bytes : List UInt8} {headers : List Header}
    (success : parseHeaders expectsContents whiteList fuel index bytes = .ok headers) :
    parseHeaders expectsContents none fuel index bytes = .ok headers := by
  induction fuel generalizing index bytes headers with
  | zero => exact success
  | succ fuel ih =>
      rw [parseHeaders] at success ⊢
      by_cases done : bytes.isEmpty = true
      · rw [if_pos done] at success ⊢
        exact success
      · rw [if_neg done] at success ⊢
        cases one : parseHeader expectsContents whiteList index bytes with
        | error error =>
            rw [one] at success
            cases success
        | ok pair =>
            obtain ⟨header, rest⟩ := pair
            simp only [one] at success
            simp only [parseHeader_of_whiteList one]
            cases more : parseHeaders expectsContents whiteList fuel (index + 1) rest with
            | error error =>
                rw [more] at success
                cases success
            | ok others =>
                rw [more] at success
                rw [ih more]
                exact success

/-- The headers of a pass tile the bytes. -/
theorem parses_of_parseHeaders {expectsContents : Bool} {fuel index : Nat} {bytes : List UInt8}
    {headers : List Header} (enough : bytes.length ≤ fuel)
    (success : parseHeaders expectsContents none fuel index bytes = .ok headers) :
    Parses expectsContents index bytes headers ∧
      ∀ header ∈ headers, header.Counted ∧ header.Narrow := by
  induction fuel generalizing index bytes headers with
  | zero =>
      have empty : bytes = [] := List.length_eq_zero_iff.mp (Nat.le_zero.mp enough)
      subst empty
      cases success
      exact ⟨.nil, by simp⟩
  | succ fuel ih =>
      rw [parseHeaders] at success
      by_cases done : bytes.isEmpty = true
      · rw [if_pos done] at success
        cases success
        rw [List.isEmpty_iff.mp done]
        exact ⟨.nil, by simp⟩
      · rw [if_neg done] at success
        cases one : parseHeader expectsContents none index bytes with
        | error error =>
            rw [one] at success
            cases success
        | ok pair =>
            obtain ⟨header, rest⟩ := pair
            simp only [one] at success
            cases more : parseHeaders expectsContents none fuel (index + 1) rest with
            | error error =>
                rw [more] at success
                cases success
            | ok others =>
                rw [more] at success
                cases success
                obtain ⟨own, split, same, counted⟩ :=
                  exact_parseHeader expectsContents index bytes header rest one
                have filled : own ++ [] ≠ [] := ne_nil_of_parseHeader (same [])
                rw [List.append_nil] at filled
                have positive := List.length_pos_iff.mpr filled
                rw [split, List.length_append] at enough
                obtain ⟨parses, all⟩ := ih (by omega) more
                rw [split]
                exact ⟨.cons same parses, List.forall_mem_cons.mpr ⟨counted, all⟩⟩

theorem headerIndex_of_parseHeader {expectsContents : Bool} {index : Nat}
    {bytes rest : List UInt8} {header : Header}
    (success : parseHeader expectsContents none index bytes = .ok (header, rest)) :
    header.record.headerIndex = index := by
  match bytes, success with
  | group :: variation :: qualifier :: bytes, success =>
      rw [parseHeader] at success
      by_cases unknown : (GroupVariationRecord.getRecord group variation).enumeration = .unknown
      · simp only [if_pos unknown] at success
        cases success
      · simp only [if_neg unknown, Option.any_none, Bool.false_eq_true, if_false] at success
        obtain ⟨own, _, _, sound⟩ :=
          exact_parseQualifier expectsContents _ bytes header rest success
        rw [sound.record]

/-- The headers of a pass know their positions. -/
theorem headerIndex_of_parseHeaders {expectsContents : Bool} {fuel index : Nat}
    {bytes : List UInt8} {headers : List Header}
    (success : parseHeaders expectsContents none fuel index bytes = .ok headers) :
    headers.map (·.record.headerIndex) = List.range' index headers.length := by
  induction fuel generalizing index bytes headers with
  | zero =>
      cases success
      rfl
  | succ fuel ih =>
      rw [parseHeaders] at success
      split at success
      · cases success
        rfl
      · cases one : parseHeader expectsContents none index bytes with
        | error error =>
            rw [one] at success
            cases success
        | ok pair =>
            obtain ⟨header, rest⟩ := pair
            simp only [one] at success
            cases more : parseHeaders expectsContents none fuel (index + 1) rest with
            | error error =>
                rw [more] at success
                cases success
            | ok others =>
                rw [more] at success
                cases success
                rw [List.map_cons, ih more, headerIndex_of_parseHeader one]
                rfl

theorem headerIndex_of_parse {expectsContents : Bool} {isAllowed : WhiteList}
    {bytes : List UInt8} {headers : List Header}
    (parsed : parse expectsContents isAllowed bytes = .ok headers) :
    headers.map (·.record.headerIndex) = List.range headers.length := by
  rw [parse] at parsed
  split at parsed
  · cases parsed
  · rw [headerIndex_of_parseHeaders parsed, List.range_eq_range']

/-- What a parse accepts tiles the bytes. -/
theorem parses_of_parse {expectsContents : Bool} {isAllowed : WhiteList} {bytes : List UInt8}
    {headers : List Header} (parsed : parse expectsContents isAllowed bytes = .ok headers) :
    Parses expectsContents 0 bytes headers ∧
      ∀ header ∈ headers, header.Counted ∧ header.Narrow := by
  rw [parse] at parsed
  split at parsed
  · cases parsed
  · exact parses_of_parseHeaders (Nat.le_refl _) parsed

/-- The white list is asked about the record of a header. -/
theorem parseHeader_of_allowed {expectsContents : Bool} {isAllowed : WhiteList} {index : Nat}
    {bytes rest : List UInt8} {header : Header}
    (success : parseHeader expectsContents none index bytes = .ok (header, rest))
    (allowed : isAllowed header.record.headerIndex header.record.enumeration
      header.record.getQualifierCode = true) :
    parseHeader expectsContents (some isAllowed) index bytes = .ok (header, rest) := by
  match bytes, success with
  | group :: variation :: qualifier :: bytes, success =>
      rw [parseHeader] at success ⊢
      by_cases unknown : (GroupVariationRecord.getRecord group variation).enumeration = .unknown
      · simp only [if_pos unknown] at success
        cases success
      · simp only [if_neg unknown, Option.any_none, Bool.false_eq_true, if_false] at success
        obtain ⟨_, _, _, sound⟩ := exact_parseQualifier expectsContents _ bytes header rest success
        rw [sound.record] at allowed
        have listed : isAllowed index (GroupVariationRecord.getRecord group variation).enumeration
          (.fromType qualifier) = true := allowed
        simp only [if_neg unknown, Option.any_some, listed, Bool.not_true, Bool.false_eq_true,
          if_false]
        exact success

theorem parses_parseHeaders_of_allowed {expectsContents : Bool} {isAllowed : WhiteList}
    {index : Nat} {bytes : List UInt8} {headers : List Header}
    (parses : Parses expectsContents index bytes headers)
    (allowed : ∀ header ∈ headers, isAllowed header.record.headerIndex
      header.record.enumeration header.record.getQualifierCode = true) :
    ∀ fuel, bytes.length ≤ fuel →
      parseHeaders expectsContents (some isAllowed) fuel index bytes = .ok headers := by
  induction parses with
  | nil =>
      intro fuel _
      cases fuel <;> simp [parseHeaders]
  | @cons index bytes rest header headers first _ ih =>
      intro fuel enough
      obtain ⟨here, others⟩ := List.forall_mem_cons.mp allowed
      have filled : bytes ≠ [] := by
        simpa using ne_nil_of_parseHeader (by simpa using first [])
      have positive := List.length_pos_iff.mpr filled
      rw [List.length_append] at enough
      cases fuel with
      | zero => omega
      | succ fuel =>
          simp [parseHeaders, parseHeader_of_allowed (first rest) here,
            ih others fuel (by omega), filled]

/-- Bytes that parse header by header are parsed by both passes, if every header is allowed. -/
theorem parse_of_allowed {expectsContents : Bool} {isAllowed : WhiteList} {bytes : List UInt8}
    {headers : List Header} (parses : Parses expectsContents 0 bytes headers)
    (allowed : ∀ header ∈ headers, isAllowed header.record.headerIndex
      header.record.enumeration header.record.getQualifierCode = true) :
    parse expectsContents isAllowed bytes = .ok headers := by
  have first := parses_parseHeaders_of_allowed parses allowed bytes.length (Nat.le_refl _)
  simp only [parse, parseSinglePass, first, parses.parseHeaders bytes.length (Nat.le_refl _)]

/-- A white list allows what it lets through. -/
theorem allowed_of_parseHeader {expectsContents : Bool} {isAllowed : WhiteList} {index : Nat}
    {bytes rest : List UInt8} {header : Header}
    (success : parseHeader expectsContents (some isAllowed) index bytes = .ok (header, rest)) :
    isAllowed header.record.headerIndex header.record.enumeration
      header.record.getQualifierCode = true := by
  match bytes, success with
  | group :: variation :: qualifier :: bytes, success =>
      rw [parseHeader] at success
      by_cases unknown : (GroupVariationRecord.getRecord group variation).enumeration = .unknown
      · simp only [if_pos unknown] at success
        cases success
      · simp only [if_neg unknown, Option.any_some] at success
        split at success
        · cases success
        · next listed =>
            obtain ⟨_, _, _, sound⟩ :=
              exact_parseQualifier expectsContents _ bytes header rest success
            have allowed : isAllowed index (GroupVariationRecord.getRecord group
              variation).enumeration (.fromType qualifier) = true := by simpa using listed
            rw [sound.record]
            exact allowed

theorem allowed_of_parseHeaders {expectsContents : Bool} {isAllowed : WhiteList}
    {fuel index : Nat} {bytes : List UInt8} {headers : List Header}
    (success : parseHeaders expectsContents (some isAllowed) fuel index bytes = .ok headers) :
    ∀ header ∈ headers, isAllowed header.record.headerIndex header.record.enumeration
      header.record.getQualifierCode = true := by
  induction fuel generalizing index bytes headers with
  | zero =>
      cases success
      simp
  | succ fuel ih =>
      rw [parseHeaders] at success
      split at success
      · cases success
        simp
      · cases one : parseHeader expectsContents (some isAllowed) index bytes with
        | error error =>
            rw [one] at success
            cases success
        | ok pair =>
            obtain ⟨header, rest⟩ := pair
            simp only [one] at success
            cases more : parseHeaders expectsContents (some isAllowed) fuel (index + 1) rest with
            | error error =>
                rw [more] at success
                cases success
            | ok others =>
                rw [more] at success
                cases success
                exact List.forall_mem_cons.mpr ⟨allowed_of_parseHeader one, ih more⟩

theorem allowed_of_parse {expectsContents : Bool} {isAllowed : WhiteList} {bytes : List UInt8}
    {headers : List Header} (parsed : parse expectsContents isAllowed bytes = .ok headers) :
    ∀ header ∈ headers, isAllowed header.record.headerIndex header.record.enumeration
      header.record.getQualifierCode = true := by
  rw [parse] at parsed
  split at parsed
  · cases parsed
  · next first passed =>
      have same := parseHeaders_of_whiteList passed
      rw [parseSinglePass, same] at parsed
      cases parsed
      exact allowed_of_parseHeaders passed

/-! ## Handling -/

/-- A pass ends with the error of the parse, or with all of its headers. -/
theorem handleHeaders_cases (expectsContents : Bool) (whiteList : Option WhiteList)
    (hasHandler : Bool) (fuel index : Nat) (bytes : List UInt8) :
    (∃ error, parseHeaders expectsContents whiteList fuel index bytes = .error error ∧
      (handleHeaders expectsContents whiteList hasHandler fuel index bytes).2 = some error) ∨
    ∃ headers, parseHeaders expectsContents whiteList fuel index bytes = .ok headers ∧
      handleHeaders expectsContents whiteList hasHandler fuel index bytes =
        (if hasHandler then headers else [], none) := by
  induction fuel generalizing index bytes with
  | zero => exact .inr ⟨[], rfl, by simp [handleHeaders]⟩
  | succ fuel ih =>
      rw [parseHeaders, handleHeaders]
      by_cases done : bytes.isEmpty = true
      · rw [if_pos done, if_pos done]
        exact .inr ⟨[], rfl, by simp⟩
      · rw [if_neg done, if_neg done]
        cases parseHeader expectsContents whiteList index bytes with
        | error error => exact .inl ⟨error, rfl, rfl⟩
        | ok pair =>
            obtain ⟨header, rest⟩ := pair
            rcases ih (index + 1) rest with ⟨error, failed, stopped⟩ | ⟨headers, passed, handled⟩
            · simp only [failed, stopped]
              exact .inl ⟨error, rfl, rfl⟩
            · simp only [passed, handled]
              refine .inr ⟨header :: headers, rfl, ?_⟩
              cases hasHandler <;> rfl

/-- Nothing is handed over without a handler. -/
theorem handleHeaders_noHandler (expectsContents : Bool) (whiteList : Option WhiteList)
    (fuel index : Nat) (bytes : List UInt8) :
    (handleHeaders expectsContents whiteList false fuel index bytes).1 = [] := by
  induction fuel generalizing index bytes with
  | zero => rfl
  | succ fuel ih =>
      rw [handleHeaders]
      split
      · rfl
      · split
        · rfl
        · exact ih _ _

/-- What the handler gets is what the parse returns, and nothing when it fails. -/
theorem handle_eq_parse (expectsContents : Bool) (isAllowed : WhiteList) (bytes : List UInt8) :
    handle expectsContents isAllowed bytes =
      match parse expectsContents isAllowed bytes with
      | .error error => ([], some error)
      | .ok headers => (headers, none) := by
  have silent := handleHeaders_noHandler expectsContents (some isAllowed) bytes.length 0 bytes
  rw [handle, parse, parseSinglePass, parseSinglePass]
  rcases handleHeaders_cases expectsContents (some isAllowed) false bytes.length 0 bytes with
    ⟨error, failed, stopped⟩ | ⟨headers, passed, handled⟩
  · simp only [failed, stopped, silent]
  · have again := parseHeaders_of_whiteList passed
    rcases handleHeaders_cases expectsContents none true bytes.length 0 bytes with
      ⟨error, failed, _⟩ | ⟨others, success, all⟩
    · rw [again] at failed
      cases failed
    · simp only [passed, handled, success, all]
      rfl

end APDUParser

/-! ## Sizes -/

theorem process_ok {size : Nat} {header other : Header} {bytes rest : List UInt8}
    (success : process bytes size header = .ok (other, rest)) :
    size ≤ bytes.length ∧ rest = bytes.drop size := by
  rw [process] at success
  split at success
  · cases success
  · next long =>
      cases success
      exact ⟨Nat.not_lt.mp long, rfl⟩

theorem Range.count_le (range : Range) : range.count ≤ 2 ^ 16 := by
  have bound := range.stop.toNat_lt
  rw [Range.count]
  split <;> omega

theorem countObjects_size {variation : GroupVariation} {object : FixedSize}
    (known : variation.countObjects = some object) : object.codec.size ≤ 16 := by
  cases variation <;> cases known <;> exact Nat.le_of_ble_eq_true rfl

theorem freeFormat_size {variation : GroupVariation} {format : FreeFormat}
    (known : variation.freeFormat = some format) :
    format.fixedSize ≤ 16 ∧ format.numFields ≤ 3 := by
  cases variation <;> cases known <;> decide

/-- The bytes that a count of objects needs. -/
def FixedSize.requiredSize (count : UInt16) (object : FixedSize) : Nat :=
  count.toNat * object.codec.size

theorem CountParser.takes_requiredSize {record : HeaderRecord} {count : UInt16}
    {bytes rest : List UInt8} {header : Header}
    (success : parseCountOfObjects record count bytes = .ok (header, rest)) :
    ∃ object, record.enumeration.countObjects = some object ∧
      object.requiredSize count ≤ bytes.length ∧
      rest = bytes.drop (object.requiredSize count) := by
  unfold parseCountOfObjects at success
  cases known : record.enumeration.countObjects with
  | none =>
      rw [known] at success
      cases success
  | some object =>
      rw [known] at success
      exact ⟨object, rfl, process_ok success⟩

section sizes

variable [FloatOps]

/-- The bytes that a range of objects needs. -/
def RangeObjects.requiredSize (range : Range) (variation : UInt8) : RangeObjects → Nat
  | .fixedSize object => range.count * object.codec.size
  | .bitfield _ _ => numBytesInBits range.count
  | .doubleBitfield _ _ => numBytesInDoubleBits range.count
  | .octetData => variation.toNat * range.count

/-- The bytes that a count of objects with index prefixes needs. -/
def PrefixObjects.requiredSize (parser : NumParser) (count : UInt16) (variation : UInt8) :
    PrefixObjects → Nat
  | .fixedSize object => count.toNat * (object.codec.size + parser.numBytes)
  | .octetData => count.toNat * (parser.numBytes + variation.toNat)

theorem RangeParser.takes_requiredSize {record : HeaderRecord} {range : Range}
    {bytes rest : List UInt8} {header : Header}
    (success : parseRangeOfObjects record range bytes = .ok (header, rest)) :
    ∃ objects, record.enumeration.rangeObjects = some objects ∧
      objects.requiredSize range record.variation ≤ bytes.length ∧
      rest = bytes.drop (objects.requiredSize range record.variation) := by
  unfold parseRangeOfObjects at success
  cases known : record.enumeration.rangeObjects with
  | none =>
      rw [known] at success
      cases success
  | some objects =>
      rw [known] at success
      refine ⟨objects, rfl, ?_⟩
      cases objects with
      | fixedSize object => exact process_ok success
      | bitfield type ofBit => exact process_ok success
      | doubleBitfield type ofBits => exact process_ok success
      | octetData =>
          simp only [parseRangeOfOctetData] at success
          split at success
          · exact process_ok success
          · cases success

theorem CountIndexParser.takes_requiredSize {parser : NumParser} {record : HeaderRecord}
    {count : UInt16} {bytes rest : List UInt8} {header : Header}
    (success : parseCountOfObjects parser record count bytes = .ok (header, rest)) :
    ∃ objects, record.enumeration.prefixObjects = some objects ∧
      objects.requiredSize parser count record.variation ≤ bytes.length ∧
      rest = bytes.drop (objects.requiredSize parser count record.variation) := by
  unfold parseCountOfObjects at success
  cases known : record.enumeration.prefixObjects with
  | none =>
      rw [known] at success
      cases success
  | some objects =>
      rw [known] at success
      refine ⟨objects, rfl, ?_⟩
      cases objects with
      | fixedSize object => exact process_ok success
      | octetData =>
          simp only [parseIndexPrefixedOctetData] at success
          split at success
          · cases success
          · exact process_ok success

/-- No size that the parsers compute reaches 2^32. -/
structure SizesFit : Prop where
  range : ∀ (variation : GroupVariation) (objects : RangeObjects) (range : Range) (size : UInt8),
    variation.rangeObjects = some objects →
      range.count < 2 ^ 32 ∧ objects.requiredSize range size < 2 ^ 32
  count : ∀ (variation : GroupVariation) (object : FixedSize) (count : UInt16),
    variation.countObjects = some object → object.requiredSize count < 2 ^ 32
  indexed : ∀ (variation : GroupVariation) (objects : PrefixObjects) (parser : NumParser)
    (count : UInt16) (size : UInt8),
    variation.prefixObjects = some objects → objects.requiredSize parser count size < 2 ^ 32
  freeFormat : ∀ (variation : GroupVariation) (format : FreeFormat) (lengths : List Nat),
    variation.freeFormat = some format → lengths.length = format.numFields →
      (∀ length ∈ lengths, length < 2 ^ 16) →
        format.fixedSize + format.numFields * 2 < 2 ^ 32 ∧ lengths.sum < 2 ^ 32

theorem rangeObjects_size {variation : GroupVariation} {object : FixedSize}
    (known : variation.rangeObjects = some (.fixedSize object)) : object.codec.size ≤ 16 := by
  cases variation <;> cases known <;> exact Nat.le_of_ble_eq_true rfl

theorem prefixObjects_size {variation : GroupVariation} {object : FixedSize}
    (known : variation.prefixObjects = some (.fixedSize object)) : object.codec.size ≤ 16 := by
  cases variation <;> cases known <;> exact Nat.le_of_ble_eq_true rfl

theorem sizesFit : SizesFit where
  range variation objects range size known := by
    have most := range.count_le
    refine ⟨by omega, ?_⟩
    cases objects with
    | fixedSize object =>
        have product := Nat.mul_le_mul most (rangeObjects_size known)
        rw [RangeObjects.requiredSize]
        omega
    | bitfield type ofBit =>
        rw [RangeObjects.requiredSize, numBytesInBits]
        split <;> omega
    | doubleBitfield type ofBits =>
        rw [RangeObjects.requiredSize, numBytesInDoubleBits]
        split <;> omega
    | octetData =>
        have product := Nat.mul_le_mul (Nat.le_of_lt size.toNat_lt) most
        rw [RangeObjects.requiredSize]
        omega
  count variation object count known := by
    have product := Nat.mul_le_mul (Nat.le_of_lt count.toNat_lt) (countObjects_size known)
    rw [FixedSize.requiredSize]
    omega
  indexed variation objects parser count size known := by
    have most := Nat.le_of_lt count.toNat_lt
    have width : parser.numBytes ≤ 2 := by cases parser <;> decide
    cases objects with
    | fixedSize object =>
        have product := Nat.mul_le_mul most (Nat.add_le_add (prefixObjects_size known) width)
        rw [PrefixObjects.requiredSize]
        omega
    | octetData =>
        have product := Nat.mul_le_mul most
          (Nat.add_le_add width (Nat.le_of_lt size.toNat_lt))
        rw [PrefixObjects.requiredSize]
        omega
  freeFormat variation format lengths known fields small := by
    obtain ⟨fixed, few⟩ := freeFormat_size known
    have total : lengths.sum ≤ lengths.length * 2 ^ 16 :=
      lengths.sum_le_card_nsmul (2 ^ 16) fun length member => Nat.le_of_lt (small length member)
    rw [fields] at total
    have product := Nat.mul_le_mul_right (2 ^ 16) few
    omega

/-- A parse hands over nothing and fails, or hands over headers that tile the bytes, in order, each
with the objects it declares. -/
theorem APDUParser.handle_exact (expectsContents : Bool) (isAllowed : WhiteList)
    (bytes : List UInt8) :
    (match handle expectsContents isAllowed bytes with
      | (headers, some _) => headers = []
      | (headers, none) =>
          Parses expectsContents 0 bytes headers ∧ ∀ header ∈ headers, header.Counted) ∧
      SizesFit := by
  refine ⟨?_, sizesFit⟩
  rw [handle_eq_parse]
  cases parsed : parse expectsContents isAllowed bytes with
  | error error => rfl
  | ok headers =>
      obtain ⟨parses, all⟩ := parses_of_parse parsed
      exact ⟨parses, fun header member => (all header member).1⟩

/-- Two points and a class are handed over. -/
example :
    @APDUParser.handle .atZero true (fun _ _ _ => true) [1, 2, 0, 5, 6, 0x81, 0x01, 60, 2, 6] =
      ([.rangeOf ⟨.getRecord 1 2, 0, 0⟩ ⟨5, 6⟩ .binary [⟨⟨true, 0x81, 0⟩, 5⟩, ⟨⟨false, 1, 0⟩, 6⟩],
        .allObjects ⟨.getRecord 60 2, 6, 1⟩], none) := by
  decide +kernel

end sizes

end OpenDnp3.App
