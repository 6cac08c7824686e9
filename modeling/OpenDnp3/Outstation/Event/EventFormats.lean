import OpenDnp3.App.HeaderWriterProperties
import OpenDnp3.Master.MeasurementHandler
import OpenDnp3.Outstation.Event.EventWriters

/-!
# Formats of events

What each variation encodes of a measurement, and that the headers a run of
events is written under are read back as just that.
-/

set_option autoImplicit false

namespace OpenDnp3.App.EventType

open OpenDnp3.App OpenDnp3.Library

/-- Times are numbers of 48 bits, and an octet string is not empty. -/
def Encodable : (type : EventType) → type.Meas → Prop
  | .binary, meas => 0 ≤ meas.time ∧ meas.time < 2 ^ 48
  | .analog, meas => 0 ≤ meas.time ∧ meas.time < 2 ^ 48
  | .counter, meas => 0 ≤ meas.time ∧ meas.time < 2 ^ 48
  | .frozenCounter, meas => 0 ≤ meas.time ∧ meas.time < 2 ^ 48
  | .doubleBitBinary, meas => 0 ≤ meas.time ∧ meas.time < 2 ^ 48
  | .binaryOutputStatus, meas => 0 ≤ meas.time ∧ meas.time < 2 ^ 48
  | .analogOutputStatus, meas => 0 ≤ meas.time ∧ meas.time < 2 ^ 48
  | .octetString, data => 0 < data.size

instance : (type : EventType) → (meas : type.Meas) → Decidable (type.Encodable meas)
  | .binary, _ | .analog, _ | .counter, _ | .frozenCounter, _ | .doubleBitBinary, _
  | .binaryOutputStatus, _ | .analogOutputStatus, _ => inferInstanceAs (Decidable (_ ∧ _))
  | .octetString, _ => inferInstanceAs (Decidable (_ < _))

variable [FloatOps]

/-- The analog values that a variation has room for. -/
def encodedAnalog (variation : EventAnalogVariation) (meas : Analog) : Analog :=
  match variation with
  | .group32Var1 => rangeChecked FloatOps.downSampleInt32 FloatOps.ofInt32 meas 0
  | .group32Var2 => rangeChecked FloatOps.downSampleInt16 FloatOps.ofInt16 meas 0
  | .group32Var3 => rangeChecked FloatOps.downSampleInt32 FloatOps.ofInt32 meas meas.time
  | .group32Var4 => rangeChecked FloatOps.downSampleInt16 FloatOps.ofInt16 meas meas.time
  | .group32Var5 => rangeChecked FloatOps.downSampleSingle FloatOps.ofSingle meas 0
  | .group32Var6 => { meas with time := 0 }
  | .group32Var7 => rangeChecked FloatOps.downSampleSingle FloatOps.ofSingle meas meas.time
  | .group32Var8 => meas

def encodedAnalogOutputStatus (variation : EventAnalogOutputStatusVariation)
    (meas : AnalogOutputStatus) : AnalogOutputStatus :=
  match variation with
  | .group42Var1 => rangeChecked FloatOps.downSampleInt32 FloatOps.ofInt32 meas 0
  | .group42Var2 => rangeChecked FloatOps.downSampleInt16 FloatOps.ofInt16 meas 0
  | .group42Var3 => rangeChecked FloatOps.downSampleInt32 FloatOps.ofInt32 meas meas.time
  | .group42Var4 => rangeChecked FloatOps.downSampleInt16 FloatOps.ofInt16 meas meas.time
  | .group42Var5 => rangeChecked FloatOps.downSampleSingle FloatOps.ofSingle meas 0
  | .group42Var6 => { meas with time := 0 }
  | .group42Var7 => rangeChecked FloatOps.downSampleSingle FloatOps.ofSingle meas meas.time
  | .group42Var8 => meas

/-- What a variation encodes of a measurement. The value of a binary is a bit of its flags, and
a relative time stands for the time itself. -/
def encoded : (type : EventType) → type.Variation → type.Meas → type.Meas
  | .binary, .group2Var1, meas => BinaryFactory.ofFlags meas.flags
  | .binary, .group2Var2, meas => BinaryFactory.ofFlagsAndTime (meas.flags, meas.time)
  | .binary, .group2Var3, meas => BinaryFactory.ofFlagsAndTime (meas.flags, meas.time)
  | .doubleBitBinary, .group4Var1, meas => DoubleBitBinaryFactory.ofFlags meas.flags
  | .doubleBitBinary, .group4Var2, meas =>
      DoubleBitBinaryFactory.ofFlagsAndTime (meas.flags, meas.time)
  | .doubleBitBinary, .group4Var3, meas =>
      DoubleBitBinaryFactory.ofFlagsAndTime (meas.flags, meas.time)
  | .binaryOutputStatus, .group11Var1, meas => BinaryFactory.ofFlags meas.flags
  | .binaryOutputStatus, .group11Var2, meas =>
      BinaryFactory.ofFlagsAndTime (meas.flags, meas.time)
  | .counter, .group22Var1, meas => { meas with time := 0 }
  | .counter, .group22Var2, meas => ⟨lowHalf meas.value, meas.flags, 0⟩
  | .counter, .group22Var5, meas => meas
  | .counter, .group22Var6, meas => ⟨lowHalf meas.value, meas.flags, meas.time⟩
  | .frozenCounter, .group23Var1, meas => { meas with time := 0 }
  | .frozenCounter, .group23Var2, meas => ⟨lowHalf meas.value, meas.flags, 0⟩
  | .frozenCounter, .group23Var5, meas => meas
  | .frozenCounter, .group23Var6, meas => ⟨lowHalf meas.value, meas.flags, meas.time⟩
  | .analog, variation, meas => encodedAnalog variation meas
  | .analogOutputStatus, variation, meas => encodedAnalogOutputStatus variation meas
  | .octetString, _, data => data

end OpenDnp3.App.EventType

namespace OpenDnp3.Outstation

open OpenDnp3.App OpenDnp3.Library OpenDnp3.Master

/-- The number of objects that a header carries. -/
def numObjects : Header → Nat
  | .rangeOf _ _ _ values => values.length
  | .countOf _ _ _ values => values.length
  | .prefixOf _ _ _ values => values.length
  | _ => 0

/-- The calls of a handler that loads values carry these values. -/
theorem measurements_loadValues (handler : MeasurementHandler) (record : HeaderRecord)
    (tsmode : TimestampMode) (type : ObjectType) (values : List (Indexed type.Value)) :
    (handler.loadValues record tsmode type values).2.flatMap SOECall.measurements =
      values.map fun value => ⟨type, value.value, value.index⟩ := by
  unfold MeasurementHandler.loadValues MeasurementHandler.emit
  simp only
  split <;> simp [SOECall.measurements]

/-- Events of one type. -/
abbrev Events (type : EventType) := List (Indexed type.Meas)

/-- Entries that are what a conversion makes of events. -/
def Converts {type : EventType} (convert : type.Meas → Option type.Meas)
    (events entries : Events type) : Prop :=
  events.map (fun event => (convert event.value).map fun value => (⟨value, event.index⟩ : Indexed _)) =
    entries.map some

theorem Converts.eq_of_some {type : EventType} {events entries : Events type}
    (converts : Converts some events entries) : entries = events := by
  have same : events.map some = entries.map some := converts
  exact (List.map_injective_iff.mpr (fun _ _ => Option.some.inj) same).symm

/-- Each event with its entry. -/
theorem Converts.cons {type : EventType} {convert : type.Meas → Option type.Meas}
    {event : Indexed type.Meas} {events entries : Events type}
    (converts : Converts convert (event :: events) entries) :
    ∃ value rest, convert event.value = some value ∧ entries = ⟨value, event.index⟩ :: rest ∧
      Converts convert events rest := by
  cases entries with
  | nil => exact absurd converts (by simp [Converts])
  | cons entry entries =>
      simp only [Converts, List.map_cons, List.cons.injEq] at converts
      obtain ⟨value, converted, rfl⟩ := Option.map_eq_some_iff.mp converts.1
      exact ⟨value, entries, converted, rfl, converts.2⟩

theorem Converts.length {type : EventType} {convert : type.Meas → Option type.Meas}
    {events entries : Events type} (converts : Converts convert events entries) :
    entries.length = events.length := by
  simpa using (congrArg List.length converts).symm

theorem EventWriter.withCTO_cases {Value : Type} (cto : DNPTime) (writer : HeaderWriter)
    (serializer : DNP3Serializer (TypedMeasurement Value)) :
    let made := EventWriter.withCTO cto writer serializer
    (made.iterator.isValid = false ∧
        made.writer.position.written = writer.position.written) ∨
      HeaderWriter.PrefixStart
        (writer.position.written ++ HeaderWriter.singleBytes group51Var1.inst cto) .uint16
        serializer (made.iterator, made.writer) := by
  rw [EventWriter.withCTO]
  rcases made : writer.iterateOverCountWithPrefixAndCTO .uint16 .uint16CntUint16Index serializer
    group51Var1.inst cto with ⟨iterator, after⟩
  exact writer.iterateOverCountWithPrefixAndCTO_cases serializer group51Var1.inst cto made

/-- The time of the first event is zero relative to itself. -/
theorem EventWriter.relativeTo_self {Value : Type} (meas : TypedMeasurement Value) :
    EventWriter.relativeTo meas.time meas = some { meas with time := 0 } := by
  simp [EventWriter.relativeTo]

/-- A relative time is a number of 16 bits. -/
theorem EventWriter.relativeTo_eq_some {Value : Type} {cto : DNPTime}
    {meas entry : TypedMeasurement Value} (success : EventWriter.relativeTo cto meas = some entry) :
    entry = { meas with time := meas.time - cto } ∧ 0 ≤ entry.time ∧ entry.time ≤ 65535 := by
  unfold EventWriter.relativeTo at success
  split at success
  · cases success
  rename_i forward
  split at success
  · cases success
  rename_i near
  obtain rfl := (Option.some.inj success).symm
  exact ⟨rfl, Int.sub_nonneg.mpr (Int.not_lt.mp forward), Int.not_lt.mp near⟩

private theorem toNat_ofNat_toNat {time : Int} (nonneg : 0 ≤ time) (below : time ≤ 65535) :
    ((UInt16.ofNat time.toNat).toNat : Int) = time := by
  rw [UInt16.toNat_ofNat', Nat.mod_eq_of_lt (by omega), Int.toNat_of_nonneg nonneg]

/-- A relative time that is read back and added to the common time gives the time again. -/
theorem adjust_kept {Value : Type} (id : GroupVariationID)
    {factory : UInt8 × UInt16 → TypedMeasurement Value}
    (absolute : UInt8 × DNPTime → TypedMeasurement Value)
    (sixteen : ∀ flags time, factory (flags, time) = absolute (flags, time.toNat))
    (shifts : ∀ flags time cto,
      { absolute (flags, time) with time := (absolute (flags, time)).time + cto } =
        absolute (flags, time + cto)) {cto : DNPTime} {meas entry : TypedMeasurement Value}
    (index : UInt16) (success : EventWriter.relativeTo cto meas = some entry) :
    MeasurementHandler.adjust cto ⟨(objectQT16 id factory).codec.kept entry, index⟩ =
      ⟨absolute (meas.flags, meas.time), index⟩ := by
  obtain ⟨rfl, nonneg, below⟩ := EventWriter.relativeTo_eq_some success
  have whole : ((UInt16.ofNat (meas.time - cto).toNat).toNat : Int) = meas.time - cto :=
    toNat_ofNat_toNat nonneg below
  rw [kept_objectQT16 id factory nonneg below, sixteen, MeasurementHandler.adjust, shifts, whole,
    Int.sub_add_cancel]

variable [FloatOps]

/-- Bytes that parse to headers with objects in them, from which a handler takes measurements. -/
structure Reports (index : Nat) (bytes : List UInt8) (headers : List Header)
    (measurements : List Measurement) : Prop where
  parses : Parses true index bytes headers
  nonempty : ∀ header ∈ headers, 0 < numObjects header
  received : ∀ handler : MeasurementHandler,
    (handler.processHeaders headers).2.flatMap SOECall.measurements = measurements

theorem Reports.nil : Reports 0 [] [] [] := ⟨.nil, by simp, fun _ => rfl⟩

/-- A master that processes the bytes gets what they report. -/
theorem Reports.processed {bytes : List UInt8} {headers : List Header}
    {measurements : List Measurement} (reports : Reports 0 bytes headers measurements) :
    ∃ calls, MeasurementHandler.processMeasurements bytes = .ok calls ∧
      calls.flatMap SOECall.measurements = measurements := by
  have parsed : APDUParser.parse true MeasurementHandler.isAllowed bytes = .ok headers :=
    reports.parses.parse
  let processing := MeasurementHandler.initial.processHeaders headers
  refine ⟨if processing.1.txInitiated then processing.2 ++ [.finish] else processing.2, ?_, ?_⟩
  · rw [MeasurementHandler.processMeasurements, parsed]
    rfl
  · rw [← reports.received MeasurementHandler.initial]
    cases processing.1.txInitiated <;> simp [SOECall.measurements, processing]

theorem Reports.append {index : Nat} {bytes more : List UInt8} {headers others : List Header}
    {first second : List Measurement} (before : Reports index bytes headers first)
    (after : Reports (index + headers.length) more others second) :
    Reports index (bytes ++ more) (headers ++ others) (first ++ second) where
  parses := before.parses.append after.parses
  nonempty header member := by
    rcases List.mem_append.mp member with member | member
    · exact before.nonempty header member
    · exact after.nonempty header member
  received handler := by
    rw [MeasurementHandler.processHeaders_append, List.flatMap_append, before.received,
      after.received]

/-- What a variation reports of events. -/
def Events.measurements {type : EventType} (variation : type.Variation) (events : Events type) :
    List Measurement :=
  events.map fun event => ⟨type.objectType, type.encoded variation event.value, event.index⟩

/-- How a run of events is put on the wire: the bytes before its header, the serializer of its
objects, and what becomes of a measurement before it is serialized. -/
structure EventFormat (type : EventType) (variation : type.Variation) where
  lead : List UInt8
  serializer : DNP3Serializer type.Meas
  convert : type.Meas → Option type.Meas
  reports : ∀ (index : Nat) (events entries : Events type), events ≠ [] →
    events.length < 65536 → (∀ event ∈ events, type.Encodable event.value) →
    Converts convert events entries →
    ∃ headers, Reports index (lead ++ prefixedBytes .uint16 serializer entries) headers
      (events.measurements variation)

/-- The first event of a run can be written, or the writer is left as it was. -/
structure EventFormat.Begins {type : EventType} {variation : type.Variation}
    (format : EventFormat type variation) (first : type.Meas) (before : List UInt8)
    (writer : EventWriter type.Meas) : Prop where
  convert : writer.convert = format.convert
  convertible : (format.convert first).isSome = true
  iterator : (writer.iterator.isValid = false ∧ writer.writer.position.written = before) ∨
    HeaderWriter.PrefixStart (before ++ format.lead) .uint16 format.serializer
      (writer.iterator, writer.writer)

/-! ## Objects of a fixed size -/

/-- A variation whose objects stand for themselves. -/
structure IsBasic (type : EventType) (variation : type.Variation)
    (descriptor : Descriptor type.Meas) : Prop where
  start : ∀ first writer, ASDUEventWriteHandler.start type variation first writer =
    .basic writer descriptor.inst
  objects : descriptor.id.enumeration.prefixObjects =
    some (.fixedSize ⟨type.objectType, descriptor.codec⟩)
  kept : ∀ meas, type.Encodable meas → descriptor.codec.kept meas = type.encoded variation meas
  loads : ∀ (handler : MeasurementHandler) (record : HeaderRecord) (values : Events type),
    record.enumeration = descriptor.id.enumeration →
    handler.processPrefix record type.objectType values =
      handler.loadValues record (MeasurementHandler.modeFromType record.enumeration)
        type.objectType values

def IsBasic.format {type : EventType} {variation : type.Variation}
    {descriptor : Descriptor type.Meas} (basic : IsBasic type variation descriptor) :
    EventFormat type variation where
  lead := []
  serializer := descriptor.inst
  convert := some
  reports index events entries nonempty fits encodable converts := by
    obtain rfl := converts.eq_of_some
    refine ⟨[_], .one fun after => parseHeader_twoByteObjects
      ⟨type.objectType, descriptor.codec⟩ basic.objects nonempty fits index after,
      ?_, ?_⟩
    · simp [numObjects, List.length_pos_iff.mpr nonempty]
    · intro handler
      have kept : entries.map (fun entry => (⟨descriptor.codec.kept entry.value, entry.index⟩ :
          Indexed type.Meas)) =
          entries.map fun entry => ⟨type.encoded variation entry.value, entry.index⟩ :=
        List.map_congr_left fun entry member => by
          rw [basic.kept entry.value (encodable entry member)]
      simp only [MeasurementHandler.processHeaders, MeasurementHandler.processHeader,
        List.append_nil]
      rw [kept, basic.loads handler _ _ rfl, measurements_loadValues, List.map_map]
      rfl

theorem IsBasic.begins {type : EventType} {variation : type.Variation}
    {descriptor : Descriptor type.Meas} (basic : IsBasic type variation descriptor)
    (first : type.Meas) (writer : HeaderWriter) :
    basic.format.Begins first writer.position.written
      (ASDUEventWriteHandler.start type variation first writer) := by
  rw [basic.start, EventWriter.basic]
  rcases made : writer.iterateOverCountWithPrefix .uint16 .uint16CntUint16Index descriptor.inst with
    ⟨iterator, after⟩
  refine ⟨rfl, rfl, ?_⟩
  rcases writer.iterateOverCountWithPrefix_cases .uint16 descriptor.inst made with
    ⟨invalid, same⟩ | started
  · exact .inl ⟨invalid, congrArg (·.position.written) same⟩
  · exact .inr (by simpa [IsBasic.format] using started)

/-! ## Objects with a relative time -/

/-- A variation whose times are relative: how they are made so, and made absolute again. -/
structure IsRelative (type : EventType) (variation : type.Variation)
    (descriptor : Descriptor type.Meas) (convert : DNPTime → type.Meas → Option type.Meas)
    (restore : DNPTime → Indexed type.Meas → Indexed type.Meas) : Prop where
  objects : descriptor.id.enumeration.prefixObjects =
    some (.fixedSize ⟨type.objectType, descriptor.codec⟩)
  restores : ∀ {cto : DNPTime} {meas entry : type.Meas} (index : UInt16),
    convert cto meas = some entry →
    restore cto ⟨descriptor.codec.kept entry, index⟩ = ⟨type.encoded variation meas, index⟩
  processes : ∀ (handler : MeasurementHandler) (record : HeaderRecord) (values : Events type),
    record.enumeration = descriptor.id.enumeration →
    handler.processPrefix record type.objectType values =
      handler.processWithCTO record type.objectType
        (values.map (restore handler.commonTimeOccurence))

def IsRelative.format {type : EventType} {variation : type.Variation}
    {descriptor : Descriptor type.Meas} {convert : DNPTime → type.Meas → Option type.Meas}
    {restore : DNPTime → Indexed type.Meas → Indexed type.Meas}
    (relative : IsRelative type variation descriptor convert restore) {cto : DNPTime}
    (nonneg : 0 ≤ cto) (below : cto < 2 ^ 48) : EventFormat type variation where
  lead := HeaderWriter.singleBytes group51Var1.inst cto
  serializer := descriptor.inst
  convert := convert cto
  reports index events entries nonempty fits encodable converts := by
    have present : entries ≠ [] := by
      intro none
      have length := converts.length
      rw [none, List.length_nil] at length
      exact nonempty (List.length_eq_zero_iff.mp length.symm)
    have restored : (entries.map fun entry =>
        (⟨descriptor.codec.kept entry.value, entry.index⟩ : Indexed type.Meas)).map
          (restore cto) =
        events.map fun event => ⟨type.encoded variation event.value, event.index⟩ := by
      clear nonempty fits encodable present
      induction events generalizing entries with
      | nil =>
          have length := converts.length
          rw [List.length_nil] at length
          rw [List.length_eq_zero_iff.mp length]
          rfl
      | cons event events ih =>
          obtain ⟨value, rest, converted, rfl, others⟩ := converts.cons
          rw [List.map_cons, List.map_cons, List.map_cons, ih rest others,
            relative.restores _ converted]
    refine ⟨[_, _], .cons (fun after => parseHeader_single
      ⟨.group51Var1, group51Var1.codec⟩ rfl index cto after)
      (.one fun after => parseHeader_twoByteObjects
        ⟨type.objectType, descriptor.codec⟩ relative.objects present
        (converts.length ▸ fits) (index + 1) after), ?_, ?_⟩
    · simp [numObjects, List.length_pos_iff.mpr present]
    · intro handler
      have kept : group51Var1.codec.kept cto = cto := Codec.kept_u48 nonneg below
      simp only [MeasurementHandler.processHeaders, MeasurementHandler.processHeader,
        MeasurementHandler.processCount, MeasurementHandler.processCTO, kept, List.nil_append,
        List.append_nil]
      rw [relative.processes _ _ _ rfl, MeasurementHandler.processWithCTO, if_neg (by simp),
        measurements_loadValues]
      exact (congrArg (List.map _) restored).trans List.map_map

/-! ## Octet strings -/

def octetFormat {size : UInt8} (positive : 0 < size) :
    EventFormat .octetString .group111Var0 where
  lead := []
  serializer := octetStringSerializer true size
  convert meas := if meas.size ≠ size.toNat then none else some meas
  reports index events entries nonempty fits encodable converts := by
    have same : entries = events ∧ ∀ entry ∈ entries, entry.value.size = size.toNat := by
      clear nonempty fits encodable
      induction events generalizing entries with
      | nil =>
          have length := converts.length
          rw [List.length_nil] at length
          rw [List.length_eq_zero_iff.mp length]
          exact ⟨rfl, by simp⟩
      | cons event events ih =>
          obtain ⟨value, rest, converted, rfl, others⟩ := converts.cons
          obtain ⟨rfl, sizes⟩ := ih rest others
          split at converted
          · cases converted
          rename_i sized
          obtain rfl := Option.some.inj converted
          exact ⟨rfl, List.forall_mem_cons.mpr ⟨not_not.mp sized, sizes⟩⟩
    obtain ⟨rfl, sizes⟩ := same
    refine ⟨[_], .one fun after => parseHeader_prefixedOctets positive nonempty sizes fits index
      after, ?_, ?_⟩
    · simp [numObjects, List.length_pos_iff.mpr nonempty]
    · intro handler
      simp only [MeasurementHandler.processHeaders, MeasurementHandler.processHeader,
        List.append_nil]
      exact measurements_loadValues handler _ _ .octetString entries

theorem octetFormat_begins (first : OctetString)
    (positive : 0 < UInt8.ofNat first.size) (writer : HeaderWriter) :
    (octetFormat positive).Begins first writer.position.written
      (ASDUEventWriteHandler.start .octetString .group111Var0 first writer) := by
  change (octetFormat positive).Begins first _ (EventWriter.octetString _ writer)
  rw [EventWriter.octetString]
  rcases made : writer.iterateOverCountWithPrefix .uint16 .uint16CntUint16Index
    (octetStringSerializer true (UInt8.ofNat first.size)) with ⟨iterator, after⟩
  have below : first.size < 2 ^ 8 := Nat.lt_succ_of_le first.fits
  have size : (UInt8.ofNat first.size).toNat = first.size := by
    rw [UInt8.toNat_ofNat', Nat.mod_eq_of_lt below]
  refine ⟨rfl, by simp [octetFormat, size], ?_⟩
  rcases writer.iterateOverCountWithPrefix_cases .uint16 _ made with ⟨invalid, same⟩ | started
  · exact .inl ⟨invalid, congrArg (·.position.written) same⟩
  · exact .inr (by simpa [octetFormat] using started)

/-! ## The table of formats -/

/-- The objects of the variations that stand for themselves. -/
def basicDescriptor : (type : EventType) → type.Variation → Option (Descriptor type.Meas)
  | .binary, .group2Var1 => some group2Var1
  | .binary, .group2Var2 => some group2Var2
  | .binary, .group2Var3 => none
  | .analog, .group32Var1 => some group32Var1
  | .analog, .group32Var2 => some group32Var2
  | .analog, .group32Var3 => some group32Var3
  | .analog, .group32Var4 => some group32Var4
  | .analog, .group32Var5 => some group32Var5
  | .analog, .group32Var6 => some group32Var6
  | .analog, .group32Var7 => some group32Var7
  | .analog, .group32Var8 => some group32Var8
  | .counter, .group22Var1 => some group22Var1
  | .counter, .group22Var2 => some group22Var2
  | .counter, .group22Var5 => some group22Var5
  | .counter, .group22Var6 => some group22Var6
  | .frozenCounter, .group23Var1 => some group23Var1
  | .frozenCounter, .group23Var2 => some group23Var2
  | .frozenCounter, .group23Var5 => some group23Var5
  | .frozenCounter, .group23Var6 => some group23Var6
  | .doubleBitBinary, .group4Var1 => some group4Var1
  | .doubleBitBinary, .group4Var2 => some group4Var2
  | .doubleBitBinary, .group4Var3 => none
  | .binaryOutputStatus, .group11Var1 => some group11Var1
  | .binaryOutputStatus, .group11Var2 => some group11Var2
  | .analogOutputStatus, .group42Var1 => some group42Var1
  | .analogOutputStatus, .group42Var2 => some group42Var2
  | .analogOutputStatus, .group42Var3 => some group42Var3
  | .analogOutputStatus, .group42Var4 => some group42Var4
  | .analogOutputStatus, .group42Var5 => some group42Var5
  | .analogOutputStatus, .group42Var6 => some group42Var6
  | .analogOutputStatus, .group42Var7 => some group42Var7
  | .analogOutputStatus, .group42Var8 => some group42Var8
  | .octetString, _ => none

private theorem kept_analog {variation : EventAnalogVariation} {descriptor : Descriptor Analog}
    (found : basicDescriptor .analog variation = some descriptor) {meas : Analog}
    (nonneg : 0 ≤ meas.time) (below : meas.time < 2 ^ 48) :
    descriptor.codec.kept meas = EventType.encodedAnalog variation meas := by
  cases variation with
  | group32Var1 => cases found; exact kept_objectQVRangeCheck _ _ Codec.kept_i32 _ _ meas
  | group32Var2 => cases found; exact kept_objectQVRangeCheck _ _ Codec.kept_i16 _ _ meas
  | group32Var3 =>
      cases found; exact kept_objectQVTRangeCheck _ _ Codec.kept_i32 _ _ nonneg below
  | group32Var4 =>
      cases found; exact kept_objectQVTRangeCheck _ _ Codec.kept_i16 _ _ nonneg below
  | group32Var5 => cases found; exact kept_objectQVRangeCheck _ _ Codec.kept_single _ _ meas
  | group32Var6 => cases found; exact kept_objectQV_faithful _ _ Codec.kept_double meas
  | group32Var7 =>
      cases found; exact kept_objectQVTRangeCheck _ _ Codec.kept_single _ _ nonneg below
  | group32Var8 =>
      cases found; exact kept_objectQVT_faithful _ _ Codec.kept_double nonneg below

private theorem kept_analogOutputStatus {variation : EventAnalogOutputStatusVariation}
    {descriptor : Descriptor AnalogOutputStatus}
    (found : basicDescriptor .analogOutputStatus variation = some descriptor)
    {meas : AnalogOutputStatus} (nonneg : 0 ≤ meas.time) (below : meas.time < 2 ^ 48) :
    descriptor.codec.kept meas = EventType.encodedAnalogOutputStatus variation meas := by
  cases variation with
  | group42Var1 => cases found; exact kept_objectQVRangeCheck _ _ Codec.kept_i32 _ _ meas
  | group42Var2 => cases found; exact kept_objectQVRangeCheck _ _ Codec.kept_i16 _ _ meas
  | group42Var3 =>
      cases found; exact kept_objectQVTRangeCheck _ _ Codec.kept_i32 _ _ nonneg below
  | group42Var4 =>
      cases found; exact kept_objectQVTRangeCheck _ _ Codec.kept_i16 _ _ nonneg below
  | group42Var5 => cases found; exact kept_objectQVRangeCheck _ _ Codec.kept_single _ _ meas
  | group42Var6 => cases found; exact kept_objectQV_faithful _ _ Codec.kept_double meas
  | group42Var7 =>
      cases found; exact kept_objectQVTRangeCheck _ _ Codec.kept_single _ _ nonneg below
  | group42Var8 =>
      cases found; exact kept_objectQVT_faithful _ _ Codec.kept_double nonneg below

/-- What an object of one of these variations leaves of a measurement is what it encodes. -/
theorem kept_basicDescriptor {type : EventType} {variation : type.Variation}
    {descriptor : Descriptor type.Meas}
    (found : basicDescriptor type variation = some descriptor) {meas : type.Meas}
    (encodable : type.Encodable meas) :
    descriptor.codec.kept meas = type.encoded variation meas := by
  cases type with
  | binary =>
      cases variation with
      | group2Var1 => cases found; exact kept_objectQ _ _ meas
      | group2Var2 => cases found; exact kept_objectQT _ _ encodable.1 encodable.2
      | group2Var3 => cases found
  | doubleBitBinary =>
      cases variation with
      | group4Var1 => cases found; exact kept_objectQ _ _ meas
      | group4Var2 => cases found; exact kept_objectQT _ _ encodable.1 encodable.2
      | group4Var3 => cases found
  | binaryOutputStatus =>
      cases variation with
      | group11Var1 => cases found; exact kept_objectQ _ _ meas
      | group11Var2 => cases found; exact kept_objectQT _ _ encodable.1 encodable.2
  | counter =>
      cases variation with
      | group22Var1 => cases found; exact kept_objectQV_faithful _ _ Codec.kept_u32 meas
      | group22Var2 => cases found; exact kept_objectQV_half _ meas
      | group22Var5 =>
          cases found; exact kept_objectQVT_faithful _ _ Codec.kept_u32 encodable.1 encodable.2
      | group22Var6 => cases found; exact kept_objectQVT_half _ encodable.1 encodable.2
  | frozenCounter =>
      cases variation with
      | group23Var1 => cases found; exact kept_objectQV_faithful _ _ Codec.kept_u32 meas
      | group23Var2 => cases found; exact kept_objectQV_half _ meas
      | group23Var5 =>
          cases found; exact kept_objectQVT_faithful _ _ Codec.kept_u32 encodable.1 encodable.2
      | group23Var6 => cases found; exact kept_objectQVT_half _ encodable.1 encodable.2
  | analog => exact kept_analog found encodable.1 encodable.2
  | analogOutputStatus => exact kept_analogOutputStatus found encodable.1 encodable.2
  | octetString => cases found

theorem isBasic_of_basicDescriptor {type : EventType} {variation : type.Variation}
    {descriptor : Descriptor type.Meas}
    (found : basicDescriptor type variation = some descriptor) :
    IsBasic type variation descriptor := by
  refine ⟨?_, ?_, fun meas encodable => kept_basicDescriptor found encodable, ?_⟩
  · cases type <;> cases variation <;> cases found <;> exact fun _ _ => rfl
  · -- the ids of the objects with a conversion have to be unfolded to be looked up
    cases type <;> cases variation <;> cases found <;>
      (try simp only [group32Var1, group32Var2, group32Var3, group32Var4, group32Var5, group32Var7,
        group42Var1, group42Var2, group42Var3, group42Var4, group42Var5, group42Var7,
        objectQVRangeCheck, objectQVTRangeCheck]) <;> rfl
  · intro handler record values known
    cases type <;> cases variation <;> cases found <;>
      simp only [MeasurementHandler.processPrefix, known] <;> rfl

theorem isRelative_group2Var3 : IsRelative .binary .group2Var3 group2Var3
    EventWriter.relativeTo MeasurementHandler.adjust where
  objects := rfl
  restores index converted := adjust_kept ⟨2, 3⟩ BinaryFactory.ofFlagsAndTime
    (fun _ _ => rfl) (fun _ _ _ => rfl) index converted
  processes handler record values known := by
    simp only [MeasurementHandler.processPrefix, known]
    rfl

theorem isRelative_group4Var3 : IsRelative .doubleBitBinary .group4Var3 group4Var3
    EventWriter.relativeTo MeasurementHandler.adjust where
  objects := rfl
  restores index converted := adjust_kept ⟨4, 3⟩
    DoubleBitBinaryFactory.ofFlagsAndTime (fun _ _ => rfl) (fun _ _ _ => rfl) index
    converted
  processes handler record values known := by
    simp only [MeasurementHandler.processPrefix, known]
    rfl

/-- A run of events of any type and variation is begun in a format of it. -/
theorem exists_format (type : EventType) (variation : type.Variation) {first : type.Meas}
    (encodable : type.Encodable first) (writer : HeaderWriter) :
    ∃ format : EventFormat type variation, format.Begins first writer.position.written
      (ASDUEventWriteHandler.start type variation first writer) := by
  cases found : basicDescriptor type variation with
  | some descriptor =>
      exact ⟨_, (isBasic_of_basicDescriptor found).begins first writer⟩
  | none =>
      cases type with
      | binary =>
          cases variation <;> cases found
          have made := EventWriter.withCTO_cases first.time writer group2Var3.inst
          exact ⟨isRelative_group2Var3.format encodable.1 encodable.2, rfl,
            by simp [IsRelative.format, EventWriter.relativeTo_self], made⟩
      | doubleBitBinary =>
          cases variation <;> cases found
          have made := EventWriter.withCTO_cases first.time writer group4Var3.inst
          exact ⟨isRelative_group4Var3.format encodable.1 encodable.2, rfl,
            by simp [IsRelative.format, EventWriter.relativeTo_self], made⟩
      | octetString =>
          have positive : 0 < UInt8.ofNat first.size := by
            have below : first.size < 2 ^ 8 := Nat.lt_succ_of_le first.fits
            rw [UInt8.lt_iff_toNat_lt, UInt8.toNat_ofNat', Nat.mod_eq_of_lt below]
            exact encodable
          exact ⟨_, octetFormat_begins first positive writer⟩
      | counter | frozenCounter | analog | binaryOutputStatus | analogOutputStatus =>
          cases variation <;> cases found

end OpenDnp3.Outstation
