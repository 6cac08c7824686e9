import OpenDnp3.Outstation.Database.StaticFormats

/-!
# Loading points

A write function takes points from the front of a range and writes them under
one header. A load of a type goes on with what is left, until the range is used
up or a write fails.
-/

set_option autoImplicit false

namespace OpenDnp3.Outstation

open OpenDnp3.App OpenDnp3.Library

variable {type : StaticType}

/-! ## Consecutive indices -/

/-- Points whose indices count up from a number. -/
def Consecutive : UInt16 → List (Cell type) → Prop
  | _, [] => True
  | next, cell :: cells => cell.vIndex = next ∧ Consecutive (next + 1) cells

/-- Values at the indices of consecutive points. -/
theorem Consecutive.indexed {α : Type} (value : Cell type → α) :
    ∀ {start : Nat} {cells : List (Cell type)}, Consecutive (UInt16.ofNat start) cells →
      indexed start (cells.map value) =
        cells.map fun cell => (⟨value cell, cell.vIndex⟩ : Indexed α)
  | _, [], _ => rfl
  | start, cell :: cells, consecutive => by
      have others := @Consecutive.indexed α value (start + 1) cells
        (by rw [UInt16.ofNat_add]; exact consecutive.2)
      rw [List.map_cons, indexed_cons, others, List.map_cons, consecutive.1]

/-! ## Runs -/

/-- Whether a run goes on with a point. -/
def GoesOn (goesOn : Cell type → Bool) (next : UInt16) (cell : Cell type) : Prop :=
  cell.selection.selected = true ∧ goesOn cell = true ∧ cell.vIndex = next

/-- What a run of writes does: it takes points from the front, as long as they go on and the
iterator accepts their values. -/
structure Runs {Iterator : Type} (write : Iterator → Cursor → type.Meas → Option (Iterator × Cursor))
    (goesOn : Cell type → Bool) (next : UInt16) (before after : List (Cell type))
    (Holds : Iterator → Cursor → List type.Meas → Prop) (values : List type.Meas)
    (taken rest : List (Cell type)) (run : StaticRun type Iterator) : Prop where
  selected : ∀ cell ∈ taken, cell.selection.selected = true ∧ goesOn cell = true
  consecutive : Consecutive next taken
  window : run.points.Window (before ++ taken.map Cell.deselect) rest after
  holds : Holds run.iterator run.position (values ++ taken.map fun cell => cell.selection.value)
  numWritten : run.numWritten = taken.length
  stopped : (run.spaceRemaining = true ∧ ∀ cell ∈ rest.head?,
      ¬GoesOn goesOn (next + UInt16.ofNat taken.length) cell) ∨
    (run.spaceRemaining = false ∧ ∃ cell more, rest = cell :: more ∧
      GoesOn goesOn (next + UInt16.ofNat taken.length) cell ∧
      write run.iterator run.position cell.selection.value = none)

/-- A run takes a prefix of its points. The limit is a number of values up to which a write keeps
what holds of the iterator. -/
theorem writeRun_runs {Iterator : Type}
    (write : Iterator → Cursor → type.Meas → Option (Iterator × Cursor))
    (goesOn : Cell type → Bool) (Holds : Iterator → Cursor → List type.Meas → Prop) (limit : Nat)
    (keeps : ∀ {iterator position values value after}, Holds iterator position values →
      values.length < limit → write iterator position value = some after →
      Holds after.1 after.2 (values ++ [value])) {after : List (Cell type)} :
    ∀ (active : List (Cell type)) (next : UInt16) {fuel : Nat} {iterator : Iterator}
      {position : Cursor} {points : RangeView type} {before : List (Cell type)}
      {values : List type.Meas}, active.length ≤ fuel →
      points.Window before active after → Holds iterator position values →
      values.length + active.length ≤ limit →
      ∃ taken rest, active = taken ++ rest ∧ Runs write goesOn next before after Holds values
        taken rest (writeRun write goesOn fuel next iterator position points) := by
  intro active
  induction active with
  | nil =>
      intro next fuel iterator position points before values _ window holds _
      have ended : writeRun write goesOn fuel next iterator position points =
          ⟨true, 0, iterator, position, points⟩ := by
        cases fuel with
        | zero => rfl
        | succ fuel => rw [writeRun, window.front?_nil]
      rw [ended]
      exact ⟨[], [], rfl, by simp, trivial, by simpa using window, by simpa using holds, rfl,
        .inl ⟨rfl, by simp⟩⟩
  | cons cell active ih =>
      intro next fuel iterator position points before values enough window holds small
      cases fuel with
      | zero => cases enough
      | succ fuel =>
          rw [writeRun, window.front?_cons]
          simp only
          by_cases goes : cell.selection.selected && goesOn cell && cell.vIndex == next
          · rw [if_pos goes]
            simp only [Bool.and_eq_true, beq_iff_eq] at goes
            cases written : write iterator position cell.selection.value with
            | none =>
                refine ⟨[], cell :: active, rfl, by simp, trivial, by simpa using window,
                  by simpa using holds, rfl, .inr ⟨rfl, cell, active, rfl, ?_, written⟩⟩
                exact ⟨goes.1.1, goes.1.2, by simpa using goes.2⟩
            | some result =>
                rw [List.length_cons] at enough small
                obtain ⟨taken, rest, rfl, runs⟩ := @ih (next + 1) fuel _ _ _ _ _
                  (Nat.le_of_succ_le_succ enough) window.take
                  (keeps holds (by omega) written)
                  (by rw [List.length_append, List.length_singleton]; omega)
                have index : next + 1 + UInt16.ofNat taken.length =
                    next + UInt16.ofNat (taken.length + 1) := by
                  rw [UInt16.ofNat_add, UInt16.add_assoc, UInt16.add_comm 1]
                  rfl
                have window := runs.window
                have holds := runs.holds
                have stopped := runs.stopped
                rw [index] at stopped
                rw [List.append_assoc] at window holds
                refine ⟨cell :: taken, rest, rfl, ?_, ⟨goes.2, runs.consecutive⟩, window, holds,
                  congrArg (· + 1) runs.numWritten, stopped⟩
                intro other member
                rcases List.mem_cons.mp member with rfl | member
                · exact goes.1
                · exact runs.selected other member
          · rw [if_neg goes]
            refine ⟨[], cell :: active, rfl, by simp, trivial, by simpa using window,
              by simpa using holds, rfl, .inl ⟨rfl, ?_⟩⟩
            intro other member going
            obtain rfl := Option.some.inj member
            obtain ⟨selected, goesOn, index⟩ := going
            apply goes
            simp [selected, goesOn, index]

section first

variable {Iterator : Type} {write : Iterator → Cursor → type.Meas → Option (Iterator × Cursor)}
  {goesOn : Cell type → Bool} {points : RangeView type} {before active after : List (Cell type)}
  {first : Cell type} {iterator : Iterator} {position : Cursor}

/-- A run whose first write fails. -/
theorem writeRun_refused (window : points.Window before (first :: active) after)
    (selected : first.selection.selected = true) (going : goesOn first = true)
    (refused : write iterator position first.selection.value = none) :
    writeRun write goesOn points.range.count first.vIndex iterator position points =
      ⟨false, 0, iterator, position, points⟩ := by
  rw [window.count, List.length_cons, writeRun, window.front?_cons]
  simp [selected, going, refused]

/-- A run whose first write succeeds. -/
theorem writeRun_accepted (window : points.Window before (first :: active) after)
    (selected : first.selection.selected = true) (going : goesOn first = true)
    (accepted : (write iterator position first.selection.value).isSome = true) :
    (writeRun write goesOn points.range.count first.vIndex iterator position points).numWritten ≠
      0 := by
  obtain ⟨result, written⟩ := Option.isSome_iff_exists.mp accepted
  rw [window.count, List.length_cons, writeRun, window.front?_cons]
  simp [selected, going, written]

end first

/-! ## Headers -/

section headers

variable [FloatOps]

/-- Bytes that parse to headers with these points, none of them without a point. -/
structure StaticReports (index : Nat) (bytes : List UInt8) (headers : List Header)
    (readings : List Reading) : Prop where
  parses : Parses true index bytes headers
  nonempty : ∀ header ∈ headers, header.readings ≠ []
  readings : headers.flatMap Header.readings = readings

/-- The same wherever the bytes stand among the headers. -/
def Reported (bytes : List UInt8) (readings : List Reading) : Prop :=
  ∀ index, ∃ headers, StaticReports index bytes headers readings

theorem Reported.nil : Reported [] [] := fun _ => ⟨[], .nil, by simp, rfl⟩

theorem Reported.append {bytes more : List UInt8} {first second : List Reading}
    (before : Reported bytes first) (behind : Reported more second) :
    Reported (bytes ++ more) (first ++ second) := by
  intro index
  obtain ⟨headers, reports⟩ := before index
  obtain ⟨others, more⟩ := behind (index + headers.length)
  refine ⟨headers ++ others, reports.parses.append more.parses, ?_, ?_⟩
  · intro header member
    rcases List.mem_append.mp member with member | member
    · exact reports.nonempty header member
    · exact more.nonempty header member
  · rw [List.flatMap_append, reports.readings, more.readings]

private theorem reported_of_rangeOf {bytes : List UInt8} {id : GroupVariationID}
    {code : QualifierCode} {range : Range} {values : List (Indexed type.Meas)}
    {taken : List (Cell type)} (nonempty : taken ≠ [])
    (parsed : ∀ index after, APDUParser.parseHeader true none index (bytes ++ after) =
      .ok (.rangeOf (recordOf id code index) range type.objectType values, after))
    (same : values.map (fun value => (⟨id.enumeration, type.objectType, value.value,
      value.index⟩ : Reading)) = taken.map Cell.reading) :
    Reported bytes (taken.map Cell.reading) := by
  intro index
  have readings : (Header.rangeOf (recordOf id code index) range type.objectType values).readings =
      taken.map Cell.reading := same
  refine ⟨_, .one (parsed index), ?_, ?_⟩
  · intro header member
    rw [List.mem_singleton.mp member, readings]
    exact fun none => nonempty (List.map_eq_nil_iff.mp none)
  · rw [List.flatMap_singleton, readings]

/-- A header of points with consecutive indices. -/
theorem IsFixedSize.reported {variation : type.Variation} {descriptor : Descriptor type.Meas}
    (fixed : IsFixedSize type variation descriptor) (indexType : IndexType) {start : UInt16}
    {taken : List (Cell type)} (nonempty : taken ≠ []) (consecutive : Consecutive start taken)
    (variations : ∀ cell ∈ taken, cell.selection.variation = variation)
    (fits : start.toNat + taken.length ≤ indexType.max + 1) :
    Reported (rangeBytes descriptor.id indexType start.toNat
        (taken.map fun cell => cell.selection.value).length
        ((taken.map fun cell => cell.selection.value).flatMap descriptor.codec.write))
      (taken.map Cell.reading) := by
  have known : descriptor.id.enumeration.rangeObjects =
      some (.fixedSize ⟨type.objectType, descriptor.codec⟩) := by
    rw [fixed.enumeration, fixed.objects]
  refine reported_of_rangeOf nonempty (fun index after => parseHeader_rangeObjects
    ⟨type.objectType, descriptor.codec⟩ known indexType (by simpa using nonempty)
    (by rwa [List.length_map]) index after) ?_
  have counted : Consecutive (UInt16.ofNat start.toNat) taken := by
    rwa [UInt16.ofNat_toNat]
  rw [List.map_map, counted.indexed, List.map_map]
  refine List.map_congr_left fun cell member => ?_
  simp only [Function.comp_apply, Cell.reading, fixed.kept, fixed.enumeration,
    variations cell member]

/-- A header of bits of points with consecutive indices. -/
theorem reported_bits (indexType : IndexType) {start : UInt16} {taken : List (Cell .binary)}
    {bytes : List UInt8} (nonempty : taken ≠ []) (consecutive : Consecutive start taken)
    (variations : ∀ cell ∈ taken, cell.selection.variation = .group1Var1)
    (fits : start.toNat + taken.length ≤ indexType.max + 1)
    (packs : Packs bytes (taken.map fun cell => cell.selection.value.value))
    (length : bytes.length = numBytesInBits taken.length) :
    Reported (rangeBytes ⟨1, 1⟩ indexType start.toNat taken.length bytes)
      (taken.map Cell.reading) := by
  have counted : Consecutive (UInt16.ofNat start.toNat) taken := by
    rwa [UInt16.ofNat_toNat]
  have same : (taken.map fun cell => cell.selection.value.value).length = taken.length :=
    List.length_map _
  rw [← same] at fits length ⊢
  refine @reported_of_rangeOf .binary _ _ _ _ _ _ _ nonempty (fun index after => parseHeader_rangeBits
    (show (⟨1, 1⟩ : GroupVariationID).enumeration.rangeObjects =
      some (.bitfield .binary BinaryFactory.ofBool) from rfl) indexType (by simpa using nonempty)
    fits packs length index after) ?_
  rw [List.map_map, counted.indexed, List.map_map]
  refine List.map_congr_left fun cell member => ?_
  rw [Cell.reading, variations cell member]
  rfl

/-- A header of octet strings of one size with consecutive indices. -/
theorem reported_octets (indexType : IndexType) {size : UInt8} (positive : 0 < size)
    {start : UInt16} {taken : List (Cell .octetString)} (nonempty : taken ≠ [])
    (consecutive : Consecutive start taken)
    (sizes : ∀ cell ∈ taken, cell.selection.value.size = size.toNat)
    (fits : start.toNat + taken.length ≤ indexType.max + 1) :
    Reported (rangeBytes ⟨110, size⟩ indexType start.toNat
        (taken.map fun cell => cell.selection.value).length
        ((taken.map fun cell => cell.selection.value).flatMap OctetString.bytes))
      (taken.map Cell.reading) := by
  have counted : Consecutive (UInt16.ofNat start.toNat) taken := by
    rwa [UInt16.ofNat_toNat]
  have values : ∀ value ∈ taken.map (fun cell => cell.selection.value), value.size = size.toNat := by
    intro value member
    obtain ⟨cell, inside, rfl⟩ := List.mem_map.mp member
    exact sizes cell inside
  refine @reported_of_rangeOf .octetString _ _ _ _ _ _ _ nonempty (fun index after =>
    parseHeader_rangeOctets positive indexType (by simpa using nonempty) values
      (by rwa [List.length_map]) index after) ?_
  rw [counted.indexed, List.map_map]
  refine List.map_congr_left fun cell member => ?_
  rw [Cell.reading]
  cases cell.selection.variation
  exact congrArg (fun gv => (⟨gv, .octetString, cell.selection.value, cell.vIndex⟩ : Reading))
    (GroupVariationRecord.getEnumeration_octetString (.inl ⟨rfl, rfl⟩) size)

end headers

/-! ## Write functions -/

theorem Increasing.lt_of_append {first second : List (Cell type)}
    (increasing : Increasing (first ++ second)) {cell other : Cell type} (member : cell ∈ first)
    (behind : other ∈ second) : cell.vIndex.toNat < other.vIndex.toNat := by
  rw [Increasing, List.map_append, List.pairwise_append] at increasing
  exact UInt16.lt_iff_toNat_lt.mp (increasing.2.2 _ (List.mem_map_of_mem member) _
    (List.mem_map_of_mem behind))

theorem Increasing.left {first second : List (Cell type)}
    (increasing : Increasing (first ++ second)) : Increasing first := by
  rw [Increasing, List.map_append, List.pairwise_append] at increasing
  exact increasing.1

theorem Increasing.right {first second : List (Cell type)}
    (increasing : Increasing (first ++ second)) : Increasing second := by
  rw [Increasing, List.map_append, List.pairwise_append] at increasing
  exact increasing.2.1

/-- There are as many indices from the first point to the last as there are points, or more. -/
theorem Increasing.length_le {first : Cell type} {cells : List (Cell type)}
    (increasing : Increasing (first :: cells)) {last : Cell type}
    (isLast : (first :: cells).getLast? = some last) :
    first.vIndex.toNat + cells.length ≤ last.vIndex.toNat := by
  induction cells generalizing first with
  | nil =>
      obtain rfl := Option.some.inj isLast
      exact Nat.le_refl _
  | cons second cells ih =>
      have rest := ih (List.Pairwise.of_cons increasing) (by rwa [List.getLast?_cons_cons] at isLast)
      have less := @Increasing.lt_of_append _ [first] _ increasing _ _ (List.mem_singleton_self _)
        List.mem_cons_self
      rw [List.length_cons]
      omega

/-- The type of the indices of a range holds its last index. -/
theorem le_max_rangeType (start stop : UInt16) :
    stop.toNat ≤ (rangeType ⟨start, stop⟩).max := by
  unfold rangeType
  split
  · rename_i oneByte
    simp only [Range.isOneByte, Bool.and_eq_true, decide_eq_true_eq] at oneByte
    exact UInt16.le_iff_toNat_le.mp oneByte.2
  · exact Nat.le_of_lt_succ stop.toNat_lt

/-- The indices of points taken from the front of a range are no more than there are up to the
last one. -/
theorem Increasing.taken_le {first last : Cell type} {taken rest active : List (Cell type)}
    (increasing : Increasing (first :: active)) (split : first :: active = taken ++ rest)
    (isLast : (first :: active).getLast? = some last) :
    first.vIndex.toNat + taken.length ≤ last.vIndex.toNat + 1 := by
  have total := increasing.length_le isLast
  have length := congrArg List.length split
  rw [List.length_cons, List.length_append] at length
  omega

/-- The space for a header from one point to another, and for the first of them. -/
def spaceNeeded (first last : Cell type) : Nat :=
  3 + (2 * (rangeType ⟨first.vIndex, last.vIndex⟩).size +
    type.objectSize first.selection.variation first.selection.value)

/-- What a write function does: it takes points from the front and reports them, at least one
when there is space. -/
structure Takes [FloatOps] (first last : Cell type) (writer : HeaderWriter)
    (before after : List (Cell type)) (taken rest : List (Cell type))
    (load : StaticLoad type) : Prop where
  selected : ∀ cell ∈ taken, cell.selection.selected = true
  window : load.points.Window (before ++ taken.map Cell.deselect) rest after
  reported : ∃ bytes, load.writer.position.written = writer.position.written ++ bytes ∧
    ((∀ cell ∈ taken, cell.hasContents = true) → Reported bytes (taken.map Cell.reading))
  progress : load.spaceRemaining = true → taken ≠ []
  stopped : load.spaceRemaining = false →
    ∃ cell more, rest = cell :: more ∧ cell.selection.selected = true
  room : spaceNeeded first last ≤ writer.remaining → taken ≠ []
  unused : taken = [] → load.writer = writer

section writing

variable {points : RangeView type} {before after active : List (Cell type)}
  {first last : Cell type}

theorem RangeView.Window.mapped_last (window : points.Window before (first :: active) after)
    (isLast : (first :: active).getLast? = some last) :
    points.mapped = ⟨first.vIndex, last.vIndex⟩ := by
  rw [window.mapped, ← Option.some.inj ((List.getLast?_eq_getLast_of_ne_nil _).symm.trans isLast)]

private theorem Runs.stopped_selected {Iterator : Type}
    {write : Iterator → Cursor → type.Meas → Option (Iterator × Cursor)}
    {goesOn : Cell type → Bool} {Holds : Iterator → Cursor → List type.Meas → Prop}
    {next : UInt16} {values : List type.Meas} {taken rest : List (Cell type)}
    {run : StaticRun type Iterator}
    (runs : Runs write goesOn next before after Holds values taken rest run)
    (failed : run.spaceRemaining = false) :
    ∃ cell more, rest = cell :: more ∧ cell.selection.selected = true := by
  rcases runs.stopped with ⟨remaining, _⟩ | ⟨_, cell, more, split, going, _⟩
  · rw [failed] at remaining
    cases remaining
  · exact ⟨cell, more, split, going.1⟩

variable [FloatOps]

/-- A write function that leaves everything as it was, for lack of space. -/
private theorem takes_none (window : points.Window before (first :: active) after)
    (selected : first.selection.selected = true) {writer : HeaderWriter}
    (short : writer.remaining < spaceNeeded first last) {load : StaticLoad type}
    (same : load = ⟨false, writer, points⟩) :
    Takes first last writer before after [] (first :: active) load := by
  subst same
  refine ⟨by simp, by simpa using window, ⟨[], by simp, fun _ => .nil⟩, ?_, ?_, ?_,
    fun _ => rfl⟩
  · intro space
    cases space
  · exact fun _ => ⟨first, active, rfl, selected⟩
  · intro room
    omega

/-- A run of points that are written under one header, at the front of a range. -/
structure WritesRange (serializer : DNP3Serializer type.Meas) (goesOn : Cell type → Bool)
    (first last : Cell type) (writer : HeaderWriter) (before after taken rest : List (Cell type))
    (load : StaticLoad type) : Prop where
  nonempty : taken ≠ []
  consecutive : Consecutive first.vIndex taken
  accepted : ∀ cell ∈ taken, cell.selection.selected = true ∧ goesOn cell = true
  fits : first.vIndex.toNat + taken.length ≤ (rangeType ⟨first.vIndex, last.vIndex⟩).max + 1
  window : load.points.Window (before ++ taken.map Cell.deselect) rest after
  written : load.writer.position.written = writer.position.written ++
    rangeBytes serializer.id (rangeType ⟨first.vIndex, last.vIndex⟩) first.vIndex.toNat
      (taken.map fun cell => cell.selection.value).length
      ((taken.map fun cell => cell.selection.value).flatMap serializer.write)
  stopped : load.spaceRemaining = false →
    ∃ cell more, rest = cell :: more ∧ cell.selection.selected = true

omit [FloatOps] in
/-- The run of a range iterator is written under its header, unless there is no space for the
first point. -/
private theorem rangeRun_writes (window : points.Window before (first :: active) after)
    (isLast : (first :: active).getLast? = some last) (increasing : Increasing (first :: active))
    (selected : first.selection.selected = true) {serializer : DNP3Serializer type.Meas}
    (size : serializer.size =
      type.objectSize first.selection.variation first.selection.value)
    {goesOn : Cell type → Bool} (going : goesOn first = true)
    {writer behind : HeaderWriter} {iterator : RangeWriteIterator type.Meas}
    (made : writer.iterateOverRange (rangeType ⟨first.vIndex, last.vIndex⟩)
      (rangeType ⟨first.vIndex, last.vIndex⟩).startStop serializer first.vIndex.toNat =
      (iterator, behind))
    {run : StaticRun type (RangeWriteIterator type.Meas)}
    (result : writeRun RangeWriteIterator.write goesOn points.range.count first.vIndex iterator
      behind.position points = run) :
    let load : StaticLoad type := ⟨run.spaceRemaining,
      { behind with position := run.iterator.finish run.position }, run.points⟩
    (writer.remaining < spaceNeeded first last ∧ load = ⟨false, writer, points⟩) ∨
      (run.numWritten ≠ 0 ∧ ∃ taken rest, first :: active = taken ++ rest ∧
        WritesRange serializer goesOn first last writer before after taken rest load) := by
  subst result
  rcases HeaderWriter.iterateOverRange_cases writer _ serializer _ made with
    ⟨invalid, same, short⟩ | started
  · simp only at invalid same
    subst same
    rw [size] at short
    rw [writeRun_refused window selected going (RangeWriteIterator.write_of_invalid invalid _)]
    refine .inl ⟨short, ?_⟩
    simp only [RangeWriteIterator.finish_of_invalid invalid]
  · obtain ⟨taken, rest, split, runs⟩ := writeRun_runs RangeWriteIterator.write goesOn
      (fun iterator position values => iterator.Holds position writer.position.written
        (rangeType ⟨first.vIndex, last.vIndex⟩) first.vIndex.toNat serializer values)
      ([].length + (first :: active).length) (fun holds _ success => holds.write success)
      (first :: active) first.vIndex (Nat.le_of_eq window.count.symm) window started.holds
      (Nat.le_refl _)
    have accepted := writeRun_accepted window selected going (started.room _)
    have nonempty : taken ≠ [] := by
      rintro rfl
      exact accepted runs.numWritten
    have fits := Nat.le_trans (increasing.taken_le split isLast)
      (Nat.succ_le_succ (le_max_rangeType first.vIndex last.vIndex))
    exact .inr ⟨accepted, taken, rest, split, nonempty, runs.consecutive, runs.selected, fits,
      runs.window, runs.holds.finish (by simpa using nonempty),
      fun failed => runs.stopped_selected failed⟩

/-- What is written under one header is taken, if the header can be read. -/
private theorem WritesRange.takes {serializer : DNP3Serializer type.Meas}
    {goesOn : Cell type → Bool} {writer : HeaderWriter} {taken rest : List (Cell type)}
    {load : StaticLoad type}
    (writes : WritesRange serializer goesOn first last writer before after taken rest load)
    (reported : (∀ cell ∈ taken, cell.hasContents = true) →
      Reported (rangeBytes serializer.id (rangeType ⟨first.vIndex, last.vIndex⟩)
          first.vIndex.toNat (taken.map fun cell => cell.selection.value).length
          ((taken.map fun cell => cell.selection.value).flatMap serializer.write))
        (taken.map Cell.reading)) :
    Takes first last writer before after taken rest load :=
  ⟨fun cell member => (writes.accepted cell member).1, writes.window, ⟨_, writes.written, reported⟩,
    fun _ => writes.nonempty, writes.stopped, fun _ => writes.nonempty,
    fun none => absurd none writes.nonempty⟩

theorem writeWithSerializer_takes (window : points.Window before (first :: active) after)
    (isLast : (first :: active).getLast? = some last)
    (increasing : Increasing (first :: active)) (selected : first.selection.selected = true)
    {descriptor : Descriptor type.Meas}
    (fixed : IsFixedSize type first.selection.variation descriptor) (writer : HeaderWriter) :
    ∃ taken rest, first :: active = taken ++ rest ∧ Takes first last writer before after taken rest
      (writeWithSerializer descriptor.inst first writer points) := by
  unfold writeWithSerializer
  rw [window.mapped_last isLast]
  rcases made : writer.iterateOverRange (rangeType ⟨first.vIndex, last.vIndex⟩)
    (rangeType ⟨first.vIndex, last.vIndex⟩).startStop descriptor.inst first.vIndex.toNat with
    ⟨iterator, behind⟩
  simp only [made, loadWithRangeIterator]
  generalize result : writeRun RangeWriteIterator.write _ _ _ iterator _ _ = run
  rcases rangeRun_writes window isLast increasing selected (fixed.size _).symm
    (beq_self_eq_true first.selection.variation) made result with
    ⟨short, same⟩ | ⟨_, taken, rest, split, writes⟩
  · exact ⟨[], first :: active, rfl, takes_none window selected short same⟩
  · refine ⟨taken, rest, split, writes.takes fun _ => ?_⟩
    exact fixed.reported _ writes.nonempty writes.consecutive
      (fun cell member => beq_iff_eq.mp (writes.accepted cell member).2) writes.fits

end writing

/-! ## Octet strings -/

/-- The sizes of the strings of one header are the same. -/
def sameSize (first cell : Cell .octetString) : Bool :=
  cell.selection.value.size == first.selection.value.size &&
    cell.selection.variation == first.selection.variation

theorem toNat_size (data : OctetString) : (UInt8.ofNat data.size).toNat = data.size := by
  have fits := data.fits
  change data.size ≤ 255 at fits
  rw [UInt8.toNat_ofNat', Nat.mod_eq_of_lt (Nat.lt_succ_of_le fits)]

/-- Octet strings are written under a header of their size, unless there is no space for the
first one. -/
theorem writeOctetStrings_writes {points : RangeView .octetString}
    {before after active : List (Cell .octetString)} {first last : Cell .octetString}
    (window : points.Window before (first :: active) after)
    (isLast : (first :: active).getLast? = some last)
    (increasing : Increasing (first :: active)) (selected : first.selection.selected = true)
    (writer : HeaderWriter) :
    (writer.remaining < spaceNeeded first last ∧
        writeOctetStrings first writer points = ⟨false, writer, points⟩) ∨
      ∃ taken rest, first :: active = taken ++ rest ∧
        @WritesRange .octetString
          (octetStringSerializer false (UInt8.ofNat first.selection.value.size))
          (sameSize first) first last writer before after taken rest
          (writeOctetStrings first writer points) := by
  have isValid : points.mapped.isValid = true := by
    rw [window.mapped_last isLast, Range.isValid_iff]
    exact Nat.le_trans (Nat.le_add_right _ _) (increasing.length_le isLast)
  unfold writeOctetStrings
  rw [if_pos isValid, window.mapped_last isLast]
  rcases made : writer.iterateOverRange (rangeType ⟨first.vIndex, last.vIndex⟩)
    (rangeType ⟨first.vIndex, last.vIndex⟩).startStop
    (octetStringSerializer false (UInt8.ofNat first.selection.value.size))
    first.vIndex.toNat with ⟨iterator, behind⟩
  simp only [made, writeSomeOctetString, toNat_size]
  generalize result : @writeRun .octetString _ RangeWriteIterator.write _ _ _ iterator _ _ = run
  have going : sameSize first first = true := by
    rw [sameSize, beq_self_eq_true, beq_self_eq_true]
    rfl
  rcases rangeRun_writes window isLast increasing selected (toNat_size first.selection.value) going
    made result with ⟨short, same⟩ | ⟨some, taken, rest, split, writes⟩
  · refine .inl ⟨short, ?_⟩
    rw [StaticLoad.mk.injEq] at same ⊢
    exact ⟨by rw [same.1, Bool.false_and], same.2⟩
  · refine .inr ⟨taken, rest, split, ?_⟩
    have all : (run.spaceRemaining && run.numWritten != 0) = run.spaceRemaining := by
      rw [bne_iff_ne.mpr some, Bool.and_true]
    rw [all]
    exact writes

theorem writeOctetStrings_takes [FloatOps] {points : RangeView .octetString}
    {before after active : List (Cell .octetString)} {first last : Cell .octetString}
    (window : points.Window before (first :: active) after)
    (isLast : (first :: active).getLast? = some last)
    (increasing : Increasing (first :: active)) (selected : first.selection.selected = true)
    (writer : HeaderWriter) :
    ∃ taken rest, first :: active = taken ++ rest ∧ Takes first last writer before after taken rest
      (writeOctetStrings first writer points) := by
  rcases writeOctetStrings_writes window isLast increasing selected writer with
    ⟨short, same⟩ | ⟨taken, rest, split, writes⟩
  · exact ⟨[], first :: active, rfl, takes_none window selected short same⟩
  · refine ⟨taken, rest, split, writes.takes fun contents => ?_⟩
    have sized : ∀ cell ∈ taken, cell.selection.value.size = first.selection.value.size :=
      fun cell member => beq_iff_eq.mp (Bool.and_eq_true_iff.mp (writes.accepted cell member).2).1
    obtain ⟨cell, member⟩ := List.exists_mem_of_ne_nil taken writes.nonempty
    have positive : 0 < UInt8.ofNat first.selection.value.size := by
      rw [UInt8.lt_iff_toNat_lt, toNat_size, ← sized cell member]
      exact decide_eq_true_eq.mp (contents cell member)
    exact reported_octets _ positive writes.nonempty writes.consecutive
      (fun cell member => (sized cell member).trans (toNat_size _).symm) writes.fits

/-! ## Single bits -/

/-- The points whose header has a count that wraps: exactly the indices of one byte, all of them
selected as single bits, with space for all of these. -/
structure Wraps (cells : List (Cell .binary)) (space : Nat) : Prop where
  indices : cells.map Cell.vIndex = (List.range 256).map UInt16.ofNat
  selected : ∀ cell ∈ cells, cell.selection.selected = true
  packed : ∀ cell ∈ cells, cell.selection.variation = .group1Var1
  space : 37 ≤ space

section bits

variable {points : RangeView .binary} {before after active : List (Cell .binary)}
  {first last : Cell .binary}

theorem Consecutive.vIndices {next : UInt16} {cells : List (Cell type)}
    (consecutive : Consecutive next cells) :
    cells.map Cell.vIndex =
      (List.range cells.length).map fun offset => next + UInt16.ofNat offset := by
  induction cells generalizing next with
  | nil => rfl
  | cons cell cells ih =>
      rw [List.map_cons, ih consecutive.2, consecutive.1, List.length_cons,
        List.range_succ_eq_map, List.map_cons, List.map_map]
      refine congrArg₂ List.cons (UInt16.add_zero _).symm (List.map_congr_left fun offset _ => ?_)
      rw [Function.comp_apply, Nat.succ_eq_add_one, Nat.add_comm, UInt16.ofNat_add,
        UInt16.add_assoc]
      rfl

/-- What the run of single bits at the front of a range makes, and the header it is made under. -/
private theorem loadWithBitfieldIterator_runs
    (window : points.Window before (first :: active) after)
    (isLast : (first :: active).getLast? = some last) (increasing : Increasing (first :: active))
    {writer : HeaderWriter} {iterator : BitfieldRangeWriteIterator} {behind : HeaderWriter}
    (started : HeaderWriter.BitfieldStart writer ⟨1, 1⟩ (rangeType ⟨first.vIndex, last.vIndex⟩)
      first.vIndex.toNat (iterator, behind)) :
    ∃ taken rest, first :: active = taken ++ rest ∧
      Runs (fun iterator position meas => iterator.write position meas.value)
        (fun cell => cell.selection.variation == first.selection.variation) first.vIndex before
        after (fun iterator position values =>
          iterator.Holds position writer.position.written ⟨1, 1⟩
              (rangeType ⟨first.vIndex, last.vIndex⟩) first.vIndex.toNat
              (values.map TypedMeasurement.value) ∧
            position.size = behind.position.size)
        [] taken rest (loadWithBitfieldIterator first iterator behind.position points) := by
  have bound : (first :: active).length ≤ 256 ^ (rangeType ⟨first.vIndex, last.vIndex⟩).size := by
    have total := increasing.length_le isLast
    have below := le_max_rangeType first.vIndex last.vIndex
    have width := (rangeType ⟨first.vIndex, last.vIndex⟩).max_lt
    rw [List.length_cons]
    omega
  refine writeRun_runs _ _ _ (256 ^ (rangeType ⟨first.vIndex, last.vIndex⟩).size) ?_
    (first :: active) first.vIndex (Nat.le_of_eq window.count.symm) window ⟨started.holds, rfl⟩
    (by simpa using bound)
  intro iterator position values value after holds small success
  obtain ⟨written, size⟩ := holds.1.write (by rwa [List.length_map]) success
  exact ⟨by simpa using written, size.trans holds.2⟩

/-- As many points as the type of their count has values are all the indices of one byte. -/
private theorem wraps_of_length (window : points.Window before (first :: active) after)
    (isLast : (first :: active).getLast? = some last) (increasing : Increasing (first :: active))
    {taken rest : List (Cell .binary)} (split : first :: active = taken ++ rest)
    (consecutive : Consecutive first.vIndex taken)
    (selected : ∀ cell ∈ taken, cell.selection.selected = true)
    (packed : ∀ cell ∈ taken, cell.selection.variation = .group1Var1)
    (many : 256 ^ (rangeType ⟨first.vIndex, last.vIndex⟩).size ≤ taken.length) {room space : Nat}
    (bits : taken.length ≤ 8 * room)
    (size : room + (3 + 2 * (rangeType ⟨first.vIndex, last.vIndex⟩).size) = space) :
    Wraps (first :: active) space := by
  have total := increasing.length_le isLast
  have below := le_max_rangeType first.vIndex last.vIndex
  have length := congrArg List.length split
  rw [List.length_cons, List.length_append] at length
  cases kind : rangeType ⟨first.vIndex, last.vIndex⟩ with
  | uint16 =>
      have elements := congrArg List.length window.elements
      have fits := points.view.fits
      rw [List.length_append, List.length_append, List.length_cons] at elements
      rw [kind] at many
      change 65536 ≤ _ at many
      omega
  | uint8 =>
      rw [kind] at many below size
      change 256 ≤ _ at many
      change _ ≤ 255 at below
      change room + 5 = space at size
      have start : first.vIndex = 0 := by
        rw [← UInt16.toNat_inj, UInt16.toNat_zero]
        omega
      have none : rest = [] := List.eq_nil_of_length_eq_zero (by omega)
      rw [none, List.append_nil] at split
      have count : taken.length = 256 := by omega
      refine ⟨?_, fun cell member => selected cell (split ▸ member),
        fun cell member => packed cell (split ▸ member), by omega⟩
      rw [split, consecutive.vIndices, count, start]
      exact List.map_congr_left fun offset _ => UInt16.zero_add _

theorem Wraps.vIndex_eq {cells : List (Cell .binary)} {space : Nat} (wraps : Wraps cells space)
    {taken more : List (Cell .binary)} {cell : Cell .binary} (split : cells = taken ++ cell :: more) :
    cell.vIndex = UInt16.ofNat taken.length ∧ taken.length < 256 := by
  have indices := congrArg (·[taken.length]?) wraps.indices
  have short := congrArg List.length wraps.indices
  rw [List.length_map, List.length_map, List.length_range, split, List.length_append,
    List.length_cons] at short
  have below : taken.length < 256 := by omega
  simp only [split, List.map_append, List.map_cons, List.getElem?_map,
    List.getElem?_range below] at indices
  rw [List.getElem?_append_right (by rw [List.length_map]), List.length_map, Nat.sub_self] at indices
  exact ⟨Option.some.inj indices, below⟩

/-- What is left of bits whose count has wrapped: all points are taken, and the header ends behind
its start and an old byte. -/
structure LeavesOut (writer : HeaderWriter) (before cells after : List (Cell .binary))
    (load : StaticLoad .binary) : Prop where
  spaceRemaining : load.spaceRemaining = true
  window : load.points.Window (before ++ cells.map Cell.deselect) [] after
  written : ∃ stop, load.writer.position.written = writer.position.written ++ [1, 1, 0, 0, stop]

theorem writeSingleBitfield_wraps (window : points.Window before (first :: active) after)
    (increasing : Increasing (first :: active)) (writer : HeaderWriter)
    (wraps : Wraps (first :: active) writer.remaining) :
    LeavesOut writer before (first :: active) after
      (writeSingleBitfield ⟨1, 1⟩ first writer points) := by
  have isFirst : first.vIndex = 0 := (wraps.vIndex_eq (show first :: active = [] ++ _ from rfl)).1
  have length : (first :: active).length = 256 := by
    have indices := congrArg List.length wraps.indices
    rwa [List.length_map, List.length_map, List.length_range] at indices
  obtain ⟨last, isLast⟩ : ∃ last, (first :: active).getLast? = some last :=
    ⟨_, List.getLast?_eq_getLast_of_ne_nil (List.cons_ne_nil first active)⟩
  have isEnd : last.vIndex = 255 := by
    obtain ⟨front, split⟩ := List.getLast?_eq_some_iff.mp isLast
    have index := (wraps.vIndex_eq split).1
    have count := congrArg List.length split
    rw [length, List.length_append, List.length_singleton] at count
    rw [index, show front.length = 255 by omega]
    rfl
  have oneByte : rangeType ⟨first.vIndex, last.vIndex⟩ = .uint8 := by
    rw [isFirst, isEnd]
    rfl
  unfold writeSingleBitfield
  rw [window.mapped_last isLast]
  rcases made : writer.iterateOverSingleBitfield (rangeType ⟨first.vIndex, last.vIndex⟩) ⟨1, 1⟩
    (rangeType ⟨first.vIndex, last.vIndex⟩).startStop first.vIndex.toNat with
    ⟨iterator, behind⟩
  simp only [made]
  rcases HeaderWriter.iterateOverSingleBitfield_cases writer _ _ _ made with
    ⟨_, _, short⟩ | started
  · have space := wraps.space
    rw [oneByte] at short
    change writer.remaining < 6 at short
    omega
  · obtain ⟨taken, rest, split, runs⟩ :=
      loadWithBitfieldIterator_runs window isLast increasing started
    obtain ⟨holds, size⟩ := runs.holds
    have room := started.size
    rw [List.nil_append, List.map_map] at holds
    rw [oneByte] at holds room
    change behind.position.size + 5 = writer.remaining at room
    have nothing : rest = [] := by
      cases rest with
      | nil => rfl
      | cons cell more =>
          obtain ⟨index, below⟩ := wraps.vIndex_eq split
          have member : cell ∈ first :: active := by
            rw [split]
            exact List.mem_append_right _ List.mem_cons_self
          rcases runs.stopped with ⟨_, stops⟩ | ⟨_, other, others, same, _, refused⟩
          · refine absurd ⟨wraps.selected cell member, ?_, ?_⟩ (stops cell rfl)
            · exact beq_iff_eq.mpr ((wraps.packed cell member).trans
                (wraps.packed first List.mem_cons_self).symm)
            · rw [index, isFirst, UInt16.zero_add]
          · -- there is room for 256 bits
            have small : taken.length % 256 ^ IndexType.uint8.size = taken.length :=
              Nat.mod_eq_of_lt below
            have space := wraps.space
            have count := holds.count
            rw [List.length_map, small] at count
            rw [BitfieldRangeWriteIterator.write, if_pos ⟨holds.isValid, by
              rw [count, holds.maxCount, size]; omega⟩] at refused
            cases refused
    subst nothing
    rw [List.append_nil] at split
    have wrapped := holds.finish_of_wrapped (by
      rw [List.length_map, ← split, length]
      rfl)
    obtain ⟨old, one, written⟩ := holds.written
    obtain ⟨stop, rfl⟩ := List.length_eq_one_iff.mp one
    refine ⟨?_, ?_, stop, ?_⟩
    · rcases runs.stopped with ⟨remaining, _⟩ | ⟨_, _, _, more, _⟩
      · exact remaining
      · cases more
    · rw [split]
      exact runs.window
    · simp only [wrapped]
      rw [written, isFirst, List.append_assoc, List.append_assoc]
      rfl

variable [FloatOps]

/-- Single bits are reported, unless the count wraps. -/
theorem writeSingleBitfield_takes (window : points.Window before (first :: active) after)
    (isLast : (first :: active).getLast? = some last)
    (increasing : Increasing (first :: active)) (selected : first.selection.selected = true)
    (packed : first.selection.variation = .group1Var1) (writer : HeaderWriter)
    (fine : ¬Wraps (first :: active) writer.remaining) :
    ∃ taken rest, first :: active = taken ++ rest ∧ Takes first last writer before after taken rest
      (writeSingleBitfield ⟨1, 1⟩ first writer points) := by
  have mapped := window.mapped_last isLast
  have size : StaticType.binary.objectSize first.selection.variation first.selection.value = 1 := by
    rw [packed]
    rfl
  have going : (first.selection.variation == first.selection.variation) = true := beq_self_eq_true _
  unfold writeSingleBitfield
  rw [mapped]
  rcases made : writer.iterateOverSingleBitfield (rangeType ⟨first.vIndex, last.vIndex⟩) ⟨1, 1⟩
    (rangeType ⟨first.vIndex, last.vIndex⟩).startStop first.vIndex.toNat with
    ⟨iterator, behind⟩
  simp only [made]
  rcases HeaderWriter.iterateOverSingleBitfield_cases writer _ _ _ made with
    ⟨invalid, same, short⟩ | started
  · simp only at invalid same
    subst same
    refine ⟨[], first :: active, rfl, takes_none window selected (by rwa [spaceNeeded, size]) ?_⟩
    rw [loadWithBitfieldIterator, writeRun_refused window selected going
      (BitfieldRangeWriteIterator.write_of_invalid invalid _)]
    simp only [BitfieldRangeWriteIterator.finish_of_invalid invalid]
  · obtain ⟨taken, rest, split, runs⟩ :=
      loadWithBitfieldIterator_runs window isLast increasing started
    have variations : ∀ cell ∈ taken, cell.selection.variation = .group1Var1 :=
      fun cell member => (beq_iff_eq.mp (runs.selected cell member).2).trans packed
    have nonempty : taken ≠ [] := by
      rintro rfl
      exact writeRun_accepted window selected going (started.room _) runs.numWritten
    have fits := Nat.le_trans (increasing.taken_le split isLast)
      (Nat.succ_le_succ (le_max_rangeType first.vIndex last.vIndex))
    obtain ⟨holds, room⟩ := runs.holds
    rw [List.nil_append, List.map_map] at holds
    have small : (taken.map (TypedMeasurement.value ∘ fun cell => cell.selection.value)).length <
        256 ^ (rangeType ⟨first.vIndex, last.vIndex⟩).size := by
      rw [List.length_map]
      refine Nat.lt_of_not_le fun many => fine ?_
      have bits : taken.length ≤ 8 * behind.position.size := by
        have enough := holds.fits
        rwa [room, List.length_map] at enough
      exact wraps_of_length window isLast increasing split runs.consecutive
        (fun cell member => (runs.selected cell member).1) variations many bits started.size
    obtain ⟨bytes, packs, length, finished⟩ := holds.finish (by simpa using nonempty) small
    rw [List.length_map] at length finished
    refine ⟨taken, rest, split, fun cell member => (runs.selected cell member).1, runs.window,
      ⟨_, finished, ?_⟩, fun _ => nonempty, fun failed => runs.stopped_selected failed,
      fun _ => nonempty, fun none => absurd none nonempty⟩
    exact fun _ => reported_bits _ nonempty runs.consecutive variations fits packs length

end bits

/-! ## Loads of one type -/

/-- No header of these points has a count that wraps. -/
def NeverWraps : (type : StaticType) → List (Cell type) → Nat → Prop
  | .binary, cells, space => ¬Wraps cells space
  | _, _, _ => True

theorem Wraps.pending {cells : List (Cell .binary)} {space : Nat} (wraps : Wraps cells space) :
    pending cells = cells :=
  List.filter_eq_self.mpr wraps.selected

/-- Only the first points of a database can wrap. -/
theorem neverWraps_of_before {before active : List (Cell type)} (nonempty : before ≠ [])
    (increasing : Increasing (before ++ active)) (space : Nat) : NeverWraps type active space := by
  cases type with
  | binary =>
      intro wraps
      cases active with
      | nil => exact absurd wraps.indices (by simp)
      | cons first active =>
          obtain ⟨cell, member⟩ := List.exists_mem_of_ne_nil before nonempty
          have less := increasing.lt_of_append member List.mem_cons_self
          have zero : first.vIndex = 0 := by
            have indices := congrArg List.head? wraps.indices
            rw [List.range_succ_eq_map] at indices
            exact Option.some.inj indices
          rw [zero] at less
          exact absurd less (Nat.not_lt_zero _)
  | doubleBitBinary | counter | frozenCounter | analog | binaryOutputStatus
  | analogOutputStatus | timeAndInterval | octetString => trivial

theorem Cell.deselect_of_unselected {cell : Cell type}
    (unselected : ¬cell.selection.selected = true) : cell.deselect = cell := by
  rcases cell with ⟨value, vIndex, svariation, event, selected, snapshot, variation⟩
  cases selected with
  | false => rfl
  | true => exact absurd rfl unselected

/-- Deselecting points leaves their indices. -/
theorem Increasing.deselect {before taken rest : List (Cell type)}
    (increasing : Increasing (before ++ (taken ++ rest))) :
    Increasing (before ++ taken.map Cell.deselect ++ rest) := by
  rw [Increasing] at increasing ⊢
  rwa [List.append_assoc, List.map_append, List.map_append, map_vIndex_deselect,
    ← List.map_append, ← List.map_append]

section loading

variable [FloatOps] {points : RangeView type} {before after active : List (Cell type)}
  {first last : Cell type}

/-- Every write function takes points from the front. -/
theorem write_takes (window : points.Window before (first :: active) after)
    (isLast : (first :: active).getLast? = some last)
    (increasing : Increasing (first :: active)) (selected : first.selection.selected = true)
    (writer : HeaderWriter) (fine : NeverWraps type (first :: active) writer.remaining) :
    ∃ taken rest, first :: active = taken ++ rest ∧ Takes first last writer before after taken rest
      (StaticWriters.get type first.selection.variation first writer points) := by
  by_cases octets : type = .octetString
  · subst octets
    have variation : StaticWriters.get .octetString first.selection.variation =
        writeOctetStrings := by
      cases first.selection.variation
      rfl
    rw [variation]
    exact writeOctetStrings_takes window isLast increasing selected writer
  · cases packed : isPacked type first.selection.variation with
    | false =>
        obtain ⟨descriptor, fixed⟩ := exists_isFixedSize type _ octets packed
        rw [fixed.write]
        exact writeWithSerializer_takes window isLast increasing selected fixed writer
    | true =>
        cases type with
        | binary =>
            cases variation : first.selection.variation with
            | group1Var1 =>
                exact writeSingleBitfield_takes window isLast increasing selected variation
                  writer fine
            | group1Var2 =>
                rw [variation] at packed
                cases packed
        | doubleBitBinary | counter | frozenCounter | analog | binaryOutputStatus
        | analogOutputStatus | timeAndInterval | octetString => cases packed

/-- What a load of a type does: it takes points from the front, and reports those of them that
were selected, at least one when there is one and space for it. -/
structure Loads (writer : HeaderWriter) (before after : List (Cell type))
    (taken rest : List (Cell type)) (load : StaticLoad type) : Prop where
  window : load.points.Window (before ++ taken.map Cell.deselect) rest after
  reported : ∃ bytes, load.writer.position.written = writer.position.written ++ bytes ∧
    ((∀ cell ∈ pending taken, cell.hasContents = true) →
      Reported bytes ((pending taken).map Cell.reading))
  complete : load.spaceRemaining = true → rest = []
  stopped : load.spaceRemaining = false →
    ∃ cell more, rest = cell :: more ∧ cell.selection.selected = true
  room : ∀ first last, (pending (taken ++ rest)).head? = some first →
    (taken ++ rest).getLast? = some last → spaceNeeded first last ≤ writer.remaining →
    pending taken ≠ []
  unused : pending taken = [] → load.writer = writer

/-- A load of a type goes on until no point is left, or one does not fit. -/
theorem loadType_loads :
    ∀ (fuel : Nat) {active before : List (Cell type)} {points : RangeView type}
      (writer : HeaderWriter), active.length < fuel → points.Window before active after →
      Increasing (before ++ active) →
      (before = [] → NeverWraps type (pending active) writer.remaining) →
      ∃ load taken rest, points.loadType fuel writer = some load ∧ active = taken ++ rest ∧
        Loads writer before after taken rest load := by
  intro fuel
  induction fuel with
  | zero =>
      intro active before points writer enough
      cases enough
  | succ fuel ih =>
      intro active before points writer enough window increasing fine
      cases active with
      | nil =>
          refine ⟨⟨true, writer, points⟩, [], [], ?_, rfl, by simpa using window,
            ⟨[], by simp, fun _ => .nil⟩, fun _ => rfl, ?_, ?_, fun _ => rfl⟩
          · rw [RangeView.loadType, window.front?_nil]
          · intro failed
            cases failed
          · intro first last none
            cases none
      | cons first active =>
          rw [RangeView.loadType, window.front?_cons]
          simp only
          rw [List.length_cons] at enough
          by_cases selected : first.selection.selected = true
          · rw [if_pos selected]
            obtain ⟨last, isLast⟩ : ∃ last, (first :: active).getLast? = some last :=
              ⟨_, List.getLast?_eq_getLast_of_ne_nil (List.cons_ne_nil first active)⟩
            have neverWraps : NeverWraps type (first :: active) writer.remaining := by
              cases before with
              | nil =>
                  cases type with
                  | binary => exact fun wraps => fine rfl (by rwa [wraps.pending])
                  | doubleBitBinary | counter | frozenCounter | analog | binaryOutputStatus
                  | analogOutputStatus | timeAndInterval | octetString => trivial
              | cons cell before =>
                  exact neverWraps_of_before (List.cons_ne_nil cell before) increasing _
            obtain ⟨taken, rest, split, takes⟩ :=
              write_takes window isLast increasing.right selected writer neverWraps
            have pendingTaken := pending_of_selected takes.selected
            have roomy : ∀ first last, (pending (taken ++ rest)).head? = some first →
                (taken ++ rest).getLast? = some last →
                spaceNeeded first last ≤ writer.remaining → taken ≠ [] := by
              intro head final isHead isFinal enough
              rw [← split] at isHead isFinal
              rw [pending_cons_selected selected] at isHead
              obtain rfl := Option.some.inj isHead
              obtain rfl := Option.some.inj (isLast.symm.trans isFinal)
              exact takes.room enough
            rw [split] at increasing
            cases space : (StaticWriters.get type first.selection.variation first writer
              points).spaceRemaining with
            | false =>
                rw [if_neg Bool.false_ne_true]
                refine ⟨_, taken, rest, rfl, split, takes.window, ?_, ?_, takes.stopped, ?_,
                  fun none => takes.unused (pendingTaken.symm.trans none)⟩
                · rw [pendingTaken]
                  exact takes.reported
                · intro remaining
                  rw [space] at remaining
                  cases remaining
                · rwa [pendingTaken]
            | true =>
                rw [if_pos rfl]
                have nonempty := takes.progress space
                have shorter := congrArg List.length split
                rw [List.length_cons, List.length_append] at shorter
                have positive := List.length_pos_iff.mpr nonempty
                obtain ⟨load, more, left, success, rfl, loads⟩ := ih _ (by omega) takes.window
                  increasing.deselect (by simp [nonempty])
                obtain ⟨bytes, written, reported⟩ := takes.reported
                obtain ⟨others, behind, reports⟩ := loads.reported
                refine ⟨load, taken ++ more, left, success, by rw [split, List.append_assoc], ?_,
                  ⟨bytes ++ others, ?_, ?_⟩, loads.complete, loads.stopped, ?_, ?_⟩
                · rw [List.map_append, ← List.append_assoc]
                  exact loads.window
                · rw [behind, written, List.append_assoc]
                · rw [pending_append, pendingTaken, List.map_append]
                  intro contents
                  exact (reported fun cell member => contents cell (List.mem_append_left _ member)).append
                    (reports fun cell member => contents cell (List.mem_append_right _ member))
                · intro _ _ _ _ _
                  rw [pending_append, pendingTaken]
                  exact List.append_ne_nil_of_left_ne_nil nonempty _
                · intro none
                  rw [pending_append, pendingTaken] at none
                  exact absurd (List.append_eq_nil_iff.mp none).1 nonempty
          · rw [if_neg selected]
            obtain ⟨load, taken, rest, success, rfl, loads⟩ := ih writer
              (Nat.lt_of_succ_lt_succ enough) window.skip (by simpa using increasing) (by simp)
            refine ⟨load, first :: taken, rest, success, rfl, ?_, ?_, loads.complete, loads.stopped,
              ?_, fun none => loads.unused ((pending_cons_unselected selected taken).symm.trans none)⟩
            · have window := loads.window
              rwa [List.append_assoc, List.singleton_append,
                ← Cell.deselect_of_unselected selected] at window
            · rw [pending_cons_unselected selected]
              exact loads.reported
            · intro head last isHead isLast enough
              rw [List.cons_append, pending_cons_unselected selected] at isHead
              rw [pending_cons_unselected selected]
              refine loads.room head last isHead ?_ enough
              cases split : taken ++ rest with
              | nil =>
                  rw [split] at isHead
                  cases isHead
              | cons second cells =>
                  rwa [List.cons_append, split, List.getLast?_cons_cons] at isLast

end loading

end OpenDnp3.Outstation
