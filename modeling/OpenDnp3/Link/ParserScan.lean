import OpenDnp3.Link.FrameScan
import OpenDnp3.Link.LinkLayerParser

/-!
# The parser scans

However its input is cut into reads, the parser delivers the frames of a scan. What it keeps
between reads is what the scan still has to decide about.
-/

set_option autoImplicit false

namespace OpenDnp3.Link

open FrameScan

/-! ## Buffer -/

namespace ShiftableBuffer

structure Valid (buffer : ShiftableBuffer) : Prop where
  read_le : buffer.readPos ≤ buffer.writePos
  write_le : buffer.writePos ≤ buffer.pBuffer.length

variable {buffer : ShiftableBuffer}

namespace Valid

theorem length_readBuffer (valid : buffer.Valid) :
    buffer.readBuffer.length = buffer.numBytesRead := by
  have low := valid.read_le
  have high := valid.write_le
  rw [readBuffer, List.length_take, List.length_drop, numBytesRead]
  omega

theorem drop_readPos (valid : buffer.Valid) :
    buffer.pBuffer.drop buffer.readPos = buffer.readBuffer ++ buffer.pBuffer.drop buffer.writePos := by
  have low := valid.read_le
  have rest : buffer.pBuffer.drop buffer.writePos =
      (buffer.pBuffer.drop buffer.readPos).drop buffer.numBytesRead := by
    rw [List.drop_drop, numBytesRead]
    congr 1
    omega
  rw [rest, readBuffer, List.take_append_drop]

theorem advanceRead (valid : buffer.Valid) {count : Nat} (here : count ≤ buffer.numBytesRead) :
    (buffer.advanceRead count).Valid := by
  have low := valid.read_le
  rw [numBytesRead] at here
  exact ⟨by simp only [ShiftableBuffer.advanceRead]; omega, valid.write_le⟩

theorem advanceWrite (valid : buffer.Valid) (bytes : List UInt8) :
    (buffer.advanceWrite bytes).Valid := by
  have low := valid.read_le
  have high := valid.write_le
  constructor
  · simp only [ShiftableBuffer.advanceWrite]
    omega
  · simp only [ShiftableBuffer.advanceWrite, List.length_append, List.length_take,
      List.length_drop]
    omega

theorem length_advanceWrite (valid : buffer.Valid) {bytes : List UInt8}
    (fits : bytes.length ≤ buffer.numWriteBytes) :
    (buffer.advanceWrite bytes).pBuffer.length = buffer.pBuffer.length := by
  have high := valid.write_le
  rw [numWriteBytes] at fits
  simp only [ShiftableBuffer.advanceWrite, List.length_append, List.length_take,
    List.length_drop]
  omega

theorem readBuffer_advanceWrite (valid : buffer.Valid) (bytes : List UInt8) :
    (buffer.advanceWrite bytes).readBuffer = buffer.readBuffer ++ bytes := by
  have low := valid.read_le
  have high := valid.write_le
  have count : (buffer.advanceWrite bytes).numBytesRead = buffer.numBytesRead + bytes.length := by
    simp only [ShiftableBuffer.advanceWrite, numBytesRead]
    omega
  have front : (buffer.pBuffer.take buffer.writePos).drop buffer.readPos = buffer.readBuffer := by
    rw [List.drop_take, readBuffer, numBytesRead]
  rw [readBuffer, count]
  simp only [ShiftableBuffer.advanceWrite]
  rw [List.append_assoc, List.drop_append_of_le_length (by rw [List.length_take]; omega), front,
    ← List.append_assoc]
  exact List.take_left' (by rw [List.length_append, valid.length_readBuffer])

theorem shift (valid : buffer.Valid) : buffer.shift.Valid := by
  have size := valid.length_readBuffer
  refine ⟨Nat.zero_le _, ?_⟩
  simp only [ShiftableBuffer.shift, List.length_append, size]
  omega

theorem readBuffer_shift (valid : buffer.Valid) : buffer.shift.readBuffer = buffer.readBuffer := by
  rw [readBuffer, numBytesRead]
  simp only [ShiftableBuffer.shift, List.drop_zero, Nat.sub_zero]
  exact List.take_left' valid.length_readBuffer

theorem length_shift (valid : buffer.Valid) :
    buffer.shift.pBuffer.length = buffer.pBuffer.length := by
  have low := valid.read_le
  have high := valid.write_le
  have size := valid.length_readBuffer
  simp only [ShiftableBuffer.shift, List.length_append, List.length_drop, size]
  rw [numBytesRead]
  omega

end Valid

theorem readBuffer_advanceRead (buffer : ShiftableBuffer) (count : Nat) :
    (buffer.advanceRead count).readBuffer = buffer.readBuffer.drop count := by
  rw [readBuffer, readBuffer, List.drop_take, List.drop_drop, numBytesRead, numBytesRead]
  simp only [advanceRead, Nat.sub_sub]

/-- Synchronization skips bytes that begin no frame. -/
theorem Valid.syncFrom (valid : buffer.Valid) {rounds : Nat}
    (enough : buffer.numBytesRead ≤ rounds) :
    ∃ synced skipped, buffer.syncFrom rounds = (synced, buffer.advanceRead skipped) ∧
      skipped ≤ buffer.numBytesRead ∧
      Advances [] buffer.readBuffer (buffer.advanceRead skipped).readBuffer ∧
      if synced then Starts (buffer.advanceRead skipped).readBuffer ∧
        2 ≤ (buffer.advanceRead skipped).readBuffer.length
      else (buffer.advanceRead skipped).readBuffer.length ≤ 1 := by
  have size := valid.length_readBuffer
  induction rounds generalizing buffer with
  | zero =>
      refine ⟨false, 0, rfl, Nat.zero_le _, Advances.refl _, ?_⟩
      rw [readBuffer_advanceRead, List.drop_zero, size]
      simp only [Bool.false_eq_true, if_false]
      omega
  | succ rounds ih =>
      rw [ShiftableBuffer.syncFrom]
      by_cases two : buffer.numBytesRead > 1
      · rw [if_pos two]
        by_cases starts : Starts buffer.readBuffer
        · refine ⟨true, 0, if_pos starts, Nat.zero_le _, Advances.refl _, ?_⟩
          rw [readBuffer_advanceRead, List.drop_zero, size]
          exact ⟨starts, two⟩
        · have one : 1 ≤ buffer.numBytesRead := by omega
          have still := valid.advanceRead one
          have less : (buffer.advanceRead 1).numBytesRead + 1 = buffer.numBytesRead := by
            simp only [ShiftableBuffer.advanceRead, numBytesRead] at one ⊢
            omega
          obtain ⟨synced, skipped, ran, here, advances, final⟩ :=
            ih still (by omega) still.length_readBuffer
          have joined : (buffer.advanceRead 1).advanceRead skipped =
              buffer.advanceRead (1 + skipped) := by
            simp only [ShiftableBuffer.advanceRead, Nat.add_assoc]
          rw [joined] at ran advances final
          refine ⟨synced, 1 + skipped, (if_neg starts).trans ran, by omega, ?_, final⟩
          have skip := advances_skip (by rw [size]; exact two) starts
          rw [readBuffer_advanceRead, List.drop_one] at advances
          exact skip.trans advances
      · rw [if_neg two]
        refine ⟨false, 0, rfl, Nat.zero_le _, Advances.refl _, ?_⟩
        rw [readBuffer_advanceRead, List.drop_zero, size]
        simp only [Bool.false_eq_true, if_false]
        omega

end ShiftableBuffer

/-! ## Compaction

User data is moved towards the front, over bytes that are read already. -/

namespace LinkFrame

variable {memory : List UInt8} {dest src num length : Nat}

theorem length_memmove (towards : dest ≤ src) (inside : src + num ≤ memory.length) :
    (memmove memory dest src num).length = memory.length := by
  simp only [memmove, List.length_append, List.length_take, List.length_drop]
  omega

theorem take_memmove (towards : dest ≤ src) (inside : src + num ≤ memory.length) :
    (memmove memory dest src num).take (dest + num) =
      memory.take dest ++ (memory.drop src).take num := by
  refine List.take_left' ?_
  simp only [List.length_append, List.length_take, List.length_drop]
  omega

theorem drop_memmove (towards : dest ≤ src) (inside : src + num ≤ memory.length) {count : Nat}
    (behind : dest + num ≤ count) :
    (memmove memory dest src num).drop count = memory.drop count := by
  have front : (memory.take dest ++ (memory.drop src).take num).length = dest + num := by
    simp only [List.length_append, List.length_take, List.length_drop]
    omega
  obtain ⟨more, rfl⟩ := Nat.exists_eq_add_of_le behind
  rw [memmove, ← List.drop_drop, List.drop_left' front, List.drop_drop]

/-- Blocks are put together in front, and what comes behind them is not touched. -/
theorem readBlocks_spec {blocks : Nat} (full : blocks = numBlocks length)
    (towards : dest ≤ src) (inside : src + length + 2 * blocks ≤ memory.length) :
    (readBlocks blocks memory src dest length).length = memory.length ∧
      (readBlocks blocks memory src dest length).take (dest + length) =
        memory.take dest ++ payloadBlocks blocks (memory.drop src) length ∧
      (readBlocks blocks memory src dest length).drop (src + length + 2 * blocks) =
        memory.drop (src + length + 2 * blocks) := by
  induction blocks generalizing memory src dest length with
  | zero =>
      rw [numBlocks] at full
      have none : length = 0 := by omega
      subst none
      simp [readBlocks, payloadBlocks]
  | succ blocks ih =>
      rw [numBlocks] at full
      have rest : blocks = numBlocks (length - min length 16) := by
        rw [numBlocks]
        omega
      have room : src + min length 16 ≤ memory.length := by omega
      have size := length_memmove towards room
      have still : dest + min length 16 ≤ src + (min length 16 + 2) := by omega
      have within : src + (min length 16 + 2) + (length - min length 16) + 2 * blocks ≤
          (memmove memory dest src (min length 16)).length := by omega
      obtain ⟨kept, front, back⟩ := ih rest still within
      have whole : dest + min length 16 + (length - min length 16) = dest + length := by omega
      have next : src + (min length 16 + 2) + (length - min length 16) + 2 * blocks =
          src + length + 2 * (blocks + 1) := by omega
      rw [whole, take_memmove towards room, drop_memmove towards room (by omega)] at front
      rw [next, drop_memmove towards room (by omega)] at back
      refine ⟨kept.trans size, ?_, back⟩
      simp only [readBlocks, payloadBlocks]
      rw [front, List.drop_drop, List.append_assoc]

end LinkFrame

/-! ## Headers -/

/-- A known function says by itself which station sends it. -/
theorem LinkHeader.isPriToSec_eq {header : LinkHeader} (known : header.getFuncEnum ≠ .invalid) :
    header.isPriToSec = header.getFuncEnum.isPrimary := by
  have masked : header.ctrl &&& 0x40 = header.ctrl &&& 0x4F &&& 0x40 := by
    rw [UInt8.and_assoc]
    rfl
  rw [isPriToSec, masked]
  rw [getFuncEnum] at known ⊢
  generalize header.ctrl &&& 0x4F = type at known ⊢
  unfold LinkFunction.fromType at known ⊢
  split at known <;> first | rfl | exact absurd rfl known

/-- What is counted apart from frames. -/
def ParserStatistics.errors (statistics : ParserStatistics) : ParserStatistics :=
  { statistics with numLinkFrameRx := 0 }

namespace LinkLayerParser

theorem validateFunctionCode_eq_none (header : LinkHeader) :
    validateFunctionCode header = none ↔ header.flagsAccepted = true := by
  have known := @LinkHeader.isPriToSec_eq header
  rw [validateFunctionCode, LinkHeader.flagsAccepted]
  cases func : header.getFuncEnum with
  | invalid => cases header.isPriToSec <;> simp
  | priConfirmedUserData | priTestLinkStates | priResetLinkStates | priUnconfirmedUserData
  | priRequestLinkStatus =>
      rw [func] at known
      rw [known (by decide)]
      cases header.isFcvDfcSet <;> simp [LinkFunction.isPrimary]
  | secAck | secNack | secLinkStatus | secNotSupported =>
      rw [func] at known
      rw [known (by decide)]
      cases header.isFcbSet <;> simp [LinkFunction.isPrimary]

variable (parser : LinkLayerParser)

/-- What validating the parameters of a header does. -/
theorem validateHeaderParameters_spec :
    (parser.validateHeaderParameters).1 = parser.header.accepted ∧
      (parser.validateHeaderParameters).2.header = parser.header ∧
      (parser.validateHeaderParameters).2.state = parser.state ∧
      (parser.validateHeaderParameters).2.buffer = parser.buffer ∧
      (parser.header.accepted = true →
        (parser.validateHeaderParameters).2.statistics = parser.statistics ∧
          (parser.validateHeaderParameters).2.frameSize = FrameScan.frameSize parser.header) := by
  have validLength : parser.header.validLength = decide (4 < parser.header.length.toNat) :=
    decide_eq_decide.mpr UInt8.lt_iff_toNat_lt
  have carries (func : LinkFunction) :
      (func == .priConfirmedUserData || func == .priUnconfirmedUserData) = func.hasPayload := by
    cases func <;> rfl
  have flags := validateFunctionCode_eq_none parser.header
  simp only [validateHeaderParameters, LinkHeader.accepted, validLength, carries]
  by_cases long : 4 < parser.header.length.toNat
  · cases error : validateFunctionCode parser.header with
    | some error =>
        have wrong := mt flags.mpr (by rw [error]; exact Option.some_ne_none _)
        rw [Bool.not_eq_true] at wrong
        simp [long, wrong, count]
    | none =>
        have right := flags.mp error
        rw [right]
        by_cases empty : 0 < parser.header.dataLength <;>
          cases parser.header.getFuncEnum.hasPayload <;>
            simp [long, empty, count, FrameScan.frameSize]
  · simp [long, count]

theorem readHeader_spec :
    (parser.readHeader).1 = (headerAt parser.buffer.readBuffer).isSome ∧
      (parser.readHeader).2.header = .read parser.buffer.readBuffer ∧
      (parser.readHeader).2.buffer = parser.buffer ∧
      ((headerAt parser.buffer.readBuffer).isSome = true →
        (parser.readHeader).2.statistics = parser.statistics ∧
          (parser.readHeader).2.frameSize =
            FrameScan.frameSize (.read parser.buffer.readBuffer)) := by
  obtain ⟨accepted, header, _, buffer, good⟩ := validateHeaderParameters_spec
    { parser with header := .read parser.buffer.readBuffer }
  simp only at accepted header buffer good
  simp only [readHeader, headerAt]
  by_cases correct : CRC.isCorrectCRC parser.buffer.readBuffer 8 = true
  · simp only [correct, if_true, Bool.true_and]
    cases fine : (LinkHeader.read parser.buffer.readBuffer).accepted with
    | false =>
        rw [fine] at accepted
        exact ⟨accepted, header, buffer, fun found => by cases found⟩
    | true =>
        rw [fine] at accepted good
        exact ⟨accepted, header, buffer, fun _ => good rfl⟩
  · simp [correct, count]

/-! ## Steps -/

/-- The bytes that the parser has not decided about. -/
def unread : List UInt8 := parser.buffer.readBuffer

/-- What holds of a parser between frames. -/
structure Ready : Prop where
  valid : parser.buffer.Valid
  size : parser.buffer.pBuffer.length = 292
  incomplete : parser.state ≠ .complete
  synced : parser.state ≠ .findSync → Starts parser.unread ∧ 2 ≤ parser.unread.length
  header : parser.state = .readBody → 10 ≤ parser.unread.length ∧
    headerAt parser.unread = some parser.header ∧
    parser.frameSize = FrameScan.frameSize parser.header

/-- From one parser to another some events are found. Only rejected bytes are counted. -/
structure Moves (events : List Event) (after : LinkLayerParser) : Prop where
  advances : Advances events parser.unread after.unread
  statistics : .rejected ∉ events → after.statistics = parser.statistics

def rank : ParserState → Nat
  | .findSync => 3
  | .readHeader => 2
  | .readBody => 1
  | .complete => 0

def remaining : Nat := 4 * parser.unread.length + rank parser.state

/-- What a step may do: find that more bytes are needed, go on, or complete a frame. -/
inductive Stepped (after : LinkLayerParser) : Prop
  | waiting (same : after.state = parser.state) (ready : after.Ready)
      (moves : parser.Moves [] after) (nothing : scan after.unread = [])
      (room : after.unread.length < 292)
  | onward (other : after.state ≠ parser.state) (ready : after.Ready) (events : List Event)
      (moves : parser.Moves events after) (none : frames events = [])
      (shrinks : after.unread.length ≤ parser.unread.length)
      (less : after.remaining < parser.remaining)
  | completed (state : after.state = .complete)
      (ready : { after.pushFrame.2 with state := .findSync }.Ready)
      (moves : parser.Moves [.frame after.pushFrame.1] after.pushFrame.2)
      (less : after.pushFrame.2.unread.length + 10 ≤ parser.unread.length)

section steps

variable {parser}

theorem Ready.length_unread (ready : parser.Ready) :
    parser.unread.length = parser.buffer.numBytesRead := ready.valid.length_readBuffer

theorem Ready.parseSync (ready : parser.Ready) (state : parser.state = .findSync) :
    parser.Stepped { parser.parseSync.2 with state := parser.parseSync.1 } := by
  have size := ready.length_unread
  rw [LinkLayerParser.parseSync]
  by_cases long : parser.buffer.numBytesRead ≥ 10
  · obtain ⟨synced, skipped, ran, here, advances, final⟩ :=
      ready.valid.syncFrom (Nat.le_refl parser.buffer.numBytesRead)
    have valid := ready.valid.advanceRead here
    rw [if_pos long, ShiftableBuffer.sync, ran]
    cases synced with
    | true =>
        rw [if_pos rfl] at final
        have less : (parser.buffer.advanceRead skipped).readBuffer.length ≤
            parser.unread.length := by
          rw [ShiftableBuffer.readBuffer_advanceRead, List.length_drop]
          exact Nat.sub_le _ _
        refine .onward (by simp [state]) ?_ [] ⟨advances, fun _ => rfl⟩ rfl less ?_
        · exact ⟨valid, ready.size, by simp, fun _ => final, by simp⟩
        · simp only [remaining, unread, rank, state, if_true] at less ⊢
          omega
    | false =>
        simp only [Bool.false_eq_true, if_false] at final ⊢
        have short : (parser.buffer.advanceRead skipped).readBuffer.length < 10 := by omega
        refine .waiting state.symm ?_ ⟨advances, fun _ => rfl⟩ (scan_short short) ?_
        · exact ⟨valid, ready.size, by simp, by simp, by simp⟩
        · exact Nat.lt_trans short (by decide)
  · rw [if_neg long]
    have short : parser.unread.length < 10 := by omega
    refine .waiting state.symm ?_ ⟨Advances.refl _, fun _ => rfl⟩ (scan_short short) ?_
    · exact ⟨ready.valid, ready.size, by simp, by simp, by simp⟩
    · exact Nat.lt_trans short (by decide)

/-- After a byte is discarded, the search for a frame starts anew. -/
theorem Ready.failFrame (ready : parser.Ready) {failed : LinkLayerParser}
    (buffer : failed.buffer = parser.buffer) (some : 1 ≤ parser.unread.length)
    (state : parser.state ≠ .findSync)
    (advances : Advances [.rejected] parser.unread parser.unread.tail) :
    parser.Stepped { failed.failFrame with state := .findSync } := by
  have size := ready.length_unread
  have left : ({ failed.failFrame with state := .findSync } : LinkLayerParser).unread =
      parser.unread.tail := by
    rw [unread, LinkLayerParser.failFrame, ShiftableBuffer.readBuffer_advanceRead, buffer,
      List.drop_one]
    rfl
  refine .onward (Ne.symm state) ?_ [.rejected] ⟨left ▸ advances, by simp⟩ rfl ?_ ?_
  · refine ⟨?_, ?_, by simp, by simp, by simp⟩
    · rw [LinkLayerParser.failFrame, buffer]
      exact ready.valid.advanceRead (size ▸ some)
    · rw [LinkLayerParser.failFrame, buffer]
      exact ready.size
  · rw [left, List.length_tail]
    exact Nat.sub_le _ _
  · have rest : rank parser.state < 4 := by cases parser.state <;> decide
    simp only [remaining, left, List.length_tail, rank]
    omega

theorem Ready.parseHeader (ready : parser.Ready) (state : parser.state = .readHeader) :
    parser.Stepped { parser.parseHeader.2 with state := parser.parseHeader.1 } := by
  have size := ready.length_unread
  have moving : parser.state ≠ .findSync := by rw [state]; decide
  obtain ⟨starts, two⟩ := ready.synced moving
  rw [LinkLayerParser.parseHeader]
  by_cases long : parser.buffer.numBytesRead ≥ 10
  · have ten : 10 ≤ parser.unread.length := size ▸ long
    obtain ⟨good, header, buffer, kept⟩ := readHeader_spec parser
    rw [if_pos long]
    rcases result : parser.readHeader with ⟨valid, next⟩
    rw [result] at good header buffer kept
    simp only at good header buffer kept
    cases found : headerAt parser.buffer.readBuffer with
    | none =>
        obtain rfl : valid = false := good.trans (congrArg Option.isSome found)
        exact ready.failFrame buffer (by omega) moving (advances_badHeader ten starts found)
    | some accepted =>
        obtain rfl : valid = true := good.trans (congrArg Option.isSome found)
        obtain ⟨statistics, frameSize⟩ := kept (congrArg Option.isSome found)
        have same : accepted = .read parser.buffer.readBuffer := by
          rw [headerAt] at found
          split at found
          · exact (Option.some.inj found).symm
          · cases found
        have unread : ({ next with state := .readBody } : LinkLayerParser).unread =
            parser.unread := congrArg ShiftableBuffer.readBuffer buffer
        change parser.Stepped { next with state := .readBody }
        refine .onward (by simp [state]) ?_ [] ⟨?_, fun _ => statistics⟩ rfl ?_ ?_
        · refine ⟨buffer ▸ ready.valid, buffer ▸ ready.size, by simp, fun _ => ?_, fun _ => ?_⟩
          · rw [unread]
            exact ⟨starts, two⟩
          · rw [unread]
            refine ⟨ten, ?_, ?_⟩
            · exact found.trans (congrArg some (same.trans header.symm))
            · rw [frameSize, header]
        · rw [unread]
          exact Advances.refl _
        · rw [unread]
        · simp only [remaining, unread, rank, state]
          omega
  · rw [if_neg long]
    have short : parser.unread.length < 10 := by omega
    refine .waiting state.symm ?_ ⟨Advances.refl _, fun _ => rfl⟩ (scan_short short) ?_
    · exact ⟨ready.valid, ready.size, by simp, fun _ => ⟨starts, two⟩, by simp⟩
    · exact Nat.lt_trans short (by decide)

theorem frameSize_le (header : LinkHeader) : FrameScan.frameSize header ≤ 292 := by
  have bound := header.length.toNat_lt
  rw [frameSize_eq, LinkHeader.dataLength, LinkFrame.numBlocks]
  omega

/-- Compaction puts the user data of a frame in front, and leaves the bytes behind the frame. -/
theorem Ready.transferUserData (ready : parser.Ready)
    (whole : FrameScan.frameSize parser.header ≤ parser.unread.length) :
    parser.transferUserData.buffer.pBuffer.length = 292 ∧
      parser.transferUserData.buffer.pBuffer.take parser.header.dataLength =
        payload (parser.unread.drop 10) parser.header.dataLength ∧
      parser.transferUserData.unread.drop (FrameScan.frameSize parser.header) =
        parser.unread.drop (FrameScan.frameSize parser.header) := by
  have size := ready.length_unread
  have high := ready.valid.write_le
  have low := ready.valid.read_le
  rw [ShiftableBuffer.numBytesRead] at size
  have extent := frameSize_eq parser.header
  have inside : parser.buffer.readPos + 10 + parser.header.dataLength +
      2 * LinkFrame.numBlocks parser.header.dataLength ≤ parser.buffer.pBuffer.length := by omega
  obtain ⟨kept, front, back⟩ := LinkFrame.readBlocks_spec rfl (Nat.zero_le _) inside
  rw [Nat.zero_add, List.take_zero, List.nil_append] at front
  refine ⟨kept.trans ready.size, front.trans ?_, ?_⟩
  · have body : parser.header.dataLength + 2 * LinkFrame.numBlocks parser.header.dataLength ≤
        (parser.unread.drop 10).length := by
      rw [List.length_drop]
      omega
    have behind : parser.buffer.pBuffer.drop (parser.buffer.readPos + 10) =
        parser.unread.drop 10 ++ parser.buffer.pBuffer.drop parser.buffer.writePos := by
      rw [← List.drop_drop, ready.valid.drop_readPos]
      exact List.drop_append_of_le_length (by rw [unread] at *; omega)
    rw [behind, payloadBlocks_append _ body rfl, payload]
  · have place : parser.buffer.readPos + FrameScan.frameSize parser.header =
        parser.buffer.readPos + 10 + parser.header.dataLength +
          2 * LinkFrame.numBlocks parser.header.dataLength := by omega
    simp only [unread, ShiftableBuffer.readBuffer, LinkLayerParser.transferUserData,
      ShiftableBuffer.numBytesRead, List.drop_take, List.drop_drop]
    rw [place]
    exact congrArg _ back

theorem Ready.parseBody (ready : parser.Ready) (state : parser.state = .readBody) :
    parser.Stepped { parser.parseBody.2 with state := parser.parseBody.1 } := by
  have size := ready.length_unread
  have moving : parser.state ≠ .findSync := by rw [state]; decide
  obtain ⟨starts, two⟩ := ready.synced moving
  obtain ⟨ten, found, frameSize⟩ := ready.header state
  rw [LinkLayerParser.parseBody]
  by_cases short : parser.buffer.numBytesRead < parser.frameSize
  · rw [if_pos short]
    rw [← size, frameSize] at short
    refine .waiting state.symm ?_ ⟨Advances.refl _, fun _ => rfl⟩
      (scan_unfinished ten starts found short) (Nat.lt_of_lt_of_le short (frameSize_le _))
    exact ⟨ready.valid, ready.size, by simp, fun _ => ⟨starts, two⟩,
      fun _ => ⟨ten, found, frameSize⟩⟩
  · rw [if_neg short, validateBody]
    rw [← size, frameSize, Nat.not_lt] at short
    cases valid : LinkFrame.validateBodyCRC (parser.buffer.readBuffer.drop 10)
        parser.header.dataLength with
    | false =>
        have advances := advances_badBody ten starts found short valid
        exact @Ready.failFrame parser ready (parser.count .bodyCrc) rfl (by omega) moving advances
    | true =>
        obtain ⟨kept, front, back⟩ := ready.transferUserData short
        have advances := advances_frame ten starts found short valid
        have pushed : ({ parser.transferUserData with state := .complete } :
            LinkLayerParser).pushFrame.1 =
              ⟨parser.header.fields, payload (parser.unread.drop 10) parser.header.dataLength⟩ :=
          congrArg (LinkFrame.mk parser.header.fields) front
        have left : ({ parser.transferUserData with state := .complete } :
            LinkLayerParser).pushFrame.2.unread =
              parser.unread.drop (FrameScan.frameSize parser.header) := by
          rw [← back, ← frameSize]
          exact ShiftableBuffer.readBuffer_advanceRead _ _
        change parser.Stepped { parser.transferUserData with state := .complete }
        refine .completed rfl ?_ ⟨?_, fun _ => rfl⟩ ?_
        · refine ⟨⟨?_, ?_⟩, kept, by simp, by simp, by simp⟩
          · have low := ready.valid.read_le
            rw [size, ShiftableBuffer.numBytesRead] at short
            change parser.buffer.readPos + parser.frameSize ≤ parser.buffer.writePos
            omega
          · rw [LinkLayerParser.pushFrame]
            exact kept ▸ ready.size ▸ ready.valid.write_le
        · exact pushed ▸ left ▸ advances
        · have ten := ten_le_frameSize parser.header
          rw [left, List.length_drop]
          omega

variable (parser) in
/-- The parser after one step, in the state that the step returns. -/
def stepped : LinkLayerParser :=
  { parser.parseOneStep.2 with state := parser.parseOneStep.1 }

theorem Ready.stepped (ready : parser.Ready) : parser.Stepped parser.stepped := by
  rw [LinkLayerParser.stepped, parseOneStep]
  cases state : parser.state with
  | findSync => exact ready.parseSync state
  | readHeader => exact ready.parseHeader state
  | readBody => exact ready.parseBody state
  | complete => exact absurd state ready.incomplete

/-! ## Loops -/

/-- What parsing until nothing changes does: find that more bytes are needed, or complete a
frame. -/
inductive Parsed (parser after : LinkLayerParser) : Prop
  | waiting (state : after.state ≠ .complete) (ready : after.Ready) (events : List Event)
      (moves : parser.Moves events after) (none : frames events = [])
      (nothing : scan after.unread = []) (room : after.unread.length < 292)
  | completed (state : after.state = .complete)
      (ready : { after.pushFrame.2 with state := .findSync }.Ready) (events : List Event)
      (moves : parser.Moves events after.pushFrame.2)
      (one : frames events = [after.pushFrame.1])
      (less : after.pushFrame.2.unread.length + 10 ≤ parser.unread.length)

theorem Moves.trans {middle after : LinkLayerParser} {before behind : List Event}
    (first : parser.Moves before middle) (second : middle.Moves behind after) :
    parser.Moves (before ++ behind) after := by
  refine ⟨first.advances.trans second.advances, fun clean => ?_⟩
  rw [List.mem_append, not_or] at clean
  exact (second.statistics clean.2).trans (first.statistics clean.1)

theorem parseUntilComplete_succ (fuel : Nat) (parser : LinkLayerParser) :
    parseUntilComplete (fuel + 1) parser =
      if parser.stepped.state ≠ parser.state then parseUntilComplete fuel parser.stepped
      else some parser.stepped := rfl

theorem parseUntilComplete_complete {fuel : Nat} (some : 0 < fuel)
    (complete : parser.state = .complete) : parseUntilComplete fuel parser = .some parser := by
  have same : parser.stepped = parser := by
    rw [stepped, parseOneStep, complete]
    simp [← complete]
  cases fuel with
  | zero => cases some
  | succ fuel => rw [parseUntilComplete_succ, same, if_neg (not_not.mpr rfl)]

theorem Ready.parseUntilComplete (ready : parser.Ready) {fuel : Nat}
    (enough : parser.remaining < fuel) :
    ∃ after, parseUntilComplete fuel parser = some after ∧ Parsed parser after := by
  -- the induction is on the fuel; each step but the last leaves less to do
  induction fuel generalizing parser with
  | zero => cases enough
  | succ fuel ih =>
      have stepped := ready.stepped
      have incomplete := ready.incomplete
      have left : 0 < parser.remaining := by
        rw [remaining]
        cases state : parser.state with
        | complete => exact absurd state incomplete
        | findSync | readHeader | readBody =>
            rw [rank]
            omega
      rw [parseUntilComplete_succ]
      generalize parser.stepped = next at stepped
      cases stepped with
      | waiting same ready moves nothing room =>
          refine ⟨_, if_neg (not_not.mpr same), ?_⟩
          exact .waiting ready.incomplete ready [] moves rfl nothing room
      | onward other stillReady events moves none shrinks less =>
          obtain ⟨after, ran, parsed⟩ := ih stillReady (by omega)
          refine ⟨after, (if_pos other).trans ran, ?_⟩
          cases parsed with
          | waiting state ready others rest noMore nothing room =>
              refine .waiting state ready (events ++ others) (moves.trans rest) ?_ nothing room
              rw [frames_append, none, noMore, List.append_nil]
          | completed state ready others rest one size =>
              refine .completed state ready (events ++ others) (moves.trans rest) ?_ (by omega)
              rw [frames_append, none, one, List.nil_append]
      | completed state ready moves less =>
          have other : next.state ≠ parser.state := by
            rw [state]
            exact Ne.symm incomplete
          refine ⟨next, ?_, .completed state ready _ moves rfl less⟩
          rw [if_pos other]
          exact parseUntilComplete_complete (by omega) state

/-- Some frames are delivered, and the bytes that are left hold no further one. -/
structure Delivers (parser : LinkLayerParser) (events : List Event) (after : LinkLayerParser) :
    Prop where
  ready : after.Ready
  advances : Advances events parser.unread after.unread
  errors : .rejected ∉ events → after.statistics.errors = parser.statistics.errors
  nothing : scan after.unread = []
  room : after.unread.length < 292

theorem Ready.remaining_lt (ready : parser.Ready) : parser.remaining < 1200 := by
  have size := ready.length_unread
  have low := ready.valid.read_le
  have high := ready.valid.write_le
  have whole := ready.size
  have rest : rank parser.state ≤ 3 := by cases parser.state <;> decide
  rw [ShiftableBuffer.numBytesRead] at size
  rw [remaining]
  omega

theorem Ready.pushFrames (ready : parser.Ready) {fuel rounds : Nat} (enough : 1200 ≤ fuel)
    (more : parser.unread.length < rounds) :
    ∃ after events, pushFrames fuel rounds parser = some (after, frames events) ∧
      parser.Delivers events after := by
  induction rounds generalizing parser with
  | zero => cases more
  | succ rounds ih =>
      obtain ⟨after, ran, parsed⟩ :=
        ready.parseUntilComplete (Nat.lt_of_lt_of_le ready.remaining_lt enough)
      rw [LinkLayerParser.pushFrames, ran, Option.bind_some]
      cases parsed with
      | waiting state still events moves none nothing room =>
          refine ⟨after, events, ?_, still, moves.advances, ?_, nothing, room⟩
          · rw [if_neg state, none]
          · intro clean
            rw [moves.statistics clean]
      | completed state still events moves one less =>
          let next : LinkLayerParser :=
            { after.pushFrame.2 with
              state := .findSync
              statistics := { after.statistics with
                numLinkFrameRx := after.statistics.numLinkFrameRx + 1 } }
          have stillReady : next.Ready :=
            ⟨still.valid, still.size, still.incomplete, still.synced, still.header⟩
          have fewer : next.unread.length + 10 ≤ parser.unread.length := less
          obtain ⟨final, others, ranRest, delivers⟩ := ih stillReady (by omega)
          refine ⟨final, events ++ others, ?_, delivers.ready,
            moves.advances.trans delivers.advances, ?_, delivers.nothing, delivers.room⟩
          · rw [if_pos state, frames_append, one]
            exact Option.map_eq_some_iff.mpr ⟨_, ranRest, rfl⟩
          · intro clean
            rw [List.mem_append, not_or] at clean
            rw [delivers.errors clean.2, ← moves.statistics clean.1]
            rfl

theorem Ready.advanceWrite (ready : parser.Ready) {bytes : List UInt8}
    (fits : bytes.length ≤ parser.buffer.numWriteBytes) :
    { parser with buffer := parser.buffer.advanceWrite bytes }.Ready := by
  have more : ({ parser with buffer := parser.buffer.advanceWrite bytes } :
      LinkLayerParser).unread = parser.unread ++ bytes := ready.valid.readBuffer_advanceWrite bytes
  refine ⟨ready.valid.advanceWrite bytes, ?_, ready.incomplete, fun moving => ?_,
    fun body => ?_⟩
  · exact (ready.valid.length_advanceWrite fits).trans ready.size
  · obtain ⟨starts, two⟩ := ready.synced moving
    rw [more, List.length_append]
    exact ⟨(starts_append bytes two).mpr starts, by omega⟩
  · obtain ⟨ten, found, frameSize⟩ := ready.header body
    rw [more, List.length_append, headerAt_append bytes ten]
    exact ⟨by omega, found, frameSize⟩

theorem Ready.shift (ready : parser.Ready) :
    { parser with buffer := parser.buffer.shift }.Ready := by
  have same : ({ parser with buffer := parser.buffer.shift } : LinkLayerParser).unread =
      parser.unread := ready.valid.readBuffer_shift
  refine ⟨ready.valid.shift, ?_, ready.incomplete, fun moving => ?_, fun body => ?_⟩
  · exact ready.valid.length_shift.trans ready.size
  · rw [same]
    exact ready.synced moving
  · rw [same]
    exact ready.header body

theorem Ready.onRead (ready : parser.Ready) {fuel : Nat} (enough : 1200 ≤ fuel)
    {bytes : List UInt8} (fits : bytes.length ≤ parser.buffer.numWriteBytes) :
    ∃ after events, onRead fuel parser bytes = some (after, frames events) ∧
      after.Ready ∧ Advances events (parser.unread ++ bytes) after.unread ∧
      (.rejected ∉ events → after.statistics.errors = parser.statistics.errors) ∧
      scan after.unread = [] ∧ 0 < after.buffer.numWriteBytes := by
  have written := ready.advanceWrite fits
  have more : ({ parser with buffer := parser.buffer.advanceWrite bytes } :
      LinkLayerParser).unread = parser.unread ++ bytes := ready.valid.readBuffer_advanceWrite bytes
  have rounds : ({ parser with buffer := parser.buffer.advanceWrite bytes } :
      LinkLayerParser).unread.length < fuel := by
    have bound := written.remaining_lt
    rw [remaining] at bound
    omega
  obtain ⟨after, events, ran, delivers⟩ := written.pushFrames enough rounds
  have same : ({ after with buffer := after.buffer.shift } : LinkLayerParser).unread =
      after.unread := delivers.ready.valid.readBuffer_shift
  refine ⟨{ after with buffer := after.buffer.shift }, events, ?_, delivers.ready.shift, ?_,
    delivers.errors, ?_, ?_⟩
  · rw [LinkLayerParser.onRead, ran]
    rfl
  · rw [← more, same]
    exact delivers.advances
  · rw [same]
    exact delivers.nothing
  · have size := delivers.ready.length_unread
    have room := delivers.room
    have kept := delivers.ready.valid.length_shift.trans delivers.ready.size
    rw [ShiftableBuffer.numWriteBytes, kept]
    change 0 < 292 - after.buffer.numBytesRead
    omega

theorem Ready.feed (ready : parser.Ready) (nothing : scan parser.unread = [])
    {fuel : Nat} (enough : 1200 ≤ fuel)
    {reads : List (List UInt8)} (fit : fits fuel parser reads = true) :
    ∃ after events, feed fuel parser reads = some (after, frames events) ∧
      Advances events (parser.unread ++ reads.flatten) after.unread ∧
      (.rejected ∉ events → after.statistics.errors = parser.statistics.errors) ∧
      scan after.unread = [] ∧
      (0 < parser.buffer.numWriteBytes → 0 < after.buffer.numWriteBytes) := by
  induction reads generalizing parser with
  | nil =>
      refine ⟨parser, [], rfl, ?_, fun _ => rfl, nothing, id⟩
      rw [List.flatten_nil, List.append_nil]
      exact Advances.refl _
  | cons bytes reads ih =>
      rw [fits, Bool.and_eq_true, decide_eq_true_eq] at fit
      obtain ⟨here, later⟩ := fit
      obtain ⟨next, events, ran, stillReady, advances, errors, nothing, room⟩ :=
        ready.onRead enough here
      rw [ran] at later
      obtain ⟨after, others, ranRest, advancesRest, errorsRest, final, offered⟩ :=
        ih stillReady nothing later
      refine ⟨after, events ++ others, ?_, ?_, ?_, final, fun _ => offered room⟩
      · rw [LinkLayerParser.feed, ran, Option.bind_some, frames_append]
        exact Option.map_eq_some_iff.mpr ⟨_, ranRest, rfl⟩
      · rw [List.flatten_cons, ← List.append_assoc]
        exact (advances.more reads.flatten).trans advancesRest
      · intro clean
        rw [List.mem_append, not_or] at clean
        rw [errorsRest clean.2, errors clean.1]

theorem ready_initial : Ready {} := by
  refine ⟨⟨Nat.le_refl 0, Nat.zero_le _⟩, List.length_replicate, by decide, ?_, ?_⟩
  · exact fun moving => absurd rfl moving
  · exact fun body => by cases body

end steps

/-! ## Reachable parsers -/

/-- What the parser passes through, within reads and between them. -/
inductive Reachable : LinkLayerParser → Prop
  | initial : Reachable {}
  | write {parser : LinkLayerParser} {bytes : List UInt8} (reached : Reachable parser)
      (incomplete : parser.state ≠ .complete)
      (fits : bytes.length ≤ parser.buffer.numWriteBytes) :
      Reachable { parser with buffer := parser.buffer.advanceWrite bytes }
  | step {parser : LinkLayerParser} (reached : Reachable parser) : Reachable parser.stepped
  | push {parser : LinkLayerParser} {statistics : ParserStatistics} (reached : Reachable parser)
      (complete : parser.state = .complete) :
      Reachable { parser.pushFrame.2 with state := .findSync, statistics }
  | shift {parser : LinkLayerParser} (reached : Reachable parser)
      (incomplete : parser.state ≠ .complete) :
      Reachable { parser with buffer := parser.buffer.shift }

theorem Reachable.ready {parser : LinkLayerParser} (reached : Reachable parser) :
    if parser.state = .complete then { parser.pushFrame.2 with state := .findSync }.Ready
    else parser.Ready := by
  induction reached with
  | initial => exact ready_initial
  | write reached incomplete fits ih =>
      rw [if_neg incomplete] at ih ⊢
      exact ih.advanceWrite fits
  | shift reached incomplete ih =>
      rw [if_neg incomplete] at ih ⊢
      exact ih.shift
  | push reached complete ih =>
      rw [if_pos complete] at ih
      exact ⟨ih.valid, ih.size, ih.incomplete, ih.synced, ih.header⟩
  | @step parser reached ih =>
      by_cases complete : parser.state = .complete
      · have same : parser.stepped = parser := by
          rw [stepped, parseOneStep, complete]
          simp [← complete]
        rw [same]
        exact ih
      · rw [if_neg complete] at ih
        cases ih.stepped with
        | waiting same ready moves nothing room => rwa [if_neg ready.incomplete]
        | onward other ready events moves none shrinks less => rwa [if_neg ready.incomplete]
        | completed state ready moves less => rwa [if_pos state]

/-- However the bytes are cut into reads that fit, the frames of their scan are delivered. Room
is left for more bytes, and moving user data does not change bytes that are still to be read. -/
theorem feed_eq_scan {fuel : Nat} (enough : 1200 ≤ fuel) {reads : List (List UInt8)}
    (fit : fits fuel {} reads = true) :
    ∃ after, feed fuel {} reads = some (after, frames (scan reads.flatten)) ∧
      0 < after.buffer.numWriteBytes ∧
      ∀ parser : LinkLayerParser, parser.Reachable → parser.state = .readBody →
        parser.frameSize ≤ parser.unread.length →
        parser.transferUserData.unread.drop parser.frameSize =
          parser.unread.drop parser.frameSize := by
  have empty : unread {} = [] := rfl
  have offered : 0 < ({} : LinkLayerParser).buffer.numWriteBytes := by
    rw [ShiftableBuffer.numWriteBytes, List.length_replicate]
    decide
  obtain ⟨after, events, ran, advances, _, nothing, room⟩ :=
    ready_initial.feed rfl enough fit
  have whole := advances []
  rw [empty, List.nil_append, List.append_nil, List.append_nil, nothing,
    List.append_nil] at whole
  refine ⟨after, whole ▸ ran, room offered, fun parser reached body complete => ?_⟩
  have ready := reached.ready
  rw [if_neg (by rw [body]; decide)] at ready
  obtain ⟨_, _, frameSize⟩ := ready.header body
  rw [frameSize] at complete ⊢
  exact (ready.transferUserData complete).2.2

/-- The start of a long frame, with a short frame in place of its user data. -/
def interrupted : List UInt8 :=
  LinkFrame.formatHeader 250 ⟨.priConfirmedUserData, true, true, true, 1, 1024⟩ ++
    (LinkFrame.formatAck false false 1024 1).bytes

theorem feed_eq_scan_interrupted :
    ∃ after, feed 1200 {} [interrupted.take 7, interrupted.drop 7] =
        some (after, frames (scan [interrupted.take 7, interrupted.drop 7].flatten)) ∧
      0 < after.buffer.numWriteBytes ∧
      ∀ parser : LinkLayerParser, parser.Reachable → parser.state = .readBody →
        parser.frameSize ≤ parser.unread.length →
        parser.transferUserData.unread.drop parser.frameSize =
          parser.unread.drop parser.frameSize :=
  feed_eq_scan (Nat.le_refl _) (by decide +kernel)

/-- A scan that does not wait for the rest of a frame finds a frame in what there is of it. -/
theorem not_feed_eq_greedy :
    ¬∀ reads, fits 1200 {} reads = true →
      ∃ after, feed 1200 {} reads =
        some (after, frames (scanFrom false reads.flatten.length reads.flatten)) := by
  intro greedy
  obtain ⟨after, ran⟩ := greedy [interrupted] (by decide +kernel)
  have nothing : (feed 1200 {} [interrupted]).map (·.2) = some [] := by decide +kernel
  have ack : frames (scanFrom false [interrupted].flatten.length [interrupted].flatten) ≠ [] := by
    decide +kernel
  rw [ran] at nothing
  exact ack (Option.some.inj nothing)

end LinkLayerParser

end OpenDnp3.Link
