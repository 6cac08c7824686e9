import OpenDnp3.Link.ParserScan

/-!
# Frames survive the link

What the formatting functions write is parsed as the frames that were formatted, however it is
cut into reads.
-/

set_option autoImplicit false

namespace OpenDnp3.Link

open OpenDnp3.Library FrameScan

/-! ## Blocks -/

namespace CRC

theorem isCorrectCRC_addCrc (input rest : List UInt8) :
    isCorrectCRC (addCrc input ++ rest) input.length = true := by
  have bound := (calcCrc input).toNat_lt
  rw [isCorrectCRC, addCrc, List.append_assoc, List.take_left' rfl, List.drop_left' rfl,
    List.take_left' (length_leBytes 2 _), leValue_leBytes, beq_iff_eq]
  exact (Nat.mod_eq_of_lt bound).symm

theorem length_addCrc (input : List UInt8) : (addCrc input).length = input.length + 2 := by
  rw [addCrc, List.length_append, length_leBytes]

end CRC

namespace LinkFrame

/-- Blocks are valid as they are written, and hold the data. -/
theorem blocks_writeBlocks {blocks : Nat} {data : List UInt8}
    (full : blocks = numBlocks data.length) (rest : List UInt8) :
    (writeBlocks blocks data).length = data.length + 2 * blocks ∧
      validateBlocks blocks (writeBlocks blocks data ++ rest) data.length = true ∧
      payloadBlocks blocks (writeBlocks blocks data ++ rest) data.length = data := by
  induction blocks generalizing data with
  | zero =>
      rw [numBlocks] at full
      have none : data = [] := List.length_eq_zero_iff.mp (by omega)
      subst none
      exact ⟨rfl, rfl, rfl⟩
  | succ blocks ih =>
      rw [numBlocks] at full
      have size : (data.take 16).length = min data.length 16 := by
        rw [List.length_take, Nat.min_comm]
      have left : (data.drop 16).length = data.length - min data.length 16 := by
        rw [List.length_drop]
        omega
      have others : blocks = numBlocks (data.drop 16).length := by
        rw [numBlocks, left]
        omega
      obtain ⟨length, valid, payload⟩ := ih others
      rw [left] at length valid payload
      have correct := CRC.isCorrectCRC_addCrc (data.take 16) (writeBlocks blocks (data.drop 16) ++ rest)
      have width := CRC.length_addCrc (data.take 16)
      rw [size] at correct width
      have front : (CRC.addCrc (data.take 16) ++ (writeBlocks blocks (data.drop 16) ++ rest)).take
          (min data.length 16) = data.take 16 := by
        rw [CRC.addCrc, List.append_assoc]
        exact List.take_left' size
      refine ⟨?_, ?_, ?_⟩
      · rw [writeBlocks, List.length_append, width, length]
        omega
      · simp only [writeBlocks, validateBlocks, List.append_assoc]
        rw [correct, List.drop_left' width, valid]
        rfl
      · simp only [writeBlocks, payloadBlocks, List.append_assoc]
        rw [front, List.drop_left' width, payload, List.take_append_drop]

end LinkFrame

/-! ## Headers -/

namespace LinkHeader

/-- The control byte holds the function and the flags. -/
theorem fields_controlByte (isMaster fcb fcvDfc : Bool) {func : LinkFunction}
    (known : func ≠ .invalid) (length : UInt8) (dest src : UInt16) :
    fields ⟨length, src, dest, controlByte isMaster fcb fcvDfc func⟩ =
      ⟨func, isMaster, fcb, fcvDfc, dest, src⟩ := by
  have control : ∀ func ≠ LinkFunction.invalid, ∀ isMaster fcb fcvDfc : Bool,
      let ctrl := controlByte isMaster fcb fcvDfc func
      LinkFunction.fromType (ctrl &&& 0x4F) = func ∧ (ctrl &&& 0x80 != 0) = isMaster ∧
        (ctrl &&& 0x20 != 0) = fcb ∧ (ctrl &&& 0x10 != 0) = fcvDfc := by
    intro func known isMaster fcb fcvDfc
    cases func <;> first | exact absurd rfl known |
      (cases isMaster <;> cases fcb <;> cases fcvDfc <;> decide)
  obtain ⟨function, master, bit, valid⟩ := control func known isMaster fcb fcvDfc
  simp only [fields, getFuncEnum, isFromMaster, isFcbSet, isFcvDfcSet, function, master, bit,
    valid]

theorem write_eq (header : LinkHeader) : header.write =
    0x05 :: 0x64 :: header.length :: header.ctrl ::
      (leBytes 2 header.dest.toNat ++ (leBytes 2 header.src.toNat ++
        leBytes 2 (CRC.calcCrc ([0x05, 0x64, header.length, header.ctrl] ++
          leBytes 2 header.dest.toNat ++ leBytes 2 header.src.toNat)).toNat)) := by
  rw [write, CRC.addCrc]
  simp only [List.cons_append, List.nil_append, List.append_assoc]

theorem length_write (header : LinkHeader) : header.write.length = 10 := by
  simp only [write_eq, List.length_cons, List.length_append, length_leBytes]

theorem starts_write (header : LinkHeader) (rest : List UInt8) :
    Starts (header.write ++ rest) := by
  rw [Starts, write_eq]
  rfl

theorem isCorrectCRC_write (header : LinkHeader) (rest : List UInt8) :
    CRC.isCorrectCRC (header.write ++ rest) 8 = true := by
  have eight : ([0x05, 0x64, header.length, header.ctrl] ++
      leBytes 2 header.dest.toNat ++ leBytes 2 header.src.toNat).length = 8 := by
    simp only [List.length_append, List.length_cons, List.length_nil, length_leBytes]
  rw [write, ← eight]
  exact CRC.isCorrectCRC_addCrc _ rest

theorem ofNat_leValue_leBytes (word : UInt16) :
    UInt16.ofNat (leValue (leBytes 2 word.toNat)) = word := by
  have fits : word.toNat % 256 ^ 2 = word.toNat := Nat.mod_eq_of_lt word.toNat_lt
  rw [leValue_leBytes, fits]
  exact UInt16.toNat_inj.mp fits

/-- A header is read as it is written. -/
theorem read_write (header : LinkHeader) (rest : List UInt8) :
    read (header.write ++ rest) = header := by
  obtain ⟨length, src, dest, ctrl⟩ := header
  have destination : readUInt16 (write ⟨length, src, dest, ctrl⟩ ++ rest) 4 = dest := by
    rw [write_eq, readUInt16]
    simp only [List.cons_append, List.append_assoc, List.drop_succ_cons, List.drop_zero]
    rw [List.take_left' (length_leBytes 2 _), ofNat_leValue_leBytes]
  have source : readUInt16 (write ⟨length, src, dest, ctrl⟩ ++ rest) 6 = src := by
    rw [write_eq, readUInt16]
    simp only [List.cons_append, List.append_assoc, List.drop_succ_cons]
    rw [List.drop_left' (length_leBytes 2 _), List.take_left' (length_leBytes 2 _),
      ofNat_leValue_leBytes]
  rw [read, destination, source, write_eq]
  rfl

end LinkHeader

/-! ## Frames -/

/-- The frames that the formatting functions write. -/
inductive LinkFrame.Formatted : LinkFrame → Prop
  | ack (isMaster isRcvBuffFull : Bool) (dest src : UInt16) :
      Formatted (formatAck isMaster isRcvBuffFull dest src)
  | nack (isMaster isRcvBuffFull : Bool) (dest src : UInt16) :
      Formatted (formatNack isMaster isRcvBuffFull dest src)
  | linkStatus (isMaster isRcvBuffFull : Bool) (dest src : UInt16) :
      Formatted (formatLinkStatus isMaster isRcvBuffFull dest src)
  | notSupported (isMaster isRcvBuffFull : Bool) (dest src : UInt16) :
      Formatted (formatNotSupported isMaster isRcvBuffFull dest src)
  | resetLinkStates (isMaster : Bool) (dest src : UInt16) :
      Formatted (formatResetLinkStates isMaster dest src)
  | requestLinkStatus (isMaster : Bool) (dest src : UInt16) :
      Formatted (formatRequestLinkStatus isMaster dest src)
  | testLinkStatus (isMaster fcb : Bool) (dest src : UInt16) :
      Formatted (formatTestLinkStatus isMaster fcb dest src)
  | confirmedUserData (isMaster fcb : Bool) (dest src : UInt16) {data : List UInt8}
      (some : 0 < data.length) (fits : data.length ≤ 250) :
      Formatted (formatConfirmedUserData isMaster fcb dest src data)
  | unconfirmedUserData (isMaster : Bool) (dest src : UInt16) {data : List UInt8}
      (some : 0 < data.length) (fits : data.length ≤ 250) :
      Formatted (formatUnconfirmedUserData isMaster dest src data)

namespace LinkFrame

/-- The header that is written in front of a frame's user data. -/
def wireHeader (frame : LinkFrame) : LinkHeader where
  length := UInt8.ofNat frame.userData.length + 5
  src := frame.header.src
  dest := frame.header.dest
  ctrl := LinkHeader.controlByte frame.header.isFromMaster frame.header.fcb frame.header.fcvdfc
    frame.header.func

theorem bytes_eq (frame : LinkFrame) :
    frame.bytes = frame.wireHeader.write ++ writeUserData frame.userData := rfl

variable {frame : LinkFrame}

theorem Formatted.length_le (formatted : frame.Formatted) : frame.userData.length ≤ 250 := by
  cases formatted with
  | confirmedUserData _ _ _ _ _ fits | unconfirmedUserData _ _ _ _ fits => exact fits
  | _ => exact Nat.zero_le _

theorem Formatted.fields (formatted : frame.Formatted) :
    frame.wireHeader.fields = frame.header := by
  have known : frame.header.func ≠ .invalid := by
    cases formatted <;> exact LinkFunction.noConfusion
  exact LinkHeader.fields_controlByte _ _ _ known _ _ _

theorem toNat_length (fits : frame.userData.length ≤ 250) :
    frame.wireHeader.length.toNat = frame.userData.length + 5 := by
  have five : (5 : UInt8).toNat = 5 := rfl
  rw [wireHeader, UInt8.toNat_add, UInt8.toNat_ofNat', five]
  omega

theorem dataLength_wireHeader (fits : frame.userData.length ≤ 250) :
    frame.wireHeader.dataLength = frame.userData.length := by
  rw [LinkHeader.dataLength, toNat_length fits]
  omega

theorem Formatted.accepted (formatted : frame.Formatted) :
    frame.wireHeader.accepted = true := by
  have same := formatted.fields
  have fits := formatted.length_le
  have func : frame.wireHeader.getFuncEnum = frame.header.func := congrArg (·.func) same
  have fcb : frame.wireHeader.isFcbSet = frame.header.fcb := congrArg (·.fcb) same
  have fcvdfc : frame.wireHeader.isFcvDfcSet = frame.header.fcvdfc := congrArg (·.fcvdfc) same
  have long : 4 < frame.userData.length + 5 := by omega
  rw [LinkHeader.accepted, LinkHeader.flagsAccepted, toNat_length fits,
    dataLength_wireHeader fits, func, fcb, fcvdfc]
  cases formatted with
  | confirmedUserData _ _ _ _ some _ | unconfirmedUserData _ _ _ some _ =>
      simp [formatConfirmedUserData, formatUnconfirmedUserData, LinkFunction.hasPayload, some]
  | _ => rfl

/-- A frame is found at the front of its bytes. -/
theorem Formatted.scan_bytes (formatted : frame.Formatted) (rest : List UInt8) :
    scan (frame.bytes ++ rest) = .frame frame :: scan rest := by
  have fits := formatted.length_le
  have dataLength := dataLength_wireHeader fits
  have header := frame.wireHeader.length_write
  have starts := frame.wireHeader.starts_write (writeUserData frame.userData)
  obtain ⟨size, valid, payload⟩ := @blocks_writeBlocks _ frame.userData rfl []
  rw [List.append_nil] at valid payload
  have found : headerAt frame.bytes = some frame.wireHeader := by
    rw [headerAt, bytes_eq, LinkHeader.isCorrectCRC_write, LinkHeader.read_write,
      formatted.accepted]
    rfl
  have extent : frameSize frame.wireHeader = frame.bytes.length := by
    rw [frameSize_eq, dataLength, bytes_eq, List.length_append, header, writeUserData, size]
  have body : frame.bytes.drop 10 = writeUserData frame.userData := by
    rw [bytes_eq]
    exact List.drop_left' header
  have ten : 10 ≤ frame.bytes.length := extent ▸ ten_le_frameSize _
  have whole := scan_whole ten starts found (Nat.le_of_eq extent) rest
  rw [body, dataLength, extent, List.drop_length, List.nil_append] at whole
  have checked : validateBodyCRC (writeUserData frame.userData) frame.userData.length = true :=
    valid
  rw [whole, if_pos checked, formatted.fields]
  exact congrArg (fun data => FrameScan.Event.frame ⟨frame.header, data⟩ :: scan rest) payload

theorem scan_formatted {sent : List LinkFrame} (formatted : ∀ frame ∈ sent, frame.Formatted) :
    scan (sent.flatMap bytes) = sent.map .frame := by
  induction sent with
  | nil => rfl
  | cons frame sent ih =>
      rw [List.flatMap_cons, (formatted frame List.mem_cons_self).scan_bytes,
        ih fun other member => formatted other (List.mem_cons_of_mem frame member)]
      rfl

end LinkFrame

namespace LinkLayerParser

/-- Formatted frames are delivered as they are, whatever the reads, and no error is counted. -/
theorem feed_formatted {fuel : Nat} (enough : 1200 ≤ fuel) {parser : LinkLayerParser}
    (reached : parser.Reachable) (searching : parser.state = .findSync)
    (empty : parser.unread = []) {sent : List LinkFrame}
    (formatted : ∀ frame ∈ sent, frame.Formatted) {reads : List (List UInt8)}
    (cut : reads.flatten = sent.flatMap LinkFrame.bytes) (fit : fits fuel parser reads = true) :
    ∃ after, feed fuel parser reads = some (after, sent) ∧
      after.statistics.errors = parser.statistics.errors := by
  have ready := reached.ready
  rw [if_neg (by rw [searching]; decide)] at ready
  have nothing : scan parser.unread = [] := by rw [empty]; rfl
  obtain ⟨after, events, ran, advances, errors, rest, _⟩ := ready.feed nothing enough fit
  have whole := advances []
  rw [empty, List.nil_append, List.append_nil, List.append_nil, rest, List.append_nil, cut,
    LinkFrame.scan_formatted formatted] at whole
  have delivered : frames events = sent := by
    rw [← whole, frames, List.filterMap_map]
    exact List.filterMap_some
  refine ⟨after, delivered ▸ ran, errors ?_⟩
  rw [← whole]
  simp

/-- A frame with one block of user data and an acknowledgement, in reads of seven bytes. -/
theorem feed_formatted_data :
    let sent := [LinkFrame.formatConfirmedUserData true true 1024 1 [0xC0, 0xC3, 0x01],
      LinkFrame.formatAck false false 1 1024]
    let bytes := sent.flatMap LinkFrame.bytes
    ∃ after, feed 1200 {} [bytes.take 7, (bytes.drop 7).take 7, bytes.drop 14] =
        some (after, sent) ∧
      after.statistics.errors = ({} : LinkLayerParser).statistics.errors := by
  refine feed_formatted (Nat.le_refl _) .initial rfl rfl ?_ (by decide +kernel)
    (by decide +kernel)
  intro frame member
  simp only [List.mem_cons, List.not_mem_nil, or_false] at member
  rcases member with rfl | rfl
  · exact .confirmedUserData _ _ _ _ (by decide) (by decide)
  · exact .ack _ _ _ _

end LinkLayerParser

end OpenDnp3.Link
