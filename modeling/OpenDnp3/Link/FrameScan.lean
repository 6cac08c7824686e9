import OpenDnp3.Link.LinkHeader

/-!
# Scanning for frames

The frames in a byte stream, found from one position after the other. Bytes that look like the
start of a frame but cannot be one are counted; other bytes between frames are not.
-/

set_option autoImplicit false

namespace OpenDnp3.Link

open OpenDnp3.Library

namespace LinkHeader

/-- The flags of a header are those of a frame with its function. -/
def flagsAccepted (header : LinkHeader) : Bool :=
  match header.getFuncEnum with
  | .priConfirmedUserData | .priTestLinkStates => header.isFcvDfcSet
  | .priResetLinkStates | .priUnconfirmedUserData | .priRequestLinkStatus => !header.isFcvDfcSet
  | .secAck | .secNack | .secLinkStatus | .secNotSupported => !header.isFcbSet
  | .invalid => false

/-- The length, the function and the flags of a header go together. -/
def accepted (header : LinkHeader) : Bool :=
  decide (4 < header.length.toNat) &&
    header.getFuncEnum.hasPayload == decide (0 < header.dataLength) && header.flagsAccepted

end LinkHeader

namespace FrameScan

/-- Bytes that begin as every frame does. -/
def Starts (bytes : List UInt8) : Prop := bytes.take 2 = [0x05, 0x64]

instance (bytes : List UInt8) : Decidable (Starts bytes) :=
  inferInstanceAs (Decidable (_ = _))

def headerAt (bytes : List UInt8) : Option LinkHeader :=
  if CRC.isCorrectCRC bytes 8 && (LinkHeader.read bytes).accepted then some (.read bytes)
  else none

/-- The user data in blocks, without the checksums. -/
def payloadBlocks : Nat → List UInt8 → Nat → List UInt8
  | 0, _, _ => []
  | blocks + 1, body, length =>
      let num := min length 16
      body.take num ++ payloadBlocks blocks (body.drop (num + 2)) (length - num)

def payload (body : List UInt8) (length : Nat) : List UInt8 :=
  payloadBlocks (LinkFrame.numBlocks length) body length

def frameSize (header : LinkHeader) : Nat := LinkFrame.calcFrameSize header.dataLength

inductive Event where
  | frame (frame : LinkFrame)
  | rejected
deriving DecidableEq, Repr

/-- What is found from a position on. Where a frame could stand but is not all there, the scan
waits for the rest of it, or goes on at the next byte. -/
def scanFrom (waits : Bool) : Nat → List UInt8 → List Event
  | 0, _ => []
  | fuel + 1, bytes =>
      if bytes.length < 10 then
        []
      else if Starts bytes then
        match headerAt bytes with
        | none => .rejected :: scanFrom waits fuel bytes.tail
        | some header =>
            if bytes.length < frameSize header then
              if waits then [] else scanFrom waits fuel bytes.tail
            else if LinkFrame.validateBodyCRC (bytes.drop 10) header.dataLength then
              .frame ⟨header.fields, payload (bytes.drop 10) header.dataLength⟩ ::
                scanFrom waits fuel (bytes.drop (frameSize header))
            else
              .rejected :: scanFrom waits fuel bytes.tail
      else
        scanFrom waits fuel bytes.tail

/-- The scan of a stream that may go on. -/
def scan (bytes : List UInt8) : List Event := scanFrom true bytes.length bytes

def Event.frame? : Event → Option LinkFrame
  | .frame found => some found
  | .rejected => none

def frames (events : List Event) : List LinkFrame := events.filterMap Event.frame?

@[simp] theorem frames_nil : frames [] = [] := rfl

@[simp] theorem frames_append (one two : List Event) :
    frames (one ++ two) = frames one ++ frames two := List.filterMap_append

/-! ## Unfolding -/

theorem ten_le_frameSize (header : LinkHeader) : 10 ≤ frameSize header :=
  Nat.le_add_right 10 _

theorem scanFrom_short {waits : Bool} {fuel : Nat} {bytes : List UInt8}
    (short : bytes.length < 10) : scanFrom waits fuel bytes = [] := by
  cases fuel with
  | zero => rfl
  | succ fuel => rw [scanFrom, if_pos short]

/-- More fuel than bytes makes no difference. -/
theorem scanFrom_enough {waits : Bool} {fuel other : Nat} {bytes : List UInt8}
    (enough : bytes.length ≤ fuel) (too : bytes.length ≤ other) :
    scanFrom waits fuel bytes = scanFrom waits other bytes := by
  induction fuel generalizing other bytes with
  | zero => rw [scanFrom_short (by omega), scanFrom_short (by omega)]
  | succ fuel ih =>
      cases other with
      | zero => rw [scanFrom_short (by omega), scanFrom_short (by omega)]
      | succ other =>
          have tail : scanFrom waits fuel bytes.tail = scanFrom waits other bytes.tail :=
            ih (by rw [List.length_tail]; omega) (by rw [List.length_tail]; omega)
          have behind (header : LinkHeader) :
              scanFrom waits fuel (bytes.drop (frameSize header)) =
                scanFrom waits other (bytes.drop (frameSize header)) := by
            have size := ten_le_frameSize header
            exact ih (by rw [List.length_drop]; omega) (by rw [List.length_drop]; omega)
          simp only [scanFrom, tail, behind]

section scan

variable {bytes : List UInt8} (long : 10 ≤ bytes.length)

include long

theorem scan_unfold : scan bytes =
    if Starts bytes then
      match headerAt bytes with
      | none => .rejected :: scan bytes.tail
      | some header =>
          if bytes.length < frameSize header then []
          else if LinkFrame.validateBodyCRC (bytes.drop 10) header.dataLength then
            .frame ⟨header.fields, payload (bytes.drop 10) header.dataLength⟩ ::
              scan (bytes.drop (frameSize header))
          else .rejected :: scan bytes.tail
    else scan bytes.tail := by
  have tail : scanFrom true (bytes.length - 1) bytes.tail = scan bytes.tail :=
    scanFrom_enough (by rw [List.length_tail]) (Nat.le_refl _)
  have behind (header : LinkHeader) :
      scanFrom true (bytes.length - 1) (bytes.drop (frameSize header)) =
        scan (bytes.drop (frameSize header)) := by
    have size := ten_le_frameSize header
    exact scanFrom_enough (by rw [List.length_drop]; omega) (Nat.le_refl _)
  obtain ⟨count, same⟩ := Nat.exists_eq_add_of_lt (show 0 < bytes.length by omega)
  rw [Nat.zero_add] at same
  rw [same, Nat.add_sub_cancel] at tail behind
  rw [scan, same, scanFrom, if_neg (by omega)]
  simp only [same, tail, behind, if_true]

end scan

/-! ## Bytes still to come

What is decided about some bytes stays so when more bytes come behind them. -/

section future

variable {bytes : List UInt8} (future : List UInt8)

theorem starts_append (two : 2 ≤ bytes.length) : Starts (bytes ++ future) ↔ Starts bytes := by
  rw [Starts, Starts, List.take_append_of_le_length two]

theorem isCorrectCRC_append {length : Nat} (long : length + 2 ≤ bytes.length) :
    CRC.isCorrectCRC (bytes ++ future) length = CRC.isCorrectCRC bytes length := by
  have behind : 2 ≤ (bytes.drop length).length := by
    rw [List.length_drop]
    omega
  rw [CRC.isCorrectCRC, CRC.isCorrectCRC, List.take_append_of_le_length (by omega),
    List.drop_append_of_le_length (by omega), List.take_append_of_le_length behind]

theorem read_append (long : 10 ≤ bytes.length) :
    LinkHeader.read (bytes ++ future) = LinkHeader.read bytes := by
  have word (index : Nat) (low : index + 2 ≤ 10) :
      LinkHeader.readUInt16 (bytes ++ future) index = LinkHeader.readUInt16 bytes index := by
    have behind : 2 ≤ (bytes.drop index).length := by
      rw [List.length_drop]
      omega
    rw [LinkHeader.readUInt16, LinkHeader.readUInt16, List.drop_append_of_le_length (by omega),
      List.take_append_of_le_length behind]
  have byte (index : Nat) (low : index < 10) :
      (bytes ++ future).getD index 0 = bytes.getD index 0 := by
    rw [List.getD_eq_getElem?_getD, List.getD_eq_getElem?_getD,
      List.getElem?_append_left (by omega)]
  rw [LinkHeader.read, LinkHeader.read, word 4 (by omega), word 6 (by omega), byte 2 (by omega),
    byte 3 (by omega)]

theorem headerAt_append (long : 10 ≤ bytes.length) :
    headerAt (bytes ++ future) = headerAt bytes := by
  rw [headerAt, headerAt, isCorrectCRC_append future (by omega), read_append future long]

theorem validateBlocks_append {blocks length : Nat} (long : length + 2 * blocks ≤ bytes.length)
    (full : blocks = LinkFrame.numBlocks length) :
    LinkFrame.validateBlocks blocks (bytes ++ future) length =
      LinkFrame.validateBlocks blocks bytes length := by
  induction blocks generalizing bytes length with
  | zero => rfl
  | succ blocks ih =>
      rw [LinkFrame.numBlocks] at full
      have rest : blocks = LinkFrame.numBlocks (length - min length 16) := by
        rw [LinkFrame.numBlocks]
        omega
      have left : length - min length 16 + 2 * blocks ≤ (bytes.drop (min length 16 + 2)).length := by
        rw [List.length_drop]
        omega
      simp only [LinkFrame.validateBlocks]
      rw [isCorrectCRC_append future (by omega), List.drop_append_of_le_length (by omega),
        ih left rest]

theorem payloadBlocks_append {blocks length : Nat} (long : length + 2 * blocks ≤ bytes.length)
    (full : blocks = LinkFrame.numBlocks length) :
    payloadBlocks blocks (bytes ++ future) length = payloadBlocks blocks bytes length := by
  induction blocks generalizing bytes length with
  | zero => rfl
  | succ blocks ih =>
      rw [LinkFrame.numBlocks] at full
      have rest : blocks = LinkFrame.numBlocks (length - min length 16) := by
        rw [LinkFrame.numBlocks]
        omega
      have left : length - min length 16 + 2 * blocks ≤ (bytes.drop (min length 16 + 2)).length := by
        rw [List.length_drop]
        omega
      simp only [payloadBlocks]
      rw [List.take_append_of_le_length (by omega), List.drop_append_of_le_length (by omega),
        ih left rest]

end future

theorem calcUserDataSize_eq (length : Nat) :
    LinkFrame.calcUserDataSize length = length + 2 * LinkFrame.numBlocks length := by
  rw [LinkFrame.calcUserDataSize, LinkFrame.numBlocks]
  dsimp only
  split
  · split <;> omega
  · omega

theorem frameSize_eq (header : LinkHeader) : frameSize header =
    10 + (header.dataLength + 2 * LinkFrame.numBlocks header.dataLength) := by
  rw [frameSize, LinkFrame.calcFrameSize, calcUserDataSize_eq]

/-! ## Steps of a scan -/

/-- Whatever comes next, the scan finds some events and goes on with the bytes that are left. -/
def Advances (events : List Event) (bytes left : List UInt8) : Prop :=
  ∀ future, scan (bytes ++ future) = events ++ scan (left ++ future)

theorem Advances.refl (bytes : List UInt8) : Advances [] bytes bytes := fun _ => rfl

theorem Advances.trans {before after : List Event} {bytes middle left : List UInt8}
    (first : Advances before bytes middle) (second : Advances after middle left) :
    Advances (before ++ after) bytes left := by
  intro future
  rw [first, second, List.append_assoc]

theorem Advances.more {events : List Event} {bytes left : List UInt8}
    (advances : Advances events bytes left) (more : List UInt8) :
    Advances events (bytes ++ more) (left ++ more) := by
  intro future
  rw [List.append_assoc, advances, List.append_assoc]

/-- Fewer bytes than a header has hold no frame. -/
theorem scan_short {bytes : List UInt8} (short : bytes.length < 10) : scan bytes = [] :=
  scanFrom_short short

section step

variable {bytes : List UInt8}

theorem advances_skip (two : 2 ≤ bytes.length) (other : ¬Starts bytes) :
    Advances [] bytes bytes.tail := by
  intro future
  rw [List.nil_append]
  by_cases short : (bytes ++ future).length < 10
  · rw [scan_short short, scan_short]
    rw [List.length_append] at short ⊢
    rw [List.length_tail]
    omega
  · rw [scan_unfold (Nat.not_lt.mp short), if_neg fun starts => other
      ((starts_append future two).mp starts),
      List.tail_append_of_ne_nil (List.ne_nil_of_length_pos (by omega))]

variable (long : 10 ≤ bytes.length) (starts : Starts bytes)

include long starts

theorem scan_starts (future : List UInt8) : scan (bytes ++ future) =
    match headerAt bytes with
    | none => .rejected :: scan (bytes.tail ++ future)
    | some header =>
        if (bytes ++ future).length < frameSize header then []
        else if LinkFrame.validateBodyCRC ((bytes ++ future).drop 10) header.dataLength then
          .frame ⟨header.fields, payload ((bytes ++ future).drop 10) header.dataLength⟩ ::
            scan ((bytes ++ future).drop (frameSize header))
        else .rejected :: scan (bytes.tail ++ future) := by
  have longer : 10 ≤ (bytes ++ future).length := by
    rw [List.length_append]
    omega
  rw [scan_unfold longer, if_pos ((starts_append future (by omega)).mpr starts),
    headerAt_append future long, List.tail_append_of_ne_nil (List.ne_nil_of_length_pos (by omega))]

theorem advances_badHeader (bad : headerAt bytes = none) :
    Advances [.rejected] bytes bytes.tail := by
  intro future
  rw [scan_starts long starts, bad]
  rfl

variable {header : LinkHeader} (good : headerAt bytes = some header)

include good

/-- A frame that is not all there is waited for. -/
theorem scan_unfinished (short : bytes.length < frameSize header) : scan bytes = [] := by
  have whole := scan_starts long starts []
  rw [List.append_nil, good] at whole
  rw [whole]
  exact if_pos short

variable (whole : frameSize header ≤ bytes.length)

include whole

theorem scan_whole (future : List UInt8) : scan (bytes ++ future) =
    if LinkFrame.validateBodyCRC (bytes.drop 10) header.dataLength then
      .frame ⟨header.fields, payload (bytes.drop 10) header.dataLength⟩ ::
        scan (bytes.drop (frameSize header) ++ future)
    else .rejected :: scan (bytes.tail ++ future) := by
  have body : header.dataLength + 2 * LinkFrame.numBlocks header.dataLength ≤
      (bytes.drop 10).length := by
    rw [frameSize_eq] at whole
    rw [List.length_drop]
    omega
  have enough : ¬(bytes ++ future).length < frameSize header := by
    rw [List.length_append]
    omega
  rw [scan_starts long starts, good]
  simp only [if_neg enough]
  rw [List.drop_append_of_le_length long, List.drop_append_of_le_length whole,
    LinkFrame.validateBodyCRC, LinkFrame.validateBodyCRC, payload, payload,
    validateBlocks_append future body rfl, payloadBlocks_append future body rfl]

theorem advances_badBody
    (bad : LinkFrame.validateBodyCRC (bytes.drop 10) header.dataLength = false) :
    Advances [.rejected] bytes bytes.tail := by
  intro future
  rw [scan_whole long starts good whole, bad]
  rfl

theorem advances_frame
    (valid : LinkFrame.validateBodyCRC (bytes.drop 10) header.dataLength = true) :
    Advances [.frame ⟨header.fields, payload (bytes.drop 10) header.dataLength⟩] bytes
      (bytes.drop (frameSize header)) := by
  intro future
  rw [scan_whole long starts good whole, valid]
  rfl

end step

end FrameScan

end OpenDnp3.Link
