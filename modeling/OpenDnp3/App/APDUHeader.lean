import Mathlib.Data.List.Basic

/-!
# APDU headers

The control byte, the function code and the internal indications that a fragment
begins with.
-/

set_option autoImplicit false

namespace OpenDnp3.App

/-! ## Internal indications -/

inductive IINBit where
  | allStations
  | class1Events
  | class2Events
  | class3Events
  | needTime
  | localControl
  | deviceTrouble
  | deviceRestart
  | funcNotSupported
  | objectUnknown
  | paramError
  | eventBufferOverflow
  | alreadyExecuting
  | configCorrupt
  | reserved1
  | reserved2
deriving DecidableEq, Repr, Inhabited

structure IINField where
  lsb : UInt8
  msb : UInt8
deriving DecidableEq, Repr, Inhabited

/-- The field in which a bit alone is set. -/
def IINBit.field : IINBit → IINField
  | .allStations => ⟨0x01, 0⟩
  | .class1Events => ⟨0x02, 0⟩
  | .class2Events => ⟨0x04, 0⟩
  | .class3Events => ⟨0x08, 0⟩
  | .needTime => ⟨0x10, 0⟩
  | .localControl => ⟨0x20, 0⟩
  | .deviceTrouble => ⟨0x40, 0⟩
  | .deviceRestart => ⟨0x80, 0⟩
  | .funcNotSupported => ⟨0, 0x01⟩
  | .objectUnknown => ⟨0, 0x02⟩
  | .paramError => ⟨0, 0x04⟩
  | .eventBufferOverflow => ⟨0, 0x08⟩
  | .alreadyExecuting => ⟨0, 0x10⟩
  | .configCorrupt => ⟨0, 0x20⟩
  | .reserved1 => ⟨0, 0x40⟩
  | .reserved2 => ⟨0, 0x80⟩

namespace IINField

def empty : IINField := ⟨0, 0⟩

def or (field other : IINField) : IINField := ⟨field.lsb ||| other.lsb, field.msb ||| other.msb⟩

def and (field other : IINField) : IINField := ⟨field.lsb &&& other.lsb, field.msb &&& other.msb⟩

def any (field : IINField) : Bool := field.lsb ||| field.msb != 0

def isSet (field : IINField) (bit : IINBit) : Bool := (field.and bit.field).any

def setBit (field : IINField) (bit : IINBit) : IINField := field.or bit.field

def clearBit (field : IINField) (bit : IINBit) : IINField :=
  ⟨field.lsb &&& ~~~bit.field.lsb, field.msb &&& ~~~bit.field.msb⟩

def setBitToValue (field : IINField) (bit : IINBit) (value : Bool) : IINField :=
  if value then field.setBit bit else field.clearBit bit

theorem isSet_or (field other : IINField) (bit : IINBit) :
    (field.or other).isSet bit = (field.isSet bit || other.isSet bit) := by
  have both (one two mask : UInt8) : (one ||| two) &&& mask = one &&& mask ||| two &&& mask :=
    UInt8.toBitVec_inj.mp BitVec.and_or_distrib_right
  simp only [isSet, and, or, any, both]
  rw [Bool.eq_iff_iff]
  simp only [bne_iff_ne, Bool.or_eq_true, ne_eq, UInt8.or_eq_zero_iff]
  rw [and_and_and_comm, not_and_or]

/-- Whether there was any error processing a request. -/
def hasRequestError (field : IINField) : Bool := field.msb &&& 0x07 != 0

end IINField

/-! ## Control byte -/

structure AppControlField where
  fir : Bool
  fin : Bool
  con : Bool
  uns : Bool
  seq : UInt8
deriving DecidableEq, Repr, Inhabited

namespace AppControlField

def ofByte (byte : UInt8) : AppControlField :=
  ⟨byte &&& 0x80 != 0, byte &&& 0x40 != 0, byte &&& 0x20 != 0, byte &&& 0x10 != 0, byte &&& 0x0F⟩

def toByte (control : AppControlField) : UInt8 :=
  (if control.fir then 0x80 else 0) ||| (if control.fin then 0x40 else 0) |||
    (if control.con then 0x20 else 0) ||| (if control.uns then 0x10 else 0) |||
    control.seq % 16

def isFirAndFin (control : AppControlField) : Bool := control.fir && control.fin

/-- The control byte of a request. -/
def request (seq : UInt8) : AppControlField := ⟨true, true, false, false, seq⟩

/-- What is written to a control byte is read back, when the number is below 16. -/
theorem ofByte_toByte (control : AppControlField) (below : control.seq < 16) :
    ofByte control.toByte = control := by
  obtain ⟨fir, fin, con, uns, seq⟩ := control
  have small : ∀ (fir fin con uns : Bool) (seq : Fin 16),
      ofByte (toByte ⟨fir, fin, con, uns, UInt8.ofNat seq⟩) =
        ⟨fir, fin, con, uns, UInt8.ofNat seq⟩ := by
    decide +kernel
  have same := small fir fin con uns ⟨seq.toNat, UInt8.lt_iff_toNat_lt.mp below⟩
  rwa [UInt8.ofNat_toNat] at same

/-- A control byte has room for a number below 16. -/
theorem ofByte_toByte_mod (control : AppControlField) :
    ofByte control.toByte = { control with seq := control.seq % 16 } := by
  have below : control.seq % 16 < 16 := UInt8.mod_lt _ (by decide)
  have same : ({ control with seq := control.seq % 16 } : AppControlField).toByte =
      control.toByte := by
    rw [toByte, UInt8.mod_eq_of_lt below]
    rfl
  rw [← same, ofByte_toByte _ below]

theorem seq_ofByte_toByte (control : AppControlField) :
    (ofByte control.toByte).seq = control.seq % 16 := by
  rw [ofByte_toByte_mod]

theorem seq_ofByte_lt (byte : UInt8) : (ofByte byte).seq < 16 := by
  have all : ∀ byte : Fin 256, (ofByte (UInt8.ofNat byte)).seq < 16 := by decide +kernel
  have same := all ⟨byte.toNat, byte.toNat_lt⟩
  rwa [UInt8.ofNat_toNat] at same

end AppControlField

/-! ## Function codes -/

inductive FunctionCode where
  | confirm
  | read
  | write
  | select
  | operate
  | directOperate
  | directOperateNr
  | immedFreeze
  | immedFreezeNr
  | freezeClear
  | freezeClearNr
  | freezeAtTime
  | freezeAtTimeNr
  | coldRestart
  | warmRestart
  | initializeData
  | initializeApplication
  | startApplication
  | stopApplication
  | saveConfiguration
  | enableUnsolicited
  | disableUnsolicited
  | assignClass
  | delayMeasure
  | recordCurrentTime
  | openFile
  | closeFile
  | deleteFile
  | getFileInfo
  | authenticateFile
  | abortFile
  | authRequest
  | authRequestNoAck
  | response
  | unsolicitedResponse
  | authResponse
  | unknown
deriving DecidableEq, Repr, Inhabited

namespace FunctionCode

def toType : FunctionCode → UInt8
  | .confirm => 0x0
  | .read => 0x1
  | .write => 0x2
  | .select => 0x3
  | .operate => 0x4
  | .directOperate => 0x5
  | .directOperateNr => 0x6
  | .immedFreeze => 0x7
  | .immedFreezeNr => 0x8
  | .freezeClear => 0x9
  | .freezeClearNr => 0xA
  | .freezeAtTime => 0xB
  | .freezeAtTimeNr => 0xC
  | .coldRestart => 0xD
  | .warmRestart => 0xE
  | .initializeData => 0xF
  | .initializeApplication => 0x10
  | .startApplication => 0x11
  | .stopApplication => 0x12
  | .saveConfiguration => 0x13
  | .enableUnsolicited => 0x14
  | .disableUnsolicited => 0x15
  | .assignClass => 0x16
  | .delayMeasure => 0x17
  | .recordCurrentTime => 0x18
  | .openFile => 0x19
  | .closeFile => 0x1A
  | .deleteFile => 0x1B
  | .getFileInfo => 0x1C
  | .authenticateFile => 0x1D
  | .abortFile => 0x1E
  | .authRequest => 0x20
  | .authRequestNoAck => 0x21
  | .response => 0x81
  | .unsolicitedResponse => 0x82
  | .authResponse => 0x83
  | .unknown => 0xFF

def fromType : UInt8 → FunctionCode
  | 0x0 => .confirm
  | 0x1 => .read
  | 0x2 => .write
  | 0x3 => .select
  | 0x4 => .operate
  | 0x5 => .directOperate
  | 0x6 => .directOperateNr
  | 0x7 => .immedFreeze
  | 0x8 => .immedFreezeNr
  | 0x9 => .freezeClear
  | 0xA => .freezeClearNr
  | 0xB => .freezeAtTime
  | 0xC => .freezeAtTimeNr
  | 0xD => .coldRestart
  | 0xE => .warmRestart
  | 0xF => .initializeData
  | 0x10 => .initializeApplication
  | 0x11 => .startApplication
  | 0x12 => .stopApplication
  | 0x13 => .saveConfiguration
  | 0x14 => .enableUnsolicited
  | 0x15 => .disableUnsolicited
  | 0x16 => .assignClass
  | 0x17 => .delayMeasure
  | 0x18 => .recordCurrentTime
  | 0x19 => .openFile
  | 0x1A => .closeFile
  | 0x1B => .deleteFile
  | 0x1C => .getFileInfo
  | 0x1D => .authenticateFile
  | 0x1E => .abortFile
  | 0x20 => .authRequest
  | 0x21 => .authRequestNoAck
  | 0x81 => .response
  | 0x82 => .unsolicitedResponse
  | 0x83 => .authResponse
  | _ => .unknown

@[simp] theorem fromType_toType (code : FunctionCode) : fromType code.toType = code := by
  cases code <;> rfl

end FunctionCode

structure APDUHeader where
  control : AppControlField
  function : FunctionCode
deriving DecidableEq, Repr, Inhabited

structure APDUResponseHeader extends APDUHeader where
  iin : IINField
deriving DecidableEq, Repr, Inhabited

namespace APDUHeader

/-- A request: its header, and its objects. -/
def parseRequest : List UInt8 → Option (APDUHeader × List UInt8)
  | control :: function :: objects => some (⟨.ofByte control, .fromType function⟩, objects)
  | _ => none

/-- A response: its header with the indications, and its objects. -/
def parseResponse : List UInt8 → Option (APDUResponseHeader × List UInt8)
  | control :: function :: lsb :: msb :: objects =>
      some (⟨⟨.ofByte control, .fromType function⟩, ⟨lsb, msb⟩⟩, objects)
  | _ => none

def confirm (seq : UInt8) (unsolicited : Bool) : APDUHeader :=
  ⟨⟨true, true, false, unsolicited, seq⟩, .confirm⟩

def solicitedConfirm (seq : UInt8) : APDUHeader := confirm seq false

def unsolicitedConfirm (seq : UInt8) : APDUHeader := confirm seq true

end APDUHeader

end OpenDnp3.App
