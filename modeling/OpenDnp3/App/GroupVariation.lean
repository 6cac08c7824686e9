/-!
# Object identifiers

Group and variation numbers, the enumeration of the known ones, qualifier codes,
and the record that a header's group and variation are looked up to.
-/

set_option autoImplicit false

namespace OpenDnp3.App

structure GroupVariationID where
  group : UInt8
  variation : UInt8
deriving DecidableEq, Repr

inductive GroupVariation where
  | group1Var0
  | group1Var1
  | group1Var2
  | group2Var0
  | group2Var1
  | group2Var2
  | group2Var3
  | group3Var0
  | group3Var1
  | group3Var2
  | group4Var0
  | group4Var1
  | group4Var2
  | group4Var3
  | group10Var0
  | group10Var1
  | group10Var2
  | group11Var0
  | group11Var1
  | group11Var2
  | group12Var0
  | group12Var1
  | group13Var1
  | group13Var2
  | group20Var0
  | group20Var1
  | group20Var2
  | group20Var5
  | group20Var6
  | group21Var0
  | group21Var1
  | group21Var2
  | group21Var5
  | group21Var6
  | group21Var9
  | group21Var10
  | group22Var0
  | group22Var1
  | group22Var2
  | group22Var5
  | group22Var6
  | group23Var0
  | group23Var1
  | group23Var2
  | group23Var5
  | group23Var6
  | group30Var0
  | group30Var1
  | group30Var2
  | group30Var3
  | group30Var4
  | group30Var5
  | group30Var6
  | group32Var0
  | group32Var1
  | group32Var2
  | group32Var3
  | group32Var4
  | group32Var5
  | group32Var6
  | group32Var7
  | group32Var8
  | group40Var0
  | group40Var1
  | group40Var2
  | group40Var3
  | group40Var4
  | group41Var0
  | group41Var1
  | group41Var2
  | group41Var3
  | group41Var4
  | group42Var0
  | group42Var1
  | group42Var2
  | group42Var3
  | group42Var4
  | group42Var5
  | group42Var6
  | group42Var7
  | group42Var8
  | group43Var1
  | group43Var2
  | group43Var3
  | group43Var4
  | group43Var5
  | group43Var6
  | group43Var7
  | group43Var8
  | group50Var1
  | group50Var3
  | group50Var4
  | group51Var1
  | group51Var2
  | group52Var1
  | group52Var2
  | group60Var1
  | group60Var2
  | group60Var3
  | group60Var4
  | group70Var1
  | group70Var2
  | group70Var3
  | group70Var4
  | group70Var5
  | group70Var6
  | group70Var7
  | group70Var8
  | group80Var1
  | group110Var0
  | group111Var0
  | group112Var0
  | group113Var0
  | group120Var1
  | group120Var2
  | group120Var3
  | group120Var4
  | group120Var5
  | group120Var6
  | group120Var7
  | group120Var8
  | group120Var9
  | group120Var10
  | group120Var11
  | group120Var12
  | group120Var13
  | group120Var14
  | group120Var15
  | group121Var0
  | group121Var1
  | group122Var0
  | group122Var1
  | group122Var2
  | unknown
deriving DecidableEq, Repr, Inhabited

namespace GroupVariation

def toType : GroupVariation → UInt16
  | .group1Var0 => 0x100
  | .group1Var1 => 0x101
  | .group1Var2 => 0x102
  | .group2Var0 => 0x200
  | .group2Var1 => 0x201
  | .group2Var2 => 0x202
  | .group2Var3 => 0x203
  | .group3Var0 => 0x300
  | .group3Var1 => 0x301
  | .group3Var2 => 0x302
  | .group4Var0 => 0x400
  | .group4Var1 => 0x401
  | .group4Var2 => 0x402
  | .group4Var3 => 0x403
  | .group10Var0 => 0xA00
  | .group10Var1 => 0xA01
  | .group10Var2 => 0xA02
  | .group11Var0 => 0xB00
  | .group11Var1 => 0xB01
  | .group11Var2 => 0xB02
  | .group12Var0 => 0xC00
  | .group12Var1 => 0xC01
  | .group13Var1 => 0xD01
  | .group13Var2 => 0xD02
  | .group20Var0 => 0x1400
  | .group20Var1 => 0x1401
  | .group20Var2 => 0x1402
  | .group20Var5 => 0x1405
  | .group20Var6 => 0x1406
  | .group21Var0 => 0x1500
  | .group21Var1 => 0x1501
  | .group21Var2 => 0x1502
  | .group21Var5 => 0x1505
  | .group21Var6 => 0x1506
  | .group21Var9 => 0x1509
  | .group21Var10 => 0x150A
  | .group22Var0 => 0x1600
  | .group22Var1 => 0x1601
  | .group22Var2 => 0x1602
  | .group22Var5 => 0x1605
  | .group22Var6 => 0x1606
  | .group23Var0 => 0x1700
  | .group23Var1 => 0x1701
  | .group23Var2 => 0x1702
  | .group23Var5 => 0x1705
  | .group23Var6 => 0x1706
  | .group30Var0 => 0x1E00
  | .group30Var1 => 0x1E01
  | .group30Var2 => 0x1E02
  | .group30Var3 => 0x1E03
  | .group30Var4 => 0x1E04
  | .group30Var5 => 0x1E05
  | .group30Var6 => 0x1E06
  | .group32Var0 => 0x2000
  | .group32Var1 => 0x2001
  | .group32Var2 => 0x2002
  | .group32Var3 => 0x2003
  | .group32Var4 => 0x2004
  | .group32Var5 => 0x2005
  | .group32Var6 => 0x2006
  | .group32Var7 => 0x2007
  | .group32Var8 => 0x2008
  | .group40Var0 => 0x2800
  | .group40Var1 => 0x2801
  | .group40Var2 => 0x2802
  | .group40Var3 => 0x2803
  | .group40Var4 => 0x2804
  | .group41Var0 => 0x2900
  | .group41Var1 => 0x2901
  | .group41Var2 => 0x2902
  | .group41Var3 => 0x2903
  | .group41Var4 => 0x2904
  | .group42Var0 => 0x2A00
  | .group42Var1 => 0x2A01
  | .group42Var2 => 0x2A02
  | .group42Var3 => 0x2A03
  | .group42Var4 => 0x2A04
  | .group42Var5 => 0x2A05
  | .group42Var6 => 0x2A06
  | .group42Var7 => 0x2A07
  | .group42Var8 => 0x2A08
  | .group43Var1 => 0x2B01
  | .group43Var2 => 0x2B02
  | .group43Var3 => 0x2B03
  | .group43Var4 => 0x2B04
  | .group43Var5 => 0x2B05
  | .group43Var6 => 0x2B06
  | .group43Var7 => 0x2B07
  | .group43Var8 => 0x2B08
  | .group50Var1 => 0x3201
  | .group50Var3 => 0x3203
  | .group50Var4 => 0x3204
  | .group51Var1 => 0x3301
  | .group51Var2 => 0x3302
  | .group52Var1 => 0x3401
  | .group52Var2 => 0x3402
  | .group60Var1 => 0x3C01
  | .group60Var2 => 0x3C02
  | .group60Var3 => 0x3C03
  | .group60Var4 => 0x3C04
  | .group70Var1 => 0x4601
  | .group70Var2 => 0x4602
  | .group70Var3 => 0x4603
  | .group70Var4 => 0x4604
  | .group70Var5 => 0x4605
  | .group70Var6 => 0x4606
  | .group70Var7 => 0x4607
  | .group70Var8 => 0x4608
  | .group80Var1 => 0x5001
  | .group110Var0 => 0x6E00
  | .group111Var0 => 0x6F00
  | .group112Var0 => 0x7000
  | .group113Var0 => 0x7100
  | .group120Var1 => 0x7801
  | .group120Var2 => 0x7802
  | .group120Var3 => 0x7803
  | .group120Var4 => 0x7804
  | .group120Var5 => 0x7805
  | .group120Var6 => 0x7806
  | .group120Var7 => 0x7807
  | .group120Var8 => 0x7808
  | .group120Var9 => 0x7809
  | .group120Var10 => 0x780A
  | .group120Var11 => 0x780B
  | .group120Var12 => 0x780C
  | .group120Var13 => 0x780D
  | .group120Var14 => 0x780E
  | .group120Var15 => 0x780F
  | .group121Var0 => 0x7900
  | .group121Var1 => 0x7901
  | .group122Var0 => 0x7A00
  | .group122Var1 => 0x7A01
  | .group122Var2 => 0x7A02
  | .unknown => 0xFFFF

/-- The known group variations. -/
def known : List GroupVariation :=
  [.group1Var0, .group1Var1, .group1Var2, .group2Var0, .group2Var1, .group2Var2, .group2Var3,
    .group3Var0, .group3Var1, .group3Var2, .group4Var0, .group4Var1, .group4Var2, .group4Var3,
    .group10Var0, .group10Var1, .group10Var2, .group11Var0, .group11Var1, .group11Var2,
    .group12Var0, .group12Var1, .group13Var1, .group13Var2, .group20Var0, .group20Var1,
    .group20Var2, .group20Var5, .group20Var6, .group21Var0, .group21Var1, .group21Var2,
    .group21Var5, .group21Var6, .group21Var9, .group21Var10, .group22Var0, .group22Var1,
    .group22Var2, .group22Var5, .group22Var6, .group23Var0, .group23Var1, .group23Var2,
    .group23Var5, .group23Var6, .group30Var0, .group30Var1, .group30Var2, .group30Var3,
    .group30Var4, .group30Var5, .group30Var6, .group32Var0, .group32Var1, .group32Var2,
    .group32Var3, .group32Var4, .group32Var5, .group32Var6, .group32Var7, .group32Var8,
    .group40Var0, .group40Var1, .group40Var2, .group40Var3, .group40Var4, .group41Var0,
    .group41Var1, .group41Var2, .group41Var3, .group41Var4, .group42Var0, .group42Var1,
    .group42Var2, .group42Var3, .group42Var4, .group42Var5, .group42Var6, .group42Var7,
    .group42Var8, .group43Var1, .group43Var2, .group43Var3, .group43Var4, .group43Var5,
    .group43Var6, .group43Var7, .group43Var8, .group50Var1, .group50Var3, .group50Var4,
    .group51Var1, .group51Var2, .group52Var1, .group52Var2, .group60Var1, .group60Var2,
    .group60Var3, .group60Var4, .group70Var1, .group70Var2, .group70Var3, .group70Var4,
    .group70Var5, .group70Var6, .group70Var7, .group70Var8, .group80Var1, .group110Var0,
    .group111Var0, .group112Var0, .group113Var0, .group120Var1, .group120Var2, .group120Var3,
    .group120Var4, .group120Var5, .group120Var6, .group120Var7, .group120Var8, .group120Var9,
    .group120Var10, .group120Var11, .group120Var12, .group120Var13, .group120Var14,
    .group120Var15, .group121Var0, .group121Var1, .group122Var0, .group122Var1, .group122Var2]

def fromType (type : UInt16) : GroupVariation :=
  (known.find? (fun value => value.toType == type)).getD .unknown

theorem toType_fromType {type : UInt16} (known : fromType type ≠ .unknown) :
    (fromType type).toType = type := by
  rw [fromType] at known ⊢
  cases found : GroupVariation.known.find? (fun value => value.toType == type) with
  | none => exact absurd (by rw [found]; rfl) known
  | some value => simpa using List.find?_some found

end GroupVariation

inductive QualifierCode where
  | uint8StartStop
  | uint16StartStop
  | allObjects
  | uint8Cnt
  | uint16Cnt
  | uint8CntUint8Index
  | uint16CntUint16Index
  | uint16FreeFormat
  | undefined
deriving DecidableEq, Repr, Inhabited

namespace QualifierCode

def toType : QualifierCode → UInt8
  | .uint8StartStop => 0x0
  | .uint16StartStop => 0x1
  | .allObjects => 0x6
  | .uint8Cnt => 0x7
  | .uint16Cnt => 0x8
  | .uint8CntUint8Index => 0x17
  | .uint16CntUint16Index => 0x28
  | .uint16FreeFormat => 0x5B
  | .undefined => 0xFF

def fromType : UInt8 → QualifierCode
  | 0x0 => .uint8StartStop
  | 0x1 => .uint16StartStop
  | 0x6 => .allObjects
  | 0x7 => .uint8Cnt
  | 0x8 => .uint16Cnt
  | 0x17 => .uint8CntUint8Index
  | 0x28 => .uint16CntUint16Index
  | 0x5B => .uint16FreeFormat
  | _ => .undefined

@[simp] theorem fromType_toType (code : QualifierCode) : fromType code.toType = code := by
  cases code <;> rfl

/-- A qualifier that is known has one number only. -/
theorem eq_toType {type : UInt8} {code : QualifierCode} (same : fromType type = code)
    (known : code ≠ .undefined) : type = code.toType := by
  unfold fromType at same
  split at same
  all_goals subst same
  all_goals first | rfl | exact absurd rfl known

end QualifierCode

inductive GroupVariationType where
  | static
  | event
  | other
deriving DecidableEq, Repr, Inhabited

/-- A group and a variation number with what they are known as. -/
structure GroupVariationRecord where
  enumeration : GroupVariation
  type : GroupVariationType
  group : UInt8
  variation : UInt8
deriving DecidableEq, Repr

namespace GroupVariationRecord

def getType (group variation : UInt8) : GroupVariationType :=
  match group with
  | 1 => .static
  | 2 => .event
  | 3 => .static
  | 4 => .event
  | 10 => .static
  | 11 => .event
  | 13 => .event
  | 20 => .static
  | 21 => .static
  | 22 => .event
  | 23 => .event
  | 30 => .static
  | 32 => .event
  | 40 => .static
  | 41 => .event
  | 42 => .event
  | 43 => .event
  | 50 => if variation = 4 then .static else .other
  | 60 => if variation = 1 then .static else .event
  | 110 => .static
  | 111 => .event
  | 121 => .static
  | 122 => .event
  | _ => .other

def getGroupVar (group variation : UInt8) : UInt16 :=
  (group.toUInt16 <<< 8) ||| variation.toUInt16

/-- Of the octet groups every variation is known. -/
def getEnumeration (group variation : UInt8) : GroupVariation :=
  match GroupVariation.fromType (getGroupVar group variation) with
  | .unknown =>
      match group with
      | 110 => .group110Var0
      | 111 => .group111Var0
      | 112 => .group112Var0
      | 113 => .group113Var0
      | _ => .unknown
  | enumeration => enumeration

/-- Octet strings of every size are known as one, and so are their events. -/
theorem getEnumeration_octetString {group : UInt8} {gv : GroupVariation}
    (octets : group = 110 ∧ gv = .group110Var0 ∨ group = 111 ∧ gv = .group111Var0)
    (size : UInt8) : getEnumeration group size = gv := by
  have only : ∀ value ∈ GroupVariation.known, value.toType.toNat / 256 = group.toNat →
      value = gv := by
    rcases octets with ⟨rfl, rfl⟩ | ⟨rfl, rfl⟩ <;> decide +kernel
  have number : (getGroupVar group size).toNat / 256 = group.toNat := by
    have all : ∀ size : Fin 256,
        (getGroupVar group (UInt8.ofNat size)).toNat / 256 = group.toNat := by
      rcases octets with ⟨rfl, rfl⟩ | ⟨rfl, rfl⟩ <;> decide +kernel
    simpa using all ⟨size.toNat, size.toNat_lt⟩
  unfold getEnumeration GroupVariation.fromType
  cases found : GroupVariation.known.find?
      (fun value => value.toType == getGroupVar group size) with
  | none => rcases octets with ⟨rfl, rfl⟩ | ⟨rfl, rfl⟩ <;> rfl
  | some value =>
      have same : value.toType = getGroupVar group size := by simpa using List.find?_some found
      rw [only value (List.mem_of_find?_eq_some found) (by rw [same, number])]
      rcases octets with ⟨rfl, rfl⟩ | ⟨rfl, rfl⟩ <;> rfl

theorem toNat_getGroupVar (group variation : UInt8) :
    (getGroupVar group variation).toNat = group.toNat * 256 + variation.toNat := by
  have low := variation.toNat_lt
  have high := group.toNat_lt
  have shifted : (group.toUInt16 <<< 8).toNat = group.toNat * 256 := by
    rw [UInt16.toNat_shiftLeft, UInt8.toNat_toUInt16, Nat.shiftLeft_eq]
    exact Nat.mod_eq_of_lt (by simp; omega)
  rw [getGroupVar, UInt16.toNat_or, shifted, UInt8.toNat_toUInt16, Nat.mul_comm]
  exact (Nat.two_pow_add_eq_or_of_lt (i := 8) low _).symm

theorem getGroupVar_inj {group variation group' variation' : UInt8}
    (same : getGroupVar group variation = getGroupVar group' variation') :
    group = group' ∧ variation = variation' := by
  have number := congrArg UInt16.toNat same
  rw [toNat_getGroupVar, toNat_getGroupVar] at number
  have low := variation.toNat_lt
  have low' := variation'.toNat_lt
  exact ⟨UInt8.toNat_inj.mp (by omega), UInt8.toNat_inj.mp (by omega)⟩

/-- Unless it is of an octet group, an enumeration is that of one group and variation only. -/
theorem getGroupVar_of_getEnumeration {group variation : UInt8} {enumeration : GroupVariation}
    (same : getEnumeration group variation = enumeration)
    (plain : enumeration ∉ [.unknown, .group110Var0, .group111Var0, .group112Var0, .group113Var0]) :
    getGroupVar group variation = enumeration.toType := by
  unfold getEnumeration at same
  split at same
  · split at same <;> simp [← same] at plain
  · rename_i known
    rw [← same]
    exact (GroupVariation.toType_fromType known).symm

def getRecord (group variation : UInt8) : GroupVariationRecord :=
  ⟨getEnumeration group variation, getType group variation, group, variation⟩

end GroupVariationRecord

/-- What is known of an object header before its qualifier is looked at. -/
structure HeaderRecord extends GroupVariationRecord where
  qualifier : UInt8
  headerIndex : Nat
deriving DecidableEq, Repr

def HeaderRecord.getQualifierCode (record : HeaderRecord) : QualifierCode :=
  .fromType record.qualifier

end OpenDnp3.App
