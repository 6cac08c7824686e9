import OpenDnp3.App.APDUHeader
import OpenDnp3.Outstation.Database.Database
import OpenDnp3.Outstation.Event.EventWriters

/-!
# Event buffer

The events of an outstation, as requests select them and responses report them.
-/

set_option autoImplicit false

namespace OpenDnp3.Outstation

open OpenDnp3.App OpenDnp3.Library

structure EventBuffer where
  overflow : Bool := false
  storage : EventLists

/-- The events, and the variation to report them in, that a group variation asks for. -/
def eventSelection : GroupVariation → Option ((type : EventType) × Option type.Variation)
  | .group2Var0 => some ⟨.binary, none⟩
  | .group2Var1 => some ⟨.binary, some .group2Var1⟩
  | .group2Var2 => some ⟨.binary, some .group2Var2⟩
  | .group2Var3 => some ⟨.binary, some .group2Var3⟩
  | .group4Var0 => some ⟨.doubleBitBinary, none⟩
  | .group4Var1 => some ⟨.doubleBitBinary, some .group4Var1⟩
  | .group4Var2 => some ⟨.doubleBitBinary, some .group4Var2⟩
  | .group4Var3 => some ⟨.doubleBitBinary, some .group4Var3⟩
  | .group11Var0 => some ⟨.binaryOutputStatus, none⟩
  | .group11Var1 => some ⟨.binaryOutputStatus, some .group11Var1⟩
  | .group11Var2 => some ⟨.binaryOutputStatus, some .group11Var2⟩
  | .group22Var0 => some ⟨.counter, none⟩
  | .group22Var1 => some ⟨.counter, some .group22Var1⟩
  | .group22Var2 => some ⟨.counter, some .group22Var2⟩
  | .group22Var5 => some ⟨.counter, some .group22Var5⟩
  | .group22Var6 => some ⟨.counter, some .group22Var6⟩
  | .group23Var0 => some ⟨.frozenCounter, none⟩
  | .group23Var1 => some ⟨.frozenCounter, some .group23Var1⟩
  | .group23Var2 => some ⟨.frozenCounter, some .group23Var2⟩
  | .group23Var5 => some ⟨.frozenCounter, some .group23Var5⟩
  | .group23Var6 => some ⟨.frozenCounter, some .group23Var6⟩
  | .group32Var0 => some ⟨.analog, none⟩
  | .group32Var1 => some ⟨.analog, some .group32Var1⟩
  | .group32Var2 => some ⟨.analog, some .group32Var2⟩
  | .group32Var3 => some ⟨.analog, some .group32Var3⟩
  | .group32Var4 => some ⟨.analog, some .group32Var4⟩
  | .group32Var5 => some ⟨.analog, some .group32Var5⟩
  | .group32Var6 => some ⟨.analog, some .group32Var6⟩
  | .group32Var7 => some ⟨.analog, some .group32Var7⟩
  | .group32Var8 => some ⟨.analog, some .group32Var8⟩
  | .group42Var0 => some ⟨.analogOutputStatus, none⟩
  | .group42Var1 => some ⟨.analogOutputStatus, some .group42Var1⟩
  | .group42Var2 => some ⟨.analogOutputStatus, some .group42Var2⟩
  | .group42Var3 => some ⟨.analogOutputStatus, some .group42Var3⟩
  | .group42Var4 => some ⟨.analogOutputStatus, some .group42Var4⟩
  | .group42Var5 => some ⟨.analogOutputStatus, some .group42Var5⟩
  | .group42Var6 => some ⟨.analogOutputStatus, some .group42Var6⟩
  | .group42Var7 => some ⟨.analogOutputStatus, some .group42Var7⟩
  | .group42Var8 => some ⟨.analogOutputStatus, some .group42Var8⟩
  | .group111Var0 => some ⟨.octetString, some .group111Var0⟩
  | _ => none

/-- The class of events that a group variation asks for. -/
def eventClassSelection : GroupVariation → Option EventClass
  | .group60Var2 => some .ec1
  | .group60Var3 => some .ec2
  | .group60Var4 => some .ec3
  | _ => none

namespace EventBuffer

/-- No bound on the number of events to select. -/
def maxCount : Nat := 2 ^ 32 - 1

def create (config : EventBufferConfig) : EventBuffer := { storage := .empty config }

/-- Store an event. -/
def update (buffer : EventBuffer) (event : AnyEvent) : Option EventBuffer :=
  (buffer.storage.update event.2).map fun (discarded, storage) =>
    ⟨buffer.overflow || discarded, storage⟩

def updateAll : List AnyEvent → EventBuffer → Option EventBuffer
  | [], buffer => some buffer
  | event :: events, buffer => (buffer.update event).bind (updateAll events)

def unselect (buffer : EventBuffer) : EventBuffer :=
  { buffer with storage := buffer.storage.unselect }

def selectMaxCount (buffer : EventBuffer) (gv : GroupVariation) (maximum : Nat) :
    IINField × EventBuffer :=
  match eventSelection gv with
  | some ⟨type, variation⟩ =>
      (.empty, { buffer with storage := (buffer.storage.selectByType type variation maximum).2 })
  | none =>
      match eventClassSelection gv with
      | some clazz =>
          (.empty,
            { buffer with
              storage := (buffer.storage.selectByClass (.ofEventClass clazz) maximum).2 })
      | none => (IINBit.funcNotSupported.field, buffer)

def selectAll (buffer : EventBuffer) (gv : GroupVariation) : IINField × EventBuffer :=
  buffer.selectMaxCount gv maxCount

def selectCount (buffer : EventBuffer) (gv : GroupVariation) (count : UInt16) :
    IINField × EventBuffer :=
  buffer.selectMaxCount gv count.toNat

def selectAllByClass (buffer : EventBuffer) (clazz : ClassField) : EventBuffer :=
  { buffer with storage := (buffer.storage.selectByClass clazz maxCount).2 }

/-- Whether there are any selected, but unwritten, events. -/
def hasAnySelection (buffer : EventBuffer) : Bool := 0 < buffer.storage.numSelected

/-- What a load leaves. The serials of the events that it wrote are a ghost. -/
structure Load where
  complete : Bool
  writer : HeaderWriter
  carried : List Nat
  buffer : EventBuffer

/-- Write selected events; complete when all of them were written. -/
def load [FloatOps] (buffer : EventBuffer) (writer : HeaderWriter) : Load :=
  let writing := (buffer.storage.write asduEventWriteHandler writer).2
  ⟨writing.lists.numSelected == 0, writing.writer, writing.carried,
    { buffer with storage := writing.lists }⟩

/-- Called when a transmission succeeds. -/
def clearWritten (buffer : EventBuffer) : EventBuffer :=
  { buffer with storage := buffer.storage.clearWritten.2 }

def unwrittenClassField (buffer : EventBuffer) : ClassField := buffer.storage.unwrittenClassField

/-- The overflow is over once no type is full. -/
def isOverflown (buffer : EventBuffer) : Bool × EventBuffer :=
  let overflow := buffer.overflow && buffer.storage.isAnyTypeFull
  (overflow, { buffer with overflow })

end EventBuffer

end OpenDnp3.Outstation
