import Cantil.Common.CborDecode
import Cantil.Library.Memory

namespace Cantil.Cbor.Buffer
open Library

/-- The memory from the buffer on, and the next offset. -/
structure Output where
  memory : Memory
  off : Nat

abbrev Emit := Op Output Errno Unit

/-- The number of octets of a head. -/
def headNeed (value : Nat) : Nat :=
  if value < 24 then 1
  else if value < 0x100 then 2
  else if value < 0x10000 then 3
  else if value < 0x100000000 then 5
  else 9

variable (sizeBits max : Nat)

/-- The room is tested in `size_t` before anything is written. -/
def emitOctets (need : Nat) (octets : Bytes) : Emit := fun output =>
  if (output.off + need) % 2 ^ sizeBits > max then (.error .enomem, output)
  else (.ok (), ⟨output.memory.store output.off octets, (output.off + need) % 2 ^ sizeBits⟩)

def emitHead (major : UInt8) (value : Nat) : Emit :=
  emitOctets sizeBits max (headNeed value) (headBytes major value)

def emitTstr (text : Bytes) : Emit := do
  emitHead sizeBits max mtTstr text.length
  emitOctets sizeBits max text.length text

def emitBstr (data : Bytes) : Emit := do
  emitHead sizeBits max mtBstr data.length
  emitOctets sizeBits max data.length data

/-- The conversion of a `size_t` to `int`. -/
def intOfSize (size : Nat) : Int := (BitVec.ofNat 32 size).toInt

def encodeMap (key1 : Bytes) (value1 : UInt32) (key2 : Bytes) (value2 : UInt32) (key3 data : Bytes) :
    Op Output Errno Int := do
  emitHead sizeBits max mtMap (if data.length > 0 then 3 else 2)
  emitTstr sizeBits max key1
  emitHead sizeBits max mtUint value1.toNat
  emitTstr sizeBits max key2
  emitHead sizeBits max mtUint value2.toNat
  if data.length > 0 then
    emitTstr sizeBits max key3
    emitBstr sizeBits max data
  Op.reads fun output => .ok (intOfSize output.off)

def encodeRequest (memory : Memory) (cmd seq : UInt32) (data : Bytes) : Except Errno Int × Memory :=
  let (result, output) := encodeMap sizeBits max keyCmd cmd keySeq seq keyData data ⟨memory, 0⟩
  (result, output.memory)

def encodeResponse (memory : Memory) (seq err : UInt32) (data : Bytes) : Except Errno Int × Memory :=
  let (result, output) := encodeMap sizeBits max keyErr err keySeq seq keyData data ⟨memory, 0⟩
  (result, output.memory)

end Cantil.Cbor.Buffer
