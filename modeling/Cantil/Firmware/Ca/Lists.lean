import Cantil.Common.Cbor
import Cantil.Firmware.Ca.Slots

namespace Cantil.Ca
open Library Cbor

variable (certsDir : Option Errno) (config : Config) (slot : Slot) (capacity : Nat) (out : Bytes)

def storageSlotCsrRead : Op Device Errno Bytes := readFile (.slot slot .csr) capacity

def storageSlotCsrExists : Op Device Errno Bool := fileExists (.slot slot .csr)

instance : Op.Reader (storageSlotCsrRead slot capacity) := .reads _

instance : Op.Reader (storageSlotCsrExists slot) := .reads _

def caGetSerial (wolf : WolfReader) (capacity : Nat) : Op Device Errno Bytes := do
  .ensure (capacity ≠ 0) .einval
  let cert ← storageSlotCertRead caSlot certDerMax
  match certparseCert wolf cert with
  | .error _ => .fail .eio
  | .ok parsed =>
    .ensure (parsed.serial.length ≤ capacity) .enomem
    return parsed.serial

def caGetCsr : Op Device Errno Bytes := storageSlotCsrRead caSlot capacity

instance : Op.Reader (caGetCsr capacity) := .reads _

def caGetKeyCsr : Op Device Errno Bytes := storageSlotCsrRead slot capacity

/-- Every directory counts. It may fail to open. -/
def storageCountIssuedCerts : Op Device Errno UInt32 :=
  match certsDir with
  | some error => .fail error
  | none => .reads fun device => .ok (UInt32.ofNat device.fs.certDirs.length)

def caGetCertCount : Op Device Errno UInt32 := storageCountIssuedCerts certsDir

/-- The slot numbers of the build. -/
def slotRange : List Slot := (List.range config.maxKeySlots.toNat).map UInt32.ofNat

def storageCountSlotsUsed : Op Device Errno UInt32 := .reads fun device =>
  .ok (UInt32.ofNat ((slotRange config).countP fun slot => (device.fs.files (.slot slot .key)).isSome))

instance : Op.Reader (storageCountSlotsUsed config) := .reads _

/-- A key of one letter with a number. -/
def emitField (key : UInt8) (value : Nat) : Except Errno Bytes := do
  emitHead capacity (← emitTstr capacity out [key]) mtUint value

/-- The keys `f`, `i`, `n` and `s` of one issued certificate. -/
def emitCertEntry (flags : UInt8) (issuerSlot : Slot) (cn serial : Bytes) : Except Errno Bytes := do
  let out ← emitHead capacity out mtMap 4
  let out ← emitField capacity out 0x66 flags.toNat
  let out ← emitField capacity out 0x69 issuerSlot.toNat
  let out ← emitTstr capacity (← emitTstr capacity out [0x6E]) cn
  emitBstr capacity (← emitTstr capacity out [0x73]) serial

structure ListContext where
  out : Bytes
  count : UInt32
  deriving DecidableEq, Repr

/-- Unreadable records have defaults, a lack of room ends. -/
def listCertsCb (serial : Bytes) (context : ListContext) : Op Device Errno (ListContext × Bool) := do
  let entry := match ← (readIssuedMeta serial).attempt with
    | .ok record => emitCertEntry capacity context.out record.flags record.issuerSlot (cString record.cn) serial
    | .error _ => emitCertEntry capacity context.out 0 caSlot [] serial
  match entry with
  | .error _ => return (context, true)
  | .ok out => return (⟨out, context.count + 1⟩, false)

def caListCerts : Op Device Errno Bytes := do
  .ensure (16 ≤ capacity) .einval
  let total ← storageCountIssuedCerts certsDir
  let out ← .lift (emitHead capacity [] mtArray total.toNat)
  let context ← storageIssuedCertsIter (listCertsCb capacity) ⟨out, 0⟩
  .ensure (context.count = total) .enomem
  return context.out

/-- The type and protection bits of a record of the current version. -/
def slotTraits (record : Except Errno Bytes) : UInt8 × Nat :=
  match record with
  | .error _ => (0, 0)
  | .ok buf =>
    if 24 ≤ buf.length ∧ buf.getD 0 0 = 1 then
      (buf.getD 1 0, (if buf.getD 2 0 ≠ 0 then 1 else 0) + (if buf.getD 3 0 ≠ 0 then 2 else 0))
    else (0, 0)

/-- The keys `c`, `p`, `r`, `s` and `t` of one key slot. -/
def emitKeyEntry (hasCert hasCsr : Bool) (slot : Slot) (traits : UInt8 × Nat) : Except Errno Bytes := do
  let out ← emitHead capacity out mtMap 5
  let out ← emitField capacity out 0x63 hasCert.toNat
  let out ← emitField capacity out 0x70 traits.2
  let out ← emitField capacity out 0x72 hasCsr.toNat
  let out ← emitField capacity out 0x73 slot.toNat
  emitField capacity out 0x74 traits.1.toNat

/-- An empty slot is passed over. -/
def listKeysLoop (capacity : Nat) : List Slot → ListContext → Op Device Errno ListContext
  | [], context => pure context
  | slot :: rest, context => do
      if ← storageSlotKeyExists slot then
        let record ← (storageSlotMetaRead slot 64).attempt
        let hasCert ← storageSlotCertExists slot
        let hasCsr ← storageSlotCsrExists slot
        match emitKeyEntry capacity context.out hasCert hasCsr slot (slotTraits record) with
        | .error _ => .fail .enomem
        | .ok out => listKeysLoop capacity rest ⟨out, context.count + 1⟩
      else listKeysLoop capacity rest context

def caListKeys : Op Device Errno Bytes := do
  .ensure (16 ≤ capacity) .einval
  let count ← storageCountSlotsUsed config
  let out ← .lift (emitHead capacity [] mtArray count.toNat)
  let context ← listKeysLoop capacity (slotRange config) ⟨out, 0⟩
  .ensure (context.count = count) .eio
  return context.out

end Cantil.Ca
