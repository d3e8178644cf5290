import Cantil.Firmware.Ca.Frames
import Cantil.Library.Walk

namespace Cantil.Ca
open Library

variable (config : Config) (crypto : Crypto) (device : Device) (slot : Slot)

/-- The slot that a record names. No record means a root. -/
def issuerOr : Except Errno IssuedMeta → Slot
  | .ok record => record.issuerSlot
  | .error _ => slot

/-- The bytes so far, the slot, and the hops left. -/
def chainWalk (config : Config) (crypto : Crypto) (capacity : Nat) :
    (left : Nat) → Slot → Bytes → Op Device Errno Bytes
  | 0, _, _ => .fail .eloop
  | left + 1, slot, out => do
      .ensure (slot < config.maxKeySlots) .einval
      .ensure ((← storageSlotCertExists slot) = true) .enoent
      let cert ← storageSlotCertRead slot (capacity - out.length)
      if ← storageSlotChainExists slot then
        let chain ← storageSlotChainRead slot (capacity - (out ++ cert).length)
        return out ++ cert ++ chain
      match certparseCert crypto.toWolfReader cert with
      | .error _ => .fail .eio
      | .ok parsed =>
        let issuer := issuerOr slot (← (readIssuedMeta parsed.serial).attempt)
        if issuer = slot then return out ++ cert
        else chainWalk config crypto capacity left issuer (out ++ cert)

instance (capacity left : Nat) (slot : Slot) (out : Bytes) :
    Op.Reader (chainWalk config crypto capacity left slot out) := by
  induction left generalizing slot out with
  | zero => exact .fail _
  | succ left ih =>
    refine .read fun _ => .read fun _ => .read fun _ => .read fun cert => .read fun chained => ?_
    split
    · infer_instance
    · split
      · infer_instance
      · refine .read fun record => ?_
        dsimp only
        split
        · infer_instance
        · exact ih _ _

/-- The outcome and the covered bytes, none after an error. -/
def covered : Except Errno Bytes → Except Errno Unit × Bytes
  | .ok chain => (.ok (), chain)
  | .error error => (.error error, [])

def caGetChainSlot (capacity : Nat) : Op Device Errno (Except Errno Unit × Bytes) := do
  if capacity = 0 then return (.error .einval, [])
  return covered (← (chainWalk config crypto capacity config.maxKeySlots.toNat slot []).attempt)

theorem caGetChainSlot_eq {config : Config} {crypto : Crypto} {slot : Slot} {capacity : Nat} {device : Device}
    (positive : 0 < capacity) {result : Except Errno Bytes}
    (walked : chainWalk config crypto capacity config.maxKeySlots.toNat slot [] device = (result, device)) :
    caGetChainSlot config crypto slot capacity device = (.ok (covered result), device) := by
  rw [caGetChainSlot, if_neg positive.ne', Op.bind_apply, Op.attempt_apply, walked]
  rfl

theorem caGetChainSlot_answers (capacity : Nat) (device : Device) :
    ∃ outcome, caGetChainSlot config crypto slot capacity device = (.ok outcome, device) := by
  rcases Nat.eq_zero_or_pos capacity with rfl | positive
  · exact ⟨_, rfl⟩
  · exact ⟨_, caGetChainSlot_eq positive (Op.read_eq rfl)⟩

/-- The issuer of the slot's certificate as the store records it. -/
def recordedIssuer (serial : Bytes) : Slot :=
  issuerOr slot (readIssuedMeta serial device).1

/-- One slot of the walk over whole files. -/
def chainHop : Walk.Hop Slot Bytes (Except Errno Bytes) :=
  if slot < config.maxKeySlots then
    match device.fs.files (.slot slot .cert) with
    | none => .stop (.error .enoent)
    | some cert =>
      match device.fs.files (.slot slot .chain) with
      | some chain => .stop (.ok (cert ++ chain))
      | none =>
        match certparseCert crypto.toWolfReader cert with
        | .error _ => .stop (.error .eio)
        | .ok parsed =>
          if recordedIssuer device slot parsed.serial = slot then .stop (.ok cert)
          else .go cert (recordedIssuer device slot parsed.serial)
  else .stop (.error .einval)

end Cantil.Ca
