import Cantil.Firmware.Ca.Certificates

namespace Cantil.Ca
open Library

def setProvisioned : Op Device Errno Unit := fun device => (.ok (), { device with provisioned := true })

variable (config : Config) (env : Env) (keyType : UInt8) (crypto : Crypto) (slot : Slot)

/-- A key without a certificate gets its certificate again. -/
def caInit (env : Env) : Op Device Errno Unit := do
  match ← (storageKeyRead caSlot keyBlobMax).attempt with
  | .ok (_ :: _) =>
    setProvisioned
    if ← storageSlotCertExists caSlot then return ()
    match ← (loadIssuerX509Params caSlot).attempt with
    | .ok params => let _ ← (buildSelfSignedCert config crypto env caSlot params).attempt
    | .error _ => pure ()
  | _ => pure ()

def caProvisioned : Op Device Errno Bool := storageSlotKeyExists caSlot

/-- A fresh key is encrypted and stored with its metadata. -/
def createKey (record : SlotMeta) : Op Device Errno Unit := do
  .lift env.storageKeyDerive
  let privkey ← .lift env.keygen
  let blob ← .lift (env.encryptBlob privkey)
  storageKeyWrite env.toFaults slot blob
  metaWrite env.toFaults slot record

def slotMetaOf (isProtected protectIssued : UInt8) : SlotMeta :=
  ⟨1, keyType, isProtected, protectIssued, 0, 0, List.replicate 8 0, rfl⟩

/-- No type byte means P-256. -/
def normalizeKeyType : UInt8 := if keyType = 0 then keyTypeP256 else keyType

def caProvision : Op Device Errno Unit := do
  .ensure (normalizeKeyType keyType = keyTypeP256) .enotsup
  .ensure ((← storageSlotKeyExists caSlot) = false) .eexist
  .ensure ((← storageVolumeMayMint) = true) .eperm
  createKey env caSlot (slotMetaOf (normalizeKeyType keyType) 1 1)
  setProvisioned

def caReady : Op Device Errno Bool := do
  let provisioned ← .reads fun device => .ok device.provisioned
  return provisioned && (← storageSlotCertExists caSlot)

/-- A protected slot with a certificate takes no other one. -/
def protectedWithCert : Op Device Errno Bool := do
  match ← (metaRead slot).attempt with
  | .ok record => return record.isProtected ≠ 0 && (← storageSlotCertExists slot)
  | .error _ => return false

def caPushKeyX509 (env : Env) (slot : Slot) (data : Bytes) : Op Device Errno Unit := do
  .ensure (data.length ≠ 0 ∧ data.length ≤ x509DataMax) .einval
  .ensure ((← protectedWithCert slot) = false) .eacces
  let params ← .lift (x509Parse data)
  storageSlotX509Write env.toFaults slot data
  buildSelfSignedCert config crypto env slot params
  let _ ← (storageSlotChainDelete env.toFaults slot).attempt

/-- A new chain is stored, else a stale one dropped. -/
def replaceChain (chain : Bytes) : Op Device Errno Unit := do
  if chain.length > 0 then storageSlotChainWrite env.toFaults slot chain
  else let _ ← (storageSlotChainDelete env.toFaults slot).attempt

/-- The certificate of slot 0 is stored without a look at it. -/
def caPushCert (cert chain : Bytes) : Op Device Errno Unit := do
  storageSlotCertWrite env.toFaults caSlot cert
  replaceChain env caSlot chain

def caPushKeyCert (env : Env) (slot : Slot) (cert chain : Bytes) : Op Device Errno Unit := do
  .ensure (cert.length ≠ 0) .einval
  .ensure (slot < config.maxKeySlots) .einval
  .ensure ((← storageSlotKeyExists slot) = true) .enoent
  .ensure ((← protectedWithCert slot) = false) .eacces
  let parsed ← .lift (certparseCert crypto.toWolfReader cert)
  .ensure (parsed.pubkey ≠ none) .einval
  let slotPub ← deriveSlotPubkey crypto env slot
  .ensure (parsed.pubkey = some slotPub) .einval
  storageSlotCertWrite env.toFaults slot cert
  replaceChain env slot chain

/-- The slots for a new key, in the order of the search. -/
def keySlots : List Slot :=
  (List.range (config.maxKeySlots.toNat - 1)).map fun index => UInt32.ofNat (index + 1)

def firstFreeSlot : List Slot → Op Device Errno Slot
  | [] => .fail .enospc
  | slot :: rest => do
      if ← storageSlotKeyExists slot then firstFreeSlot rest else return slot

/-- The slot of a new key. -/
def freeSlot (device : Device) : Option Slot :=
  (keySlots config).find? fun slot => (device.fs.files (.slot slot .key)).isNone

theorem firstFreeSlot_eq (slots : List Slot) (device : Device) :
    firstFreeSlot slots device =
      (match slots.find? fun slot => (device.fs.files (.slot slot .key)).isNone with
        | some slot => .ok slot
        | none => .error .enospc, device) := by
  induction slots with
  | nil => rfl
  | cons slot rest ih =>
    simp only [firstFreeSlot, Op.bind_apply, storageSlotKeyExists, fileExists, Op.reads_apply]
    rcases held : device.fs.files (.slot slot .key) with _ | blob
    · simp [held]
    · simp [held, ih]

theorem firstFreeSlot_of_some {config : Config} {device : Device} {slot : Slot}
    (free : freeSlot config device = some slot) : firstFreeSlot (keySlots config) device = (.ok slot, device) := by
  rw [firstFreeSlot_eq, ← freeSlot, free]

theorem firstFreeSlot_of_none {config : Config} {device : Device} (full : freeSlot config device = none) :
    firstFreeSlot (keySlots config) device = (.error .enospc, device) := by
  rw [firstFreeSlot_eq, ← freeSlot, full]

theorem firstFreeSlot_ok {config : Config} {device : Device} {slot : Slot} :
    (firstFreeSlot (keySlots config) device).1 = .ok slot ↔ freeSlot config device = some slot := by
  rw [firstFreeSlot_eq, ← freeSlot]
  cases freeSlot config device <;> simp

/-- A new key may take every slot but the first. -/
theorem mem_keySlots : slot ∈ keySlots config ↔ slot ≠ caSlot ∧ slot < config.maxKeySlots := by
  have bound := config.maxKeySlots.toNat_lt
  have numbered : slot ≠ caSlot ↔ slot.toNat ≠ 0 := not_congr UInt32.toNat_inj.symm
  rw [numbered, UInt32.lt_iff_toNat_lt]
  simp only [keySlots, List.mem_map, List.mem_range]
  constructor
  · rintro ⟨index, inside, rfl⟩
    rw [UInt32.toNat_ofNat_of_lt' (show index + 1 < 2 ^ 32 by omega)]
    omega
  · rintro ⟨positive, inside⟩
    refine ⟨slot.toNat - 1, by omega, ?_⟩
    rw [Nat.sub_add_cancel (by omega)]
    exact UInt32.ofNat_toNat

def caGenKey : Op Device Errno Slot := do
  .ensure (normalizeKeyType keyType = keyTypeP256) .enotsup
  .ensure ((← storageVolumeMayMint) = true) .eperm
  let slot ← firstFreeSlot (keySlots config)
  createKey env slot (slotMetaOf keyTypeP256 0 0)
  return slot

def caDeleteKey : Op Device Errno Unit := do
  .ensure (slot ≠ caSlot) .eperm
  .ensure (slot < config.maxKeySlots) .einval
  .ensure ((← storageSlotKeyExists slot) = true) .enoent
  match ← (metaRead slot).attempt with
  | .ok record => .ensure (record.isProtected = 0) .eacces
  | .error _ => pure ()
  storageSlotDelete env.toFaults slot

/-- An attribute name matches without regard to case. -/
def tagEq (tag literal : Bytes) : Bool :=
  tag.map (fun char => if 97 ≤ char ∧ char ≤ 122 then char - 32 else char) = literal

/-- The attribute named by the tag takes the value when it fits. -/
def Dn.assign (dn : Dn) (tag value : Bytes) : Except Errno (Dn × Bool) :=
  let fits (capacity : Nat) (updated : Dn) (isCn : Bool) : Except Errno (Dn × Bool) :=
    if value.length ≥ capacity then .error .einval else .ok (updated, isCn)
  if tagEq tag [67, 78] then fits 65 { dn with cn := value } true
  else if tagEq tag [79] then fits 65 { dn with o := value } false
  else if tagEq tag [79, 85] then fits 65 { dn with ou := value } false
  else if tagEq tag [67] then fits 3 { dn with c := value } false
  else if tagEq tag [83, 84] then fits 65 { dn with st := value } false
  else if tagEq tag [76] then fits 65 { dn with l := value } false
  else .error .einval

/-- The pairs of a name are separated by commas and blanks. -/
def rfc4514Pairs (text : Bytes) (dn : Dn) (haveCn : Bool) : Except Errno Dn :=
  match _shape : text.dropWhile (fun char => char = 32 ∨ char = 44) with
  | [] => if haveCn then .ok dn else .error .einval
  | first :: rest =>
    match _found : (first :: rest).dropWhile (· ≠ 61) with
    | [] => .error .einval
    | _ :: value => do
        let tag := (first :: rest).takeWhile (· ≠ 61)
        let (dn, isCn) ← Dn.assign dn tag (value.takeWhile (· ≠ 44))
        rfc4514Pairs ((value.dropWhile (· ≠ 44)).drop 1) dn (haveCn || isCn)
termination_by text.length
decreasing_by
  have separators := (List.dropWhile_sublist (l := text) (fun char => decide (char = 32 ∨ char = 44))).length_le
  have tagEnd := (List.dropWhile_sublist (l := first :: rest) (fun char => decide (char ≠ 61))).length_le
  have valueEnd := (List.dropWhile_sublist (l := value) (fun char => decide (char ≠ 44))).length_le
  simp only [_shape, _found, List.length_cons] at separators tagEnd
  simp only [List.length_drop]
  omega

def rfc4514ToDn (text : Bytes) : Except Errno Dn := rfc4514Pairs (cString text) .empty false

def caGenKeyCsr (env : Env) (slot : Slot) (subjectDn : Bytes) : Op Device Errno Unit := do
  .ensure (cString subjectDn ≠ []) .einval
  .ensure (slot < config.maxKeySlots) .einval
  .ensure ((← storageSlotKeyExists slot) = true) .enoent
  let privkey ← loadSlotPrivkey crypto env slot
  let dn ← .lift (rfc4514ToDn subjectDn)
  let der ← .lift (env.buildCsr privkey dn)
  storageSlotCsrWrite env.toFaults slot der

end Cantil.Ca
