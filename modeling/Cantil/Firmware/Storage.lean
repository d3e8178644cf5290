import Cantil.Firmware.Config
import Cantil.Library.Bytes
import Cantil.Library.Op
import Mathlib.Data.List.Nodup
import Mathlib.Logic.Function.Basic

namespace Cantil
open Library

/-- Key slots are numbered by `uint32_t`. -/
abbrev Slot := UInt32

/-- The files of `/keys/<n>`. -/
inductive SlotFile where
  | key
  | cert
  | chain
  | metadata
  | x509Data
  | csr
  | crlNumber
  deriving DecidableEq, Repr

def SlotFile.all : List SlotFile := [.key, .cert, .chain, .metadata, .x509Data, .csr, .crlNumber]

/-- The files of `/certs/<hex serial>`. -/
inductive IssuedFile where
  | cert
  | metadata
  deriving DecidableEq, Repr

/-- The bond file that names the client. -/
inductive ClientFile where
  | pubkey
  deriving DecidableEq, Repr

inductive Path where
  | slot (number : Slot) (file : SlotFile)
  | issued (name : Bytes) (file : IssuedFile)
  | client (id : Bytes) (file : ClientFile)
  deriving DecidableEq, Repr

/-- Files, and the directories of `/certs` in the volume's order. -/
structure Fs where
  files : Path → Option Bytes
  certDirs : List Bytes
  certDirs_nodup : certDirs.Nodup
  listed : ∀ name file, (files (.issued name file)).isSome → name ∈ certDirs

namespace Fs

def empty : Fs := ⟨fun _ => none, [], List.nodup_nil, by simp⟩

variable (fs : Fs) (place : Nat) (path : Path)

/-- A new directory is listed where the file system puts it. -/
def mkdirP : Path → Fs
  | .issued name _ =>
    if fresh : name ∈ fs.certDirs then fs
    else
      { fs with
        certDirs := fs.certDirs.take place ++ name :: fs.certDirs.drop place
        certDirs_nodup := by
          rw [List.perm_middle.nodup_iff, List.take_append_drop]
          exact List.nodup_cons.mpr ⟨fresh, fs.certDirs_nodup⟩
        listed := by
          intro other file present
          rw [List.perm_middle.mem_iff, List.take_append_drop]
          exact List.mem_cons_of_mem name (fs.listed other file present) }
  | .slot _ _ => fs
  | .client _ _ => fs

theorem mem_mkdirP (name : Bytes) (file : IssuedFile) (other : Bytes) :
    other ∈ (fs.mkdirP place (.issued name file)).certDirs ↔ other = name ∨ other ∈ fs.certDirs := by
  simp only [mkdirP]
  split
  case isTrue present =>
    constructor
    · exact .inr
    · rintro (rfl | held)
      · exact present
      · exact held
  case isFalse => rw [List.perm_middle.mem_iff, List.take_append_drop, List.mem_cons]

@[simp] theorem mkdirP_files : (fs.mkdirP place path).files = fs.files := by
  unfold mkdirP
  split
  · split <;> rfl
  · rfl
  · rfl

/-- The file holds the data, in a directory that is listed. -/
def put (data : Bytes) : Fs where
  files := Function.update fs.files path (some data)
  certDirs := (fs.mkdirP place path).certDirs
  certDirs_nodup := (fs.mkdirP place path).certDirs_nodup
  listed := by
    intro name file present
    by_cases here : .issued name file = path
    · rw [← here, mem_mkdirP]
      exact .inl rfl
    · rw [Function.update_of_ne here, ← mkdirP_files fs place path] at present
      exact (fs.mkdirP place path).listed name file present

@[simp] theorem put_files (data : Bytes) :
    (fs.put place path data).files = Function.update fs.files path (some data) := rfl

/-- The files that meet the condition are gone. -/
def removeIf (gone : Path → Bool) : Fs where
  files path := if gone path then none else fs.files path
  certDirs := fs.certDirs
  certDirs_nodup := fs.certDirs_nodup
  listed := by
    intro name file present
    split at present
    · cases present
    · exact fs.listed name file present

/-- The bond files are replaced and every other file stays. -/
def withClients (bonds : Bytes → ClientFile → Option Bytes) : Fs where
  files
    | .client id file => bonds id file
    | path => fs.files path
  certDirs := fs.certDirs
  certDirs_nodup := fs.certDirs_nodup
  listed := fs.listed

/-- A directory of `/certs` stays when kept or not empty. -/
def removeCertDirs (kept : Bytes → Bool) : Fs where
  files := fs.files
  certDirs := fs.certDirs.filter fun name =>
    kept name || (fs.files (.issued name .cert)).isSome || (fs.files (.issued name .metadata)).isSome
  certDirs_nodup := fs.certDirs_nodup.filter _
  listed := by
    intro name file present
    rw [List.mem_filter]
    refine ⟨fs.listed name file present, ?_⟩
    cases file <;> simp [present]

end Fs

/-- How one write of a file ends. -/
inductive WriteOutcome where
  | done
  | mkdirFailed (error : Errno)
  | openFailed (error : Errno)
  /-- The close commits a part of the data or nothing. -/
  | short (kept : Option Nat)
  /-- A whole write, but the ignored close committed nothing. -/
  | uncommitted
  deriving DecidableEq, Repr

inductive VolumeState where
  | valid
  | unmarked
  | mismatch
  deriving DecidableEq, Repr

/-- The state behind the store and the certificate authority. -/
structure Device where
  fs : Fs
  volume : VolumeState
  provisioned : Bool

/-- What the medium does to one command. -/
structure Faults where
  write : Path → WriteOutcome
  unlink : Path → Option Errno
  /-- The answer to the removal of an emptied slot directory. -/
  rmdir : Option Errno
  /-- The directories of `/certs` that a wipe cannot remove. -/
  stuckDir : Bytes → Bool
  /-- Where a new directory of `/certs` is listed. -/
  place : Nat

/-- Every call succeeds. -/
def Faults.none (place : Nat) : Faults := ⟨fun _ => .done, fun _ => .none, .none, fun _ => false, place⟩

variable (faults : Faults) (serial : Bytes) (slot : Slot) (path : Path) (capacity : Nat)

def writeFile (data : Bytes) : Op Device Errno Unit := fun device =>
  let holding (content : Bytes) : Device := { device with fs := device.fs.put faults.place path content }
  let old := (device.fs.files path).getD []
  match faults.write path with
  | .done => (.ok (), holding data)
  | .mkdirFailed error => (.error error, device)
  | .openFailed error => (.error error, { device with fs := device.fs.mkdirP faults.place path })
  | .short (some kept) => (.error .eio, holding (data.take kept))
  | .short none => (.error .eio, holding old)
  | .uncommitted => (.ok (), holding old)

theorem writeFile_done {faults : Faults} {path : Path} (written : faults.write path = .done) (data : Bytes)
    (device : Device) :
    writeFile faults path data device =
      (.ok (), { device with fs := device.fs.put faults.place path data }) := by
  simp only [writeFile, written]

/-- The data, a part of it, nothing, or a directory only. -/
theorem writeFile_state (data : Bytes) (device : Device) :
    (writeFile faults path data device).2 = device ∨
      (writeFile faults path data device).2 = { device with fs := device.fs.mkdirP faults.place path } ∨
      ∃ content, (writeFile faults path data device).2 =
          { device with fs := device.fs.put faults.place path content } ∧
        (faults.write path = .done ∧ content = data ∨ content = (device.fs.files path).getD [] ∨
          ∃ kept, faults.write path = .short (some kept) ∧ content = data.take kept) := by
  rcases outcome : faults.write path with _ | error | error | (_ | kept) | _
  all_goals simp only [writeFile, outcome]
  · exact .inr (.inr ⟨data, rfl, .inl ⟨trivial, rfl⟩⟩)
  · exact .inl trivial
  · exact .inr (.inl trivial)
  · exact .inr (.inr ⟨_, rfl, .inr (.inl rfl)⟩)
  · exact .inr (.inr ⟨_, rfl, .inr (.inr ⟨kept, rfl, rfl⟩)⟩)
  · exact .inr (.inr ⟨_, rfl, .inr (.inl rfl)⟩)

/-- A write lists at most one new directory. -/
theorem writeFile_certDirs (data : Bytes) (device : Device) :
    ∃ target, (writeFile faults path data device).2.fs.certDirs = (device.fs.mkdirP faults.place target).certDirs := by
  rcases writeFile_state faults path data device with same | made | ⟨content, stored, _⟩
  · exact ⟨.slot 0 .key, by rw [same]; rfl⟩
  · exact ⟨path, by rw [made]⟩
  · exact ⟨path, by rw [stored]; rfl⟩

/-- A read fills the caller's buffer and cuts what does not fit. -/
def readFile : Op Device Errno Bytes :=
  .reads fun device =>
    match device.fs.files path with
    | none => .error .enoent
    | some data => .ok (data.take capacity)

def fileExists : Op Device Errno Bool :=
  .reads fun device => .ok (device.fs.files path).isSome

def unlinkFile : Op Device Errno Unit := fun device =>
  if device.fs.files path = none then (.error .enoent, device)
  else
    match faults.unlink path with
    | some error => (.error error, device)
    | none => (.ok (), { device with fs := device.fs.removeIf (· = path) })

/-! The numbered slots. -/

def storageKeyWrite (blob : Bytes) : Op Device Errno Unit :=
  writeFile faults (.slot slot .key) blob

def storageKeyRead : Op Device Errno Bytes :=
  readFile (.slot slot .key) capacity

def storageSlotKeyExists : Op Device Errno Bool := fileExists (.slot slot .key)

def storageSlotCertWrite (der : Bytes) : Op Device Errno Unit :=
  writeFile faults (.slot slot .cert) der

def storageSlotCertRead : Op Device Errno Bytes :=
  readFile (.slot slot .cert) capacity

def storageSlotCertExists : Op Device Errno Bool := fileExists (.slot slot .cert)

def storageSlotChainWrite (der : Bytes) : Op Device Errno Unit :=
  writeFile faults (.slot slot .chain) der

def storageSlotChainRead : Op Device Errno Bytes :=
  readFile (.slot slot .chain) capacity

def storageSlotChainExists : Op Device Errno Bool := fileExists (.slot slot .chain)

/-- A chain that is not there counts as deleted. -/
def storageSlotChainDelete : Op Device Errno Unit := do
  match ← (unlinkFile faults (.slot slot .chain)).attempt with
  | .ok () => pure ()
  | .error .enoent => pure ()
  | .error error => .fail error

def storageSlotMetaWrite (blob : Bytes) : Op Device Errno Unit :=
  writeFile faults (.slot slot .metadata) blob

def storageSlotMetaRead : Op Device Errno Bytes :=
  readFile (.slot slot .metadata) capacity

def storageSlotX509Write (blob : Bytes) : Op Device Errno Unit :=
  writeFile faults (.slot slot .x509Data) blob

def storageSlotX509Read : Op Device Errno Bytes :=
  readFile (.slot slot .x509Data) capacity

def storageSlotCsrWrite (der : Bytes) : Op Device Errno Unit :=
  writeFile faults (.slot slot .csr) der

def storageSlotCrlNumberRead : Op Device Errno UInt32 := do
  let buf ← readFile (.slot slot .crlNumber) 4
  .ensure (buf.length = 4) .einval
  return UInt32.ofNat (bigEndianValue buf)

def storageSlotCrlNumberWrite (value : UInt32) : Op Device Errno Unit :=
  writeFile faults (.slot slot .crlNumber) (bigEndian 4 value.toNat)

def keyBlobLen : Nat := 60

/-- A file of the slot whose removal fails stays. -/
def slotEmptied (device : Device) : Device :=
  let gone (path : Path) : Bool :=
    match path with
    | .slot number _ => number = slot ∧ faults.unlink path = none
    | _ => false
  { device with fs := device.fs.removeIf gone }

/-- A slot directory goes file by file, and then itself if empty. -/
def removeSlotDir : Op Device Errno Unit := fun device =>
  let after := slotEmptied faults slot device
  let stuck := SlotFile.all.any fun file => (after.fs.files (.slot slot file)).isSome
  let result : Except Errno Unit :=
    if stuck then .error .enotempty
    else
      match faults.rmdir with
      | some error => .error error
      | none => .ok ()
  (result, after)

def storageSlotDelete : Op Device Errno Unit := do
  let _ ← (writeFile faults (.slot slot .key) (List.replicate keyBlobLen 0xA5)).attempt
  match ← (removeSlotDir faults slot).attempt with
  | .ok () => pure ()
  | .error .enoent => pure ()
  | .error error => .fail error

/-! The issued certificates. -/

def pathMaxLen : Nat := 128

def hexDigit (value : Nat) : UInt8 := UInt8.ofNat (if value < 10 then 48 + value else 87 + value)

/-- The directory of a serial is its lower-case hexadecimal text. -/
def hexName : Bytes :=
  serial.flatMap fun byte => [hexDigit (byte.toNat / 16), hexDigit (byte.toNat % 16)]

theorem hexDigit_injective : ∀ first < 16, ∀ second < 16, hexDigit first = hexDigit second → first = second := by
  decide

/-- Different serials have different directories. -/
theorem hexName_injective : Function.Injective hexName := by
  intro first second same
  induction first generalizing second with
  | nil =>
    cases second with
    | nil => rfl
    | cons byte rest => cases same
  | cons byte rest ih =>
    cases second with
    | nil => cases same
    | cons other others =>
      obtain ⟨high, low, tail⟩ := List.cons.inj same |>.imp id List.cons.inj
      have highs := hexDigit_injective _ (by have := byte.toNat_lt; omega) _ (by have := other.toNat_lt; omega) high
      have lows := hexDigit_injective _ (by omega) _ (by omega) low
      have bytes : byte = other := UInt8.toNat_inj.mp (by omega)
      rw [bytes, ih tail]

/-- Mount point, separators and file name take 20 characters. -/
def hexPath (file : IssuedFile) : Except Errno Path :=
  if serial.length * 2 + 1 > pathMaxLen then .error .einval
  else if serial.length * 2 + 20 ≥ pathMaxLen then .error .enametoolong
  else .ok (.issued (hexName serial) file)

/-- No test for truncation, which no caller's serial reaches. -/
def storageIssuedCertWrite (der : Bytes) : Op Device Errno Unit := do
  .ensure (serial.length * 2 + 1 ≤ pathMaxLen) .einval
  writeFile faults (.issued (hexName serial) .cert) der

/-- A path that is cut names no file. -/
def storageIssuedCertRead : Op Device Errno Bytes := do
  .ensure (serial.length * 2 + 1 ≤ pathMaxLen) .einval
  .ensure (serial.length * 2 + 20 < pathMaxLen) .enoent
  readFile (.issued (hexName serial) .cert) capacity

def storageIssuedMetaWrite (blob : Bytes) : Op Device Errno Unit := do
  let path ← .lift (hexPath serial .metadata)
  writeFile faults path blob

def storageIssuedMetaRead : Op Device Errno Bytes := do
  let path ← .lift (hexPath serial .metadata)
  readFile path capacity

def hexNibble (char : UInt8) : Option Nat :=
  if 48 ≤ char ∧ char ≤ 57 then some (char.toNat - 48)
  else if 97 ≤ char ∧ char ≤ 102 then some (10 + (char.toNat - 97))
  else none

def hexBytes : Bytes → Option Bytes
  | [] => some []
  | [_] => none
  | high :: low :: rest => do
      let high ← hexNibble high
      let low ← hexNibble low
      let rest ← hexBytes rest
      return UInt8.ofNat (high * 16 + low) :: rest

variable {name : Bytes}

theorem hexBytes_length {serial : Bytes} (decoded : hexBytes name = some serial) :
    name.length = 2 * serial.length := by
  induction name using hexBytes.induct generalizing serial with
  | case1 =>
    obtain rfl : [] = serial := Option.some.inj decoded
    rfl
  | case2 => cases decoded
  | case3 high low rest ih =>
    simp only [hexBytes, Option.bind_eq_bind, Option.bind_eq_some_iff, Option.pure_def,
      Option.some.injEq] at decoded
    obtain ⟨_, _, _, _, tail, read, rfl⟩ := decoded
    have more := ih read
    simp only [List.length_cons]
    omega

theorem hexDigit_hexNibble {char : UInt8} {value : Nat} (read : hexNibble char = some value) :
    hexDigit value = char ∧ value < 16 := by
  unfold hexNibble at read
  simp only [UInt8.le_iff_toNat_le, UInt8.reduceToNat] at read
  split_ifs at read with digit letter
  · obtain rfl := Option.some.inj read
    have shown : 48 + (char.toNat - 48) = char.toNat := by omega
    rw [hexDigit, if_pos (by omega), shown, UInt8.ofNat_toNat]
    exact ⟨rfl, by omega⟩
  · obtain rfl := Option.some.inj read
    have shown : 87 + (10 + (char.toNat - 97)) = char.toNat := by omega
    rw [hexDigit, if_neg (by omega), shown, UInt8.ofNat_toNat]
    exact ⟨rfl, by omega⟩

/-- A directory is named by the text of its serial. -/
theorem hexName_hexBytes {serial : Bytes} (decoded : hexBytes name = some serial) :
    hexName serial = name := by
  induction name using hexBytes.induct generalizing serial with
  | case1 =>
    obtain rfl : [] = serial := Option.some.inj decoded
    rfl
  | case2 => cases decoded
  | case3 high low rest ih =>
    simp only [hexBytes, Option.bind_eq_bind, Option.bind_eq_some_iff, Option.pure_def,
      Option.some.injEq] at decoded
    obtain ⟨upper, readHigh, lower, readLow, tail, readRest, rfl⟩ := decoded
    obtain ⟨shownHigh, upperSmall⟩ := hexDigit_hexNibble readHigh
    obtain ⟨shownLow, lowerSmall⟩ := hexDigit_hexNibble readLow
    have byte : (UInt8.ofNat (upper * 16 + lower)).toNat = upper * 16 + lower := by
      rw [UInt8.toNat_ofNat']
      omega
    have quotient : (upper * 16 + lower) / 16 = upper := by omega
    have remainder : (upper * 16 + lower) % 16 = lower := by omega
    simp only [hexName, List.flatMap_cons, byte, quotient, remainder, shownHigh, shownLow]
    exact congrArg ([high, low] ++ ·) (ih readRest)

theorem hexNibble_hexDigit : ∀ value < 16, hexNibble (hexDigit value) = some value := by decide

theorem hexBytes_hexName : hexBytes (hexName serial) = some serial := by
  induction serial with
  | nil => rfl
  | cons byte rest ih =>
    have small := byte.toNat_lt
    have high := hexNibble_hexDigit (byte.toNat / 16) (by omega)
    have low := hexNibble_hexDigit (byte.toNat % 16) (by omega)
    have whole : byte.toNat / 16 * 16 + byte.toNat % 16 = byte.toNat := by omega
    show hexBytes (hexDigit (byte.toNat / 16) :: hexDigit (byte.toNat % 16) :: hexName rest) = _
    simp only [hexBytes, high, low, ih, Option.bind_eq_bind, Option.bind_some, Option.pure_def, whole,
      UInt8.ofNat_toNat]

/-- Names that are no hex text of 1 to 20 bytes are skipped. -/
def decodeName (name : Bytes) : Option Bytes :=
  if name.length = 0 ∨ name.length % 2 = 1 ∨ name.length / 2 > 20 then none
  else hexBytes name

/-- The callback returns its context and whether the iteration stops. -/
def iterNames {Context : Type} (callback : Bytes → Context → Op Device Errno (Context × Bool)) :
    List Bytes → Context → Op Device Errno Context
  | [], context => pure context
  | name :: rest, context =>
    match decodeName name with
    | none => iterNames callback rest context
    | some serial => do
        let (context, stop) ← callback serial context
        if stop then pure context else iterNames callback rest context

def storageIssuedCertsIter {Context : Type}
    (callback : Bytes → Context → Op Device Errno (Context × Bool)) (context : Context) :
    Op Device Errno Context := do
  let names ← .reads fun device => .ok device.fs.certDirs
  iterNames callback names context

/-! The volume. -/

def storageVolumeTrusted : Op Device Errno Bool :=
  .reads fun device => .ok (device.volume ≠ .mismatch)

/-- An unmarked volume may mint only once it holds a CA key. -/
def mayMint (device : Device) : Bool :=
  match device.volume with
  | .valid => true
  | .mismatch => false
  | .unmarked => (device.fs.files (.slot 0 .key)).isSome

def storageVolumeMayMint : Op Device Errno Bool := .reads fun device => .ok (mayMint device)

/-- The wipe ignores every failure below its first test. -/
def storageSecureWipe : Op Device Errno Unit := do
  .ensure ((← storageVolumeTrusted) = true) .eperm
  let _ ← (writeFile faults (.slot 0 .key) (List.replicate keyBlobLen 0xA5)).attempt
  fun device =>
    let emptied := device.fs.removeIf fun path => (faults.unlink path).isNone
    (.ok (), { device with fs := emptied.removeCertDirs faults.stuckDir })

/-- A read returns what the buffer takes of the file. -/
theorem readFile_ok {path : Path} {capacity : Nat} {device : Device} {content : Bytes}
    (read : (readFile path capacity device).1 = .ok content) :
    ∃ data, device.fs.files path = some data ∧ data.take capacity = content := by
  rw [readFile, Op.reads_apply] at read
  rcases held : device.fs.files path with _ | data
  · rw [held] at read
    cases read
  · rw [held] at read
    exact ⟨data, rfl, Except.ok.inj read⟩

@[simp] theorem storageSlotKeyExists_apply (device : Device) :
    storageSlotKeyExists slot device = (.ok (device.fs.files (.slot slot .key)).isSome, device) := rfl

/-! What only reads. -/

instance : Op.Reader (readFile path capacity) := .reads _

instance : Op.Reader (fileExists path) := .reads _

instance : Op.Reader (storageKeyRead slot capacity) := .reads _

instance : Op.Reader (storageSlotKeyExists slot) := .reads _

instance : Op.Reader (storageSlotCertRead slot capacity) := .reads _

instance : Op.Reader (storageSlotCertExists slot) := .reads _

instance : Op.Reader (storageSlotChainRead slot capacity) := .reads _

instance : Op.Reader (storageSlotChainExists slot) := .reads _

instance : Op.Reader (storageSlotMetaRead slot capacity) := .reads _

instance : Op.Reader (storageSlotX509Read slot capacity) := .reads _

instance : Op.Reader storageVolumeTrusted := .reads _

instance : Op.Reader storageVolumeMayMint := .reads _

instance : Op.Reader (storageSlotCrlNumberRead slot) := by
  unfold storageSlotCrlNumberRead
  infer_instance

instance : Op.Reader (storageIssuedCertRead serial capacity) := by
  unfold storageIssuedCertRead
  infer_instance

instance : Op.Reader (storageIssuedMetaRead serial capacity) := by
  unfold storageIssuedMetaRead
  infer_instance

/-- Only touched paths may differ. -/
def SameOutside (touched : Path → Prop) (before after : Device) : Prop :=
  ∀ path, ¬ touched path → after.fs.files path = before.fs.files path

instance (touched : Path → Prop) : IsPreorder Device (SameOutside touched) where
  refl _ := fun _ _ => rfl
  trans _ _ _ first second := fun path free => (second path free).trans (first path free)

/-- The deletion of a chain is its removal, whatever it answers. -/
theorem storageSlotChainDelete_state (device : Device) :
    (storageSlotChainDelete faults slot device).2 = (unlinkFile faults (.slot slot .chain) device).2 := by
  rw [storageSlotChainDelete, Op.bind_state]
  · rfl
  · intro outcome
    split
    · exact .pure ()
    · exact .pure ()
    · exact .fail _

/-- A slot is emptied behind its overwritten key. -/
theorem storageSlotDelete_state (device : Device) :
    (storageSlotDelete faults slot device).2 =
      slotEmptied faults slot (writeFile faults (.slot slot .key) (List.replicate keyBlobLen 0xA5) device).2 := by
  rw [storageSlotDelete, Op.bind_apply, Op.attempt_apply]
  rw [Op.bind_state]
  · rfl
  · intro outcome
    split
    · exact .pure ()
    · exact .pure ()
    · exact .fail _

section Frames

variable {touched : Path → Prop} {faults : Faults}
variable {path : Path} {slot : Slot} {device wiped : Device}

theorem writeFile_respects (inside : touched path) (data : Bytes) :
    Op.Respects (SameOutside touched) (writeFile faults path data) := by
  intro device
  have putSame (content : Bytes) : SameOutside touched device
      { device with fs := device.fs.put faults.place path content } := by
    intro other free
    have different : other ≠ path := by
      rintro rfl
      exact free inside
    exact Function.update_of_ne different _ _
  unfold writeFile
  split
  · exact putSame data
  · exact refl device
  · intro other _
    simp
  · exact putSame _
  · exact putSame _
  · exact putSame _

theorem unlinkFile_respects (inside : touched path) : Op.Respects (SameOutside touched) (unlinkFile faults path) := by
  intro device
  unfold unlinkFile
  split
  · exact refl device
  · split
    · exact refl device
    · intro other free
      have different : other ≠ path := by
        rintro rfl
        exact free inside
      simp [Fs.removeIf, different]

/-- Writes and removals at the path keep the relation. -/
structure Writable (relation : Device → Device → Prop) (faults : Faults) (path : Path) : Prop where
  write : ∀ data, Op.Respects relation (writeFile faults path data)
  unlink : Op.Respects relation (unlinkFile faults path)

variable {relation : Device → Device → Prop}

theorem Writable.mono {weaker : Device → Device → Prop} (writable : Writable relation faults path)
    (implies : ∀ before after, relation before after → weaker before after) : Writable weaker faults path :=
  ⟨fun data device => implies _ _ (writable.write data device), fun device => implies _ _ (writable.unlink device)⟩

theorem writable_of_touched (inside : touched path) : Writable (SameOutside touched) faults path :=
  ⟨writeFile_respects inside, unlinkFile_respects inside⟩

/-- The state of the volume is found at the boot. -/
def SameVolume (before after : Device) : Prop := after.volume = before.volume

instance : IsPreorder Device SameVolume where
  refl _ := rfl
  trans _ _ _ first second := second.trans first

theorem writable_sameVolume (faults : Faults) (path : Path) : Writable SameVolume faults path where
  write data device := by
    unfold writeFile
    split <;> rfl
  unlink device := by
    unfold unlinkFile
    split
    · rfl
    · split <;> rfl

theorem withClients_sameOutside (clients : ∀ id file, touched (.client id file)) (device : Device)
    (bonds : Bytes → ClientFile → Option Bytes) :
    SameOutside touched device { device with fs := device.fs.withClients bonds } := by
  intro path free
  cases path with
  | slot number file => rfl
  | issued name file => rfl
  | client id file => exact absurd (clients id file) free

theorem storageSlotChainDelete_respects [IsPreorder Device relation]
    (chain : Writable relation faults (.slot slot .chain)) :
    Op.Respects relation (storageSlotChainDelete faults slot) := by
  refine chain.unlink.attempt.bind fun outcome => ?_
  split
  · exact .pure ()
  · exact .pure ()
  · exact .fail _

theorem storageSlotDelete_respects (inside : ∀ file, touched (.slot slot file)) :
    Op.Respects (SameOutside touched) (storageSlotDelete faults slot) := by
  intro device path free
  have written : SameOutside touched device
      (writeFile faults (.slot slot .key) (List.replicate keyBlobLen 0xA5) device).2 :=
    writeFile_respects (inside .key) _ device
  rw [storageSlotDelete_state, ← written path free]
  cases path with
  | slot number file =>
    have different : number ≠ slot := by
      rintro rfl
      exact free (inside file)
    simp [slotEmptied, Fs.removeIf, different]
  | issued name file => rfl
  | client id file => rfl

/-- A slot with removable files is empty after its deletion. -/
theorem storageSlotDelete_files (removable : ∀ path, faults.unlink path = none) (device : Device) (file : SlotFile) :
    (storageSlotDelete faults slot device).2.fs.files (.slot slot file) = none := by
  rw [storageSlotDelete_state]
  simp [slotEmptied, Fs.removeIf, removable]

/-- A wipe removes what it can behind the overwritten key. -/
theorem storageSecureWipe_eq_ok :
    storageSecureWipe faults device = (.ok (), wiped) ↔
      device.volume ≠ .mismatch ∧ wiped =
        { (writeFile faults (.slot 0 .key) (List.replicate keyBlobLen 0xA5) device).2 with
          fs := ((writeFile faults (.slot 0 .key) (List.replicate keyBlobLen 0xA5) device).2.fs.removeIf
            fun path => (faults.unlink path).isNone).removeCertDirs faults.stuckDir } := by
  by_cases foreign : device.volume = .mismatch
  · simp [storageSecureWipe, Op.bind_apply, storageVolumeTrusted, Op.ensure, foreign]
  · simp only [storageSecureWipe, Op.bind_apply, storageVolumeTrusted, Op.reads_apply, Op.ensure, foreign, ne_eq,
      not_false_eq_true, decide_true, if_true, Op.pure_apply, true_and]
    constructor
    · intro done
      exact (Prod.mk.inj done).2.symm
    · rintro rfl
      rfl

/-- A wipe leaves what cannot be removed. -/
theorem storageSecureWipe_path (done : storageSecureWipe faults device = (.ok (), wiped)) (path : Path) :
    wiped.fs.files path = if (faults.unlink path).isNone then none
      else (writeFile faults (.slot 0 .key) (List.replicate keyBlobLen 0xA5) device).2.fs.files path := by
  obtain ⟨_, rfl⟩ := storageSecureWipe_eq_ok.mp done
  rfl

/-- A wipe that can remove every file leaves none. -/
theorem storageSecureWipe_files (removable : ∀ path, faults.unlink path = none)
    (done : storageSecureWipe faults device = (.ok (), wiped)) (path : Path) : wiped.fs.files path = none := by
  rw [storageSecureWipe_path done, removable]
  rfl

variable {Context : Type} {callback : Bytes → Context → Op Device Errno (Context × Bool)}

variable [IsPreorder Device relation] (each : ∀ serial context, Op.Respects relation (callback serial context))
include each

/-- An iteration changes no more than its callback does. -/
theorem iterNames_respects (names : List Bytes) (context : Context) :
    Op.Respects relation (iterNames callback names context) := by
  induction names generalizing context with
  | nil => exact .pure context
  | cons name rest ih =>
    unfold iterNames
    split
    · exact ih context
    · refine (each _ context).bind fun outcome => ?_
      obtain ⟨next, stop⟩ := outcome
      cases stop with
      | true => exact .pure next
      | false => exact ih next

theorem storageIssuedCertsIter_respects (context : Context) :
    Op.Respects relation (storageIssuedCertsIter callback context) :=
  .read fun names => iterNames_respects each names context

omit each

instance {Context : Type} (callback : Bytes → Context → Op Device Errno (Context × Bool))
    [∀ serial context, Op.Reader (callback serial context)] (context : Context) :
    Op.Reader (storageIssuedCertsIter callback context) :=
  ⟨fun device => Eq.symm (storageIssuedCertsIter_respects (fun _ _ => .of_reader) context device)⟩

end Frames

/-- A write changes its own file. -/
theorem writeFile_frame (data : Bytes) (device : Device) :
    SameOutside (path = ·) device (writeFile faults path data device).2 := writeFile_respects rfl data device

theorem storageSlotDelete_frame (device : Device) :
    SameOutside (fun path => ∃ file, path = .slot slot file) device (storageSlotDelete faults slot device).2 :=
  storageSlotDelete_respects (fun file => ⟨file, rfl⟩) device

end Cantil
