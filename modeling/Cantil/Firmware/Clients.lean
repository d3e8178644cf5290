import Cantil.Firmware.Ca.Lists
import Cantil.Firmware.Pairing

namespace Cantil.Clients
open Library Cbor Ca

def clientMetaNameMax : Nat := 32

def clientMetaSize : Nat := 44

/-- The directories of `/clients` and the later files of a bond. -/
structure Bonds where
  dirs : List Bytes
  metadata : Bytes → Option Bytes
  psk : Bytes → Option Bytes

structure BondStore where
  device : Device
  bonds : Bonds

abbrev BondOp (Value : Type) := Op BondStore Errno Value

/-- What the medium and the stack do to one command on the bonds. -/
structure BondEnv where
  /-- The directory may fail to open. -/
  clientsDir : Option Errno
  metadataWrite : WriteOutcome
  pubkeyUnlink : Option Errno
  metadataUnlink : Option Errno
  pskUnlink : Option Errno
  /-- A bond's directory stays if another file is in it. -/
  bondRmdir : Option Errno
  /-- What a key buffer held before a bond was read into it. -/
  stack : (id : Bytes) → { bytes : Bytes // bytes.length = 32 }

def onDevice {Value : Type} (op : Op Device Errno Value) : BondOp Value := fun store =>
  ((op store.device).1, { store with device := (op store.device).2 })

/-- The record of a bond. -/
structure ClientMeta where
  version : UInt8
  kind : UInt8
  pad : Bytes
  pad_length : pad.length = 2
  createdAt : UInt32
  lastSeen : UInt32
  friendlyName : Bytes
  friendlyName_length : friendlyName.length = clientMetaNameMax
  deriving DecidableEq, Repr

def ClientMeta.bytes (record : ClientMeta) : Bytes :=
  [record.version, record.kind] ++ (record.pad ++ (bigEndian 4 record.createdAt.toNat ++
    (bigEndian 4 record.lastSeen.toNat ++ record.friendlyName)))

def ClientMeta.ofBytes (buf : Bytes) : ClientMeta where
  version := buf.getD 0 0
  kind := buf.getD 1 0
  pad := padTo 2 (fieldAt 2 2 buf)
  pad_length := padTo_length _ _
  createdAt := UInt32.ofNat (bigEndianValue (fieldAt 4 4 buf))
  lastSeen := UInt32.ofNat (bigEndianValue (fieldAt 8 4 buf))
  friendlyName := padTo clientMetaNameMax (fieldAt 12 clientMetaNameMax buf)
  friendlyName_length := padTo_length _ _

variable (env : BondEnv) (capacity : Nat) (id pub : Bytes)

/-- The file is read into a buffer of the record's size. -/
def storageClientBondMetaRead : BondOp Bytes := .reads fun store =>
  match store.bonds.metadata id with
  | none => .error .enoent
  | some data => .ok (data.take clientMetaSize)

def clientBondMetaRead : BondOp ClientMeta := do
  let id := clientBondId pub
  .ensure ((← onDevice (idMatchesPub (env.stack id).1 id pub)) = true) .enoent
  let buf ← storageClientBondMetaRead id
  .ensure (buf.length = clientMetaSize) .einval
  return .ofBytes buf

/-- The file holds the outcome of the write from now on. -/
def storageClientBondMetaWrite (blob : Bytes) : BondOp Unit := fun store =>
  let old := store.bonds.metadata id
  let holding (result : Except Errno Unit) (content : Option Bytes) : Except Errno Unit × BondStore :=
    (result, { store with bonds.metadata := Function.update store.bonds.metadata id content })
  match env.metadataWrite with
  | .done => holding (.ok ()) (some blob)
  | .mkdirFailed error => (.error error, store)
  | .openFailed error => (.error error, store)
  | .short (some kept) => holding (.error .eio) (some (blob.take kept))
  | .short none => holding (.error .eio) (some (old.getD []))
  | .uncommitted => holding (.ok ()) (some (old.getD []))

/-- The files of a bond go, as far as they can be removed. -/
def bondEmptied (store : BondStore) : BondStore where
  device := if env.pubkeyUnlink = none then
      { store.device with fs := store.device.fs.removeIf (· = .client id .pubkey) }
    else store.device
  bonds := { store.bonds with
    metadata := if env.metadataUnlink = none then Function.update store.bonds.metadata id none
      else store.bonds.metadata
    psk := if env.pskUnlink = none then Function.update store.bonds.psk id none else store.bonds.psk }

/-- File by file. A missing directory counts as removed. -/
def storageClientBondDelete : BondOp Unit := fun store =>
  if hexName id ∉ store.bonds.dirs then (.ok (), store)
  else
    let left := bondEmptied env id store
    if (left.device.fs.files (.client id .pubkey)).isSome ∨ (left.bonds.metadata id).isSome ∨
        (left.bonds.psk id).isSome then (.error .enotempty, left)
    else
      match env.bondRmdir with
      | some error => (.error error, left)
      | none => (.ok (), { left with bonds.dirs := left.bonds.dirs.erase (hexName id) })

/-- A bond with only the same first bytes stays. -/
def clientBondRemove : BondOp Unit := do
  let id := clientBondId pub
  if ← onDevice (fileExists (.client id .pubkey)) then
    .ensure ((← onDevice (idMatchesPub (env.stack id).1 id pub)) = true) .enoent
  storageClientBondDelete env id

def clientBondSetName (name : Bytes) : BondOp Unit := do
  .ensure ((cString name).length < clientMetaNameMax) .einval
  let record ← clientBondMetaRead env pub
  storageClientBondMetaWrite env (clientBondId pub)
    { record with
      friendlyName := padTo clientMetaNameMax (cString name)
      friendlyName_length := padTo_length _ _ }.bytes

/-- A device without the directory has no bond. -/
def openClients : BondOp (List Bytes) :=
  match env.clientsDir with
  | some .enoent => return []
  | some error => .fail error
  | none => .reads fun store => .ok store.bonds.dirs

/-- Every directory with a name of eight characters counts. -/
def storageCountClientBonds : BondOp UInt32 := do
  return UInt32.ofNat ((← openClients env).countP fun name => name.length = 8)

/-- The keys `k`, `n`, `p` and `t` of one bond. -/
def emitBondEntry (out pub : Bytes) (kind : UInt8) (createdAt : UInt32) (name : Bytes) : Except Errno Bytes := do
  let out ← emitHead capacity out mtMap 4
  let out ← emitField capacity out 0x6B kind.toNat
  let out ← emitField capacity out 0x6E createdAt.toNat
  let out ← emitBstr capacity (← emitTstr capacity out [0x70]) pub
  emitTstr capacity (← emitTstr capacity out [0x74]) name

/-- A short file leaves the key buffer as it was. -/
def listCb (store : BondStore) (id out : Bytes) : Except Errno Bytes :=
  match store.device.fs.files (.client id .pubkey) with
  | none => .ok out
  | some stored =>
    let pub := (stored.take 32 ++ (env.stack id).1.drop (stored.take 32).length).take 32
    let record := match store.bonds.metadata id with
      | some data => if (data.take clientMetaSize).length = clientMetaSize then data.take clientMetaSize
          else List.replicate clientMetaSize 0
      | none => List.replicate clientMetaSize 0
    let found := ClientMeta.ofBytes record
    match emitBondEntry capacity out pub found.kind found.createdAt
        ((cString found.friendlyName).take (clientMetaNameMax - 1)) with
    | .error _ => .error .enomem
    | .ok out => .ok out

/-- Names that are not eight hex digits are passed over. -/
def listBonds (env : BondEnv) (capacity : Nat) (store : BondStore) : List Bytes → Bytes → Except Errno Bytes
  | [], out => .ok out
  | name :: rest, out =>
    match if name.length = 8 then hexBytes name else none with
    | none => listBonds env capacity store rest out
    | some id => do listBonds env capacity store rest (← listCb env capacity store id out)

def clientBondListCbor : BondOp Bytes := do
  .ensure (4 ≤ capacity) .einval
  let total ← storageCountClientBonds env
  let out ← .lift (emitHead capacity [] mtArray total.toNat)
  let dirs ← openClients env
  .reads fun store => listBonds env capacity store dirs out

section Frames

variable {env : BondEnv} {relation : BondStore → BondStore → Prop} [IsPreorder BondStore relation]

instance {Value : Type} (op : Op Device Errno Value) [Op.Reader op] : Op.Reader (onDevice op) where
  kept store := by rw [onDevice, Op.Reader.kept store.device]

instance (id : Bytes) : Op.Reader (storageClientBondMetaRead id) := .reads _

instance (stack id pub : Bytes) : Op.Reader (idMatchesPub stack id pub) := by
  unfold idMatchesPub
  infer_instance

/-- A removal does no more than the deletion of the directory. -/
theorem clientBondRemove_respects {pub : Bytes}
    (deleted : Op.Respects relation (storageClientBondDelete env (clientBondId pub))) :
    Op.Respects relation (clientBondRemove env pub) := by
  refine .read fun present => ?_
  split
  · refine .read fun _ => ?_
    exact .read fun _ => deleted
  · exact deleted

theorem clientBondSetName_respects {pub : Bytes}
    (written : ∀ blob, Op.Respects relation (storageClientBondMetaWrite env (clientBondId pub) blob)) (name : Bytes) :
    Op.Respects relation (clientBondSetName env pub name) := by
  refine .read fun _ => ?_
  refine Op.Respects.bind ?_ fun _ => written _
  refine .read fun _ => .read fun _ => ?_
  exact .read fun _ => .read fun _ => .pure _

instance : Op.Reader (openClients env) := by
  unfold openClients
  split <;> infer_instance

instance (capacity : Nat) : Op.Reader (clientBondListCbor env capacity) := by
  unfold clientBondListCbor storageCountClientBonds
  infer_instance

end Frames

end Cantil.Clients
