import Cantil.Firmware.BondIds
import Cantil.Library.Trace

namespace Cantil.Clients
open Library Library.Trace

/-! One call on the bonds. -/

/-- A call on the bonds, with what the medium does. -/
inductive BondCall where
  | add (env : PairEnv) (kind : ClientKind) (nowUnix : UInt32) (key : Key)
  | remove (env : BondEnv) (key : Key)
  | setName (env : BondEnv) (name : Bytes) (key : Key)

def BondCall.key : BondCall → Key
  | .add _ _ _ key => key
  | .remove _ key => key
  | .setName _ _ key => key

def BondCall.run (idOf : Bytes → Bytes) (build : PairingBuild) : BondCall → BondOp Unit
  | .add env kind nowUnix key => clientBondAddBy idOf build env key.1 kind nowUnix
  | .remove env key => clientBondRemoveBy idOf env key.1
  | .setName env name key => clientBondSetNameBy idOf env key.1 name

/-- No call of the file system fails. -/
structure BondEnv.Faultless (env : BondEnv) : Prop where
  metadataWrite : env.metadataWrite = .done
  pubkeyUnlink : env.pubkeyUnlink = none
  metadataUnlink : env.metadataUnlink = none
  pskUnlink : env.pskUnlink = none
  bondRmdir : env.bondRmdir = none

/-- Nothing of the medium fails. -/
def BondCall.Faultless : BondCall → Prop
  | .add env _ _ _ => env.toBondEnv.Faultless ∧ ∀ path, env.write path = .done
  | .remove env _ => env.Faultless
  | .setName env _ _ => env.Faultless

/-- The key that is stored under a name. -/
def BondStore.keyAt (store : BondStore) (id : Bytes) : Option Bytes := store.device.fs.files (.client id .pubkey)

/-- A directory holds its key and record, or is not there. -/
structure Kept (idOf : Bytes → Bytes) (store : BondStore) : Prop where
  key : ∀ id pub, store.keyAt id = some pub → pub.length = 32 ∧ idOf pub = id
  record : ∀ id, (store.keyAt id).isSome = true →
    ∃ data, store.bonds.metadata id = some data ∧ data.length = clientMetaSize
  listed : ∀ id, hexName id ∈ store.bonds.dirs ↔ (store.keyAt id).isSome = true
  nodup : store.bonds.dirs.Nodup

/-- The files of one name are set, and no others. -/
structure Sets (id : Bytes) (key record : Option Bytes) (before after : BondStore) : Prop where
  keys : ∀ other, after.keyAt other = if other = id then key else before.keyAt other
  records : ∀ other, after.bonds.metadata other = if other = id then record else before.bonds.metadata other
  psk : ∀ other, other ≠ id → after.bonds.psk other = before.bonds.psk other
  dirs : ∀ other, other ≠ id → (hexName other ∈ after.bonds.dirs ↔ hexName other ∈ before.bonds.dirs)
  here : hexName id ∈ after.bonds.dirs ↔ key.isSome = true
  nodup : after.bonds.dirs.Nodup

/-- What a call can do when no call of the file system fails. -/
inductive Outcome (idOf : Bytes → Bytes) (store : BondStore) : BondCall → Except Errno Unit × BondStore → Prop
  | refused (call : BondCall) (error : Errno) : Outcome idOf store call (.error error, store)
  | absent (env : BondEnv) (key : Key) (none : store.keyAt (idOf key.1) = none) :
      Outcome idOf store (.remove env key) (.ok (), store)
  | added (env : PairEnv) (kind : ClientKind) (nowUnix : UInt32) (key : Key) (after : BondStore)
      (none : store.keyAt (idOf key.1) = none)
      (sets : Sets (idOf key.1) (some key.1) (some (newMeta kind nowUnix).bytes) store after) :
      Outcome idOf store (.add env kind nowUnix key) (.ok (), after)
  | removed (env : BondEnv) (key : Key) (after : BondStore) (held : store.keyAt (idOf key.1) = some key.1)
      (sets : Sets (idOf key.1) none none store after) : Outcome idOf store (.remove env key) (.ok (), after)
  | renamed (env : BondEnv) (name : Bytes) (key : Key) (after : BondStore) (data : Bytes)
      (held : store.keyAt (idOf key.1) = some key.1) (recorded : store.bonds.metadata (idOf key.1) = some data)
      (sets : Sets (idOf key.1) (some key.1) (some ((ClientMeta.ofBytes data).renamed name).bytes) store after) :
      Outcome idOf store (.setName env name key) (.ok (), after)

section Calls

variable {idOf : Bytes → Bytes} {store : BondStore} {build : PairingBuild}
variable {id : Bytes} {env : BondEnv} {call : BondCall} {after : BondStore}

theorem ClientMeta.bytes_length (record : ClientMeta) : record.bytes.length = clientMetaSize := by
  simp [ClientMeta.bytes, record.pad_length, record.friendlyName_length, clientMetaNameMax, clientMetaSize]

/-- A stored key fills the buffer that it is read into. -/
theorem idMatchesPub_held (stack : Bytes) {held : Bytes} (stored : store.keyAt id = some held)
    (whole : held.length = 32) (pub : Bytes) :
    idMatchesPub stack id pub store.device = (.ok (decide (held = pub)), store.device) := by
  have read : store.device.fs.files (.client id .pubkey) = some held := stored
  simp [idMatchesPub, Op.bind_apply, readFile, read, ← whole]

/-- The whole directory goes. -/
theorem delete_sets (faultless : env.Faultless) (listed : hexName id ∈ store.bonds.dirs)
    (nodup : store.bonds.dirs.Nodup) :
    ∃ after, storageClientBondDelete env id store = (.ok (), after) ∧ Sets id none none store after := by
  have other {name : Bytes} (differs : name ≠ id) : hexName name ≠ hexName id := fun same =>
    differs (hexName_injective same)
  obtain ⟨_, pubkeyUnlink, metadataUnlink, pskUnlink, bondRmdir⟩ := faultless
  refine ⟨{ bondEmptied env id store with bonds.dirs := store.bonds.dirs.erase (hexName id) }, ?_, ?_⟩
  · simp [storageClientBondDelete, listed, bondEmptied, pubkeyUnlink, metadataUnlink, pskUnlink, bondRmdir, Fs.removeIf]
  · constructor
    · intro name
      simp only [BondStore.keyAt, bondEmptied, pubkeyUnlink, if_true, Fs.removeIf]
      by_cases same : name = id <;> simp [same]
    · intro name
      simp only [bondEmptied, metadataUnlink, if_true, Function.update_apply]
    · intro name differs
      simp [bondEmptied, pskUnlink, Function.update_of_ne differs]
    · intro name differs
      exact List.mem_erase_of_ne (other differs)
    · simp [nodup.not_mem_erase]
    · exact nodup.erase _

/-- A new key gets a directory of its own. -/
theorem listed_dirs (bonds : Bonds) (place : Nat) (name other : Bytes) :
    other ∈ (bonds.listed place name).dirs ↔ other = name ∨ other ∈ bonds.dirs := by
  unfold Bonds.listed
  split_ifs with present
  · exact ⟨.inr, fun either => either.elim (fun same => same ▸ present) id⟩
  · simp only [List.perm_middle.mem_iff, List.take_append_drop, List.mem_cons]

theorem listed_nodup {bonds : Bonds} (nodup : bonds.dirs.Nodup) (place : Nat) (name : Bytes) :
    (bonds.listed place name).dirs.Nodup := by
  unfold Bonds.listed
  split_ifs with present
  · exact nodup
  · rw [List.perm_middle.nodup_iff, List.take_append_drop]
    exact List.nodup_cons.mpr ⟨present, nodup⟩

theorem store_sets {env : PairEnv} (faultless : env.toBondEnv.Faultless) (writes : ∀ path, env.write path = .done)
    (nodup : store.bonds.dirs.Nodup) (pub : Bytes) (kind : ClientKind) (nowUnix : UInt32) :
    ∃ after, storeBondBy idOf env pub kind nowUnix store = (.ok (), after) ∧
      Sets (idOf pub) (some pub) (some (newMeta kind nowUnix).bytes) store after := by
  refine ⟨⟨{ store.device with fs := store.device.fs.put env.place (.client (idOf pub) .pubkey) pub },
    { store.bonds.listed env.place (hexName (idOf pub)) with
      metadata := Function.update store.bonds.metadata (idOf pub) (some (newMeta kind nowUnix).bytes) }⟩, ?_, ?_⟩
  · have kept (name : Bytes) : (store.bonds.listed env.place name).metadata = store.bonds.metadata := by
      unfold Bonds.listed
      split_ifs <;> rfl
    simp [storeBondBy, Op.bind_apply, storageClientBondPubkeyWrite, writeFile_done (writes _), writes,
      storageClientBondMetaWrite, faultless.metadataWrite, kept]
  · constructor
    · intro name
      by_cases same : name = idOf pub <;> simp [BondStore.keyAt, same]
    · intro name
      simp only [Function.update_apply]
    · intro name _
      unfold Bonds.listed
      split_ifs <;> rfl
    · intro name differs
      rw [listed_dirs]
      exact or_iff_right fun same => differs (hexName_injective same)
    · simp [listed_dirs]
    · exact listed_nodup nodup _ _

theorem Outcome.of_refused {outcome : Except Errno Unit × BondStore} (error : Errno)
    (refused : outcome = (.error error, store)) :
    Outcome idOf store call outcome := by
  rw [refused]
  exact .refused _ _

/-- The bond of a key is as it was. -/
def Untouched (idOf : Bytes → Bytes) (key : Key) (before after : BondStore) : Prop :=
  (after.keyAt (idOf key.1) = some key.1 ↔ before.keyAt (idOf key.1) = some key.1) ∧
    (before.keyAt (idOf key.1) = some key.1 →
      after.bonds.metadata (idOf key.1) = before.bonds.metadata (idOf key.1) ∧
      after.bonds.psk (idOf key.1) = before.bonds.psk (idOf key.1))

theorem Untouched.same (key : Key) : Untouched idOf key store store := ⟨Iff.rfl, fun _ => ⟨rfl, rfl⟩⟩

/-- No third key is touched where the name had no other one. -/
theorem Sets.untouched {owner key : Key} {new record : Option Bytes}
    (sets : Sets (idOf owner.1) new record store after) (other : key ≠ owner)
    (before : store.keyAt (idOf owner.1) = none ∨ store.keyAt (idOf owner.1) = some owner.1)
    (now : new = none ∨ new = some owner.1) : Untouched idOf key store after := by
  have differs : owner.1 ≠ key.1 := fun same => other (Subtype.ext same.symm)
  by_cases same : idOf key.1 = idOf owner.1
  · have wasNot : store.keyAt (idOf key.1) ≠ some key.1 := by
      rw [same]
      rcases before with none | some
      · simp [none]
      · simp [some, differs]
    have isNot : after.keyAt (idOf key.1) ≠ some key.1 := by
      rw [sets.keys, if_pos same]
      rcases now with none | some
      · simp [none]
      · simp [some, differs]
    exact ⟨iff_of_false isNot wasNot, fun held => absurd held wasNot⟩
  · refine ⟨?_, fun _ => ⟨?_, sets.psk _ same⟩⟩
    · rw [sets.keys, if_neg same]
    · rw [sets.records, if_neg same]

theorem Outcome.untouched {result : Except Errno Unit} (outcome : Outcome idOf store call (result, after)) {key : Key}
    (other : key ≠ call.key) : Untouched idOf key store after := by
  cases outcome with
  | refused call error | absent env owner none => exact .same key
  | added env kind nowUnix owner after none sets => exact sets.untouched other (.inl none) (.inr rfl)
  | removed env owner after held sets => exact sets.untouched other (.inr held) (.inl rfl)
  | renamed env name owner after data held recorded sets => exact sets.untouched other (.inr held) (.inr rfl)

theorem Sets.kept {key record : Option Bytes} (kept : Kept idOf store) (sets : Sets id key record store after)
    (own : ∀ pub, key = some pub → pub.length = 32 ∧ idOf pub = id)
    (recorded : key.isSome = true → ∃ data, record = some data ∧ data.length = clientMetaSize) : Kept idOf after := by
  refine ⟨fun name pub => ?_, fun name => ?_, fun name => ?_, sets.nodup⟩
  · rw [sets.keys]
    split_ifs with here
    · exact here ▸ own pub
    · exact kept.key name pub
  · rw [sets.keys, sets.records]
    split_ifs
    · exact recorded
    · exact kept.record name
  · rw [sets.keys]
    split_ifs with here
    · exact here ▸ sets.here
    · rw [sets.dirs name here]
      exact kept.listed name

theorem Outcome.kept (kept : Kept idOf store) {result : Except Errno Unit}
    (outcome : Outcome idOf store call (result, after)) : Kept idOf after := by
  cases outcome with
  | refused call error | absent env key none => exact kept
  | added env kind nowUnix key after none sets | renamed env name key after data held recorded sets =>
    refine sets.kept kept (fun pub same => ?_) fun _ => ⟨_, rfl, ClientMeta.bytes_length _⟩
    obtain rfl := Option.some.inj same
    exact ⟨key.2, rfl⟩
  | removed env key after held sets => exact sets.kept kept (fun pub same => by cases same) fun some => by cases some

variable (kept : Kept idOf store)
include kept

theorem Kept.exists_eq (stack : Bytes) (key : Key) :
    (clientBondExistsBy idOf stack key.1 store.device).1 = .ok (decide (store.keyAt (idOf key.1) = some key.1)) := by
  rw [BondStore.keyAt]
  cases held : store.device.fs.files (.client (idOf key.1) .pubkey) with
  | none => simp [clientBondExistsBy, Op.bind_apply, fileExists, held]
  | some pub =>
    simp [clientBondExistsBy, Op.bind_apply, fileExists, held, idMatchesPub_held stack held (kept.key _ pub held).1]

theorem add_outcome {env : PairEnv} (faultless : env.toBondEnv.Faultless) (writes : ∀ path, env.write path = .done)
    (kind : ClientKind) (nowUnix : UInt32) (key : Key) :
    Outcome idOf store (.add env kind nowUnix key) (clientBondAddBy idOf build env key.1 kind nowUnix store) := by
  cases mint : mayMint store.device with
  | false =>
    exact .of_refused .erofs (by simp [clientBondAddBy, Op.bind_apply, onDevice, storageVolumeMayMint, mint, Op.ensure])
  | true =>
    have passed : clientBondAddBy idOf build env key.1 kind nowUnix store = (checkFreshBy idOf env key.1 >>= fun _ =>
        checkCaps build env kind >>= fun _ => storeBondBy idOf env key.1 kind nowUnix) store := by
      simp [clientBondAddBy, Op.bind_apply, onDevice, storageVolumeMayMint, mint, Op.ensure]
    rw [passed]
    cases held : store.device.fs.files (.client (idOf key.1) .pubkey) with
    | none =>
      have fresh : checkFreshBy idOf env key.1 store = (.ok (), store) := by
        simp [checkFreshBy, Op.bind_apply, onDevice, fileExists, held]
      rw [Op.bind_of_ok fresh]
      rcases Op.read_cases (checkCaps build env kind)
        (fun _ => storeBondBy idOf env key.1 kind nowUnix) store with ⟨error, full⟩ | ⟨_, _, room⟩
      · rw [full]
        exact .refused _ _
      · obtain ⟨after, stored, sets⟩ := store_sets faultless writes kept.nodup key.1 kind nowUnix
        rw [room, stored]
        exact .added env kind nowUnix key after held sets
    | some pub =>
      have found := idMatchesPub_held (env.stack (idOf key.1)).1 held (kept.key _ pub held).1 key.1
      have taken : ∃ error, checkFreshBy idOf env key.1 store = (.error error, store) := by
        by_cases same : pub = key.1 <;>
          simp [checkFreshBy, Op.bind_apply, onDevice, fileExists, held, found, same]
      obtain ⟨error, refused⟩ := taken
      rw [Op.bind_of_error refused]
      exact .refused _ _

theorem setName_outcome (faultless : env.Faultless) (name : Bytes) (key : Key) :
    Outcome idOf store (.setName env name key) (clientBondSetNameBy idOf env key.1 name store) := by
  by_cases short : (cString name).length < clientMetaNameMax
  · cases held : store.device.fs.files (.client (idOf key.1) .pubkey) with
    | none =>
      exact .of_refused .enoent (by simp [clientBondSetNameBy, clientBondMetaReadBy, Op.bind_apply, onDevice,
        idMatchesPub, readFile, held, Op.ensure, short])
    | some pub =>
      have found := idMatchesPub_held (env.stack (idOf key.1)).1 held (kept.key _ pub held).1 key.1
      by_cases same : pub = key.1
      · subst same
        obtain ⟨data, recorded, whole⟩ := kept.record (idOf key.1) (by simp [BondStore.keyAt, held])
        have read : data.take clientMetaSize = data := List.take_of_length_le (Nat.le_of_eq whole)
        have written : clientBondSetNameBy idOf env key.1 name store = (.ok (), { store with
            bonds.metadata := Function.update store.bonds.metadata (idOf key.1)
              (some ((ClientMeta.ofBytes data).renamed name).bytes) }) := by
          simp [clientBondSetNameBy, clientBondMetaReadBy, Op.bind_apply, onDevice, found, Op.ensure, short,
            storageClientBondMetaRead, recorded, read, whole, storageClientBondMetaWrite, faultless.metadataWrite,
            ClientMeta.renamed]
        rw [written]
        refine .renamed env name key _ data held recorded ⟨fun other => ?_, fun other => ?_,
          fun _ _ => rfl, fun _ _ => Iff.rfl, ?_,
          kept.nodup⟩
        · by_cases here : other = idOf key.1
          · rw [if_pos here, here]
            exact held
          · rw [if_neg here]
            rfl
        · simp only [Function.update_apply]
        · simp [kept.listed, BondStore.keyAt, held]
      · exact .of_refused .enoent (by simp [clientBondSetNameBy, clientBondMetaReadBy, Op.bind_apply, onDevice, found,
          same, Op.ensure, short])
  · exact .of_refused .einval (by simp [clientBondSetNameBy, Op.bind_apply, Op.ensure, short])

theorem remove_outcome (faultless : env.Faultless) (key : Key) :
    Outcome idOf store (.remove env key) (clientBondRemoveBy idOf env key.1 store) := by
  cases held : store.device.fs.files (.client (idOf key.1) .pubkey) with
  | none =>
    have unlisted : hexName (idOf key.1) ∉ store.bonds.dirs := by simp [kept.listed, BondStore.keyAt, held]
    have same : clientBondRemoveBy idOf env key.1 store = (.ok (), store) := by
      simp [clientBondRemoveBy, Op.bind_apply, onDevice, fileExists, held, storageClientBondDelete, unlisted]
    rw [same]
    exact .absent env key held
  | some pub =>
    have found := idMatchesPub_held (env.stack (idOf key.1)).1 held (kept.key _ pub held).1 key.1
    by_cases same : pub = key.1
    · subst same
      have listed : hexName (idOf key.1) ∈ store.bonds.dirs := by simp [kept.listed, BondStore.keyAt, held]
      obtain ⟨after, deleted, sets⟩ := delete_sets faultless listed kept.nodup
      have removed : clientBondRemoveBy idOf env key.1 store = (.ok (), after) := by
        simp [clientBondRemoveBy, Op.bind_apply, onDevice, fileExists, held, found, Op.ensure, deleted]
      rw [removed]
      exact .removed env key after held sets
    · exact .of_refused .enoent (by simp [clientBondRemoveBy, Op.bind_apply, onDevice, fileExists, held, found, same,
        Op.ensure])

theorem BondCall.outcome (faultless : call.Faultless) : Outcome idOf store call (call.run idOf build store) := by
  cases call with
  | add env kind nowUnix key => exact add_outcome kept faultless.1 faultless.2 kind nowUnix key
  | remove env key => exact remove_outcome kept faultless key
  | setName env name key => exact setName_outcome kept faultless name key

end Calls

/-! Whole runs. -/

/-- The store, and the calls so far with their success. -/
structure BondHistory where
  store : BondStore
  log : List (BondCall × Bool)

def perform (idOf : Bytes → Bytes) (build : PairingBuild) (history : BondHistory) (call : BondCall) : BondHistory :=
  let (result, after) := call.run idOf build history.store
  ⟨after, history.log ++ [(call, result.isOk)]⟩

/-- The entry is a successful addition of the key. -/
def Adds (key : Key) (entry : BondCall × Bool) : Prop :=
  entry.2 = true ∧ ∃ env kind nowUnix, entry.1 = .add env kind nowUnix key

/-- The call removed the key. -/
def Removes (key : Key) (entry : BondCall × Bool) : Prop :=
  entry.2 = true ∧ ∃ env, entry.1 = .remove env key

/-- The stored keys are those added and not removed since. -/
structure Refines (idOf : Bytes → Bytes) (history : BondHistory) : Prop where
  kept : Kept idOf history.store
  bonded : ∀ key : Key, history.store.keyAt (idOf key.1) = some key.1 ↔ Since (Adds key) (Removes key) history.log

section Runs

variable {idOf : Bytes → Bytes} {build : PairingBuild}

/-- The key of the call. -/
theorem Outcome.bonded {store after : BondStore} {call : BondCall} {result : Except Errno Unit}
    (outcome : Outcome idOf store call (result, after)) :
    after.keyAt (idOf call.key.1) = some call.key.1 ↔
      Adds call.key (call, result.isOk) ∨
        store.keyAt (idOf call.key.1) = some call.key.1 ∧ ¬ Removes call.key (call, result.isOk) := by
  cases outcome with
  | refused call error => simp [Adds, Removes, Except.isOk, Except.toBool]
  | absent env key none => simp [BondCall.key, none, Adds]
  | added env kind nowUnix key after none sets => simp [BondCall.key, sets.keys, Adds, Except.isOk, Except.toBool]
  | removed env key after held sets => simp [BondCall.key, sets.keys, Adds, Removes, Except.isOk, Except.toBool]
  | renamed env name key after data held recorded sets => simp [BondCall.key, sets.keys, held, Removes]

theorem perform_refines {history : BondHistory} {call : BondCall} (faultless : call.Faultless)
    (refines : Refines idOf history) : Refines idOf (perform idOf build history call) := by
  have outcome : Outcome idOf history.store call (call.run idOf build history.store) :=
    BondCall.outcome refines.kept faultless
  unfold perform
  generalize call.run idOf build history.store = answer at outcome ⊢
  obtain ⟨result, after⟩ := answer
  refine ⟨outcome.kept refines.kept, fun key => ?_⟩
  rw [since_append, ← refines.bonded]
  by_cases own : key = call.key
  · rw [own]
    exact outcome.bonded
  · have notAdded : ¬ Adds key (call, result.isOk) := by
      rintro ⟨_, env, kind, nowUnix, rfl⟩
      exact own rfl
    have notRemoved : ¬ Removes key (call, result.isOk) := by
      rintro ⟨_, env, rfl⟩
      exact own rfl
    simp only [notAdded, notRemoved, false_or, not_false_eq_true, and_true]
    exact (outcome.untouched own).1

/-- A store without a bond. -/
structure Unbonded (store : BondStore) : Prop where
  keys : ∀ id, store.keyAt id = none
  dirs : store.bonds.dirs = []

theorem Unbonded.refines {start : BondStore} (unbonded : Unbonded start) : Refines idOf ⟨start, []⟩ where
  kept := by
    refine ⟨fun id pub held => ?_, fun id held => ?_, fun id => ?_, ?_⟩
    · simp [unbonded.keys] at held
    · simp [unbonded.keys] at held
    · simp [unbonded.keys, unbonded.dirs]
    · simp [unbonded.dirs]
  bonded key := iff_of_false (by simp [unbonded.keys]) (not_since_nil _ _)

end Runs

/-- Without failures the bonds are the keys added and not removed. -/
theorem bonds_refine_set (idOf : Bytes → Bytes) (build : PairingBuild) (start : BondStore) (unbonded : Unbonded start)
    (calls : List BondCall) (faultless : ∀ call ∈ calls, call.Faultless) :
    let history := run (perform idOf build) ⟨start, []⟩ calls
    (∀ (stack : Bytes) (key : Key), ∃ found,
        (clientBondExistsBy idOf stack key.1 history.store.device).1 = .ok found ∧
          (found = true ↔ Since (Adds key) (Removes key) history.log)) ∧
      ∀ visit ∈ visits (perform idOf build) ⟨start, []⟩ calls, ∀ key, key ≠ visit.2.key →
        Untouched idOf key visit.1.store (perform idOf build visit.1 visit.2).store := by
  have refined (before after : List BondCall) (split : calls = before ++ after) :
      Refines idOf (run (perform idOf build) ⟨start, []⟩ before) :=
    prefix_invariant (perform idOf build) (Refines idOf) BondCall.Faultless (fun _ _ => True)
      (fun _ _ fine _ => perform_refines fine) faultless (fun _ _ => trivial) unbonded.refines split
  constructor
  · intro stack key
    have refines := refined calls [] (List.append_nil calls).symm
    refine ⟨_, refines.kept.exists_eq stack key, ?_⟩
    rw [decide_eq_true_iff]
    exact refines.bonded key
  · rintro ⟨before, call⟩ visited key other
    obtain ⟨first, rest, split, reached⟩ := (mem_visits_iff _ _ _ _ _).mp visited
    have fine := faultless call (event_of_visit visited)
    have outcome : Outcome idOf before.store call (call.run idOf build before.store) :=
      BondCall.outcome (reached ▸ (refined first (call :: rest) split).kept) fine
    exact outcome.untouched other

def plainKey (byte : UInt8) : Key := ⟨List.replicate 32 byte, List.length_replicate⟩

/-- Nothing fails, and the user confirms. -/
def plainPairEnv : PairEnv :=
  { Faults.none 0 with
    clientsDir := none
    metadataWrite := .done
    pubkeyUnlink := none
    metadataUnlink := none
    pskUnlink := none
    bondRmdir := none
    stack := fun _ => plainKey 0
    pskWrite := .done
    certs := []
    draws := []
    received := .error .eio
    gesture := { Gesture.gestureInit .default 0 none none with state := .unlocked }
    tapped := .ok
    localPubkey := .error .eio
    hkdfSha256 := fun _ _ _ => .error .eio
    storageKeyDerive := .ok ()
    encryptBlob := .ok }

theorem plainPairEnv_faultless : plainPairEnv.toBondEnv.Faultless := ⟨rfl, rfl, rfl, rfl, rfl⟩

/-- A mounted volume without a file. -/
def noBonds : BondStore := ⟨⟨Fs.empty, .valid, false⟩, ⟨[], fun _ => none, fun _ => none⟩⟩

/-- Two keys that share one name come after each other. -/
def sharing : List BondCall :=
  [.add plainPairEnv .host 0 (plainKey 1), .add plainPairEnv .host 0 (plainKey 2),
    .setName plainPairEnv.toBondEnv [65] (plainKey 2), .remove plainPairEnv.toBondEnv (plainKey 2),
    .remove plainPairEnv.toBondEnv (plainKey 1), .add plainPairEnv .host 0 (plainKey 2)]

theorem sharing_faultless : ∀ call ∈ sharing, call.Faultless := by
  have writes (path : Path) : plainPairEnv.write path = .done := rfl
  simp [sharing, BondCall.Faultless, plainPairEnv_faultless, writes]

/-- Of the two keys the second one is bonded at the end. -/
theorem sharing_refines_set :
    let history := run (perform (fun _ => [0, 0, 0, 0]) ⟨.tapConfirm, 1, 0⟩) ⟨noBonds, []⟩ sharing
    history.log.map Prod.snd = [true, false, false, false, true, true] ∧
      (∀ (stack : Bytes) (key : Key), ∃ found,
        (clientBondExistsBy (fun _ => [0, 0, 0, 0]) stack key.1 history.store.device).1 = .ok found ∧
          (found = true ↔ Since (Adds key) (Removes key) history.log)) :=
  ⟨by decide +kernel, (bonds_refine_set _ _ noBonds ⟨fun _ => rfl, rfl⟩ sharing sharing_faultless).1⟩

end Cantil.Clients
