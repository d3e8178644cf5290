import Cantil.Proof.Responses

namespace Cantil.Ca
open Library

/-- The file system has no room for the file. -/
def WriteOutcome.Full (outcome : WriteOutcome) : Prop :=
  outcome = .mkdirFailed .enospc ∨ outcome = .openFailed .enospc

/-- A key's creation first fails for lack of space. -/
def RunsOut (env : Env) (slot : Slot) : Prop :=
  env.storageKeyDerive = .error .enospc ∨
    env.storageKeyDerive = .ok () ∧ (env.keygen = .error .enospc ∨
      ∃ privkey, env.keygen = .ok privkey ∧ (env.encryptBlob privkey = .error .enospc ∨
        ∃ blob, env.encryptBlob privkey = .ok blob ∧ (WriteOutcome.Full (env.write (.slot slot .key)) ∨
          WriteOutcome.Reported (env.write (.slot slot .key)) ∧
            WriteOutcome.Full (env.write (.slot slot .metadata)))))

/-- The slot is the lowest one behind slot 0 that holds no key. -/
structure LowestFree (config : Config) (device : Device) (slot : Slot) : Prop where
  numbered : slot ≠ caSlot
  inside : slot < config.maxKeySlots
  free : device.fs.files (.slot slot .key) = none
  lowest : ∀ lower, lower ≠ caSlot → lower < slot → (device.fs.files (.slot lower .key)).isSome

section Search

variable {config : Config} {env : Env} {device : Device} {slot : Slot}

theorem keySlots_sorted (config : Config) : (keySlots config).Pairwise (· < ·) := by
  have bound := config.maxKeySlots.toNat_lt
  rw [keySlots, List.pairwise_map]
  refine List.pairwise_lt_range.imp_of_mem fun {first second} low high less => ?_
  rw [List.mem_range] at low high
  rw [UInt32.lt_iff_toNat_lt, UInt32.toNat_ofNat_of_lt' (show first + 1 < 2 ^ 32 by omega),
    UInt32.toNat_ofNat_of_lt' (show second + 1 < 2 ^ 32 by omega)]
  omega

theorem freeSlot_some (found : freeSlot config device = some slot) : LowestFree config device slot := by
  obtain ⟨numbered, inside⟩ := (mem_keySlots config slot).mp (List.mem_of_find?_eq_some found)
  obtain ⟨free, lower, upper, order, taken⟩ := List.find?_eq_some_iff_append.mp found
  refine ⟨numbered, inside, by simpa using free, fun other notRoot less => ?_⟩
  have member : other ∈ lower ++ slot :: upper :=
    order ▸ (mem_keySlots config other).mpr ⟨notRoot, UInt32.lt_trans less inside⟩
  have sorted := keySlots_sorted config
  rw [order, List.pairwise_append, List.pairwise_cons] at sorted
  rcases List.mem_append.mp member with early | late
  · simpa [Option.isSome_iff_ne_none] using taken other early
  · rcases List.mem_cons.mp late with rfl | behind
    · exact absurd less (UInt32.lt_irrefl _)
    · exact absurd less (UInt32.lt_asymm (sorted.2.1.1 other behind))

theorem LowestFree.eq {first second : Slot} (one : LowestFree config device first)
    (other : LowestFree config device second) : first = second := by
  have held {low high : Slot} (lowest : LowestFree config device low) (above : LowestFree config device high) :
      ¬ low < high := by
    intro less
    have taken := above.lowest low lowest.numbered less
    simp [lowest.free] at taken
  exact UInt32.le_antisymm (UInt32.not_lt.mp (held other one)) (UInt32.not_lt.mp (held one other))

theorem freeSlot_none :
    freeSlot config device = none ↔
      ∀ slot, slot ≠ caSlot → slot < config.maxKeySlots → (device.fs.files (.slot slot .key)).isSome := by
  simp only [freeSlot, List.find?_eq_none, mem_keySlots]
  simp [Option.isSome_iff_ne_none]

theorem freeSlot_eq_some : freeSlot config device = some slot ↔ LowestFree config device slot := by
  refine ⟨freeSlot_some, fun lowest => ?_⟩
  rcases found : freeSlot config device with _ | other
  · have taken := freeSlot_none.mp found slot lowest.numbered lowest.inside
    simp [lowest.free] at taken
  · rw [(freeSlot_some found).eq lowest]

theorem writeFile_full (faults : Faults) (path : Path) (data : Bytes) (device : Device) :
    (writeFile faults path data device).1 = .error .enospc ↔ WriteOutcome.Full (faults.write path) := by
  rcases outcome : faults.write path with _ | error | error | (_ | kept) | _ <;>
    simp [writeFile, WriteOutcome.Full, outcome]

theorem createKey_full {record : SlotMeta} :
    (createKey env slot record device).1 = .error .enospc ↔ RunsOut env slot := by
  simp only [createKey, RunsOut, Op.bind_error_iff, Op.lift_apply, storageKeyWrite, metaWrite, storageSlotMetaWrite,
    Unique.exists_iff, PUnit.default_eq_unit, writeFile_full, writeFile_ok_iff]

/-- For a supported kind, lack of space is the only refusal. -/
theorem caGenKey_full {keyType : UInt8} (kind : normalizeKeyType keyType = keyTypeP256)
    (mints : mayMint device = true) :
    (caGenKey config env keyType device).1 = .error .enospc ↔
      freeSlot config device = none ∨ ∃ slot, freeSlot config device = some slot ∧ RunsOut env slot := by
  simp only [caGenKey, Op.bind_apply, Op.ensure, storageVolumeMayMint, Op.reads_apply, kind, mints, if_true,
    Op.pure_apply]
  rcases free : freeSlot config device with _ | slot
  · simp [firstFreeSlot_of_none free]
  · have out : (createKey env slot (slotMetaOf keyTypeP256 0 0) device).1 = .error .enospc ↔ RunsOut env slot :=
      createKey_full
    simp only [firstFreeSlot_of_some free, reduceCtorEq, Option.some.injEq, exists_eq_left', false_or, ← out]
    rcases createKey env slot (slotMetaOf keyTypeP256 0 0) device with ⟨error | ⟨⟩, after⟩ <;> simp

/-- A write that reports success leaves a file. -/
theorem writeFile_present {faults : Faults} {path : Path} {data : Bytes} {after : Device}
    (wrote : writeFile faults path data device = (.ok (), after)) : (after.fs.files path).isSome := by
  rcases outcome : faults.write path with _ | error | error | (_ | kept) | _ <;>
    simp only [writeFile, outcome, Prod.mk.injEq, reduceCtorEq, false_and, true_and] at wrote
  · simp [← wrote]
  · simp [← wrote]

theorem createKey_key {record : SlotMeta} {after : Device}
    (made : createKey env slot record device = (.ok (), after)) : (after.fs.files (.slot slot .key)).isSome := by
  simp only [createKey, Op.bind_eq_ok] at made
  obtain ⟨_, _, _, _, _, _, blob, _, _, _, between, stored, describes⟩ := made
  have kept : (metaWrite env.toFaults slot record between).2.fs.files (.slot slot .key) = _ :=
    writeFile_frame env.toFaults (.slot slot .metadata) record.bytes between (.slot slot .key) (by simp)
  rw [describes] at kept
  rw [kept]
  exact writeFile_present stored

/-- A reported key is made in the lowest free slot. -/
theorem caGenKey_creates {keyType : UInt8} {after : Device}
    (made : caGenKey config env keyType device = (.ok slot, after)) :
    LowestFree config device slot ∧ (after.fs.files (.slot slot .key)).isSome := by
  simp only [caGenKey, storageVolumeMayMint, Op.bind_eq_ok, Op.ensure_eq_ok, Op.reads_apply, Op.pure_apply,
    Prod.mk.injEq, Except.ok.injEq] at made
  obtain ⟨_, _, ⟨_, rfl⟩, _, _, ⟨_, rfl⟩, _, _, ⟨_, rfl⟩, found, _, searched, _, _, created, rfl, rfl⟩ := made
  exact ⟨freeSlot_some (firstFreeSlot_ok.mp (congrArg Prod.fst searched)), createKey_key created⟩

end Search

end Cantil.Ca

namespace Cantil.Dispatcher
open Library Ca
open Protocol (Command)

/-- Deletes an unprotected slot other than 0. -/
def Deletes (config : Config) (device : Device) (event : Event) (slot : Slot) : Prop :=
  ∃ env data, executes config device event = some (env, .deleteKey, data) ∧ slotArg data = slot ∧ slot ≠ caSlot ∧
    ∀ record, (metaRead slot device).1 = .ok record → record.isProtected = 0

/-- The event is a reset that the owner confirms. -/
def Wipes (config : Config) (device : Device) (event : Event) : Prop :=
  ∃ env data, executes config device event = some (env, .resetDevice, data) ∧ env.confirm = .ok

/-- What the overwriting of a key can leave. -/
def Overwritten (content : Option Bytes) : Prop :=
  ∃ count ≤ keyBlobLen, content = some (List.replicate count 0xA5)

/-- Only a deletion or a wipe overwrites or removes a key. -/
structure WriteOnce (config : Config) (crypto : Crypto) (device : Device) (event : Event) : Prop where
  kept : ∀ slot content, device.fs.files (.slot slot .key) = some content →
    (step config crypto device event).fs.files (.slot slot .key) = some content ∨
    (step config crypto device event).fs.files (.slot slot .key) = none ∧
      (Deletes config device event slot ∨ Wipes config device event) ∨
    Overwritten ((step config crypto device event).fs.files (.slot slot .key)) ∧
      (Deletes config device event slot ∨ Wipes config device event ∧ slot = caSlot)
  created : ∀ env data slot, executes config device event = some (env, .genKey, data) →
    (caGenKey config env (data.headD 0) device).1 = .ok slot →
    LowestFree config device slot ∧ ((step config crypto device event).fs.files (.slot slot .key)).isSome
  full : ∀ env data, executes config device event = some (env, .genKey, data) →
    normalizeKeyType (data.headD 0) = keyTypeP256 → mayMint device = true →
    ((caGenKey config env (data.headD 0) device).1 = .error .enospc ↔
      (∀ slot, slot ≠ caSlot → slot < config.maxKeySlots → (device.fs.files (.slot slot .key)).isSome) ∨
        ∃ slot, LowestFree config device slot ∧ RunsOut env slot)

/-- A key that is there stays as it is. -/
def KeepsKey (slot : Slot) (before after : Device) : Prop :=
  ∀ content, before.fs.files (.slot slot .key) = some content → after.fs.files (.slot slot .key) = some content

instance (slot : Slot) : IsPreorder Device (KeepsKey slot) where
  refl _ := fun _ held => held
  trans _ _ _ first second := fun content held => second content (first content held)

section Frames

variable {config : Config} {crypto : Crypto} {env : Env} {device : Device} {slot : Slot}

theorem keepsKey_of_same {before after : Device} (same : SameOutside (· ≠ .slot slot .key) before after) :
    KeepsKey slot before after := by
  intro content held
  rw [same _ (by simp), held]

theorem writable_keepsKey {faults : Faults} {path : Path} (other : path ≠ .slot slot .key) :
    Writable (KeepsKey slot) faults path := by
  have beside : Writable (SameOutside (· ≠ .slot slot .key)) faults path := writable_of_touched other
  exact beside.mono fun _ _ same => keepsKey_of_same same

theorem boot_sameKey (env : Env) (volume : VolumeState) (device : Device) (slot : Slot) :
    (boot config crypto env volume device).2.fs.files (.slot slot .key) = device.fs.files (.slot slot .key) := by
  have same : SameOutside (Path.slot caSlot .cert = ·) device (boot config crypto env volume device).2 :=
    boot_related (fun _ _ => rfl) (writable_of_touched rfl) (setProvisioned_sameOutside _)
  exact same _ (by simp)

/-- Without deletion or reset the keys stay. -/
theorem Effect.keepsKey {data : Bytes} {command : Command} {after : Device}
    (effect : Effect config crypto env data device command after) (stays : command ≠ .deleteKey)
    (unwiped : command ≠ .resetDevice) : KeepsKey slot device after := by
  have marked : Op.Respects (KeepsKey slot) setProvisioned := fun _ _ held => held
  have general (plain : command ∈ framedCommands ∧ ∀ file ∈ slotFiles command, file ≠ .key) :
      KeepsKey slot device after :=
    effect.related plain.1
      (fun file inside _ => writable_keepsKey fun same => plain.2 file inside (Path.slot.inj same).2)
      (fun _ _ _ => writable_keepsKey (by simp)) marked
  -- A new key goes into a slot that holds none.
  have created {number : Slot} (free : device.fs.files (.slot number .key) = none) (record : SlotMeta) :
      KeepsKey slot device (createKey env number record device).2 := by
    intro content held
    have different : number ≠ slot := by
      rintro rfl
      rw [free] at held
      cases held
    have another (file : SlotFile) : Writable (KeepsKey slot) env.toFaults (.slot number file) :=
      writable_keepsKey fun same => different (Path.slot.inj same).1
    exact createKey_respects (another .key) (another .metadata) record device content held
  cases effect with
  | refused => exact refl device
  | elsewhere _ bonds => exact fun _ held => held
  | genKey => exact caGenKey_related fun _ found _ => created (freeSlot_some (firstFreeSlot_ok.mp found)).free _
  | provisionCa => exact caProvision_related marked fun free _ => created free _
  | deleteKey => exact absurd rfl stays
  | resetDevice => exact absurd rfl unwiped
  | _ => exact general (by decide)

variable {content : Bytes} (held : device.fs.files (.slot slot .key) = some content)
include held

/-- The overwriting stores the whole pattern, a part, or nothing. -/
theorem overwrite_key (faults : Faults) :
    (writeFile faults (.slot slot .key) (List.replicate keyBlobLen 0xA5) device).2.fs.files (.slot slot .key) =
        some content ∨
      Overwritten ((writeFile faults (.slot slot .key) (List.replicate keyBlobLen 0xA5) device).2.fs.files
        (.slot slot .key)) := by
  rcases writeFile_state faults (.slot slot .key) (List.replicate keyBlobLen 0xA5) device with
    same | made | ⟨stored, wrote, whole | old | ⟨kept, _, cut⟩⟩
  · exact .inl (by rw [same, held])
  · exact .inl (by rw [made, Fs.mkdirP_files, held])
  · exact .inr ⟨keyBlobLen, le_rfl, by rw [wrote, whole.2]; simp⟩
  · exact .inl (by rw [wrote, old, held]; simp)
  · exact .inr ⟨min kept keyBlobLen, min_le_right _ _, by rw [wrote, cut]; simp⟩

/-- The key is removed, kept or overwritten. -/
theorem storageSlotDelete_key (faults : Faults) :
    (storageSlotDelete faults slot device).2.fs.files (.slot slot .key) = none ∨
      (storageSlotDelete faults slot device).2.fs.files (.slot slot .key) = some content ∨
      Overwritten ((storageSlotDelete faults slot device).2.fs.files (.slot slot .key)) := by
  rw [storageSlotDelete_state]
  cases stuck : faults.unlink (.slot slot .key) with
  | none =>
    simp [slotEmptied, Fs.removeIf, stuck]
  | some error =>
    right
    simpa [slotEmptied, Fs.removeIf, stuck] using overwrite_key held faults

/-- A wipe removes a key or leaves it. Slot 0 is overwritten. -/
theorem storageSecureWipe_key {faults : Faults} {wiped : Device}
    (done : storageSecureWipe faults device = (.ok (), wiped)) :
    wiped.fs.files (.slot slot .key) = none ∨ wiped.fs.files (.slot slot .key) = some content ∨
      Overwritten (wiped.fs.files (.slot slot .key)) ∧ slot = caSlot := by
  rw [storageSecureWipe_path done]
  cases stuck : faults.unlink (.slot slot .key) with
  | none => exact .inl rfl
  | some error =>
    right
    by_cases root : slot = caSlot
    · subst root
      exact (overwrite_key held faults).imp id fun overwritten => ⟨overwritten, rfl⟩
    · left
      have elsewhere : Path.slot slot .key ≠ .slot 0 .key := fun same => root (Path.slot.inj same).1
      rw [← held]
      exact writeFile_frame faults (.slot 0 .key) _ _ _ (Ne.symm elsewhere)

end Frames

section Steps

variable {config : Config} {crypto : Crypto} {env : Env} {data : Bytes} {device after : Device} {event : Event}
  {slot : Slot} {content : Bytes}

theorem Effect.deleted_key (effect : Effect config crypto env data device .deleteKey after)
    (runs : executes config device event = some (env, .deleteKey, data))
    (held : device.fs.files (.slot slot .key) = some content) :
    after.fs.files (.slot slot .key) = some content ∨
      (after.fs.files (.slot slot .key) = none ∨ Overwritten (after.fs.files (.slot slot .key))) ∧
        Deletes config device event slot := by
  cases effect with
  | refused | elsewhere _ bonds => exact .inl held
  | deleteKey =>
    rcases caDeleteKey_cases config env (slotArg data) device with same | ⟨numbered, _, free, deleted⟩
    · exact .inl (by rw [same, held])
    · rw [deleted]
      by_cases here : slotArg data = slot
      · subst here
        have deletes : Deletes config device event (slotArg data) := ⟨env, data, runs, rfl, numbered, free⟩
        rcases storageSlotDelete_key held env.toFaults with gone | kept | overwritten
        · exact .inr ⟨.inl gone, deletes⟩
        · exact .inl kept
        · exact .inr ⟨.inr overwritten, deletes⟩
      · left
        have beside : Op.Respects (SameOutside fun path => ∃ file, path = .slot (slotArg data) file)
            (storageSlotDelete env.toFaults (slotArg data)) := storageSlotDelete_respects fun file => ⟨file, rfl⟩
        rw [beside device _ fun ⟨file, same⟩ => here (Path.slot.inj same).1.symm, held]

theorem Effect.reset_key (effect : Effect config crypto env data device .resetDevice after)
    (held : device.fs.files (.slot slot .key) = some content) :
    after.fs.files (.slot slot .key) = some content ∨ after.fs.files (.slot slot .key) = none ∨
      Overwritten (after.fs.files (.slot slot .key)) ∧ slot = caSlot := by
  cases effect with
  | refused | elsewhere _ bonds => exact .inl held
  | resetDevice wiped done =>
    rw [boot_sameKey]
    rcases storageSecureWipe_key held done with gone | kept | overwritten
    · exact .inr (.inl gone)
    · exact .inl kept
    · exact .inr (.inr overwritten)

/-- A reset that nobody confirms changes nothing. -/
theorem step_unconfirmed (runs : executes config device event = some (env, .resetDevice, data))
    (refused : env.confirm ≠ .ok) : step config crypto device event = device := by
  rw [step_of_executes runs]
  exact confirmed_refused refused

/-- What happens to a key in one step. -/
theorem step_key (held : device.fs.files (.slot slot .key) = some content) :
    (step config crypto device event).fs.files (.slot slot .key) = some content ∨
      (step config crypto device event).fs.files (.slot slot .key) = none ∧
        (Deletes config device event slot ∨ Wipes config device event) ∨
      Overwritten ((step config crypto device event).fs.files (.slot slot .key)) ∧
        (Deletes config device event slot ∨ Wipes config device event ∧ slot = caSlot) := by
  rcases step_cases config crypto device event with same | ⟨env, command, data, runs, effect⟩ |
    ⟨env, volume, rfl, booted⟩
  · exact .inl (by rw [same, held])
  · by_cases deletes : command = .deleteKey
    · subst deletes
      rcases effect.deleted_key runs held with kept | ⟨gone | overwritten, deletes⟩
      · exact .inl kept
      · exact .inr (.inl ⟨gone, .inl deletes⟩)
      · exact .inr (.inr ⟨overwritten, .inl deletes⟩)
    · by_cases resets : command = .resetDevice
      · subst resets
        by_cases confirm : env.confirm = .ok
        · have wipes : Wipes config device event := ⟨env, data, runs, confirm⟩
          rcases effect.reset_key held with kept | gone | ⟨overwritten, root⟩
          · exact .inl kept
          · exact .inr (.inl ⟨gone, .inr wipes⟩)
          · exact .inr (.inr ⟨overwritten, .inr ⟨wipes, root⟩⟩)
        · exact .inl (by rw [step_unconfirmed runs confirm, held])
      · exact .inl (effect.keepsKey deletes resets content held)
  · exact .inl (by rw [booted, boot_sameKey, held])

/-- A request for a key runs the creation and answers. -/
theorem step_genKey (runs : executes config device event = some (env, .genKey, data)) :
    step config crypto device event = (caGenKey config env (data.headD 0) device).2 := by
  rw [step_of_executes runs]
  show (handleGenKey config env data device).2 = _
  rw [handleGenKey, Op.bind_state, Op.attempt_apply]
  intro outcome
  split <;> exact .pure _

theorem step_writeOnce (config : Config) (crypto : Crypto) (device : Device) (event : Event) :
    WriteOnce config crypto device event where
  kept _ _ held := step_key held
  created env data slot runs made := by
    rw [step_genKey runs]
    exact caGenKey_creates (Prod.ext made rfl)
  full env data runs kind mints := by
    rw [caGenKey_full kind mints, freeSlot_none]
    simp only [freeSlot_eq_some]

end Steps

/-- Only deletions and wipes change keys; the lowest slot fills. -/
theorem keys_writeOnce (config : Config) (crypto : Crypto) (start : Device) (events : List Event) :
    ∀ visit ∈ Trace.visits (step config crypto) start events, WriteOnce config crypto visit.1 visit.2 :=
  fun visit _ => step_writeOnce config crypto visit.1 visit.2

def keyedDevice : Device := Trace.run (step .default plainCrypto) blankDevice (provisioning ++ [request 3 .genKey []])

def secondKey : Event := request 4 .genKey []

/-- A run that makes a second key. -/
theorem secondKey_writeOnce :
    WriteOnce .default plainCrypto keyedDevice secondKey ∧ freeSlot .default keyedDevice = some 2 ∧
      (keyedDevice.fs.files (.slot 1 .key)).isSome ∧
      (step .default plainCrypto keyedDevice secondKey).fs.files (.slot 1 .key) =
        keyedDevice.fs.files (.slot 1 .key) ∧
      ((step .default plainCrypto keyedDevice secondKey).fs.files (.slot 2 .key)).isSome := by
  have visited : (keyedDevice, secondKey) ∈ Trace.visits (step .default plainCrypto) blankDevice
      ((provisioning ++ [request 3 .genKey []]) ++ [secondKey]) :=
    (Trace.mem_visits_iff _ _ _ _ _).mpr ⟨_, [], rfl, rfl⟩
  exact ⟨keys_writeOnce .default plainCrypto blankDevice _ (keyedDevice, secondKey) visited, by decide +kernel⟩

/-- No file can be removed. -/
def stuckEnv : Env := { plainEnv 3 with unlink := fun _ => some .eio }

/-- The file system is full. -/
def crowdedEnv : Env := { plainEnv 3 with write := fun _ => .openFailed .enospc }

/-- A failed deletion overwrites the key. -/
theorem keyedDevice_overwritten :
    ((keyedDevice.fs.files (.slot 1 .key)).isSome ∧
        keyedDevice.fs.files (.slot 1 .key) ≠ some (List.replicate keyBlobLen 0xA5) ∧
        (step .default plainCrypto keyedDevice (.request stuckEnv Command.deleteKey.code [0, 0, 0, 1])).fs.files
          (.slot 1 .key) = some (List.replicate keyBlobLen 0xA5)) ∧
      freeSlot .default keyedDevice = some 2 ∧ mayMint keyedDevice = true ∧
        (caGenKey .default crowdedEnv 0 keyedDevice).1 = .error .enospc := by
  decide +kernel

end Cantil.Dispatcher
