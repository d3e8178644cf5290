import Cantil.Firmware.Effects
import Cantil.Firmware.PlainBackend

namespace Cantil.Dispatcher
open Library Ca
open Protocol (Command)

/-- A write stores all or nothing, and removals succeed. -/
structure Atomic (faults : Faults) : Prop where
  write : ∀ path, faults.write path = .done ∨
    ∃ error, faults.write path = .mkdirFailed error ∨ faults.write path = .openFailed error
  unlink : ∀ path, faults.unlink path = none

/-- A key that is stored in the slot is followed by its metadata. -/
def StoresBoth (env : Env) (slot : Slot) : Prop :=
  env.write (.slot slot .key) = .done → env.write (.slot slot .metadata) = .done

/-- No creation of a key ends between its two writes. -/
def CompletesCreation (config : Config) (device : Device) (event : Event) : Prop :=
  match executes config device event with
  | some (env, .provisionCa, _) => StoresBoth env caSlot
  | some (env, .genKey, _) =>
    ∀ slot, (firstFreeSlot (keySlots config) device).1 = .ok slot → StoresBoth env slot
  | _ => True

/-- The owner confirms that slot 0 is unprotected. -/
def Unprotects (config : Config) (device : Device) (event : Event) : Prop :=
  ∃ env data, executes config device event = some (env, .unprotectSlot, data) ∧ slotArg data = caSlot ∧
    4 ≤ data.length ∧ env.confirm = .ok

/-- Keys have metadata, and slot 0 is protected until released. -/
structure Described (released : Prop) (device : Device) : Prop where
  readable : ∀ slot, (device.fs.files (.slot slot .key)).isSome → ∃ record, (metaRead slot device).1 = .ok record
  guarded : (device.fs.files (.slot caSlot .key)).isSome → ¬ released →
    ∃ record, (metaRead caSlot device).1 = .ok record ∧ record.isProtected ≠ 0

/-- The owner unprotected slot 0 since it got its key. -/
def Released (config : Config) (crypto : Crypto) (start : Device) (events : List Event) : Prop :=
  ∃ before event after, events = before ++ event :: after ∧
    Unprotects config (Trace.run (step config crypto) start before) event ∧
    ∀ early late, after = early ++ late →
      ((Trace.run (step config crypto) start (before ++ event :: early)).fs.files (.slot caSlot .key)).isSome

section Records

variable {before after device : Device} {slot : Slot} {record : SlotMeta}

theorem metaRead_congr (same : after.fs.files (.slot slot .metadata) = before.fs.files (.slot slot .metadata)) :
    (metaRead slot after).1 = (metaRead slot before).1 := by
  simp only [metaRead, storageSlotMetaRead, readFile, Op.bind_apply, Op.reads_apply, same]
  cases before.fs.files (.slot slot .metadata) <;> rfl

/-- Metadata of the current version is read as it was written. -/
theorem metaRead_of_bytes (current : record.version = 1)
    (stored : device.fs.files (.slot slot .metadata) = some record.bytes) : (metaRead slot device).1 = .ok record := by
  have whole : record.bytes.take slotMetaSize = record.bytes :=
    List.take_of_length_le (Nat.le_of_eq record.bytes_length)
  simp only [metaRead, storageSlotMetaRead, readFile, Op.bind_apply, Op.reads_apply, stored, whole,
    parseSlotMeta_bytes record current, Op.lift_apply]

theorem metaRead_version (read : (metaRead slot device).1 = .ok record) : record.version = 1 := by
  obtain ⟨buf, _, parsed⟩ := Op.read_ok read
  simp only [Op.lift_apply, parseSlotMeta] at parsed
  split_ifs at parsed with bad
  obtain rfl := Except.ok.inj parsed
  exact not_not.mp (not_or.mp bad).2

end Records

/-- The path is neither a key nor the metadata of a slot. -/
def OffCreation (path : Path) : Prop := ∀ slot, path ≠ .slot slot .key ∧ path ≠ .slot slot .metadata

/-- An atomic write fails without a trace, or stores the data. -/
theorem Atomic.writeFile {faults : Faults} (atomic : Atomic faults) (path : Path) (data : Bytes) (device : Device) :
    (∃ error between, Cantil.writeFile faults path data device = (.error error, between) ∧
        between.fs.files = device.fs.files) ∨
      faults.write path = .done ∧
        Cantil.writeFile faults path data device =
          (.ok (), { device with fs := device.fs.put faults.place path data }) := by
  rcases atomic.write path with done | ⟨error, failed | failed⟩
  · exact .inr ⟨done, writeFile_done done data device⟩
  · simp only [Cantil.writeFile, failed]
    exact .inl ⟨error, device, rfl, rfl⟩
  · simp only [Cantil.writeFile, failed]
    exact .inl ⟨error, _, rfl, Fs.mkdirP_files _ _ _⟩

namespace Described

variable {released weaker : Prop} {before after device : Device} {faults : Faults}

/-- Only the keys and their metadata matter. -/
theorem congr (described : Described released before) (same : SameOutside OffCreation before after) :
    Described released after := by
  have key (slot : Slot) : after.fs.files (.slot slot .key) = before.fs.files (.slot slot .key) :=
    same _ fun off => (off slot).1 rfl
  have record (slot : Slot) : (metaRead slot after).1 = (metaRead slot before).1 :=
    metaRead_congr (same _ fun off => (off slot).2 rfl)
  constructor
  · intro slot present
    rw [key] at present
    rw [record]
    exact described.readable slot present
  · intro present kept
    rw [key] at present
    rw [record]
    exact described.guarded present kept

theorem mono (described : Described released device)
    (implied : (device.fs.files (.slot caSlot .key)).isSome → released → weaker) : Described weaker device :=
  ⟨described.readable, fun present kept => described.guarded present fun free => kept (implied present free)⟩

/-- A slot may get readable metadata that keeps slot 0 protected. -/
theorem remade (described : Described released device) {slot : Slot} {record : SlotMeta}
    (here : (metaRead slot after).1 = .ok record) (kept : slot = caSlot → ¬ released → record.isProtected ≠ 0)
    (there : ∀ other ≠ slot, ∀ file, after.fs.files (.slot other file) = device.fs.files (.slot other file)) :
    Described released after := by
  constructor
  · intro other present
    by_cases same : other = slot
    · exact ⟨record, same ▸ here⟩
    · rw [there other same] at present
      rw [metaRead_congr (there other same _)]
      exact described.readable other present
  · intro present unreleased
    by_cases same : slot = caSlot
    · exact ⟨record, same ▸ here, kept same unreleased⟩
    · rw [there caSlot (Ne.symm same)] at present
      rw [metaRead_congr (there caSlot (Ne.symm same) _)]
      exact described.guarded present unreleased

/-- A slot may lose its key with everything else it holds. -/
theorem vacate (described : Described released before) {slot : Slot}
    (gone : after.fs.files (.slot slot .key) = none)
    (same : SameOutside (fun path => ∃ file, path = .slot slot file) before after) : Described released after := by
  have kept (other : Slot) (present : (after.fs.files (.slot other .key)).isSome) (file : SlotFile) :
      after.fs.files (.slot other file) = before.fs.files (.slot other file) := by
    apply same
    rintro ⟨touched, located⟩
    obtain ⟨rfl, _⟩ := Path.slot.inj located
    simp [gone] at present
  constructor
  · intro other present
    rw [metaRead_congr (kept other present .metadata)]
    exact described.readable other (kept other present .key ▸ present)
  · intro present unreleased
    rw [metaRead_congr (kept caSlot present .metadata)]
    exact described.guarded (kept caSlot present .key ▸ present) unreleased

theorem of_blank (blank : ∀ slot, device.fs.files (.slot slot .key) = none) : Described released device := by
  constructor
  · intro slot present
    simp [blank] at present
  · intro present
    simp [blank] at present

end Described

section Commands

variable {config : Config} {crypto : Crypto} {env : Env} {released : Prop} {device : Device}

theorem writable_offCreation {faults : Faults} {path : Path} (off : OffCreation path) :
    Writable (Op.Keeps (Described released)) faults path :=
  (writable_of_touched off).mono fun _ _ same described => described.congr same

theorem writable_slotFile {faults : Faults} (slot : Slot) {file : SlotFile} (off : file ≠ .key ∧ file ≠ .metadata) :
    Writable (Op.Keeps (Described released)) faults (.slot slot file) := by
  apply writable_offCreation
  intro other
  constructor
  · intro same
    exact off.1 (Path.slot.inj same).2
  · intro same
    exact off.2 (Path.slot.inj same).2

theorem writable_issuedFile {faults : Faults} (name : Bytes) (file : IssuedFile) :
    Writable (Op.Keeps (Described released)) faults (.issued name file) :=
  writable_offCreation fun _ => ⟨by simp, by simp⟩

theorem setProvisioned_described : Op.Respects (Op.Keeps (Described released)) setProvisioned :=
  fun _ described => described.congr fun _ _ => rfl

variable (atomic : Atomic env.toFaults)

include atomic

theorem createKey_described {slot : Slot} (both : StoresBoth env slot)
    {record : SlotMeta} (current : record.version = 1) (kept : slot = caSlot → record.isProtected ≠ 0)
    (device : Device) : Op.Keeps (Described released) device (createKey env slot record device).2 := by
  apply Op.relates_reader
  intro _ _
  apply Op.relates_reader
  intro _ _
  apply Op.relates_reader
  intro blob _ described
  rcases atomic.writeFile (.slot slot .key) blob device with ⟨error, between, failed, same⟩ | ⟨done, stored⟩
  · rw [storageKeyWrite, Op.bind_of_error failed]
    exact described.congr fun path _ => congrFun same path
  · rw [storageKeyWrite, Op.bind_of_ok stored, metaWrite, storageSlotMetaWrite, writeFile_done (both done)]
    exact described.remade (metaRead_of_bytes current (by simp)) (fun root _ => kept root)
      fun other different file => by simp [different]

/-- Metadata that was read is written back with other marks. -/
theorem metaWrite_described {slot : Slot} {record marked : SlotMeta}
    (read : (metaRead slot device).1 = .ok record) (version : marked.version = record.version)
    (kept : slot = caSlot → ¬ released → marked.isProtected ≠ 0) :
    Op.Keeps (Described released) device (metaWrite env.toFaults slot marked device).2 := by
  intro described
  rw [metaWrite, storageSlotMetaWrite]
  rcases atomic.writeFile (.slot slot .metadata) marked.bytes device with ⟨error, between, failed, same⟩ | ⟨_, stored⟩
  · rw [failed]
    exact described.congr fun path _ => congrFun same path
  · rw [stored]
    exact described.remade (metaRead_of_bytes (version.trans (metaRead_version read)) (by simp)) kept
      fun other different file => by simp [different]

theorem caProvision_described (both : StoresBoth env caSlot) (keyType : UInt8) :
    Op.Respects (Op.Keeps (Described released)) (caProvision env keyType) := fun device =>
  caProvision_related setProvisioned_described fun _ _ =>
    createKey_described atomic both rfl (fun _ => by simp [slotMetaOf]) device

theorem caGenKey_described
    (both : ∀ slot, (firstFreeSlot (keySlots config) device).1 = .ok slot → StoresBoth env slot) (keyType : UInt8) :
    Op.Keeps (Described released) device (caGenKey config env keyType device).2 := by
  refine caGenKey_related fun slot found _ => ?_
  have numbered : slot ≠ caSlot :=
    ((mem_keySlots config slot).mp (List.mem_of_find?_eq_some (firstFreeSlot_ok.mp found))).1
  exact createKey_described atomic (both slot found) rfl (fun root => absurd root numbered) device

theorem caDeleteKey_described (slot : Slot) :
    Op.Respects (Op.Keeps (Described released)) (caDeleteKey config env slot) := by
  apply caDeleteKey_respects
  intro device described
  apply described.vacate (storageSlotDelete_files atomic.unlink device .key)
  exact storageSlotDelete_respects (fun file => ⟨file, rfl⟩) device

theorem caProtectSlot_described (slot : Slot) (protectIssued : Bool) :
    Op.Respects (Op.Keeps (Described released)) (caProtectSlot config env slot protectIssued) := by
  intro device
  apply Op.relates_ensure
  intro _
  apply Op.relates_reader
  intro _ _
  apply Op.relates_ensure
  intro _
  apply Op.relates_reader
  intro record read
  apply Op.relates_bind
  · exact metaWrite_described atomic read rfl fun _ _ => by simp
  · intro _ between _
    split
    · have marks : Remarks (Op.Keeps (Described released)) env.toFaults issuedFlagProtected :=
        remarks_of_writable (fun name => writable_issuedFile name .metadata) _
      exact ((storageIssuedCertsIter_respects (propagateProtectedCb_selects fun device serial record read _ _ =>
        marks device serial record read) _).bind fun _ => .pure _) between
    · exact Op.Respects.pure _ between

theorem caUnprotectSlot_described (slot : Slot) (free : slot = caSlot → released) :
    Op.Respects (Op.Keeps (Described released)) (caUnprotectSlot config env slot) := by
  intro device
  apply Op.relates_ensure
  intro _
  apply Op.relates_reader
  intro _ _
  apply Op.relates_ensure
  intro _
  apply Op.relates_reader
  intro record read
  exact metaWrite_described atomic read rfl fun root kept => absurd (free root) kept

omit atomic

/-- A boot changes no key and no metadata. -/
theorem boot_described (env : Env) (volume : VolumeState) (device : Device) :
    Op.Keeps (Described released) device (boot config crypto env volume device).2 :=
  boot_related (fun described => described.congr fun _ _ => rfl) (writable_slotFile caSlot ⟨by simp, by simp⟩)
    setProvisioned_described

/-- Keys stay described, slot 0 protected unless released. -/
theorem Effect.described {data : Bytes} {command : Command} {after : Device} {event : Event}
    (effect : Effect config crypto env data device command after)
    (runs : executes config device event = some (env, command, data)) (atomic : Atomic env.toFaults)
    (completes : CompletesCreation config device event)
    (free : command = .unprotectSlot → slotArg data = caSlot → released) :
    Op.Keeps (Described released) device after := by
  rw [CompletesCreation, runs] at completes
  have general (plain : command ∈ framedCommands ∧ ∀ file ∈ slotFiles command, file ≠ .key ∧ file ≠ .metadata) :
      Op.Keeps (Described released) device after :=
    effect.related plain.1 (fun file inside slot => writable_slotFile slot (plain.2 file inside))
      (fun _ => writable_issuedFile) setProvisioned_described
  cases effect with
  | refused => exact refl device
  | genKey => exact caGenKey_described atomic completes _
  | protectSlot => exact caProtectSlot_described atomic _ _ device
  | unprotectSlot => exact caUnprotectSlot_described atomic _ (free rfl) device
  | deleteKey => exact caDeleteKey_described atomic _ device
  | provisionCa => exact caProvision_described atomic completes _ device
  | resetDevice wiped done =>
    intro _
    apply boot_described
    exact .of_blank fun slot => storageSecureWipe_files atomic.unlink done _
  | elsewhere _ bonds =>
    exact fun described => described.congr (withClients_sameOutside (fun _ _ _ => by simp) device bonds)
  | _ => exact general (by decide)

end Commands

section Runs

variable {config : Config} {crypto : Crypto} {start device : Device} {event : Event} {released : Prop}

/-- An unprotection that nobody confirms changes nothing. -/
theorem handleUnprotectSlot_unconfirmed {env : Env} {data : Bytes}
    (unconfirmed : ¬ (4 ≤ data.length ∧ env.confirm = .ok)) :
    (handleUnprotectSlot config env data device).2 = device := by
  unfold handleUnprotectSlot
  split_ifs with short
  · rfl
  · exact confirmed_refused fun confirm => unconfirmed ⟨by omega, confirm⟩

theorem step_described (atomic : Atomic event.env.toFaults) (completes : CompletesCreation config device event)
    (described : Described released device) :
    Described (released ∨ Unprotects config device event) (step config crypto device event) := by
  have kept : Described (released ∨ Unprotects config device event) device := described.mono fun _ => .inl
  rcases step_cases config crypto device event with
    same | ⟨env, command, data, runs, effect⟩ | ⟨env, volume, rfl, booted⟩
  · rw [same]
    exact kept
  · rw [executes_env runs] at atomic
    by_cases silent : command = .unprotectSlot ∧ ¬ (4 ≤ data.length ∧ env.confirm = .ok)
    · obtain ⟨rfl, unconfirmed⟩ := silent
      rw [step_of_executes runs]
      show Described _ (handleUnprotectSlot config env data device).2
      rw [handleUnprotectSlot_unconfirmed unconfirmed]
      exact kept
    · apply effect.described runs atomic completes ?_ kept
      rintro rfl root
      have confirmed : 4 ≤ data.length ∧ env.confirm = .ok := not_not.mp fun unconfirmed => silent ⟨rfl, unconfirmed⟩
      exact .inr ⟨env, data, runs, root, confirmed⟩
  · exact boot_described env volume device kept

/-- The release of slot 0 lasts for as long as it holds its key. -/
theorem released_append (events : List Event)
    (present : ((Trace.run (step config crypto) start (events ++ [event])).fs.files (.slot caSlot .key)).isSome)
    (free : Released config crypto start events ∨
      Unprotects config (Trace.run (step config crypto) start events) event) :
    Released config crypto start (events ++ [event]) := by
  rcases free with ⟨before, unprotection, after, rfl, unprotects, held⟩ | unprotects
  · refine ⟨before, unprotection, after ++ [event], by simp, unprotects, ?_⟩
    intro early late split
    rcases List.eq_nil_or_concat late with rfl | ⟨rest, last, rfl⟩
    · rw [List.append_nil] at split
      subst split
      simpa using present
    · rw [List.concat_eq_append, ← List.append_assoc] at split
      exact held early rest (List.append_inj_left' split rfl)
  · refine ⟨events, event, [], rfl, unprotects, ?_⟩
    intro early late split
    obtain ⟨rfl, rfl⟩ := List.append_eq_nil_iff.mp split.symm
    exact present

theorem run_described (initial : Described False start) (events : List Event)
    (atomic : ∀ event ∈ events, Atomic event.env.toFaults)
    (completes : ∀ visit ∈ Trace.visits (step config crypto) start events, CompletesCreation config visit.1 visit.2) :
    Described (Released config crypto start events) (Trace.run (step config crypto) start events) := by
  induction events using List.reverseRecOn with
  | nil => exact initial.mono fun _ => False.elim
  | append_singleton events event ih =>
    rw [Trace.visits_append] at completes
    have earlier := ih (fun other inside => atomic other (List.mem_append_left _ inside))
      fun visit visited => completes visit (List.mem_append_left _ visited)
    have last : (Trace.run (step config crypto) start events, event) ∈
        Trace.visits (step config crypto) start events ++
          Trace.visits (step config crypto) (Trace.run (step config crypto) start events) [event] :=
      List.mem_append_right _ List.mem_cons_self
    have stepped := @step_described config crypto _ event _ (atomic event (by simp)) (completes _ last) earlier
    rw [Trace.run_append]
    exact stepped.mono fun present => released_append events (by rwa [Trace.run_append])

/-- A key lacks metadata only between its two writes. -/
theorem keys_described (config : Config) (crypto : Crypto) (start : Device) (events : List Event)
    (initial : Described False start) (atomic : ∀ event ∈ events, Atomic event.env.toFaults)
    (completes : ∀ visit ∈ Trace.visits (step config crypto) start events, CompletesCreation config visit.1 visit.2)
    {before after : List Event} (split : events = before ++ after) :
    Described (Released config crypto start before) (Trace.run (step config crypto) start before) := by
  subst split
  apply run_described initial before
  · intro event inside
    exact atomic event (List.mem_append_left _ inside)
  · intro visit visited
    rw [Trace.visits_append] at completes
    exact completes visit (List.mem_append_left _ visited)

end Runs

/-- Every write of this command fails, as behind a power cut. -/
def failingEnv : Env := { plainEnv 1 with write := fun _ => .openFailed .eio }

/-- The power is cut between the key of slot 0 and its metadata. -/
def cutEnv : Env :=
  { plainEnv 1 with write := fun path => if path = .slot caSlot .metadata then .openFailed .eio else .done }

theorem atomic_plainEnv (random : UInt8) : Atomic (plainEnv random).toFaults := ⟨fun _ => .inl rfl, fun _ => rfl⟩

theorem atomic_cutEnv : Atomic cutEnv.toFaults := by
  refine ⟨fun path => ?_, fun _ => rfl⟩
  by_cases lost : path = .slot caSlot .metadata
  · exact .inr ⟨.eio, .inr (if_pos lost)⟩
  · exact .inl (if_neg lost)

/-- All writes succeed or all fail: no key lacks metadata. -/
theorem completes_request {config : Config} {device : Device} {env : Env} (both : ∀ slot, StoresBoth env slot)
    (cmd : UInt32) (data : Bytes) : CompletesCreation config device (.request env cmd data) := by
  unfold CompletesCreation
  split
  · rename_i found _ runs
    obtain ⟨_, same, _⟩ := executes_eq_some runs
    obtain ⟨rfl, _⟩ := Event.request.inj same
    exact both caSlot
  · rename_i found _ runs
    obtain ⟨_, same, _⟩ := executes_eq_some runs
    obtain ⟨rfl, _⟩ := Event.request.inj same
    exact fun slot _ => both slot
  · trivial

/-- The first provisioning stores nothing, the second succeeds. -/
def retriedCreation : List Event :=
  [.request failingEnv Command.provisionCa.code [], .powerCycle (plainEnv 1) .valid, request 1 .provisionCa [],
    request 2 .genKey []]

def cutCreation : List Event :=
  [.request cutEnv Command.provisionCa.code [], .powerCycle (plainEnv 1) .valid]

theorem creation_samples :
    ((Trace.run (step .default plainCrypto) blankDevice retriedCreation).fs.files (.slot caSlot .key)).isSome ∧
      ((Trace.run (step .default plainCrypto) blankDevice retriedCreation).fs.files (.slot 1 .key)).isSome ∧
      ((Trace.run (step .default plainCrypto) blankDevice cutCreation).fs.files (.slot caSlot .key)).isSome ∧
      (metaRead caSlot (Trace.run (step .default plainCrypto) blankDevice cutCreation)).1 = .error .enoent := by
  decide +kernel

/-- A failed creation is retried, and both keys are described. -/
theorem retriedCreation_described :
    ((Trace.run (step .default plainCrypto) blankDevice retriedCreation).fs.files (.slot caSlot .key)).isSome ∧
      ((Trace.run (step .default plainCrypto) blankDevice retriedCreation).fs.files (.slot 1 .key)).isSome ∧
      Described (Released .default plainCrypto blankDevice retriedCreation)
        (Trace.run (step .default plainCrypto) blankDevice retriedCreation) := by
  refine ⟨creation_samples.1, creation_samples.2.1, ?_⟩
  have failing : Atomic failingEnv.toFaults := ⟨fun _ => .inr ⟨.eio, .inr rfl⟩, fun _ => rfl⟩
  apply keys_described .default plainCrypto blankDevice retriedCreation (.of_blank fun _ => rfl) ?_ ?_
    (List.append_nil _).symm
  · simp only [retriedCreation, request, List.forall_mem_cons]
    exact ⟨failing, atomic_plainEnv 1, atomic_plainEnv 1, atomic_plainEnv 2, by simp⟩
  · simp only [retriedCreation, request, Trace.visits_cons, Trace.visits_nil, List.forall_mem_cons]
    have stored (random : UInt8) (slot : Slot) : StoresBoth (plainEnv random) slot := fun _ => rfl
    exact ⟨completes_request (fun _ wrote => by cases wrote) _ _, trivial, completes_request (stored 1) _ _,
      completes_request (stored 2) _ _, by simp⟩

/-- A key without metadata, which no boot repairs. -/
theorem cutCreation_undescribed :
    (∀ event ∈ cutCreation, Atomic event.env.toFaults) ∧
      ¬ Described (Released .default plainCrypto blankDevice cutCreation)
        (Trace.run (step .default plainCrypto) blankDevice cutCreation) := by
  constructor
  · simp only [cutCreation, List.forall_mem_cons]
    exact ⟨atomic_cutEnv, atomic_plainEnv 1, by simp⟩
  · intro described
    obtain ⟨record, read⟩ := described.readable caSlot creation_samples.2.2.1
    cases read

end Cantil.Dispatcher
