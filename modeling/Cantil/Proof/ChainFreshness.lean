import Cantil.Proof.Ledger

namespace Cantil.Dispatcher
open Library Ca Trace
open Protocol (Command)

/-- The chain is gone, or next to the same certificate as before. -/
def KeepsPair (slot : Slot) (before after : Device) : Prop :=
  after.fs.files (.slot slot .chain) = none ∨
    after.fs.files (.slot slot .chain) = before.fs.files (.slot slot .chain) ∧
      (before.fs.files (.slot slot .chain) ≠ none →
        after.fs.files (.slot slot .cert) = before.fs.files (.slot slot .cert))

def KeepsPairs (before after : Device) : Prop := ∀ slot, KeepsPair slot before after

/-- No chain stands without a certificate. -/
def Paired (device : Device) : Prop :=
  ∀ slot, device.fs.files (.slot slot .chain) ≠ none → device.fs.files (.slot slot .cert) ≠ none

theorem KeepsPair.trans {slot : Slot} {first second third : Device} (early : KeepsPair slot first second)
    (late : KeepsPair slot second third) : KeepsPair slot first third := by
  rcases late with gone | ⟨chain, cert⟩
  · exact .inl gone
  · rcases early with gone | ⟨earlyChain, earlyCert⟩
    · exact .inl (chain.trans gone)
    · refine .inr ⟨chain.trans earlyChain, fun present => ?_⟩
      rw [cert (earlyChain ▸ present), earlyCert present]

instance : IsPreorder Device KeepsPairs where
  refl _ := fun _ => .inr ⟨rfl, fun _ => rfl⟩
  trans _ _ _ early late := fun slot => (early slot).trans (late slot)

theorem KeepsPairs.paired {before after : Device} (keeps : KeepsPairs before after) (paired : Paired before) :
    Paired after := by
  intro slot present
  rcases keeps slot with gone | ⟨chain, cert⟩
  · exact absurd gone present
  · rw [chain] at present
    rw [cert present]
    exact paired slot present

/-- A chain is gone, in its old place, or came along. -/
def Renews (supplied : Slot → Bytes → Bytes → Prop) (before after : Device) : Prop :=
  ∀ slot, KeepsPair slot before after ∨ ∃ cert chain, supplied slot cert chain ∧
    after.fs.files (.slot slot .cert) = some cert ∧ after.fs.files (.slot slot .chain) = some chain

variable {supplied : Slot → Bytes → Bytes → Prop}

theorem KeepsPairs.renews {before after : Device}
    (keeps : KeepsPairs before after) : Renews supplied before after :=
  fun slot => .inl (keeps slot)

instance (supplied : Slot → Bytes → Bytes → Prop) : IsPreorder Device (Renews supplied) where
  refl device := KeepsPairs.renews (refl device)
  trans first second third early late := by
    intro slot
    rcases late slot with kept | fresh
    · rcases early slot with earlier | ⟨cert, chain, given, cert_eq, chain_eq⟩
      · exact .inl (earlier.trans kept)
      · rcases kept with gone | ⟨sameChain, sameCert⟩
        · exact .inl (.inl gone)
        · have held : second.fs.files (.slot slot .chain) ≠ none := by simp [chain_eq]
          exact .inr ⟨cert, chain, given, (sameCert held).trans cert_eq, sameChain.trans chain_eq⟩
    · exact .inr fresh

variable {path : Path} {file : SlotFile}

section Files

variable {touched : Path → Prop} {before after : Device} {faults : Faults}

theorem keepsPairs_of_sameOutside
    (off : ∀ slot, ¬ touched (.slot slot .cert) ∧ ¬ touched (.slot slot .chain))
    (same : SameOutside touched before after) : KeepsPairs before after :=
  fun slot => .inr ⟨same _ (off slot).2, fun _ => same _ (off slot).1⟩

/-- The file is neither the certificate nor the chain of a slot. -/
def OffPairs (path : Path) : Prop := ∀ slot, path ≠ .slot slot .cert ∧ path ≠ .slot slot .chain

theorem writable_of_offPairs (off : OffPairs path) : Writable KeepsPairs faults path := by
  have away (slot : Slot) : ¬ (· = path) (Path.slot slot .cert) ∧ ¬ (· = path) (Path.slot slot .chain) :=
    ⟨(off slot).1.symm, (off slot).2.symm⟩
  have inside : Writable (SameOutside (· = path)) faults path := writable_of_touched rfl
  exact ⟨fun data device => keepsPairs_of_sameOutside away (inside.write data device),
    fun device => keepsPairs_of_sameOutside away (inside.unlink device)⟩

theorem offPairs_issued (name : Bytes) (file : IssuedFile) : Writable KeepsPairs faults (.issued name file) :=
  writable_of_offPairs fun _ => ⟨by simp, by simp⟩

theorem offPairs_slot (slot : Slot) (other : file ≠ .cert ∧ file ≠ .chain) :
    Writable KeepsPairs faults (.slot slot file) :=
  writable_of_offPairs fun _ => ⟨by simp [other.1], by simp [other.2]⟩

/-- A chain that is dropped, or cannot be, changes no other one. -/
theorem chainDelete_keepsPairs (slot : Slot) :
    Op.Respects KeepsPairs (storageSlotChainDelete faults slot) := by
  have unlinked : Op.Respects KeepsPairs (unlinkFile faults (.slot slot .chain)) := by
    intro device other
    unfold unlinkFile
    split_ifs with absent
    · exact .inr ⟨rfl, fun _ => rfl⟩
    · cases faults.unlink (.slot slot .chain) with
      | some error => exact .inr ⟨rfl, fun _ => rfl⟩
      | none =>
        by_cases here : other = slot
        · subst here
          exact .inl (by simp [Fs.removeIf])
        · exact .inr ⟨by simp [Fs.removeIf, here], fun _ => by simp [Fs.removeIf]⟩
  refine unlinked.attempt.bind fun outcome => ?_
  split
  · exact .pure ()
  · exact .pure ()
  · exact .fail _

/-- A change of one slot is judged at that slot. -/
theorem keepsPairs_of_slot {slot : Slot}
    (same : SameOutside (fun path => path = .slot slot .cert ∨ path = .slot slot .chain) before after)
    (here : KeepsPair slot before after) : KeepsPairs before after := by
  intro other
  by_cases equal : other = slot
  · rw [equal]
    exact here
  · exact .inr ⟨same _ (by simp [equal]), fun _ => same _ (by simp [equal])⟩

/-- The write ends without a change of the file. -/
def LeavesFile (faults : Faults) (device : Device) (path : Path) : Prop :=
  match faults.write path with
  | .mkdirFailed _ => True
  | .openFailed _ => True
  | .short none => device.fs.files path ≠ none
  | .uncommitted => device.fs.files path ≠ none
  | _ => False

theorem writeFile_leaves {device : Device} (leaves : LeavesFile faults device path) (data : Bytes) :
    (writeFile faults path data device).2.fs.files = device.fs.files := by
  have restored (held : device.fs.files path ≠ none) :
      Function.update device.fs.files path (some ((device.fs.files path).getD [])) = device.fs.files := by
    obtain ⟨content, present⟩ := Option.ne_none_iff_exists'.mp held
    rw [present, Option.getD_some, ← present, Function.update_eq_self]
  unfold LeavesFile at leaves
  rcases outcome : faults.write path with _ | error | error | (_ | kept) | _
  all_goals simp only [outcome] at leaves
  all_goals simp only [writeFile, outcome, Fs.mkdirP_files, Fs.put_files]
  · exact restored leaves
  · exact restored leaves

end Files

/-! The certificate is replaced, and the chain with it. -/

variable {cert chain : Bytes}

section Replacing

variable {config : Config} {crypto : Crypto} {env : Env} {device : Device} {slot : Slot}

/-- A stored chain goes when the certificate does. -/
def DropsChain (faults : Faults) (device : Device) (slot : Slot) : Prop :=
  device.fs.files (.slot slot .chain) = none ∨ LeavesFile faults device (.slot slot .cert) ∨
    faults.write (.slot slot .cert) = .done ∧ faults.unlink (.slot slot .chain) = none

/-- A new chain is stored when the certificate is, and only then. -/
def StoresPair (faults : Faults) (device : Device) (slot : Slot) : Prop :=
  faults.write (.slot slot .cert) = .done ∧ faults.write (.slot slot .chain) = .done ∨
    (device.fs.files (.slot slot .chain) = none ∨ LeavesFile faults device (.slot slot .cert)) ∧
      (faults.write (.slot slot .cert) = .done ∨ faults.write (.slot slot .cert) = .uncommitted →
        LeavesFile faults device (.slot slot .chain))

/-- The removal of a slot does not take its certificate alone. -/
def EmptiesPair (faults : Faults) (device : Device) (slot : Slot) : Prop :=
  device.fs.files (.slot slot .chain) = none ∨ faults.unlink (.slot slot .chain) = none ∨
    faults.unlink (.slot slot .cert) ≠ none

/-- A certificate may change without a chain, or stay with one. -/
theorem certWrite_keepsPairs
    (free : device.fs.files (.slot slot .chain) = none ∨ LeavesFile env.toFaults device (.slot slot .cert))
    (der : Bytes) : KeepsPairs device (storageSlotCertWrite env.toFaults slot der device).2 := by
  have same : SameOutside (Path.slot slot .cert = ·) device (storageSlotCertWrite env.toFaults slot der device).2 :=
    writeFile_respects rfl der device
  rcases free with absent | leaves
  · apply keepsPairs_of_slot fun path outside => same path fun here => outside (.inl here.symm)
    exact .inl ((same _ (by simp)).trans absent)
  · have kept := writeFile_leaves leaves der
    exact fun other => .inr ⟨congrFun kept _, fun _ => congrFun kept _⟩

/-- A chain that can be removed is gone. -/
theorem chainDelete_files (removable : env.unlink (.slot slot .chain) = none) (device : Device) :
    (storageSlotChainDelete env.toFaults slot device).2.fs.files (.slot slot .chain) = none := by
  rw [storageSlotChainDelete_state]
  by_cases absent : device.fs.files (.slot slot .chain) = none
  · simp [unlinkFile, absent]
  · simp [unlinkFile, absent, removable, Fs.removeIf]

section Drops

variable (drops : DropsChain env.toFaults device slot)
include drops

theorem swapCert_keepsPairs (der : Bytes) :
    KeepsPairs device ((do
      storageSlotCertWrite env.toFaults slot der
      let _ ← (storageSlotChainDelete env.toFaults slot).attempt : Op Device Errno Unit) device).2 := by
  have deleted : Op.Respects KeepsPairs (do
      let _ ← (storageSlotChainDelete env.toFaults slot).attempt : Op Device Errno Unit) :=
    (chainDelete_keepsPairs slot).attempt.bind fun _ => .pure _
  rcases drops with absent | leaves | ⟨done, removable⟩
  · exact Op.relates_bind (certWrite_keepsPairs (.inl absent) der) fun _ between _ => deleted between
  · exact Op.relates_bind (certWrite_keepsPairs (.inr leaves) der) fun _ between _ => deleted between
  · have wrote : storageSlotCertWrite env.toFaults slot der device = _ := writeFile_done done der device
    apply keepsPairs_of_slot
    · have touched : Op.Respects (SameOutside fun path => path = .slot slot .cert ∨ path = .slot slot .chain)
          (do
            storageSlotCertWrite env.toFaults slot der
            let _ ← (storageSlotChainDelete env.toFaults slot).attempt : Op Device Errno Unit) :=
        Op.Respects.bind (writeFile_respects (.inl rfl) der) fun _ =>
          (storageSlotChainDelete_respects (writable_of_touched (.inr rfl))).attempt.bind
            fun _ => .pure _
      exact touched device
    · rw [Op.bind_of_ok wrote]
      exact .inl (chainDelete_files removable _)

theorem selfSigned_keepsPairs (params : X509Params) :
    KeepsPairs device ((do
      buildSelfSignedCert config crypto env slot params
      let _ ← (storageSlotChainDelete env.toFaults slot).attempt : Op Device Errno Unit) device).2 := by
  rcases buildSelfSignedCert_minted config crypto env slot device params with
    ⟨error, failed⟩ | ⟨_, der, _, wrote⟩
  · rw [Op.bind_of_error failed]
    exact refl device
  · rw [Op.bind_apply, wrote]
    exact swapCert_keepsPairs drops der

/-- The condition looks at the two files only. -/
theorem DropsChain.of_same {between : Device}
    (same : ∀ file, file = .cert ∨ file = .chain →
      between.fs.files (.slot slot file) = device.fs.files (.slot slot file)) :
    DropsChain env.toFaults between slot := by
  simpa only [DropsChain, LeavesFile, same .cert (.inl rfl), same .chain (.inr rfl)] using drops

theorem caPushKeyX509_keepsPairs (data : Bytes) :
    KeepsPairs device (caPushKeyX509 config crypto env slot data device).2 := by
  apply caPushKeyX509_related
  intro params _ _ _
  apply Op.relates_bind ((offPairs_slot slot (by decide)).write data device)
  intro _ between wrote
  apply selfSigned_keepsPairs
  have same : SameOutside (Path.slot slot .x509Data = ·) device between := by
    rw [← show (writeFile env.toFaults (.slot slot .x509Data) data device).2 = between by rw [wrote]]
    exact writeFile_respects rfl data device
  apply drops.of_same
  rintro file (rfl | rfl)
  · exact same _ (by simp)
  · exact same _ (by simp)

end Drops

theorem caSignKeySlot_keepsPairs {issuer subject : Slot} (drops : DropsChain env.toFaults device subject) :
    KeepsPairs device (caSignKeySlot config crypto env issuer subject device).2 := by
  apply caSignKeySlot_related
  intro issue _
  rw [installIssue_eq]
  apply Op.relates_bind (swapCert_keepsPairs drops issue.der)
  intro _ between _
  exact persistIssue_respects (offPairs_issued _) between

/-- Certificate and chain are stored together or not. -/
theorem storePair_renews (stores : StoresPair env.toFaults device slot) (given : supplied slot cert chain) :
    Renews supplied device ((do
      storageSlotCertWrite env.toFaults slot cert
      storageSlotChainWrite env.toFaults slot chain : Op Device Errno Unit) device).2 := by
  rcases stores with ⟨certDone, chainDone⟩ | ⟨free, leaves⟩
  · have first : storageSlotCertWrite env.toFaults slot cert device = _ := writeFile_done certDone cert device
    have second (between : Device) : storageSlotChainWrite env.toFaults slot chain between = _ :=
      writeFile_done chainDone chain between
    rw [Op.bind_of_ok first, second]
    intro other
    by_cases here : other = slot
    · subst here
      exact .inr ⟨cert, chain, given, by simp, by simp⟩
    · exact .inl (.inr ⟨by simp [here], fun _ => by simp [here]⟩)
  · apply KeepsPairs.renews
    apply Op.relates_bind (certWrite_keepsPairs free cert)
    intro _ between wrote
    have same : SameOutside (Path.slot slot .cert = ·) device
        (storageSlotCertWrite env.toFaults slot cert device).2 := writeFile_respects rfl cert device
    rw [wrote] at same
    have reached : env.write (.slot slot .cert) = .done ∨ env.write (.slot slot .cert) = .uncommitted := by
      rcases outcome : env.write (.slot slot .cert) with _ | error | error | (_ | kept) | _
      all_goals simp [storageSlotCertWrite, writeFile, outcome] at wrote ⊢
    have untouched : between.fs.files (.slot slot .chain) = device.fs.files (.slot slot .chain) := same _ (by simp)
    have still : LeavesFile env.toFaults between (.slot slot .chain) := by
      simpa only [LeavesFile, untouched] using leaves reached
    have kept := writeFile_leaves still chain
    exact fun other => .inr ⟨congrFun kept _, fun _ => congrFun kept _⟩

/-- What a pushed certificate asks of the medium. -/
def ReplacesPair (faults : Faults) (device : Device) (slot : Slot) (chain : Bytes) : Prop :=
  if chain = [] then DropsChain faults device slot else StoresPair faults device slot

theorem caPushKeyCert_renews
    (replaces : ReplacesPair env.toFaults device slot chain) (given : supplied slot cert chain) :
    Renews supplied device (caPushKeyCert config crypto env slot cert chain device).2 := by
  apply caPushKeyCert_related
  intro _ _ _ _ _ _ _
  unfold ReplacesPair at replaces
  split_ifs at replaces with empty
  · subst empty
    exact (swapCert_keepsPairs replaces cert).renews
  · have long : chain.length > 0 := List.length_pos_iff.mpr empty
    simp only [replaceChain, if_pos long]
    exact storePair_renews replaces given

/-- Which files of a slot outlive its removal. -/
theorem storageSlotDelete_file (faults : Faults) (slot : Slot) (device : Device)
    (other : file ≠ .key) :
    (storageSlotDelete faults slot device).2.fs.files (.slot slot file) =
      if faults.unlink (.slot slot file) = none then none else device.fs.files (.slot slot file) := by
  have written := writeFile_frame faults (.slot slot .key) (List.replicate keyBlobLen 0xA5) device
  rw [storageSlotDelete_state]
  simp [slotEmptied, Fs.removeIf, written (.slot slot file) (by simpa using other.symm)]

/-- A removal that leaves the chain leaves the certificate. -/
theorem keepsPair_of_removed {faults : Faults} {after : Device} (empties : EmptiesPair faults device slot)
    (removed : ∀ file, file ≠ .key → after.fs.files (.slot slot file) =
      if faults.unlink (.slot slot file) = none then none else device.fs.files (.slot slot file)) :
    KeepsPair slot device after := by
  have chain := removed .chain (by decide)
  have cert := removed .cert (by decide)
  by_cases gone : faults.unlink (.slot slot .chain) = none
  · exact .inl (by rw [chain, if_pos gone])
  · rw [if_neg gone] at chain
    rcases empties with absent | removable | stuck
    · exact .inl (chain.trans absent)
    · exact absurd removable gone
    · exact .inr ⟨chain, fun _ => by rw [cert, if_neg stuck]⟩

theorem caDeleteKey_keepsPairs (empties : EmptiesPair env.toFaults device slot) :
    KeepsPairs device (caDeleteKey config env slot device).2 := by
  have deleted : KeepsPairs device (storageSlotDelete env.toFaults slot device).2 := by
    intro other
    by_cases here : other = slot
    · subst here
      exact keepsPair_of_removed empties fun file notKey => storageSlotDelete_file _ _ _ notKey
    · have same := storageSlotDelete_frame env.toFaults slot device
      exact .inr ⟨same _ (by simpa using here), fun _ => same _ (by simpa using here)⟩
  rcases caDeleteKey_cases config env slot device with same | ⟨_, _, _, removed⟩
  · rw [same]
    exact refl device
  · rw [removed]
    exact deleted

variable {wiped : Device}

/-- Which files outlive a wipe. -/
theorem storageSecureWipe_file {faults : Faults}
    (done : storageSecureWipe faults device = (.ok (), wiped)) (other : path ≠ .slot 0 .key) :
    wiped.fs.files path = if faults.unlink path = none then none else device.fs.files path := by
  have written := writeFile_frame faults (.slot 0 .key) (List.replicate keyBlobLen 0xA5) device
  obtain ⟨_, _, looked, done⟩ := Op.bind_eq_ok.mp done
  obtain ⟨_, _, passed, done⟩ := Op.bind_eq_ok.mp done
  rw [(Op.ensure_eq_ok.mp passed).2, ← (Prod.mk.inj looked).2] at done
  obtain ⟨_, between, wrote, done⟩ := Op.bind_eq_ok.mp done
  obtain rfl := (Prod.mk.inj done).2
  rw [← (Prod.mk.inj wrote).2]
  simp [Fs.removeCertDirs, Fs.removeIf, written path other.symm]

theorem storageSecureWipe_keepsPairs {faults : Faults}
    (empties : ∀ slot, EmptiesPair faults device slot) (done : storageSecureWipe faults device = (.ok (), wiped)) :
    KeepsPairs device wiped := by
  intro slot
  apply keepsPair_of_removed (empties slot)
  intro file notKey
  exact storageSecureWipe_file done (by simpa using fun _ => notKey)

/-- A boot certifies only a slot without certificate and chain. -/
theorem caInit_keepsPairs (paired : Paired device) : KeepsPairs device (caInit config crypto env device).2 := by
  by_cases present : (device.fs.files (.slot caSlot .cert)).isSome
  · have same : (caInit config crypto env device).2.fs = device.fs := caInit_of_cert device present
    exact fun slot => .inr ⟨by rw [same], fun _ => by rw [same]⟩
  · have same : SameOutside (Path.slot caSlot .cert = ·) device (caInit config crypto env device).2 :=
      caInit_respects (writable_of_touched rfl) (setProvisioned_sameOutside _) device
    have absent : device.fs.files (.slot caSlot .chain) = none := by
      by_contra held
      exact present (Option.isSome_iff_ne_none.mpr (paired caSlot held))
    apply keepsPairs_of_slot fun path outside => same path fun here => outside (.inl here.symm)
    exact .inl ((same _ (by simp)).trans absent)

theorem boot_keepsPairs (paired : Paired device) (volume : VolumeState) :
    KeepsPairs device (boot config crypto env volume device).2 := by
  have unmarked : Paired { device with provisioned := false, volume } := paired
  exact caInit_keepsPairs unmarked

end Replacing

/-! Whole runs. -/

/-- The request brings certificate and chain of the slot. -/
def Supplies (config : Config) (device : Device) (event : Event) (slot : Slot) (cert chain : Bytes) : Prop :=
  ∃ env data, executes config device event = some (env, .pushKeyCert, data) ∧
    slotArg data = slot ∧ pushedCert data = cert ∧ pushedChain data = chain

/-- Some request brought the certificate and the chain. -/
def Supplied (config : Config) (crypto : Crypto) (start : Device) (events : List Event) (slot : Slot)
    (cert chain : Bytes) : Prop :=
  ∃ visit ∈ visits (step config crypto) start events, Supplies config visit.1 visit.2 slot cert chain

/-- Every stored chain came with its certificate. -/
def Fresh (supplied : Slot → Bytes → Bytes → Prop) (device : Device) : Prop :=
  ∀ slot chain, device.fs.files (.slot slot .chain) = some chain →
    ∃ cert, device.fs.files (.slot slot .cert) = some cert ∧ supplied slot cert chain

/-- What replacing and removing commands ask of the medium. -/
def Orderly (config : Config) (device : Device) (event : Event) : Prop :=
  match executes config device event with
  | some (env, .pushCaCert, _) => DropsChain env.toFaults device caSlot
  | some (env, .pushKeyX509, data) => DropsChain env.toFaults device (slotArg data)
  | some (env, .signKeySlot, data) => DropsChain env.toFaults device (slotArg (data.drop 4))
  | some (env, .pushKeyCert, data) => ReplacesPair env.toFaults device (slotArg data) (pushedChain data)
  | some (env, .deleteKey, data) => EmptiesPair env.toFaults device (slotArg data)
  | some (env, .resetDevice, _) => ∀ slot, EmptiesPair env.toFaults device slot
  | _ => True

section Runs

variable {config : Config} {crypto : Crypto} {env : Env} {device : Device} {data : Bytes} {event : Event}

theorem Renews.fresh {earlier : Slot → Bytes → Bytes → Prop} {before after : Device}
    (renews : Renews supplied before after) (fresh : Fresh earlier before)
    (remembered : ∀ slot cert chain, earlier slot cert chain → supplied slot cert chain) :
    Fresh supplied after := by
  intro slot chain present
  rcases renews slot with (gone | ⟨sameChain, sameCert⟩) | ⟨cert, other, given, certHeld, chainHeld⟩
  · rw [gone] at present
    cases present
  · rw [sameChain] at present
    obtain ⟨cert, held, given⟩ := fresh slot chain present
    exact ⟨cert, (sameCert (by simp [present])).trans held, remembered slot cert chain given⟩
  · obtain rfl := Option.some.inj (chainHeld.symm.trans present)
    exact ⟨cert, certHeld, given⟩

theorem Fresh.paired (fresh : Fresh supplied device) : Paired device := by
  intro slot present
  obtain ⟨chain, held⟩ := Option.ne_none_iff_exists'.mp present
  obtain ⟨cert, installed, _⟩ := fresh slot chain held
  simp [installed]

/-- Commands other than `PUSH_KEY_CERT` bring no chain. -/
theorem Effect.keepsPairs {command : Command} {after : Device}
    (effect : Effect config crypto env data device command after)
    (runs : executes config device event = some (env, command, data)) (orderly : Orderly config device event)
    (other : command ≠ .pushKeyCert) (paired : Paired device) : KeepsPairs device after := by
  have general (plain : command ∈ framedCommands ∧ ∀ file ∈ slotFiles command, file ≠ .cert ∧ file ≠ .chain) :
      KeepsPairs device after :=
    effect.related plain.1 (fun file inside slot => offPairs_slot slot (plain.2 file inside)) (fun _ => offPairs_issued)
      fun _ _ => .inr ⟨rfl, fun _ => rfl⟩
  unfold Orderly at orderly
  rw [runs] at orderly
  cases effect with
  | refused => exact refl device
  | signKeySlot long => exact caSignKeySlot_keepsPairs orderly
  | pushCaCert => exact swapCert_keepsPairs orderly data
  | deleteKey => exact caDeleteKey_keepsPairs orderly
  | pushKeyCert cert chain => exact absurd rfl other
  | pushKeyX509 => exact caPushKeyX509_keepsPairs orderly _
  | resetDevice wiped done =>
    have kept := storageSecureWipe_keepsPairs orderly done
    exact IsTrans.trans _ _ _ kept (boot_keepsPairs (kept.paired paired) wiped.volume)
  | elsewhere _ bonds =>
    have same : SameOutside (fun path => ∃ id file, path = .client id file) device
        { device with fs := device.fs.withClients bonds } :=
      withClients_sameOutside (fun id file => ⟨id, file, rfl⟩) device bonds
    exact keepsPairs_of_sameOutside (fun slot => ⟨by simp, by simp⟩) same
  | _ => exact general (by decide)

/-- A step renews the chains with what its own request brings. -/
theorem step_renews (orderly : Orderly config device event) (paired : Paired device) :
    Renews (Supplies config device event) device (step config crypto device event) := by
  rcases step_cases config crypto device event with same | ⟨env, command, data, runs, effect⟩ |
    ⟨env, volume, rfl, booted⟩
  · rw [same]
    exact refl device
  · by_cases push : command = .pushKeyCert
    · subst push
      unfold Orderly at orderly
      rw [runs] at orderly
      rw [step_of_executes runs]
      show Renews _ device (handlePushKeyCert config crypto env data device).2
      rcases handlePushKeyCert_state config crypto env data device with refused | pushed
      · rw [refused]
        exact refl device
      · rw [pushed]
        exact caPushKeyCert_renews orderly ⟨env, data, runs, rfl, rfl, rfl⟩
    · exact (effect.keepsPairs runs orderly push paired).renews
  · exact (boot_keepsPairs paired volume).renews

/-- A slot's chain came with its certificate in orderly runs. -/
theorem run_chains_fresh (config : Config) (crypto : Crypto) (start : Device) (events : List Event)
    (chainless : ∀ slot, start.fs.files (.slot slot .chain) = none)
    (orderly : ∀ visit ∈ visits (step config crypto) start events, Orderly config visit.1 visit.2)
    (before after : List Event) (split : events = before ++ after) :
    Fresh (Supplied config crypto start before) (run (step config crypto) start before) := by
  subst split
  rw [visits_append] at orderly
  replace orderly := fun visit inside => orderly visit (List.mem_append_left _ inside)
  induction before using List.reverseRecOn with
  | nil =>
    intro slot chain present
    rw [run_nil, chainless slot] at present
    cases present
  | append_singleton early event ih =>
    rw [visits_append] at orderly
    have fresh := ih fun visit inside => orderly visit (List.mem_append_left _ inside)
    have last := orderly (run (step config crypto) start early, event) (by simp)
    rw [run_append]
    have renews : Renews (Supplied config crypto start (early ++ [event]))
        (run (step config crypto) start early)
        (step config crypto (run (step config crypto) start early) event) := by
      intro slot
      rcases step_renews last fresh.paired slot with kept | ⟨cert, chain, given, held⟩
      · exact .inl kept
      · refine .inr ⟨cert, chain, ⟨_, ?_, given⟩, held⟩
        simp [visits_append]
    apply renews.fresh fresh
    rintro slot cert chain ⟨visit, inside, given⟩
    exact ⟨visit, by rw [visits_append]; exact List.mem_append_left _ inside, given⟩

/-- A medium that does what it is told takes every chain along. -/
theorem orderly_of_faultless (written : ∀ path, event.env.write path = .done)
    (removed : ∀ path, event.env.unlink path = none) : Orderly config device event := by
  unfold Orderly
  split
  case h_7 => trivial
  all_goals
    rename_i runs
    rw [executes_env runs] at written removed
  · exact .inr (.inr ⟨written _, removed _⟩)
  · exact .inr (.inr ⟨written _, removed _⟩)
  · exact .inr (.inr ⟨written _, removed _⟩)
  · unfold ReplacesPair
    split_ifs
    · exact .inr (.inr ⟨written _, removed _⟩)
    · exact .inl ⟨written _, written _⟩
  · exact .inr (.inl (removed _))
  · exact fun slot => .inr (.inl (removed _))

theorem Supplies.request {cmd : UInt32} {slot : Slot}
    (supplies : Supplies config device (.request env cmd data) slot cert chain) :
    cmd = Command.pushKeyCert.code ∧ pushedCert data = cert := by
  obtain ⟨_, _, runs, _, cert_eq, _⟩ := supplies
  obtain ⟨_, same, admitted⟩ := executes_eq_some runs
  obtain ⟨rfl, rfl, rfl⟩ := Event.request.inj same
  exact ⟨(Protocol.dispatch_eq_executed admitted).2, cert_eq⟩

end Runs

/-- A certificate and a chain of one octet for slot 0. -/
def chainPush : Bytes :=
  [0, 0, 0, 0, 0, 69] ++ plainCert (plainPoint (List.replicate 32 1)) ++ [0x30]

/-- The root gets a certificate from outside, with its chain. -/
def chainUpload : List Event := [request 1 .provisionCa [], request 2 .pushKeyCert chainPush]

/-- The chain of slot 0 cannot be removed. -/
def stuckChain : Env :=
  { plainEnv 3 with unlink := fun path => if path = .slot caSlot .chain then some .eio else none }

/-- The run ends with the pair that came together. -/
theorem chainUpload_fresh :
    (run (step .default plainCrypto) blankDevice chainUpload).fs.files (.slot caSlot .chain) = some [0x30] ∧
      Fresh (Supplied .default plainCrypto blankDevice chainUpload)
        (run (step .default plainCrypto) blankDevice chainUpload) := by
  refine ⟨by decide +kernel, run_chains_fresh .default plainCrypto blankDevice chainUpload (fun _ => rfl) ?_ _ []
    (List.append_nil _).symm⟩
  intro visit visited
  simp only [chainUpload, visits_cons, visits_nil, List.mem_cons, List.not_mem_nil, or_false] at visited
  rcases visited with rfl | rfl
  · exact orderly_of_faultless (fun _ => rfl) fun _ => rfl
  · exact orderly_of_faultless (fun _ => rfl) fun _ => rfl

/-- A chain that was stuck stands next to another certificate. -/
theorem stuckChain_outlives :
    let events := chainUpload ++ [.request stuckChain Command.pushCaCert.code [1, 2, 3]]
    let device := run (step .default plainCrypto) blankDevice events
    device.fs.files (.slot caSlot .cert) = some [1, 2, 3] ∧ device.fs.files (.slot caSlot .chain) = some [0x30] ∧
      ¬ Fresh (Supplied .default plainCrypto blankDevice events) device := by
  intro events device
  have cert : device.fs.files (.slot caSlot .cert) = some [1, 2, 3] := by decide +kernel
  have chain : device.fs.files (.slot caSlot .chain) = some [0x30] := by decide +kernel
  refine ⟨cert, chain, fun fresh => ?_⟩
  obtain ⟨other, held, visit, visited, supplies⟩ := fresh caSlot [0x30] chain
  obtain rfl := Option.some.inj (cert.symm.trans held)
  simp only [events, chainUpload, List.cons_append, List.nil_append, visits_cons, visits_nil,
    List.mem_cons, List.not_mem_nil, or_false] at visited
  rcases visited with rfl | rfl | rfl
  · exact absurd supplies.request.1 (by decide)
  · exact absurd supplies.request.2 (by decide)
  · exact absurd supplies.request.1 (by decide)

end Cantil.Dispatcher
