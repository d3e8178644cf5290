import Cantil.Proof.KeyAgreement
import Cantil.Proof.Ledger
import Cantil.Proof.PathBuilding

namespace Cantil.Dispatcher
open Library Ca Trace
open Protocol (Command)

/-- What is built is read back, and what is signed verifies. -/
structure Inverse (crypto : Crypto) (encode : Dn → Bytes) (keyOid : Nat) (env : Env) : Prop where
  named : ∀ dn : Dn, dn.cn ≠ [] → encode dn ≠ []
  read : ∀ spec der, env.buildCert spec = .ok der → ∃ cert, decoded crypto.toWolfReader der = some cert ∧
    cert.subjectRaw = encode spec.subjectDn ∧ cert.issuerRaw = encode spec.issuerDn ∧
    (spec.emitBc = true → cert.isCa = spec.isCa) ∧ cert.keyOid = keyOid ∧
    ∀ privkey point, crypto.pubkeyFromPrivkey privkey = .ok point → KeyArg.Point crypto spec.subjectKey point →
      extractPubkey cert = some point
  verifies : ∀ spec der, env.buildCert spec = .ok der → ∃ pub, crypto.pubkeyFromPrivkey spec.issuerPriv = .ok pub ∧
    ∀ anchor cert, decoded crypto.toWolfReader anchor = some cert → extractPubkey cert = some pub →
      cert.keyOid = keyOid → crypto.checkCertSigPubKey der cert.publicKey keyOid = true

/-- Name, key kind and CA flag are those of the parameters. -/
structure Titled (encode : Dn → Bytes) (keyOid : Nat) (params : X509Params) (cert : DecodedCert) : Prop where
  name : cert.subjectRaw = encode (paramsToDn params)
  kind : cert.keyOid = keyOid
  flag : params.isCa ≠ 0 → cert.isCa = true

/-- The certificate shows the slot's name and key. -/
def Portrays (crypto : Crypto) (encode : Dn → Bytes) (keyOid : Nat) (device : Device) (slot : Slot)
    (der : Bytes) : Prop :=
  ∃ params privkey pub cert, (loadIssuerX509Params slot device).1 = .ok params ∧
    storedKey crypto device slot = .ok privkey ∧ crypto.pubkeyFromPrivkey privkey = .ok pub ∧
    decoded crypto.toWolfReader der = some cert ∧ extractPubkey cert = some pub ∧ Titled encode keyOid params cert

/-- A slot that can sign holds its own portrait. -/
def PortrayedAt (crypto : Crypto) (encode : Dn → Bytes) (keyOid : Nat) (slot : Slot) (device : Device) : Prop :=
  device.fs.files (.slot slot .x509Data) ≠ none →
    ∃ der, device.fs.files (.slot slot .cert) = some der ∧ Portrays crypto encode keyOid device slot der

/-- Every slot is portrayed by its certificate. -/
def Portrayed (config : Config) (crypto : Crypto) (encode : Dn → Bytes) (keyOid : Nat) (device : Device) : Prop :=
  ∀ slot < config.maxKeySlots, PortrayedAt crypto encode keyOid slot device

section Portraits

variable {config : Config} {crypto : Crypto} {encode : Dn → Bytes} {keyOid : Nat} {env : Env} {device : Device}
variable {slot : Slot}

/-- The parameters come out of the file of the slot. -/
theorem loadIssuerX509Params_file {params : X509Params}
    (loaded : (loadIssuerX509Params slot device).1 = .ok params) :
    ∃ data, device.fs.files (.slot slot .x509Data) = some data ∧ x509Parse (data.take x509DataMax) = .ok params := by
  obtain ⟨content, read, parsed⟩ := Op.read_ok loaded
  obtain ⟨data, held, rfl⟩ := readFile_ok read
  exact ⟨data, held, parsed⟩

/-- Portraits depend on the key and the parameters alone. -/
theorem Portrays.congr {after : Device} {der : Bytes} (portrays : Portrays crypto encode keyOid device slot der)
    (key : after.fs.files (.slot slot .key) = device.fs.files (.slot slot .key))
    (params : after.fs.files (.slot slot .x509Data) = device.fs.files (.slot slot .x509Data)) :
    Portrays crypto encode keyOid after slot der := by
  obtain ⟨found, privkey, pub, cert, loaded, stored, rest⟩ := portrays
  refine ⟨found, privkey, pub, cert, ?_, ?_, rest⟩
  · rw [← loaded]
    simp only [loadIssuerX509Params, storageSlotX509Read, readFile, Op.bind_apply, Op.reads_apply, params]
    cases device.fs.files (.slot slot .x509Data) <;> rfl
  · rw [← stored]
    simp only [storedKey, storageKeyRead, readFile, Op.reads_apply, key]

/-- A certificate of the slot hangs on its portrait. -/
theorem verify_of_portrays {spec : CertSpec} {der anchor : Bytes} {params : X509Params}
    (lawful : Inverse crypto encode keyOid env) (portrays : Portrays crypto encode keyOid device slot anchor)
    (loaded : (loadIssuerX509Params slot device).1 = .ok params) (authority : params.isCa ≠ 0)
    (stored : storedKey crypto device slot = .ok spec.issuerPriv) (issuer : spec.issuerDn = paramsToDn params)
    (built : env.buildCert spec = .ok der) : certparseVerifyChain crypto.toWolfReader der [] anchor = .ok () := by
  obtain ⟨found, privkey, pub, parent, again, held, derived, decodes, point, titled⟩ := portrays
  obtain rfl := Except.ok.inj (loaded.symm.trans again)
  obtain rfl := Except.ok.inj (stored.symm.trans held)
  obtain ⟨child, reads, _, names, _⟩ := lawful.read spec der built
  obtain ⟨signer, key, verifies⟩ := lawful.verifies spec der built
  obtain rfl := Except.ok.inj (derived.symm.trans key)
  obtain ⟨data, _, parsed⟩ := loadIssuerX509Params_file loaded
  have link : Signs crypto.toWolfReader (der, child) (anchor, parent) := by
    refine ⟨titled.flag authority, ?_, ?_, ?_⟩
    · rw [names, issuer, titled.name]
    · rw [names, issuer]
      exact lawful.named _ (x509Parse_sound parsed).named
    · rw [titled.kind]
      exact verifies anchor parent decodes point titled.kind
  apply (certparseVerifyChain_iff_hasPath _ der anchor (Nat.zero_le _)).mpr
  exact ⟨child, parent, reads, decodes, [], by simp, by simpa using link⟩

end Portraits

/-- Keys and parameters stay, and new certificates are portraits. -/
def KeepsPortraits (crypto : Crypto) (encode : Dn → Bytes) (keyOid : Nat) (before after : Device) : Prop :=
  (∀ slot, after.fs.files (.slot slot .key) = before.fs.files (.slot slot .key) ∧
    after.fs.files (.slot slot .x509Data) = before.fs.files (.slot slot .x509Data)) ∧
  ∀ slot, after.fs.files (.slot slot .cert) = before.fs.files (.slot slot .cert) ∨
    ∃ der, after.fs.files (.slot slot .cert) = some der ∧
      (before.fs.files (.slot slot .x509Data) ≠ none → Portrays crypto encode keyOid before slot der)

section Frame

variable {config : Config} {crypto : Crypto} {encode : Dn → Bytes} {keyOid : Nat} {before after : Device}
variable {slot : Slot} {faults : Faults}

instance : IsPreorder Device (KeepsPortraits crypto encode keyOid) where
  refl _ := ⟨fun _ => ⟨rfl, rfl⟩, fun _ => .inl rfl⟩
  trans first second third earlier later := by
    refine ⟨fun slot => ⟨(later.1 slot).1.trans (earlier.1 slot).1, (later.1 slot).2.trans (earlier.1 slot).2⟩,
      fun slot => ?_⟩
    rcases later.2 slot with same | ⟨der, held, portrays⟩
    · rcases earlier.2 slot with unchanged | ⟨der, held, portrays⟩
      · exact .inl (same.trans unchanged)
      · exact .inr ⟨der, same.trans held, portrays⟩
    · refine .inr ⟨der, held, fun present => ?_⟩
      rw [← (earlier.1 slot).2] at present
      exact (portrays present).congr (earlier.1 slot).1.symm (earlier.1 slot).2.symm

theorem keepsPortraits_of_fs (same : after.fs = before.fs) : KeepsPortraits crypto encode keyOid before after :=
  ⟨fun _ => by simp [same], fun _ => .inl (by rw [same])⟩

theorem KeepsPortraits.portrayedAt (kept : KeepsPortraits crypto encode keyOid before after)
    (portrayed : PortrayedAt crypto encode keyOid slot before) : PortrayedAt crypto encode keyOid slot after := by
  intro present
  obtain ⟨key, params⟩ := kept.1 slot
  rw [params] at present
  rcases kept.2 slot with same | ⟨der, held, portrays⟩
  · obtain ⟨der, held, portrays⟩ := portrayed present
    exact ⟨der, same.trans held, portrays.congr key params⟩
  · exact ⟨der, held, (portrays present).congr key params⟩

theorem KeepsPortraits.portrayed (kept : KeepsPortraits crypto encode keyOid before after)
    (portrayed : Portrayed config crypto encode keyOid before) : Portrayed config crypto encode keyOid after :=
  fun slot inside => kept.portrayedAt (portrayed slot inside)

theorem Portrayed.of_fs (portrayed : Portrayed config crypto encode keyOid before) (same : after.fs = before.fs) :
    Portrayed config crypto encode keyOid after := (keepsPortraits_of_fs same).portrayed portrayed

/-- A change of one slot is looked at in that slot. -/
theorem Portrayed.change (portrayed : Portrayed config crypto encode keyOid before)
    (same : SameOutside (fun path => ∃ file, path = .slot slot file) before after)
    (here : slot < config.maxKeySlots → PortrayedAt crypto encode keyOid slot after) :
    Portrayed config crypto encode keyOid after := by
  intro other inside
  by_cases changed : other = slot
  · exact changed ▸ here (changed ▸ inside)
  · have files (file : SlotFile) : after.fs.files (.slot other file) = before.fs.files (.slot other file) :=
      same _ (by simpa using changed)
    intro present
    rw [files] at present
    obtain ⟨der, held, portrays⟩ := portrayed other inside present
    exact ⟨der, (files .cert).trans held, portrays.congr (files .key) (files .x509Data)⟩

/-- The path is no key, parameters or certificate. -/
def OffPortraits (path : Path) : Prop :=
  ∀ slot, path ≠ .slot slot .key ∧ path ≠ .slot slot .x509Data ∧ path ≠ .slot slot .cert

theorem keepsPortraits_of_sameOutside (same : SameOutside OffPortraits before after) :
    KeepsPortraits crypto encode keyOid before after := by
  refine ⟨fun slot => ⟨same _ fun off => (off slot).1 rfl, same _ fun off => (off slot).2.1 rfl⟩, fun slot => ?_⟩
  exact .inl (same _ fun off => (off slot).2.2 rfl)

theorem writable_of_offPortraits {path : Path} (off : OffPortraits path) :
    Writable (KeepsPortraits crypto encode keyOid) faults path :=
  (writable_of_touched off).mono fun _ _ => keepsPortraits_of_sameOutside

theorem offPortraits_issued (name : Bytes) (file : IssuedFile) :
    Writable (KeepsPortraits crypto encode keyOid) faults (.issued name file) :=
  writable_of_offPortraits (by simp [OffPortraits])

theorem offPortraits_slot (slot : Slot) {file : SlotFile} (other : file ≠ .key ∧ file ≠ .x509Data ∧ file ≠ .cert) :
    Writable (KeepsPortraits crypto encode keyOid) faults (.slot slot file) :=
  writable_of_offPortraits (by simp [OffPortraits, other])

/-- A portrait may be written. -/
theorem writeCert_keepsPortraits {der : Bytes} (device : Device) (written : faults.write (.slot slot .cert) = .done)
    (portrays : device.fs.files (.slot slot .x509Data) ≠ none → Portrays crypto encode keyOid device slot der) :
    KeepsPortraits crypto encode keyOid device (writeFile faults (.slot slot .cert) der device).2 := by
  rw [writeFile_done written]
  refine ⟨fun other => ⟨by simp, by simp⟩, fun other => ?_⟩
  by_cases here : other = slot
  · subst here
    exact .inr ⟨der, by simp, portrays⟩
  · exact .inl (by simp [here])

end Frame

section Commands

variable {config : Config} {crypto : Crypto} {encode : Dn → Bytes} {keyOid : Nat} {env : Env} {device : Device}
variable {slot : Slot}
variable {params : X509Params} {privkey der content : Bytes}

/-- A certificate for the slot's key and name portrays it. -/
theorem Inverse.portrays {spec : CertSpec} {pub : Bytes} (lawful : Inverse crypto encode keyOid env)
    (built : env.buildCert spec = .ok der) (loaded : (loadIssuerX509Params slot device).1 = .ok params)
    (stored : storedKey crypto device slot = .ok privkey) (derived : crypto.pubkeyFromPrivkey privkey = .ok pub)
    (subject : KeyArg.Point crypto spec.subjectKey pub) (name : spec.subjectDn = paramsToDn params)
    (flag : params.isCa ≠ 0 → spec.emitBc = true ∧ spec.isCa = true) :
    Portrays crypto encode keyOid device slot der := by
  obtain ⟨cert, reads, subjectName, _, constraint, kind, point⟩ := lawful.read spec der built
  refine ⟨params, privkey, pub, cert, loaded, stored, derived, reads, point privkey pub derived subject, ?_, kind, ?_⟩
  · rw [subjectName, name]
  · intro authority
    obtain ⟨emitted, isCa⟩ := flag authority
    rw [constraint emitted, isCa]

theorem Inverse.portrays_self {serial : Bytes} (lawful : Inverse crypto encode keyOid env)
    (loaded : (loadIssuerX509Params slot device).1 = .ok params) (stored : storedKey crypto device slot = .ok privkey)
    (built : env.buildCert (selfSpec params privkey serial) = .ok der) :
    Portrays crypto encode keyOid device slot der := by
  obtain ⟨pub, derived, _⟩ := lawful.verifies _ _ built
  apply lawful.portrays built loaded stored derived derived rfl
  intro authority
  simp [selfSpec, authority]

/-- Only a slot with a key has a portrait. -/
theorem PortrayedAt.params_of_key (portrayed : PortrayedAt crypto encode keyOid slot device)
    (absent : device.fs.files (.slot slot .key) = none) : device.fs.files (.slot slot .x509Data) = none := by
  by_contra present
  obtain ⟨_, _, _, privkey, _, _, _, stored, _⟩ := portrayed present
  simp [storedKey, storageKeyRead, readFile, absent, bind, Except.bind] at stored

/-- A new key finds no parameters. -/
theorem createKey_portrayed (absent : device.fs.files (.slot slot .key) = none) (record : SlotMeta) :
    Op.Keeps (Portrayed config crypto encode keyOid) device (createKey env slot record device).2 := by
  intro portrayed
  have same := createKey_frame env slot record device
  have elsewhere : SameOutside (fun path => ∃ file, path = .slot slot file) device
      (createKey env slot record device).2 := by
    intro path off
    apply same
    rintro (rfl | rfl)
    · exact off ⟨_, rfl⟩
    · exact off ⟨_, rfl⟩
  apply portrayed.change elsewhere
  intro inside present
  rw [same _ (by simp), (portrayed slot inside).params_of_key absent] at present
  exact absurd rfl present

theorem caProvision_portrayed (keyType : UInt8) :
    Op.Respects (Op.Keeps (Portrayed config crypto encode keyOid)) (caProvision env keyType) := fun _ =>
  caProvision_related (fun _ portrayed => portrayed.of_fs rfl) fun absent _ => createKey_portrayed absent _

theorem caGenKey_portrayed (keyType : UInt8) :
    Op.Respects (Op.Keeps (Portrayed config crypto encode keyOid)) (caGenKey config env keyType) := fun _ =>
  caGenKey_related fun _ found _ => createKey_portrayed (firstFreeSlot_absent found) _

/-- What a slot needs for a certificate of its own. -/
def SelfSigns (crypto : Crypto) (env : Env) (device : Device) (slot : Slot) (params : X509Params) : Prop :=
  ∃ privkey serial der, (loadSlotPrivkey crypto env slot device).1 = .ok privkey ∧ Draws env serial ∧
    env.buildCert (selfSpec params privkey serial) = .ok der

/-- Parameters that pass the checks of a push. -/
structure StoresParams (device : Device) (slot : Slot) (content : Bytes) (params : X509Params) : Prop where
  size : content.length ≠ 0 ∧ content.length ≤ x509DataMax
  unprotected : (protectedWithCert slot device).1 = .ok false
  parsed : x509Parse content = .ok params

/-- A certificate is written for a slot that has what it needs. -/
theorem buildSelfSignedCert_of_selfSigns {serial : Bytes} (inside : slot < config.maxKeySlots)
    (loaded : (loadSlotPrivkey crypto env slot device).1 = .ok privkey) (draws : Draws env serial)
    (built : env.buildCert (selfSpec params privkey serial) = .ok der) :
    buildSelfSignedCert config crypto env slot params device =
      storageSlotCertWrite env.toFaults slot der device := by
  have passed : Op.ensure (slot < config.maxKeySlots) Errno.einval device = (.ok (), device) :=
    Op.ensure_eq_ok.mpr ⟨inside, rfl⟩
  have opened := Op.read_eq loaded
  have drawn := Op.read_eq (draws device)
  have made : (Op.lift (env.buildCert (selfSpec params privkey serial)) : Op Device Errno Bytes) device =
      (.ok der, device) := by rw [Op.lift_apply, built]
  unfold buildSelfSignedCert
  rw [Op.bind_of_ok passed, Op.bind_of_ok opened, Op.bind_of_ok drawn]
  exact Op.bind_of_ok made

/-- Parameters are stored and come back. -/
theorem loadIssuerX509Params_put (device : Device) (place : Nat) (slot : Slot) (short : content.length ≤ x509DataMax)
    (parsed : x509Parse content = .ok params) :
    (loadIssuerX509Params slot { device with fs := device.fs.put place (.slot slot .x509Data) content }).1 =
      .ok params := by
  simp [loadIssuerX509Params, storageSlotX509Read, readFile, Op.bind_apply, List.take_of_length_le short, parsed]

variable (reliable : Reliable env.toFaults)
include reliable

theorem storageSlotDelete_portrayed :
    Op.Respects (Op.Keeps (Portrayed config crypto encode keyOid)) (storageSlotDelete env.toFaults slot) := by
  intro device portrayed
  apply portrayed.change (storageSlotDelete_respects (fun file => ⟨file, rfl⟩) device)
  intro _ present
  rw [storageSlotDelete_files reliable.unlink] at present
  exact absurd rfl present

/-- The certificate of a push has to portray the slot. -/
theorem replacePair_keepsPortraits {cert : Bytes} (chain : Bytes)
    (portrays : device.fs.files (.slot slot .x509Data) ≠ none → Portrays crypto encode keyOid device slot cert) :
    KeepsPortraits crypto encode keyOid device ((do
      storageSlotCertWrite env.toFaults slot cert
      replaceChain env slot chain : Op Device Errno Unit) device).2 :=
  Op.relates_bind (writeCert_keepsPortraits device (reliable.write _) portrays) fun _ between _ =>
    replaceChain_respects (offPortraits_slot slot (by decide)) chain between

variable (lawful : Inverse crypto encode keyOid env)
include lawful

theorem caSignKeySlot_keepsPortraits (issuer : Slot) :
    Op.Respects (KeepsPortraits crypto encode keyOid) (caSignKeySlot config crypto env issuer slot) := by
  intro device
  apply Op.relates_reader
  intro issue prepared
  obtain ⟨_, _, params, privkey, subjectParams, subjectPub, _, loaded, derives, built, _⟩ :=
    prepareKeyIssue_iff.mp prepared
  obtain ⟨subjectKey, stored, derived⟩ := storedKey_of_derive derives
  have portrays : Portrays crypto encode keyOid device slot issue.der :=
    lawful.portrays built loaded stored derived rfl rfl fun authority => by simp [keySpec, authority]
  have chain : Op.Respects (KeepsPortraits crypto encode keyOid) (storageSlotChainDelete env.toFaults slot) :=
    storageSlotChainDelete_respects (offPortraits_slot slot (by decide))
  refine Op.relates_bind (writeCert_keepsPortraits device (reliable.write _) fun _ => portrays) fun _ between _ => ?_
  exact (chain.attempt.bind fun _ => persistIssue_respects (offPortraits_issued _)) between

/-- A certificate of the stored parameters portrays the slot. -/
theorem buildSelfSignedCert_keepsPortraits (loaded : (loadIssuerX509Params slot device).1 = .ok params) :
    KeepsPortraits crypto encode keyOid device (buildSelfSignedCert config crypto env slot params device).2 := by
  apply Op.relates_ensure
  intro _
  apply Op.relates_reader
  intro privkey opened
  apply Op.relates_reader
  intro serial _
  apply Op.relates_reader
  intro der built
  exact writeCert_keepsPortraits device (reliable.write _) fun _ =>
    lawful.portrays_self loaded (storedKey_of_load opened) built

theorem caInit_keepsPortraits : Op.Respects (KeepsPortraits crypto encode keyOid) (caInit config crypto env) :=
  fun _ => caInit_related (fun _ => keepsPortraits_of_fs rfl) fun _ _ _ =>
    buildSelfSignedCert_keepsPortraits reliable lawful

/-- A push leaves the portrait of the slot behind. -/
theorem caPushKeyX509_portrayedAt (inside : slot < config.maxKeySlots)
    (signs : ∀ params, StoresParams device slot content params → SelfSigns crypto env device slot params) :
    Op.Keeps (PortrayedAt crypto encode keyOid slot) device
      (caPushKeyX509 config crypto env slot content device).2 := by
  apply caPushKeyX509_related
  intro params size looked parsed
  obtain ⟨privkey, serial, der, opened, draws, built⟩ := signs params ⟨size, looked, parsed⟩
  have wrote : storageSlotX509Write env.toFaults slot content device = _ :=
    writeFile_done (reliable.write _) content device
  have loaded := loadIssuerX509Params_put device env.place slot size.2 parsed
  rw [Op.bind_of_ok wrote]
  generalize stores : ({ device with fs := device.fs.put env.place (.slot slot .x509Data) content } : Device) =
    stored at loaded
  have key : stored.fs.files (.slot slot .key) = device.fs.files (.slot slot .key) := by simp [← stores]
  rw [← loadSlotPrivkey_congr key] at opened
  have portrays : Portrays crypto encode keyOid stored slot der :=
    lawful.portrays_self loaded (storedKey_of_load opened) built
  have signed : storageSlotCertWrite env.toFaults slot der stored = _ :=
    writeFile_done (reliable.write _) der stored
  have chain : Op.Respects (KeepsPortraits crypto encode keyOid) (storageSlotChainDelete env.toFaults slot) :=
    storageSlotChainDelete_respects (offPortraits_slot slot (by decide))
  rw [Op.bind_apply, buildSelfSignedCert_of_selfSigns inside opened draws built, ← Op.bind_apply,
    Op.bind_of_ok signed]
  intro _
  apply (chain.attempt.bind (fun _ => .pure _) _).portrayedAt
  exact fun _ => ⟨der, by simp, portrays.congr (by simp) (by simp)⟩

theorem caPushKeyX509_portrayed (portrayed : Portrayed config crypto encode keyOid device)
    (signs : slot < config.maxKeySlots → ∀ params, StoresParams device slot content params →
      SelfSigns crypto env device slot params) :
    Portrayed config crypto encode keyOid (caPushKeyX509 config crypto env slot content device).2 := by
  have same : SameOutside (fun path => ∃ file, path = .slot slot file) device
      (caPushKeyX509 config crypto env slot content device).2 :=
    caPushKeyX509_respects (writable_of_touched ⟨_, rfl⟩) (writable_of_touched ⟨_, rfl⟩)
      (writable_of_touched ⟨_, rfl⟩) content device
  apply portrayed.change same
  intro inside
  exact caPushKeyX509_portrayedAt reliable lawful inside (signs inside) (portrayed slot inside)

theorem boot_portrayed (portrayed : Portrayed config crypto encode keyOid device) (volume : VolumeState) :
    Portrayed config crypto encode keyOid (boot config crypto env volume device).2 := by
  apply (caInit_keepsPortraits reliable lawful { device with provisioned := false, volume }).portrayed
  exact portrayed.of_fs rfl

end Commands

/-- The parameters of the slot are those of a CA. -/
def IsAuthority (device : Device) (slot : Slot) : Prop :=
  ∀ params, (loadIssuerX509Params slot device).1 = .ok params → params.isCa ≠ 0

/-- Certificates and parameters match, and signers are CAs. -/
def TrueToParams (config : Config) (crypto : Crypto) (encode : Dn → Bytes) (keyOid : Nat) (device : Device)
    (event : Event) : Prop :=
  match executes config device event with
  | some (env, .pushKeyX509, data) => slotArg data < config.maxKeySlots → ∀ params,
      StoresParams device (slotArg data) (data.drop 4) params → SelfSigns crypto env device (slotArg data) params
  | some (_, .pushCaCert, data) => device.fs.files (.slot caSlot .x509Data) ≠ none →
      Portrays crypto encode keyOid device caSlot data
  | some (_, .pushKeyCert, data) => ∀ params cert, (loadIssuerX509Params (slotArg data) device).1 = .ok params →
      decoded crypto.toWolfReader (pushedCert data) = some cert → Titled encode keyOid params cert
  | some (_, .signCsr, _) => IsAuthority device caSlot
  | some (_, .signCsrSlot, data) => IsAuthority device (slotArg data)
  | some (_, .signKeySlot, data) => IsAuthority device (slotArg data)
  | _ => True

section Steps

variable {config : Config} {crypto : Crypto} {encode : Dn → Bytes} {keyOid : Nat} {env : Env} {device : Device}
variable {event : Event} {data : Bytes}
variable {slot : Slot} {issue : Issue}

theorem certparseCert_decoded {wolf : WolfReader} {der : Bytes} {parsed : ParsedCert}
    (read : certparseCert wolf der = .ok parsed) :
    ∃ cert, decoded wolf der = some cert ∧ parsed.pubkey = extractPubkey cert := by
  unfold certparseCert at read
  unfold decoded
  split_ifs at read ⊢ with empty
  cases found : wolf.parseCert der with
  | none => simp [found] at read
  | some cert =>
    simp only [found] at read
    obtain rfl := Except.ok.inj read
    exact ⟨cert, rfl, rfl⟩

/-- The code compares the key, but neither name nor flag. -/
theorem caPushKeyCert_keepsPortraits {cert : Bytes} (reliable : Reliable env.toFaults)
    (portrayed : Portrayed config crypto encode keyOid device)
    (titled : ∀ params found, (loadIssuerX509Params slot device).1 = .ok params →
      decoded crypto.toWolfReader cert = some found → Titled encode keyOid params found)
    (chain : Bytes) :
    KeepsPortraits crypto encode keyOid device (caPushKeyCert config crypto env slot cert chain device).2 := by
  apply caPushKeyCert_related
  intro parsed pub inside _ read derives matched
  apply replacePair_keepsPortraits reliable
  intro present
  obtain ⟨_, _, params, _, _, _, loaded, _⟩ := portrayed slot inside present
  obtain ⟨privkey, stored, derived⟩ := storedKey_of_derive derives
  obtain ⟨found, decodes, point⟩ := certparseCert_decoded read
  exact ⟨params, privkey, pub, found, loaded, stored, derived, decodes, point.symm.trans matched,
    titled params found loaded decodes⟩

/-- The commands whose effect says all that is needed. -/
theorem Effect.portrayed {command : Command} {after : Device}
    (effect : Effect config crypto env data device command after) (reliable : Reliable env.toFaults)
    (lawful : Inverse crypto encode keyOid env) (portrayed : Portrayed config crypto encode keyOid device)
    (runs : executes config device event = some (env, command, data))
    (truthful : TrueToParams config crypto encode keyOid device event) (other : command ≠ .pushKeyCert) :
    Portrayed config crypto encode keyOid after := by
  have general (plain : command ∈ framedCommands ∧
      ∀ file ∈ slotFiles command, file ≠ .key ∧ file ≠ .x509Data ∧ file ≠ .cert) :
      Portrayed config crypto encode keyOid after :=
    KeepsPortraits.portrayed (effect.related plain.1
      (fun file inside slot => offPortraits_slot slot (plain.2 file inside))
      (fun _ => offPortraits_issued) fun _ => keepsPortraits_of_fs rfl) portrayed
  rw [TrueToParams, runs] at truthful
  cases effect with
  | refused => exact portrayed
  | signKeySlot long => exact (caSignKeySlot_keepsPortraits reliable lawful _ device).portrayed portrayed
  | pushCaCert => exact (replacePair_keepsPortraits reliable [] truthful).portrayed portrayed
  | genKey => exact caGenKey_portrayed _ device portrayed
  | deleteKey => exact caDeleteKey_respects (storageSlotDelete_portrayed reliable) device portrayed
  | pushKeyCert cert chain => exact absurd rfl other
  | pushKeyX509 => exact caPushKeyX509_portrayed reliable lawful portrayed truthful
  | provisionCa => exact caProvision_portrayed _ device portrayed
  | resetDevice wiped done =>
    apply boot_portrayed reliable lawful
    intro slot _ present
    rw [storageSecureWipe_files reliable.unlink done] at present
    exact absurd rfl present
  | elsewhere _ bonds =>
    have same : SameOutside OffPortraits device { device with fs := device.fs.withClients bonds } :=
      withClients_sameOutside (by simp [OffPortraits]) device bonds
    exact (keepsPortraits_of_sameOutside same).portrayed portrayed
  | _ => exact general (by decide)

theorem step_portrayed (reliable : Reliable event.env.toFaults) (lawful : Inverse crypto encode keyOid event.env)
    (truthful : TrueToParams config crypto encode keyOid device event)
    (portrayed : Portrayed config crypto encode keyOid device) :
    Portrayed config crypto encode keyOid (step config crypto device event) := by
  rcases step_cases config crypto device event with same | ⟨env, command, data, runs, effect⟩ |
    ⟨env, volume, rfl, booted⟩
  · rw [same]
    exact portrayed
  · rw [executes_env runs] at reliable lawful
    by_cases push : command = .pushKeyCert
    · subst push
      rw [TrueToParams, runs] at truthful
      rw [step_of_executes runs, handle]
      rcases handlePushKeyCert_state config crypto env data device with same | pushed
      · rw [same]
        exact portrayed
      · rw [pushed]
        exact (caPushKeyCert_keepsPortraits reliable portrayed truthful _).portrayed portrayed
    · exact effect.portrayed reliable lawful portrayed runs truthful push
  · exact boot_portrayed reliable lawful portrayed volume

/-- A signature changes neither keys nor parameters. -/
theorem Effect.keepsPortraits_of_signs {command : Command} {after : Device}
    (effect : Effect config crypto env data device command after) (reliable : Reliable env.toFaults)
    (lawful : Inverse crypto encode keyOid env) (signed : signs config crypto env data device command = some issue) :
    KeepsPortraits crypto encode keyOid device after := by
  cases effect with
  | refused => exact refl device
  | signCsr | signCsrSlot => exact caSignCsrSlot_respects offPortraits_issued _ _ device
  | signKeySlot long => exact caSignKeySlot_keepsPortraits reliable lawful _ device
  | elsewhere _ bonds =>
    exact keepsPortraits_of_sameOutside (withClients_sameOutside (by simp [OffPortraits]) device bonds)
  | _ => cases signed

/-- What a signature is made of. -/
structure SignedAs (crypto : Crypto) (env : Env) (device : Device) (issue : Issue) (params : X509Params)
    (spec : CertSpec) : Prop where
  loaded : (loadIssuerX509Params issue.issuerSlot device).1 = .ok params
  stored : storedKey crypto device issue.issuerSlot = .ok spec.issuerPriv
  issuer : spec.issuerDn = paramsToDn params
  built : env.buildCert spec = .ok issue.der

theorem signedAs_of_prepareCsr {csr : Bytes} {capacity : Nat}
    (prepared : (prepareCsrIssue config crypto env slot csr capacity device).1 = .ok issue) :
    issue.issuerSlot = slot ∧ slot < config.maxKeySlots ∧
      ∃ params spec, SignedAs crypto env device issue params spec := by
  obtain ⟨_, _, params, privkey, subject, ready, _, built, _, rfl, _⟩ := prepareCsrIssue_iff.mp prepared
  exact ⟨rfl, ready.inside, params, _, ready.params, storedKey_of_load ready.privkey, rfl, built⟩

theorem signedAs_of_prepareKey {subject : Slot}
    (prepared : (prepareKeyIssue config crypto env slot subject device).1 = .ok issue) :
    issue.issuerSlot = slot ∧ slot < config.maxKeySlots ∧
      ∃ params spec, SignedAs crypto env device issue params spec := by
  obtain ⟨_, _, params, privkey, _, _, ready, _, _, built, rfl, _⟩ := prepareKeyIssue_iff.mp prepared
  exact ⟨rfl, ready.inside, params, _, ready.params, storedKey_of_load ready.privkey, rfl, built⟩

/-- Certificates are issued by slots with the parameters of a CA. -/
theorem issues_signedAs (issued : issues config crypto device event = some issue)
    (truthful : TrueToParams config crypto encode keyOid device event) :
    issue.issuerSlot < config.maxKeySlots ∧ IsAuthority device issue.issuerSlot ∧
      ∃ params spec, SignedAs crypto event.env device issue params spec := by
  obtain ⟨⟨env, command, data⟩, runs, signed⟩ := Option.bind_eq_some_iff.mp issued
  rw [TrueToParams, runs] at truthful
  rw [executes_env runs]
  cases command
  case signCsr =>
    obtain ⟨issuer, inside, made⟩ := signedAs_of_prepareCsr (toOption_eq_some.mp signed)
    rw [issuer]
    exact ⟨inside, truthful, made⟩
  case signCsrSlot =>
    simp only [signs] at signed
    split_ifs at signed
    obtain ⟨issuer, inside, made⟩ := signedAs_of_prepareCsr (toOption_eq_some.mp signed)
    rw [issuer]
    exact ⟨inside, truthful, made⟩
  case signKeySlot =>
    simp only [signs] at signed
    split_ifs at signed
    obtain ⟨issuer, inside, made⟩ := signedAs_of_prepareKey (toOption_eq_some.mp signed)
    rw [issuer]
    exact ⟨inside, truthful, made⟩
  all_goals cases signed

theorem step_keepsPortraits_of_issues (reliable : Reliable event.env.toFaults)
    (lawful : Inverse crypto encode keyOid event.env) (issued : issues config crypto device event = some issue) :
    KeepsPortraits crypto encode keyOid device (step config crypto device event) := by
  obtain ⟨⟨env, command, data⟩, runs, signed⟩ := Option.bind_eq_some_iff.mp issued
  rw [executes_env runs] at reliable lawful
  rw [step_of_executes runs]
  exact (handle_effect command).keepsPortraits_of_signs reliable lawful signed

end Steps

/-- Issued certificates verify where steps keep to parameters. -/
theorem run_issued_verify (config : Config) (crypto : Crypto) (encode : Dn → Bytes) (keyOid : Nat) (start : Device)
    (events : List Event) (blank : start.fs = Fs.empty)
    (lawful : ∀ event ∈ events, Inverse crypto encode keyOid event.env)
    (truthful : ∀ visit ∈ visits (step config crypto) start events,
      Reliable visit.2.env.toFaults ∧ TrueToParams config crypto encode keyOid visit.1 visit.2)
    (device : Device) (event : Event) (visited : (device, event) ∈ visits (step config crypto) start events)
    (issue : Issue) (issued : issues config crypto device event = some issue) :
    ∀ moment ∈ [device, step config crypto device event],
      ∃ anchor, moment.fs.files (.slot issue.issuerSlot .cert) = some anchor ∧
        certparseVerifyChain crypto.toWolfReader issue.der [] anchor = .ok () := by
  obtain ⟨reliable, truly⟩ := truthful _ visited
  obtain ⟨before, after, split, reached⟩ := (mem_visits_iff _ start events device event).mp visited
  have law := lawful event (event_of_visit visited)
  have initial : Portrayed config crypto encode keyOid start := by
    intro slot _ present
    rw [blank] at present
    exact absurd rfl present
  have portrayed : Portrayed config crypto encode keyOid device := by
    rw [reached]
    exact prefix_invariant (step config crypto) (Portrayed config crypto encode keyOid)
      (fun event => Inverse crypto encode keyOid event.env)
      (fun device event => Reliable event.env.toFaults ∧ TrueToParams config crypto encode keyOid device event)
      (fun _ _ law met portrayed => step_portrayed met.1 law met.2 portrayed) lawful truthful initial split
  obtain ⟨inside, authority, params, spec, made⟩ := issues_signedAs issued truly
  obtain ⟨data, stored, _⟩ := loadIssuerX509Params_file made.loaded
  have present : device.fs.files (.slot issue.issuerSlot .x509Data) ≠ none := by simp [stored]
  have kept := step_keepsPortraits_of_issues reliable law issued
  have holds {anchor : Bytes} (portrays : Portrays crypto encode keyOid device issue.issuerSlot anchor) :=
    verify_of_portrays law portrays made.loaded (authority params made.loaded) made.stored made.issuer made.built
  intro moment either
  simp only [List.mem_cons, List.not_mem_nil, or_false] at either
  rcases either with rfl | rfl
  · obtain ⟨anchor, held, portrays⟩ := portrayed issue.issuerSlot inside present
    exact ⟨anchor, held, holds portrays⟩
  · obtain ⟨key, same⟩ := kept.1 issue.issuerSlot
    obtain ⟨anchor, held, portrays⟩ := kept.portrayed portrayed issue.issuerSlot inside (same ▸ present)
    exact ⟨anchor, held, holds (portrays.congr key.symm same.symm)⟩

/-- A slot with a key of its own and the parameters of a CA. -/
def subCa : List Event :=
  [openRequest 1 .provisionCa [], openRequest 2 .genKey [],
    openRequest 3 .pushKeyX509 ([0, 0, 0, 1] ++ plainParams)]

def subParams : X509Params := ⟨3650, 1, 0xFF, 0, [65], [], [], [], [], []⟩

def subRequest : Bytes := [0, 0, 0, 1] ++ plainPoint (List.replicate 32 9)

/-- The slot signs a request. -/
def subSigning : Event := openRequest 5 .signCsrSlot subRequest

/-- What the slot answers. -/
def subIssued : Bytes :=
  openCert false (List.replicate 8 5) (plainPoint (List.replicate 32 9)) (plainPoint (List.replicate 32 2)) [65] [65]

/-- The slot's key in a certificate under another name. -/
def renamedCert : Bytes :=
  openCert true (List.replicate 8 9) (plainPoint (List.replicate 32 2)) (plainPoint (List.replicate 32 8)) [66] [67]

def nameChange : Event := openRequest 4 .pushKeyCert ([0, 0, 0, 1, 0, 143] ++ renamedCert)

/-- The parameters come before the key. -/
def earlyParams : List Event :=
  [openRequest 1 .provisionCa [], openRequest 3 .pushKeyX509 ([0, 0, 0, 1] ++ plainParams), openRequest 2 .genKey []]

/-- The same parameters without the CA flag. -/
def leafParams : List Event :=
  [openRequest 1 .provisionCa [], openRequest 2 .genKey [],
    openRequest 3 .pushKeyX509 ([0, 0, 0, 1] ++ plainParams.set 2 0)]

def subAnswer (setup : List Event) : Except Errno Answer :=
  (serve .default openCrypto (openEnv 5) Command.signCsrSlot.code subRequest
    (run (step .default openCrypto) blankDevice setup)).1

/-- The certificate of the slot at that moment. -/
def subAnchor (setup : List Event) : Option Bytes :=
  (run (step .default openCrypto) blankDevice setup).fs.files (.slot 1 .cert)

/-- Signing under another name, uncertified, and as no CA. -/
theorem subSigning_unverified :
    (∀ setup ∈ [subCa ++ [nameChange], earlyParams, leafParams],
      subAnswer setup = .ok (.reply ⟨.ok, RespData.of subIssued⟩)) ∧
    (subAnchor (subCa ++ [nameChange])).map (certparseVerifyChain openCrypto.toWolfReader subIssued []) =
      some (.error .einval) ∧
    subAnchor earlyParams = none ∧
    (subAnchor leafParams).map (certparseVerifyChain openCrypto.toWolfReader subIssued []) =
      some (.error .einval) := by
  decide +kernel

theorem decoded_openCrypto {der : Bytes} (long : 141 ≤ der.length) :
    decoded openCrypto.toWolfReader der = some (openDecoded der) := by
  have present : der.length ≠ 0 := by omega
  simp [decoded, present, openCrypto, long]

theorem openCrypto_decoded {der : Bytes} {cert : DecodedCert}
    (found : decoded openCrypto.toWolfReader der = some cert) :
    openDecoded der = cert := by
  unfold decoded at found
  split_ifs at found
  change (if 141 ≤ der.length then some (openDecoded der) else none) = some cert at found
  split_ifs at found
  exact Option.some.inj found

/-- A key of 65 octets is its own point. -/
theorem extractPubkey_of_length {cert : DecodedCert} (size : cert.publicKey.length = 65) :
    extractPubkey cert = if cert.publicKey.head? = some 0x04 then some cert.publicKey else none := by
  simp [extractPubkey, size]

theorem openEnv_inverse (random : UInt8) : Inverse openCrypto (·.cn) 0 (openEnv random) := by
  refine ⟨fun _ named => named, fun spec der built => ?_, fun spec der built => ?_⟩
  · obtain ⟨long, fields, _⟩ := openBuild_eq_ok built
    refine ⟨openDecoded der, decoded_openCrypto long, ?_⟩
    have size : (openDecoded der).publicKey.length = 65 := by
      change (fieldAt 9 65 der).length = 65
      simp only [fieldAt, List.length_take, List.length_drop]
      omega
    rw [fields] at size ⊢
    refine ⟨rfl, rfl, fun _ => rfl, rfl, fun privkey point derived stands => ?_⟩
    obtain rfl : plainPoint privkey = point := Except.ok.inj derived
    have same : plainKey spec.subjectKey = plainPoint privkey := by
      cases subject : spec.subjectKey with
      | priv scalar =>
        rw [subject] at stands
        exact Except.ok.inj stands
      | pub held =>
        rw [subject] at stands
        exact stands
    rw [extractPubkey_of_length size]
    simp only [plainDecoded, same, plainPoint, List.head?_cons, if_true]
  · obtain ⟨_, _, signer⟩ := openBuild_eq_ok built
    refine ⟨plainPoint spec.issuerPriv, rfl, fun anchor cert decodes point _ => ?_⟩
    obtain rfl := openCrypto_decoded decodes
    have size : (openDecoded anchor).publicKey.length = 65 := by
      apply Nat.le_antisymm
      · exact List.length_take_le _ _
      · by_contra short
        simp [extractPubkey, Nat.lt_of_not_le short] at point
    rw [extractPubkey_of_length size] at point
    split_ifs at point
    simp [openCrypto, signer, ← Option.some.inj point]

theorem openRequest_trueToParams {device : Device} {random : UInt8} {command : Command} {data : Bytes}
    (truthful : match command with
      | .provisionCa => True
      | .genKey => True
      | .pushKeyX509 => slotArg data < Config.default.maxKeySlots → ∀ params,
          StoresParams device (slotArg data) (data.drop 4) params →
            SelfSigns openCrypto (openEnv random) device (slotArg data) params
      | .signCsrSlot => IsAuthority device (slotArg data)
      | _ => False) :
    Reliable (openRequest random command data).env.toFaults ∧
      TrueToParams .default openCrypto (·.cn) 0 device (openRequest random command data) := by
  refine ⟨⟨fun _ => rfl, fun _ => rfl⟩, ?_⟩
  unfold TrueToParams
  cases runs : executes .default device (openRequest random command data) with
  | none => trivial
  | some found =>
    obtain ⟨env, other, content⟩ := found
    obtain ⟨rfl, rfl, rfl⟩ := executes_code runs
    cases other <;> first | exact truthful | trivial

/-- The slot verifies what it signs under its own certificate. -/
theorem subSigning_verified :
    let device := run (step .default openCrypto) blankDevice subCa
    ∃ anchor, device.fs.files (.slot 1 .cert) = some anchor ∧
      certparseVerifyChain openCrypto.toWolfReader subIssued [] anchor = .ok () := by
  intro device
  have issued : issues .default openCrypto device subSigning = some ⟨List.replicate 8 5, subIssued, 1, [65]⟩ := by
    decide +kernel
  have visited : (device, subSigning) ∈
      visits (step .default openCrypto) blankDevice (subCa ++ [subSigning]) := by
    rw [visits_append]
    simp [device]
  refine run_issued_verify .default openCrypto (·.cn) 0 blankDevice (subCa ++ [subSigning]) rfl ?_ ?_ device subSigning
    visited _ issued device (by simp)
  · intro event inside
    simp only [subCa, subSigning, List.cons_append, List.nil_append, List.mem_cons, List.not_mem_nil,
      or_false] at inside
    rcases inside with rfl | rfl | rfl | rfl <;> exact openEnv_inverse _
  · simp only [subCa, List.cons_append, List.nil_append, visits_cons, visits_nil, List.forall_mem_cons,
      List.not_mem_nil, false_implies, implies_true, and_true]
    have parsed : x509Parse plainParams = .ok subParams := by decide
    refine ⟨openRequest_trueToParams (by simp), openRequest_trueToParams (by simp), openRequest_trueToParams ?_,
      openRequest_trueToParams ?_⟩
    · intro _ params stores
      obtain rfl := Except.ok.inj (parsed.symm.trans stores.parsed)
      refine ⟨List.replicate 32 2, List.replicate 8 3, openCert true (List.replicate 8 3)
        (plainPoint (List.replicate 32 2)) (plainPoint (List.replicate 32 2)) [65] [65], ?_, fun _ => rfl, ?_⟩
      · decide +kernel
      · decide +kernel
    · intro params loaded
      have held : (loadIssuerX509Params 1 device).1 = .ok subParams := by decide +kernel
      obtain rfl := Except.ok.inj (held.symm.trans loaded)
      decide

end Cantil.Dispatcher
