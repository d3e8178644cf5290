import Cantil.Proof.CrlContents
import Cantil.Proof.IssuerGraph

namespace Cantil.Dispatcher
open Library Ca Trace
open Protocol (Command)

/-- The certificate verifies under the key's public half. -/
def SignedWith (crypto : Crypto) (keyOid : Nat) (der privkey : Bytes) : Prop :=
  ∃ pub, crypto.pubkeyFromPrivkey privkey = .ok pub ∧ crypto.checkCertSigPubKey der pub keyOid = true

/-- What the writer signs verifies. -/
def SignsVerifiably (crypto : Crypto) (keyOid : Nat) (env : Env) : Prop :=
  ∀ spec der, env.buildCert spec = .ok der → SignedWith crypto keyOid der spec.issuerPriv

/-- The record is of a certificate that the slot's key signed. -/
def SignedIn (ledger : Ledger) (crypto : Crypto) (keyOid : Nat) (name : Bytes) (slot : Slot) : Prop :=
  ∃ der privkey, ledger.issued name = some der ∧ ledger.Holds crypto slot privkey ∧
    SignedWith crypto keyOid der privkey

/-- Records that name a slot with a key name the signer. -/
structure Attributed (crypto : Crypto) (keyOid : Nat) (ledger : Ledger) : Prop where
  signed : ∀ name issuer, ledger.issuer name = some issuer → ledger.key issuer ≠ none →
    SignedIn ledger crypto keyOid name issuer
  rooted : ∀ name, ledger.issuer name = some caSlot → ledger.key caSlot ≠ none

section Ledgers

variable {crypto : Crypto} {keyOid : Nat} {ledger : Ledger} {slot : Slot} {der : Bytes}

theorem attributed_empty (crypto : Crypto) (keyOid : Nat) : Attributed crypto keyOid .empty :=
  ⟨by simp [Ledger.empty], by simp [Ledger.empty]⟩

variable (attributed : Attributed crypto keyOid ledger)

include attributed

theorem Attributed.install {chain : Option Bytes} :
    Attributed crypto keyOid (ledger.install slot der chain) :=
  ⟨attributed.signed, attributed.rooted⟩

theorem Attributed.file {issue : Issue}
    (signed : ∃ privkey, ledger.Holds crypto issue.issuerSlot privkey ∧ SignedWith crypto keyOid issue.der privkey) :
    Attributed crypto keyOid (ledger.file issue) := by
  obtain ⟨privkey, holds, verifies⟩ := signed
  have present : ledger.key issue.issuerSlot ≠ none := by
    obtain ⟨blob, held, _⟩ := holds
    simp [held]
  refine ⟨fun name issuer recorded keyed => ?_, fun name recorded => ?_⟩
  · by_cases here : name = hexName issue.serial
    · subst here
      obtain rfl : issue.issuerSlot = issuer := by simpa [Ledger.file] using recorded
      exact ⟨issue.der, privkey, by simp [Ledger.file], holds, verifies⟩
    · obtain ⟨der, privkey, stored, holds, verifies⟩ :=
        attributed.signed name issuer (by simpa [Ledger.file, here] using recorded) keyed
      exact ⟨der, privkey, by simpa [Ledger.file, here] using stored, holds, verifies⟩
  · by_cases here : name = hexName issue.serial
    · subst here
      obtain root : issue.issuerSlot = caSlot := by simpa [Ledger.file] using recorded
      exact root ▸ present
    · exact attributed.rooted name (by simpa [Ledger.file, here] using recorded)

/-- A new key must not come under records of an earlier one. -/
theorem Attributed.allocate {blob : Bytes}
    (clean : ∀ name, ledger.issuer name ≠ some slot) : Attributed crypto keyOid (ledger.allocate slot blob) := by
  have column {other : Slot} (held : ledger.key other ≠ none) : (ledger.allocate slot blob).key other ≠ none := by
    by_cases here : other = slot
    · simp [Ledger.allocate, here]
    · simpa [Ledger.allocate, here] using held
  refine ⟨fun name issuer recorded keyed => ?_, fun name recorded => column (attributed.rooted name recorded)⟩
  have elsewhere : issuer ≠ slot := fun same => clean name (same ▸ recorded)
  have kept : (ledger.allocate slot blob).key issuer = ledger.key issuer := by simp [Ledger.allocate, elsewhere]
  obtain ⟨der, privkey, stored, ⟨content, held, decrypts⟩, verifies⟩ :=
    attributed.signed name issuer recorded (kept ▸ keyed)
  exact ⟨der, privkey, stored, ⟨content, kept.trans held, decrypts⟩, verifies⟩

theorem Attributed.release (other : slot ≠ caSlot) :
    Attributed crypto keyOid (ledger.release slot) := by
  have column {number : Slot} (different : number ≠ slot) : (ledger.release slot).key number = ledger.key number := by
    simp [Ledger.release, different]
  refine ⟨fun name issuer recorded keyed => ?_, fun name recorded => ?_⟩
  · have elsewhere : issuer ≠ slot := by
      rintro rfl
      simp [Ledger.release] at keyed
    obtain ⟨der, privkey, stored, ⟨content, held, decrypts⟩, verifies⟩ :=
      attributed.signed name issuer recorded (column elsewhere ▸ keyed)
    exact ⟨der, privkey, stored, ⟨content, (column elsewhere).trans held, decrypts⟩, verifies⟩
  · rw [column (Ne.symm other)]
    exact attributed.rooted name recorded

end Ledgers

/-- A slot that a record names as its issuer gets no new key. -/
def AllocatesClean (config : Config) (device : Device) (event : Event) : Prop :=
  ∀ env data, executes config device event = some (env, .genKey, data) →
    ∀ slot, (ledgerOf device).nextSlot config = some slot → ∀ name, (ledgerOf device).issuer name ≠ some slot

section Steps

variable {config : Config} {crypto : Crypto} {keyOid : Nat} {device : Device} {event : Event}

theorem Minted.signed {env : Env} {ledger : Ledger} {slot : Slot} {serial der : Bytes}
    (minted : Minted config crypto env ledger slot serial der) (signs : SignsVerifiably crypto keyOid env) :
    ∃ privkey, ledger.Holds crypto slot privkey ∧ SignedWith crypto keyOid der privkey := by
  obtain ⟨spec, holds, _, built⟩ := minted.built
  exact ⟨spec.issuerPriv, holds, signs spec der built⟩

theorem step_attributed (reliable : Reliable event.env.toFaults) (signs : SignsVerifiably crypto keyOid event.env)
    (clean : AllocatesClean config device event) (attributed : Attributed crypto keyOid (ledgerOf device)) :
    Attributed crypto keyOid (ledgerOf (step config crypto device event)) := by
  have entered := step_transition config crypto device event reliable
  generalize ledgerOf (step config crypto device event) = after at entered
  cases entered with
  | steady => exact attributed
  | signed runs answers minted =>
    rw [executes_env runs] at signs
    exact attributed.file (minted.signed signs)
  | crossSigned runs issuer keyed minted =>
    rw [executes_env runs] at signs
    exact attributed.install.file (minted.signed signs)
  | selfSigned runs minted | booted boots absent minted | caPushed runs | pushed runs keyed => exact attributed.install
  | provisioned runs absent => exact attributed.allocate fun name recorded => attributed.rooted name recorded absent
  | generated runs free => exact attributed.allocate (clean _ _ runs _ free)
  | deleted runs other => exact attributed.release other
  | wiped runs => exact attributed_empty crypto keyOid

end Steps

/-- A record is listed, swept, or followed as one of the slot. -/
inductive UsedAs (config : Config) (crypto : Crypto) (device : Device) : (name : Bytes) → (slot : Slot) → Prop
  | listed {env : Env} {slot : Slot} {nowUnix : UInt64} {capacity : Nat} {crl serial : Bytes} {record : IssuedMeta}
      (answered : (caGetCrl config crypto env slot nowUnix capacity device).1 = .ok crl)
      (shown : (serial, record) ∈ (revokedRecords device slot).take crlMaxRevoked) :
      UsedAs config crypto device (hexName serial) slot
  | swept {env : Env} {slot : Slot} {name : Bytes} {before after : IssuedMeta}
      (held : recordAt device name = some before) (unmarked : before.flags &&& issuedFlagProtected = 0)
      (swept : recordAt (caProtectSlot config env slot true device).2 name = some after)
      (marked : after.flags &&& issuedFlagProtected ≠ 0) : UsedAs config crypto device name slot
  | followed {first slot : Slot} {cert : Bytes} {parsed : ParsedCert}
      (moved : chainHop config crypto device first = .go cert slot)
      (read : certparseCert crypto.toWolfReader cert = .ok parsed) :
      UsedAs config crypto device (hexName parsed.serial) slot

/-- Only records that name the slot change. -/
def TouchesOwn (slot : Slot) (before after : Device) : Prop :=
  ∀ name, recordAt after name = recordAt before name ∨
    ∃ record, recordAt before name = some record ∧ record.issuerSlot = slot

instance (slot : Slot) : IsPreorder Device (TouchesOwn slot) where
  refl _ := fun _ => .inl rfl
  trans _ _ _ first second := by
    intro name
    rcases second name with same | ⟨record, held, own⟩
    · rcases first name with earlier | own
      · exact .inl (same.trans earlier)
      · exact .inr own
    · rcases first name with earlier | own
      · exact .inr ⟨record, earlier ▸ held, own⟩
      · exact .inr own

section Uses

variable {config : Config} {crypto : Crypto} {env : Env} {device : Device} {slot : Slot}

theorem propagateProtectedCb_touchesOwn (serial : Bytes) (count : UInt32) :
    Op.Respects (TouchesOwn slot) (propagateProtectedCb env slot serial count) := by
  intro device
  apply Op.relates_reader
  intro outcome read
  cases outcome with
  | error => exact refl device
  | ok record =>
    dsimp only
    split_ifs with foreign marked
    · exact refl device
    · exact refl device
    · obtain ⟨_, held⟩ := recordAt_of_read (Except.ok.inj read)
      refine Op.relates_bind ?_ fun written between _ => by cases written <;> exact refl between
      intro name
      by_cases here : name = hexName serial
      · subst here
        exact .inr ⟨record, held, not_not.mp foreign⟩
      · have same : SameOutside (Path.issued (hexName serial) .metadata = ·) device
            (storageIssuedMetaWrite env.toFaults serial
              { record with flags := record.flags ||| issuedFlagProtected : IssuedMeta }.bytes device).2 :=
          storageIssuedMetaWrite_respects (writable_of_touched rfl) _ device
        refine .inl ?_
        rw [Op.attempt_apply]
        simp only [recordAt, same _ (show Path.issued (hexName serial) .metadata ≠ .issued name .metadata by
          simpa using Ne.symm here)]

theorem caProtectSlot_touchesOwn (protectIssued : Bool) :
    Op.Respects (TouchesOwn slot) (caProtectSlot config env slot protectIssued) := by
  have noted (record : SlotMeta) : Op.Respects (TouchesOwn slot) (metaWrite env.toFaults slot record) := by
    intro device name
    have same : SameOutside (Path.slot slot .metadata = ·) device (metaWrite env.toFaults slot record device).2 :=
      writeFile_respects rfl _ device
    refine .inl ?_
    simp only [recordAt, same (.issued name .metadata) (by simp)]
  refine .read fun _ => .read fun _ => ?_
  refine .read fun _ => .read fun _ => ?_
  refine (noted _).bind fun _ => ?_
  split
  · exact (storageIssuedCertsIter_respects propagateProtectedCb_touchesOwn _).bind fun _ => .pure _
  · exact .pure _

/-- A record that is used as one of the slot names the slot. -/
theorem UsedAs.recorded {name : Bytes} (used : UsedAs config crypto device name slot) :
    (ledgerOf device).issuer name = some slot := by
  cases used with
  | @listed _ _ _ _ _ serial record answered shown =>
    have revoked := List.mem_of_mem_take shown
    rw [revokedRecords, List.mem_filter] at revoked
    obtain ⟨known, own⟩ := revoked
    obtain ⟨directory, _, found⟩ := List.mem_filterMap.mp known
    simp only [issuedRecord, Option.bind_eq_bind, Option.bind_eq_some_iff, Option.pure_def, Option.some.injEq,
      Prod.mk.injEq] at found
    obtain ⟨decoded, _, content, read, rfl, rfl⟩ := found
    obtain ⟨_, held⟩ := recordAt_of_read (toOption_eq_some.mp read)
    have issuer : content.issuerSlot = slot := by
      simp only [IssuedMeta.isRevokedBy, decide_eq_true_eq] at own
      exact own.1
    simp [ledgerOf, held, issuer]
  | @swept _ _ _ before after held unmarked swept marked =>
    rcases caProtectSlot_touchesOwn true device name with same | ⟨record, kept, own⟩
    · rw [swept, held] at same
      obtain rfl := Option.some.inj same
      exact absurd unmarked marked
    · simp [ledgerOf, kept, own]
  | @followed first _ cert parsed moved read =>
    rw [chainHop_eq_hop] at moved
    obtain ⟨_, held, _, _, serial, found, recorded⟩ := hop_go_iff.mp moved
    obtain rfl : parsed.serial = serial := by
      simpa [Ledger.serialIn, held, read, Except.toOption] using found
    exact recorded

/-- Only the chain walk uses a slot without a key. -/
theorem UsedAs.keyed {name : Bytes} (used : UsedAs config crypto device name slot)
    (linked : ∀ first cert, chainHop config crypto device first = .go cert slot →
      device.fs.files (.slot slot .key) ≠ none) : device.fs.files (.slot slot .key) ≠ none := by
  cases used with
  | listed answered shown =>
    simp only [caGetCrl, Op.read_ok_iff, Op.ensure_ok, exists_const] at answered
    obtain ⟨_, _, _, stored, looked, rfl, _⟩ := answered
    simpa [Option.isSome_iff_ne_none] using looked
  | @swept env _ _ before after held unmarked swept marked =>
    intro absent
    have still : (caProtectSlot config env slot true device).2 = device := by
      by_cases inside : slot < config.maxKeySlots <;>
        simp [caProtectSlot, Op.bind_apply, Op.ensure, absent, inside]
    rw [still, held] at swept
    obtain rfl := Option.some.inj swept
    exact marked unmarked
  | followed moved read => exact linked _ _ moved

end Uses

/-- Without key reuse, a record belongs to its slot's key. -/
theorem run_attributed (config : Config) (crypto : Crypto) (keyOid : Nat) (start : Device) (events : List Event)
    (blank : start.fs = Fs.empty) (signs : ∀ event ∈ events, SignsVerifiably crypto keyOid event.env)
    (clean : ∀ visit ∈ visits (step config crypto) start events,
      Reliable visit.2.env.toFaults ∧ AllocatesClean config visit.1 visit.2)
    (before after : List Event) (split : events = before ++ after) (name : Bytes) (slot : Slot)
    (used : UsedAs config crypto (run (step config crypto) start before) name slot)
    (linked : ∀ first cert, chainHop config crypto (run (step config crypto) start before) first = .go cert slot →
      (run (step config crypto) start before).fs.files (.slot slot .key) ≠ none) :
    SignedIn (ledgerOf (run (step config crypto) start before)) crypto keyOid name slot := by
  have initial : Attributed crypto keyOid (ledgerOf start) := by
    rw [ledgerOf_blank blank]
    exact attributed_empty crypto keyOid
  have attributed : Attributed crypto keyOid (ledgerOf (run (step config crypto) start before)) :=
    prefix_invariant (step config crypto) (fun device => Attributed crypto keyOid (ledgerOf device))
      (fun event => SignsVerifiably crypto keyOid event.env)
      (fun device event => Reliable event.env.toFaults ∧ AllocatesClean config device event)
      (fun _ _ law met attributed => step_attributed met.1 law met.2 attributed) signs clean initial split
  exact attributed.signed name slot used.recorded (used.keyed linked)

/-- A slot signs a request and revokes the certificate. -/
def slotRevocation : List Event :=
  [openRequest 1 .provisionCa [], openRequest 2 .genKey [],
    openRequest 3 .pushKeyX509 ([0, 0, 0, 1] ++ plainParams),
    openRequest 5 .signCsrSlot ([0, 0, 0, 1] ++ plainPoint (List.replicate 32 9)),
    openRequest 5 .revokeCert (8 :: List.replicate 8 5)]

/-- The slot is deleted, and another key takes its number. -/
def slotReuse : List Event :=
  [openRequest 6 .deleteKey [0, 0, 0, 1], openRequest 7 .genKey [],
    openRequest 8 .pushKeyX509 ([0, 0, 0, 1] ++ plainParams)]

theorem openEnv_signsVerifiably (keyOid : Nat) (random : UInt8) :
    SignsVerifiably openCrypto keyOid (openEnv random) := by
  intro spec der built
  obtain ⟨_, _, signer⟩ := openBuild_eq_ok built
  exact ⟨plainPoint spec.issuerPriv, rfl, by simp [openCrypto, signer]⟩

theorem usedAs_of_listed {config : Config} {crypto : Crypto} {device : Device} {slot : Slot} {serial : Bytes}
    (env : Env) (nowUnix : UInt64) (capacity : Nat)
    (answers : (caGetCrl config crypto env slot nowUnix capacity device).1.toOption.isSome = true)
    (shown : serial ∈ ((revokedRecords device slot).take crlMaxRevoked).map Prod.fst) :
    UsedAs config crypto device (hexName serial) slot := by
  obtain ⟨crl, answered⟩ := Option.isSome_iff_exists.mp answers
  obtain ⟨⟨_, record⟩, listed, rfl⟩ := List.mem_map.mp shown
  exact .listed (toOption_eq_some.mp answered) listed

/-- The slot lists a certificate that its new key did not sign. -/
theorem slotReuse_misattributes :
    let device := run (step .default openCrypto) blankDevice (slotRevocation ++ slotReuse)
    UsedAs .default openCrypto device (hexName (List.replicate 8 5)) 1 ∧
      device.fs.files (.slot 1 .key) = some (List.replicate 32 7) ∧
      ¬ SignedIn (ledgerOf device) openCrypto 0 (hexName (List.replicate 8 5)) 1 := by
  intro device
  have key : device.fs.files (.slot 1 .key) = some (List.replicate 32 7) := by decide +kernel
  have signer : (device.fs.files (.issued (hexName (List.replicate 8 5)) .cert)).map (fieldAt 74 65) =
      some (plainPoint (List.replicate 32 2)) := by decide +kernel
  have used : UsedAs .default openCrypto device (hexName (List.replicate 8 5)) 1 :=
    usedAs_of_listed (openEnv 9) (UInt64.ofNat signCsrNotBeforeUnix) respCapacity (by decide +kernel)
      (by decide +kernel)
  clear_value device
  refine ⟨used, key, ?_⟩
  rintro ⟨der, privkey, stored, ⟨blob, held, decrypts⟩, pub, derived, verifies⟩
  obtain rfl : List.replicate 32 7 = blob := Option.some.inj (key.symm.trans held)
  have stable : (List.replicate 32 7).take keyBlobMax = privkey := Except.ok.inj decrypts
  subst stable
  obtain rfl : plainPoint (List.replicate 32 7) = pub := Except.ok.inj derived
  have other : fieldAt 74 65 der = plainPoint (List.replicate 32 2) := by
    change device.fs.files (.issued (hexName (List.replicate 8 5)) .cert) = some der at stored
    rw [stored] at signer
    exact Option.some.inj signer
  have own : fieldAt 74 65 der = plainPoint (List.replicate 32 7) := of_decide_eq_true verifies
  exact absurd (other.symm.trans own) (by decide)

theorem openRequest_allocatesClean {config : Config} {device : Device} {random : UInt8} {command : Command}
    {data : Bytes} (unnamed : command = .genKey → ∀ name, (ledgerOf device).issuer name = none) :
    Reliable (openRequest random command data).env.toFaults ∧
      AllocatesClean config device (openRequest random command data) := by
  refine ⟨⟨fun _ => rfl, fun _ => rfl⟩, ?_⟩
  intro env content runs slot _ name
  obtain ⟨_, same, _⟩ := executes_code runs
  simp [unnamed same.symm name]

/-- Before the slot is deleted, its key signed what it lists. -/
theorem slotRevocation_attributed :
    let device := run (step .default openCrypto) blankDevice slotRevocation
    UsedAs .default openCrypto device (hexName (List.replicate 8 5)) 1 ∧
      SignedIn (ledgerOf device) openCrypto 0 (hexName (List.replicate 8 5)) 1 := by
  have used : UsedAs .default openCrypto (run (step .default openCrypto) blankDevice slotRevocation)
      (hexName (List.replicate 8 5)) 1 :=
    usedAs_of_listed (openEnv 9) (UInt64.ofNat signCsrNotBeforeUnix) respCapacity (by decide +kernel)
      (by decide +kernel)
  refine ⟨used, run_attributed .default openCrypto 0 blankDevice slotRevocation rfl ?_ ?_ slotRevocation []
    (List.append_nil _).symm _ _ used ?_⟩
  · intro event inside
    simp only [slotRevocation, List.mem_cons, List.not_mem_nil, or_false] at inside
    rcases inside with rfl | rfl | rfl | rfl | rfl <;> exact openEnv_signsVerifiably 0 _
  · simp only [slotRevocation, visits_cons, visits_nil, List.forall_mem_cons, List.not_mem_nil,
      false_implies, implies_true, and_true]
    refine ⟨openRequest_allocatesClean nofun, openRequest_allocatesClean fun _ _ => rfl,
      openRequest_allocatesClean nofun, openRequest_allocatesClean nofun, openRequest_allocatesClean nofun⟩
  · have key : (run (step .default openCrypto) blankDevice slotRevocation).fs.files (.slot 1 .key) =
        some (List.replicate 32 2) := by decide +kernel
    simp [key]

end Cantil.Dispatcher
