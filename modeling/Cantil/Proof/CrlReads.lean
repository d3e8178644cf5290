import Cantil.Proof.CrlNumber

namespace Cantil.Ca
open Library

/-- The reads of one command that fail. -/
structure ReadFaults where
  /-- The error of `fs_opendir`; `-ENOENT` is an empty directory. -/
  opendir : Option Errno
  /-- `fs_readdir` fails behind this many entries of `/certs`. -/
  entries : Nat
  file : Path → Bool

section Reading

variable (reads : ReadFaults) (device : Device)

/-- How many entries of `/certs` the walk comes to. -/
def ReadFaults.count : Nat := if reads.opendir = some .enoent then 0 else reads.entries

/-- To `GET_CRL` a file that cannot be read is missing. -/
def ReadFaults.seen : Device :=
  { device with
    fs :=
      { files
          | .issued name file =>
            if name ∈ device.fs.certDirs.take reads.count ∧ reads.file (.issued name file) = false then
              device.fs.files (.issued name file)
            else none
          | path => if reads.file path then none else device.fs.files path
        certDirs := device.fs.certDirs.take reads.count
        certDirs_nodup := (List.take_sublist _ _).nodup device.fs.certDirs_nodup
        listed := by
          intro name file present
          by_contra hidden
          simp [hidden] at present } }

/-- `ca_get_crl` under failing reads. -/
def caGetCrlReading (config : Config) (crypto : Crypto) (env : Env) (slot : Slot) (nowUnix : UInt64)
    (capacity : Nat) : Except Errno Bytes :=
  let answer : Op Device Errno Bytes := do
    .ensure (capacity ≠ 0) .einval
    .ensure (slot < config.maxKeySlots) .einval
    .ensure (nowUnix ≠ 0) .einval
    .ensure ((← storageSlotKeyExists slot) = true) .enoent
    .ensure ((← storageSlotCertExists slot) = true) .enoent
    match reads.opendir.filter (· ≠ .enoent) with
    | none => buildCrlDer config crypto env slot nowUnix capacity
    | some error => .fail error
  (answer (reads.seen device)).1

/-- The walk reaches the directory and its record is read. -/
def ReadFaults.Reaches (name : Bytes) : Prop :=
  name ∈ device.fs.certDirs.take reads.count ∧ reads.file (.issued name .metadata) = false

instance (name : Bytes) : Decidable (reads.Reaches device name) := inferInstanceAs (Decidable (_ ∧ _))

/-- The revoked certificates of a slot whose records are read. -/
def revokedRead (slot : Slot) : List (Bytes × IssuedMeta) :=
  (revokedRecords device slot).filter fun issued => reads.Reaches device (hexName issued.1)

theorem issuedRecord_seen (name : Bytes) :
    issuedRecord (reads.seen device) name =
      (issuedRecord device name).filter fun issued => reads.Reaches device (hexName issued.1) := by
  rw [issuedRecord_eq, issuedRecord_eq]
  rcases decoded : decodeName name with _ | serial
  · rfl
  · have named := hexName_of_decodeName decoded
    have seen : recordAt (reads.seen device) name = if reads.Reaches device name then recordAt device name else none :=
      apply_ite (Option.bind · _) _ _ _
    rw [seen]
    rcases recordAt device name with _ | stored
    · simp
    · by_cases reached : reads.Reaches device name <;> simp [Option.filter, named, reached]

theorem revokedRecords_seen (slot : Slot) :
    revokedRecords (reads.seen device) slot = revokedRead reads device slot := by
  -- What lies behind the failing entry is in no directory that the walk reached.
  have unseen : (device.fs.certDirs.drop reads.count).filterMap (issuedRecord (reads.seen device)) = [] := by
    rw [List.filterMap_eq_nil_iff]
    intro name left
    have distinct := device.fs.certDirs_nodup
    rw [← List.take_append_drop reads.count device.fs.certDirs] at distinct
    rw [issuedRecord_seen, Option.filter_eq_none_iff]
    intro issued found reached
    rw [issuedRecord_name found] at reached
    exact (List.nodup_append.mp distinct).2.2 name (of_decide_eq_true reached).1 name left rfl
  have records : issuedRecords (reads.seen device) =
      (issuedRecords device).filter fun issued => reads.Reaches device (hexName issued.1) :=
    calc issuedRecords (reads.seen device)
        = (device.fs.certDirs.take reads.count ++ device.fs.certDirs.drop reads.count).filterMap
            (issuedRecord (reads.seen device)) := by
          rw [List.filterMap_append, unseen, List.append_nil]
          rfl
      _ = _ := by
          rw [List.take_append_drop, issuedRecords, List.filter_filterMap]
          exact List.filterMap_congr fun name _ => issuedRecord_seen reads device name
  rw [revokedRecords, records, List.filter_comm]
  rfl

/-- A counter that cannot be read counts as none. -/
theorem storedNumber_seen (slot : Slot) :
    storedNumber (reads.seen device) slot =
      if reads.file (.slot slot .crlNumber) then 0 else storedNumber device slot := by
  split_ifs with failing
  · have absent : (reads.seen device).fs.files (.slot slot .crlNumber) = none := if_pos failing
    rw [storedNumber_eq, absent, Option.elim_none]
  · exact storedNumber_of_file (if_neg failing)

/-- Each revoked serial is read, or 64, and the counter. -/
def ReadFaults.Spares (slot : Slot) : Prop :=
  (crlMaxRevoked ≤ (revokedRead reads device slot).length ∨
    ∀ issued ∈ revokedRecords device slot, ∃ other ∈ revokedRead reads device slot,
      bigEndianValue other.1 = bigEndianValue issued.1) ∧
  (reads.file (.slot slot .crlNumber) = false ∨ storedNumber device slot ≤ 1)

end Reading

/-- An error, or all revoked or 64, under no lower number. -/
def FailsClosed (answer : Except Errno Bytes) (device : Device) (slot : Slot) : Prop :=
  ∀ crl, answer = .ok crl → ∃ view, Crl.read crl = some view ∧
    (view.serials.length = crlMaxRevoked ∨
      ∀ issued ∈ revokedRecords device slot, bigEndianValue issued.1 ∈ view.serials) ∧
    storedNumber device slot ≤ view.number

variable {reads : ReadFaults} {config : Config} {crypto : Crypto} {env : Env} {slot : Slot} {nowUnix : UInt64}
  {capacity : Nat} {device : Device} {crl : Bytes}

/-- Subject, signature and room for the list are there. -/
def CrlReady (config : Config) (crypto : Crypto) (env : Env) (slot : Slot) (nowUnix : UInt64) (capacity : Nat)
    (device : Device) : Prop :=
  ∃ issuerCert issuer name privkey rawSig,
    (storageSlotCertRead slot certDerMax device).1 = .ok issuerCert ∧
    certparseCert crypto.toWolfReader issuerCert = .ok issuer ∧ issuer.subjectDer = Der.tlv 0x30 name ∧
    (loadSlotPrivkey crypto env slot device).1 = .ok privkey ∧ rawSig.length = 64 ∧
    let contents := crlContents name nowUnix (nowUnix + UInt64.ofNat config.crlValiditySec)
      (((revokedRecords device slot).take crlMaxRevoked).map (crlEntry nowUnix))
      (crlNumberShown (storageSlotCrlNumberRead slot device).1)
    env.sign privkey (crypto.sha256 contents.signedPart) = .ok rawSig ∧ contents.signedPart.length ≤ certDerMax ∧
      (contents.encode (signatureText rawSig)).length ≤ capacity

theorem buildCrlDer_ready (inPlace : SubjectInPlace crypto.toWolfReader) :
    (∃ crl, (buildCrlDer config crypto env slot nowUnix capacity device).1 = .ok crl) ↔
      CrlReady config crypto env slot nowUnix capacity device := by
  obtain ⟨context, collected, held⟩ := storageIssuedCertsIter_collect device slot nowUnix
  have sized := revokedRecords_sized device slot nowUnix
  simp only [buildCrlDer_iff, CrlReady, ← held] at sized ⊢
  have writes (name : Bytes) := writeTbsCertList_writes name nowUnix (nowUnix + UInt64.ofNat config.crlValiditySec)
    sized (crlNumberShown (storageSlotCrlNumberRead slot device).1) ⟨certDerMax, []⟩
  have outcome {rawSig : Bytes} (name : Bytes) (signed : rawSig.length = 64) := encodeCrl_outcome name nowUnix
    (nowUnix + UInt64.ofNat config.crlValiditySec) sized (crlNumberShown (storageSlotCrlNumberRead slot device).1)
    signed capacity
  constructor
  · rintro ⟨crl, _, issuerCert, issuer, buf, privkey, rawSig, same, read, parsed, filled, wrote, loaded, signed, full,
      encoded⟩
    obtain rfl := Except.ok.inj (congrArg Prod.fst (collected.symm.trans same))
    obtain ⟨name, subject⟩ := subjectDer_element inPlace parsed filled
    have fits := outcome name full
    rw [← subject, encoded] at fits
    rw [subject, writes, if_pos fits.1.1] at wrote
    obtain rfl := Except.ok.inj wrote
    refine ⟨issuerCert, issuer, name, privkey, rawSig, read, parsed, subject, loaded, full, ?_, fits.1⟩
    simpa using signed
  · rintro ⟨issuerCert, issuer, name, privkey, rawSig, read, parsed, subject, loaded, full, signed, short, fits⟩
    have encoded := outcome name full
    rcases built : encodeCrl (Der.tlv 0x30 name) nowUnix (nowUnix + UInt64.ofNat config.crlValiditySec) context.entries
      (crlNumberShown (storageSlotCrlNumberRead slot device).1) rawSig capacity with error | crl
    · rw [built] at encoded
      exact absurd ⟨short, fits⟩ encoded.2
    · exact ⟨crl, context, issuerCert, issuer, _, privkey, rawSig, collected, read, parsed, by simp [subject, Der.tlv],
        by rw [subject, writes, if_pos short], loaded, by simpa using signed, full, by rw [subject, built]⟩

/-- Directory, key and certificate of the slot are found. -/
structure ReadFaults.Admits (reads : ReadFaults) (device : Device) (config : Config) (slot : Slot) (nowUnix : UInt64)
    (capacity : Nat) : Prop where
  asked : capacity ≠ 0 ∧ slot < config.maxKeySlots ∧ nowUnix ≠ 0
  opened : reads.opendir.filter (· ≠ .enoent) = none
  keyed : ((reads.seen device).fs.files (.slot slot .key)).isSome = true
  certified : ((reads.seen device).fs.files (.slot slot .cert)).isSome = true

theorem caGetCrlReading_iff :
    caGetCrlReading reads device config crypto env slot nowUnix capacity = .ok crl ↔
      reads.Admits device config slot nowUnix capacity ∧
        (buildCrlDer config crypto env slot nowUnix capacity (reads.seen device)).1 = .ok crl := by
  simp only [caGetCrlReading, Op.read_ok_iff, Op.ensure_ok, exists_const]
  constructor
  · rintro ⟨room, inside, timed, _, keyed, rfl, _, certified, rfl, built⟩
    rcases opened : reads.opendir.filter (· ≠ .enoent) with _ | error
    · rw [opened] at built
      exact ⟨⟨⟨room, inside, timed⟩, opened, Except.ok.inj keyed, Except.ok.inj certified⟩, built⟩
    · rw [opened] at built
      cases built
  · rintro ⟨⟨⟨room, inside, timed⟩, opened, keyed, certified⟩, built⟩
    refine ⟨room, inside, timed, true, congrArg _ keyed, rfl, true, congrArg _ certified, rfl, ?_⟩
    rwa [opened]

/-- The list under failing reads shows what was read. -/
theorem caGetCrlReading_ok (inPlace : SubjectInPlace crypto.toWolfReader)
    (got : caGetCrlReading reads device config crypto env slot nowUnix capacity = .ok crl) :
    Crl.read crl = some
      ⟨((revokedRead reads device slot).take crlMaxRevoked).map fun issued => bigEndianValue issued.1,
        if storedNumber (reads.seen device) slot = 0 then 1 else storedNumber (reads.seen device) slot⟩ := by
  rw [buildCrlDer_ok inPlace (caGetCrlReading_iff.mp got).2, revokedRecords_seen, Dispatcher.crlNumberShown_eq]

/-- `GET_CRL` fails closed exactly when its reads hide nothing. -/
theorem crl_fails_closed_iff (reads : ReadFaults) (config : Config) (crypto : Crypto) (env : Env) (slot : Slot)
    (nowUnix : UInt64) (capacity : Nat) (device : Device) (inPlace : SubjectInPlace crypto.toWolfReader) :
    FailsClosed (caGetCrlReading reads device config crypto env slot nowUnix capacity) device slot ↔
      ¬ (reads.Admits device config slot nowUnix capacity ∧
        CrlReady config crypto env slot nowUnix capacity (reads.seen device)) ∨ reads.Spares device slot := by
  rw [← buildCrlDer_ready inPlace, ← exists_and_left]
  simp only [← caGetCrlReading_iff]
  rcases answered : caGetCrlReading reads device config crypto env slot nowUnix capacity with error | crl
  · simp [FailsClosed]
  · simp only [FailsClosed, Except.ok.injEq, forall_eq', caGetCrlReading_ok inPlace answered, Option.some.injEq,
      exists_eq_left', exists_eq', not_true, false_or, ReadFaults.Spares, storedNumber_seen]
    apply and_congr
    · by_cases many : crlMaxRevoked ≤ (revokedRead reads device slot).length
      · simp [many]
      · have few : (revokedRead reads device slot).take crlMaxRevoked = revokedRead reads device slot :=
          List.take_of_length_le (Nat.le_of_not_le many)
        have short : (revokedRead reads device slot).length ≠ crlMaxRevoked := fun full => many full.ge
        simp only [few, List.length_map, List.mem_map, many, short, false_or]
    · by_cases failing : reads.file (.slot slot .crlNumber)
      · simp [failing]
      · simp only [failing, if_false, true_or, iff_true, Bool.false_eq_true]
        split_ifs <;> omega

end Cantil.Ca

namespace Cantil.Dispatcher
open Library Ca

def crlReading (reads : ReadFaults) (device : Device) : Except Errno Bytes :=
  caGetCrlReading reads device .default plainCrypto (plainEnv 5) caSlot 1767225600 respCapacity

/-- Reads that succeed hide nothing. -/
theorem crl_fails_closed_revoked :
    FailsClosed (crlReading ⟨none, 1, fun _ => false⟩ revokedDevice) revokedDevice caSlot := by
  have whole : revokedRead ⟨none, 1, fun _ => false⟩ revokedDevice caSlot =
      revokedRecords revokedDevice caSlot := by
    decide +kernel
  apply (crl_fails_closed_iff ⟨none, 1, fun _ => false⟩ .default plainCrypto (plainEnv 5) caSlot 1767225600
    respCapacity revokedDevice plainCrypto_subjectInPlace).mpr
  exact .inr ⟨.inr fun issued member => ⟨issued, whole ▸ member, rfl⟩, .inl rfl⟩

/-- The record of the revoked certificate cannot be read. -/
def hiddenRecord : ReadFaults := ⟨none, 1, fun path => path = .issued (hexName (List.replicate 8 3)) .metadata⟩

def hiddenCounter : ReadFaults := ⟨none, 2, fun path => path = .slot caSlot .crlNumber⟩

/-- One list lacks the revoked serial, one has an old number. -/
theorem crl_hides_revocation :
    ¬FailsClosed (crlReading hiddenRecord revokedDevice) revokedDevice caSlot ∧
      ¬FailsClosed (crlReading hiddenCounter (twiceRevokedDevice (plainEnv 8))) (twiceRevokedDevice (plainEnv 8))
        caSlot := by
  have views :
      (crlReading hiddenRecord revokedDevice).toOption.bind Crl.read = some ⟨[], 1⟩ ∧
      revokedRecords revokedDevice caSlot ≠ [] ∧
      ((crlReading hiddenCounter (twiceRevokedDevice (plainEnv 8))).toOption.bind Crl.read).map Crl.View.number =
        some 1 ∧
      storedNumber (twiceRevokedDevice (plainEnv 8)) caSlot = 2 := by
    decide +kernel
  obtain ⟨empty, revoked, first, second⟩ := views
  constructor
  · intro closed
    rcases answered : crlReading hiddenRecord revokedDevice with error | crl
    · rw [answered] at empty
      cases empty
    · obtain ⟨view, read, listed, _⟩ := closed crl answered
      rw [answered, show (Except.ok crl).toOption.bind Crl.read = Crl.read crl from rfl, read] at empty
      cases empty
      obtain ⟨issued, member⟩ := List.exists_mem_of_ne_nil _ revoked
      rcases listed with full | listed
      · cases full
      · cases listed issued member
  · intro closed
    rcases answered : crlReading hiddenCounter (twiceRevokedDevice (plainEnv 8)) with error | crl
    · rw [answered] at first
      cases first
    · obtain ⟨view, read, _, kept⟩ := closed crl answered
      rw [answered, show (Except.ok crl).toOption.bind Crl.read = Crl.read crl from rfl, read] at first
      rw [second, Option.some.inj first] at kept
      exact absurd kept (by decide)

end Cantil.Dispatcher
