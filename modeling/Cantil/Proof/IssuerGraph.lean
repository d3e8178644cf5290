import Cantil.Proof.ChainWalk
import Cantil.Proof.Ledger

namespace Cantil.Dispatcher
open Library Ca
open Protocol (Command)

/-! The links of the chain walk, read out of the ledger. -/

namespace Ledger

variable (ledger : Ledger) (config : Config) (crypto : Crypto)

/-- The serial of the certificate in the slot. -/
def serialIn (slot : Slot) : Option Bytes :=
  (ledger.cert slot).bind fun der => (certparseCert crypto.toWolfReader der).toOption.map (·.serial)

/-- The slot that the certificate of the slot is recorded under. -/
def issuerOf (slot : Slot) (serial : Bytes) : Slot := (ledger.issuer (hexName serial)).getD slot

def hop (slot : Slot) : Walk.Hop Slot Bytes (Except Errno Bytes) :=
  if slot < config.maxKeySlots then
    match ledger.cert slot with
    | none => .stop (.error .enoent)
    | some cert =>
      match ledger.chain slot with
      | some chain => .stop (.ok (cert ++ chain))
      | none =>
        match certparseCert crypto.toWolfReader cert with
        | .error _ => .stop (.error .eio)
        | .ok parsed =>
          if ledger.issuerOf slot parsed.serial = slot then .stop (.ok cert)
          else .go cert (ledger.issuerOf slot parsed.serial)
  else .stop (.error .einval)

/-- The walk from one slot comes to the other. -/
def Reaches (first last : Slot) : Prop := ∃ path, Walk.Passes (ledger.hop config crypto) first path last

end Ledger

theorem certparseCert_serial {wolf : WolfReader} {der : Bytes} {parsed : ParsedCert}
    (read : certparseCert wolf der = .ok parsed) : parsed.serial.length ≤ certparseSerialMax := by
  unfold certparseCert at read
  split_ifs at read
  split at read
  · cases read
  · obtain rfl := Except.ok.inj read
    split_ifs with fits
    · exact fits
    · exact Nat.zero_le _

theorem recordedIssuer_eq {device : Device} {slot : Slot} {serial : Bytes}
    (short : serial.length ≤ certparseSerialMax) :
    recordedIssuer device slot serial = (ledgerOf device).issuerOf slot serial := by
  have named : (readIssuedMeta serial device).1.toOption = recordAt device (hexName serial) :=
    readIssuedMeta_named (by simp only [pathMaxLen, certparseSerialMax] at *; omega) device
  simp only [recordedIssuer, Ledger.issuerOf, ledgerOf, ← named]
  cases (readIssuedMeta serial device).1 <;> rfl

theorem chainHop_eq_hop (config : Config) (crypto : Crypto) (device : Device) :
    chainHop config crypto device = (ledgerOf device).hop config crypto := by
  funext slot
  have cert : (ledgerOf device).cert slot = device.fs.files (.slot slot .cert) := rfl
  have chain : (ledgerOf device).chain slot = device.fs.files (.slot slot .chain) := rfl
  unfold chainHop Ledger.hop
  rw [cert, chain]
  cases device.fs.files (.slot slot .cert) with
  | none => rfl
  | some der =>
    cases device.fs.files (.slot slot .chain) with
    | some rest => rfl
    | none =>
      cases read : certparseCert crypto.toWolfReader der with
      | error error => simp only [read]
      | ok parsed => simp only [read, recordedIssuer_eq (certparseCert_serial read)]

section Links

variable {ledger : Ledger} {config : Config} {crypto : Crypto} {slot next : Slot} {der : Bytes}
variable {chain : Option Bytes} {serial : Bytes} {issue : Issue}

/-- The walk goes on to the certificate's recorded issuer. -/
theorem hop_go_iff : ledger.hop config crypto slot = .go der next ↔
    slot < config.maxKeySlots ∧ ledger.cert slot = some der ∧ ledger.chain slot = none ∧ next ≠ slot ∧
      ∃ serial, ledger.serialIn crypto slot = some serial ∧ ledger.issuer (hexName serial) = some next := by
  unfold Ledger.hop Ledger.serialIn Ledger.issuerOf
  by_cases inside : slot < config.maxKeySlots
  case neg => simp [inside]
  cases ledger.cert slot with
  | none => simp [inside]
  | some cert =>
    cases ledger.chain slot with
    | some chain => simp [inside]
    | none =>
      cases read : certparseCert crypto.toWolfReader cert with
      | error error => simp [inside, read, Except.toOption]
      | ok parsed =>
        simp only [inside, if_true, read, Option.bind_some, Except.toOption, Option.map_some, true_and,
          Option.some.injEq, exists_eq_left']
        cases ledger.issuer (hexName parsed.serial) with
        | none => simp
        | some issuer =>
          by_cases root : issuer = slot
          · simp [root, eq_comm]
          · simp only [Option.getD_some, root, if_false, Walk.Hop.go.injEq, Option.some.injEq]
            constructor
            · rintro ⟨rfl, rfl⟩
              exact ⟨rfl, root, rfl⟩
            · rintro ⟨rfl, _, rfl⟩
              exact ⟨rfl, rfl⟩

/-- Issuers are slots, and no walk along them comes back. -/
structure Rooted (config : Config) (crypto : Crypto) (ledger : Ledger) : Prop where
  acyclic : Walk.Acyclic (ledger.hop config crypto)
  inside : ∀ name issuer, ledger.issuer name = some issuer → issuer < config.maxKeySlots

/-- Neither a record nor an installed certificate has the serial. -/
def Unused (config : Config) (crypto : Crypto) (ledger : Ledger) (serial : Bytes) : Prop :=
  ledger.issuer (hexName serial) = none ∧
    ∀ slot, slot < config.maxKeySlots → ledger.serialIn crypto slot ≠ some serial

/-- A drawn serial is that of no certificate. -/
def DrawsUnused (config : Config) (crypto : Crypto) (env : Env) (ledger : Ledger) : Prop :=
  ∀ serial, Draws env serial → Unused config crypto ledger serial

/-- The certificate's issuer does not lead to the slot. -/
def LeadsAway (config : Config) (crypto : Crypto) (ledger : Ledger) (slot : Slot) (cert : Bytes) : Prop :=
  ∀ parsed issuer, certparseCert crypto.toWolfReader cert = .ok parsed →
    ledger.issuer (hexName parsed.serial) = some issuer →
      issuer = slot ∨ ¬ ledger.Reaches config crypto issuer slot

/-- A certificate is read back with its serial. -/
def ReadsSerial (crypto : Crypto) (env : Env) : Prop :=
  ∀ spec der parsed, env.buildCert spec = .ok der → certparseCert crypto.toWolfReader der = .ok parsed →
    parsed.serial = spec.serial

/-- New serials, and nothing below a slot that leads to it. -/
def CommandOpensNoCycle (config : Config) (crypto : Crypto) (env : Env) (data : Bytes) (ledger : Ledger) :
    Command → Prop
  | .signCsr => DrawsUnused config crypto env ledger
  | .signCsrSlot => DrawsUnused config crypto env ledger
  | .pushKeyX509 => DrawsUnused config crypto env ledger
  | .signKeySlot => DrawsUnused config crypto env ledger ∧
      (slotArg data = slotArg (data.drop 4) ∨ ¬ ledger.Reaches config crypto (slotArg data) (slotArg (data.drop 4)))
  | .pushCaCert => LeadsAway config crypto ledger caSlot data
  | .pushKeyCert => pushedChain data ≠ [] ∨ LeadsAway config crypto ledger (slotArg data) (pushedCert data)
  | _ => True

/-- A boot may draw a serial too. -/
def OpensNoCycle (config : Config) (crypto : Crypto) (device : Device) (event : Event) : Prop :=
  (∀ env volume, event = .powerCycle env volume → DrawsUnused config crypto env (ledgerOf device)) ∧
    ∀ env command data, executes config device event = some (env, command, data) →
      CommandOpensNoCycle config crypto env data (ledgerOf device) command

theorem serialIn_installed :
    (ledger.install slot der chain).serialIn crypto slot = some serial ↔
      ∃ parsed, certparseCert crypto.toWolfReader der = .ok parsed ∧ parsed.serial = serial := by
  simp only [Ledger.serialIn, Ledger.install, Function.update_self, Option.bind_some, Option.map_eq_some_iff,
    toOption_eq_some]

/-- A certificate changes the link of its own slot only. -/
theorem install_go (other : Slot) (label : Bytes) (next : Slot) (different : other ≠ slot)
    (moved : (ledger.install slot der chain).hop config crypto other = .go label next) :
    ledger.hop config crypto other = .go label next := by
  rw [hop_go_iff] at moved ⊢
  simpa [Ledger.install, Ledger.serialIn, different] using moved

theorem Rooted.install (rooted : Rooted config crypto ledger)
    (away : chain = none → LeadsAway config crypto ledger slot der) :
    Rooted config crypto (ledger.install slot der chain) := by
  refine ⟨rooted.acyclic.change install_go ?_, rooted.inside⟩
  rintro label next moved reached
  obtain ⟨_, _, unchained, elsewhere, serial, read, issued⟩ := hop_go_iff.mp moved
  obtain ⟨parsed, parses, rfl⟩ := serialIn_installed.mp read
  have gone : chain = none := by simpa [Ledger.install] using unchained
  rcases away gone parsed next parses issued with root | unreached
  · exact elsewhere root
  · exact unreached reached

/-- A record is a link of the slots that hold its serial only. -/
theorem file_go {other : Slot} {label : Bytes} (moved : (ledger.file issue).hop config crypto other = .go label next) :
    ledger.serialIn crypto other = some issue.serial ∧ next = issue.issuerSlot ∧ next ≠ other ∨
      ledger.hop config crypto other = .go label next := by
  obtain ⟨inside, held, unchained, elsewhere, serial, read, issued⟩ := hop_go_iff.mp moved
  by_cases same : serial = issue.serial
  · subst same
    have recorded : issue.issuerSlot = next := by simpa [Ledger.file] using issued
    exact .inl ⟨read, recorded.symm, elsewhere⟩
  · have apart : hexName serial ≠ hexName issue.serial := fun equal => same (hexName_injective equal)
    exact .inr (hop_go_iff.mpr ⟨inside, held, unchained, elsewhere, serial, read,
      by simpa [Ledger.file, apart] using issued⟩)

variable (rooted : Rooted config crypto ledger)

include rooted

theorem Rooted.file_inside (inside : issue.issuerSlot < config.maxKeySlots)
    (name : Bytes) (issuer : Slot) (recorded : (ledger.file issue).issuer name = some issuer) :
    issuer < config.maxKeySlots := by
  by_cases here : name = hexName issue.serial
  · subst here
    obtain rfl : issue.issuerSlot = issuer := by simpa [Ledger.file] using recorded
    exact inside
  · exact rooted.inside name issuer (by simpa [Ledger.file, here] using recorded)

/-- A record that no installed certificate belongs to is no link. -/
theorem Rooted.file (inside : issue.issuerSlot < config.maxKeySlots)
    (unused : Unused config crypto ledger issue.serial) : Rooted config crypto (ledger.file issue) := by
  refine ⟨rooted.acyclic.mono ?_, rooted.file_inside inside⟩
  intro other label next moved
  rcases file_go moved with ⟨held, _⟩ | kept
  · exact absurd held (unused.2 other (hop_go_iff.mp moved).1)
  · exact kept

/-- A slot that is signed by another one links to it. -/
theorem Rooted.link (inside : issue.issuerSlot < config.maxKeySlots)
    (unused : Unused config crypto ledger issue.serial)
    (reads : ∀ parsed, certparseCert crypto.toWolfReader issue.der = .ok parsed → parsed.serial = issue.serial)
    (away : issue.issuerSlot = slot ∨ ¬ ledger.Reaches config crypto issue.issuerSlot slot) :
    Rooted config crypto ((ledger.install slot issue.der none).file issue) := by
  have installed : Rooted config crypto (ledger.install slot issue.der none) := by
    apply rooted.install
    intro _ parsed issuer parses recorded
    rw [reads parsed parses, unused.1] at recorded
    cases recorded
  have others (other : Slot) (label : Bytes) (next : Slot) (different : other ≠ slot)
      (moved : ((ledger.install slot issue.der none).file issue).hop config crypto other = .go label next) :
      (ledger.install slot issue.der none).hop config crypto other = .go label next := by
    rcases file_go moved with ⟨held, _⟩ | kept
    · have before : ledger.serialIn crypto other = some issue.serial := by
        simpa [Ledger.serialIn, Ledger.install, different] using held
      exact absurd before (unused.2 other (hop_go_iff.mp moved).1)
    · exact kept
  refine ⟨installed.acyclic.change others ?_, installed.file_inside inside⟩
  rintro label next moved ⟨path, reached⟩
  rcases file_go moved with ⟨_, rfl, elsewhere⟩ | kept
  · rcases away with root | unreached
    · exact elsewhere root
    · exact unreached (reached.reached install_go)
  · exact Walk.acyclic_iff.mp installed.acyclic slot label next kept ⟨path, reached⟩

theorem Rooted.allocate {blob : Bytes} :
    Rooted config crypto (ledger.allocate slot blob) := ⟨rooted.acyclic, rooted.inside⟩

theorem Rooted.release : Rooted config crypto (ledger.release slot) := by
  refine ⟨rooted.acyclic.mono ?_, rooted.inside⟩
  intro other label next moved
  rw [hop_go_iff] at moved ⊢
  by_cases here : other = slot
  · subst here
    simp [Ledger.release] at moved
  · simpa [Ledger.release, Ledger.serialIn, here] using moved

omit rooted

theorem rooted_empty (config : Config) (crypto : Crypto) : Rooted config crypto .empty := by
  refine ⟨?_, by simp [Ledger.empty]⟩
  rintro start ⟨path, last, passes, left⟩
  obtain ⟨_, _, _, _, _, moved, _⟩ := passes.split left
  simpa [Ledger.empty] using (hop_go_iff.mp moved).2.1

/-- A minted certificate leads nowhere when its serial is new. -/
theorem Minted.leadsAway {env : Env} {issuer : Slot} (minted : Minted config crypto env ledger issuer serial der)
    (reads : ReadsSerial crypto env) (unused : DrawsUnused config crypto env ledger) :
    LeadsAway config crypto ledger slot der := by
  intro parsed recorded parses held
  obtain ⟨spec, _, rfl, built⟩ := minted.built
  rw [reads spec der parsed built parses, (unused _ minted.drawn).1] at held
  cases held

theorem Minted.reads {env : Env} (minted : Minted config crypto env ledger slot serial der)
    (reads : ReadsSerial crypto env) (parsed : ParsedCert)
    (parses : certparseCert crypto.toWolfReader der = .ok parsed) : parsed.serial = serial := by
  obtain ⟨spec, _, rfl, built⟩ := minted.built
  exact reads spec der parsed built parses

end Links

section Runs

variable {config : Config} {crypto : Crypto} {device : Device} {event : Event}

/-- A step that opens no cycle keeps the ledger rooted. -/
theorem step_rooted (reliable : Reliable event.env.toFaults) (reads : ReadsSerial crypto event.env)
    (prudent : OpensNoCycle config crypto device event) (rooted : Rooted config crypto (ledgerOf device)) :
    Rooted config crypto (ledgerOf (step config crypto device event)) := by
  have entered := step_transition config crypto device event reliable
  generalize ledgerOf (step config crypto device event) = after at entered
  cases entered with
  | steady => exact rooted
  | signed runs answers minted =>
    have unused := prudent.2 _ _ _ runs
    rcases answers with rfl | rfl
    · exact rooted.file minted.inside (unused _ minted.drawn)
    · exact rooted.file minted.inside (unused _ minted.drawn)
  | crossSigned runs issuer keyed minted =>
    have away := prudent.2 _ _ _ runs
    rw [executes_env runs] at reads
    exact rooted.link minted.inside (away.1 _ minted.drawn) (minted.reads reads) (issuer ▸ away.2)
  | selfSigned runs minted =>
    have unused := prudent.2 _ _ _ runs
    rw [executes_env runs] at reads
    exact rooted.install fun _ => minted.leadsAway reads unused
  | booted boots absent minted =>
    have unused := prudent.1 _ _ boots
    subst boots
    exact rooted.install fun _ => minted.leadsAway reads unused
  | caPushed runs => exact rooted.install fun _ => prudent.2 _ _ _ runs
  | pushed runs keyed =>
    apply rooted.install
    intro unchained
    split_ifs at unchained with empty
    exact (prudent.2 _ _ _ runs).resolve_left (not_not.mpr empty)
  | provisioned runs absent | generated runs free => exact rooted.allocate
  | deleted runs other => exact rooted.release
  | wiped runs => exact rooted_empty config crypto

/-- A certificate read in part has the serial of the whole. -/
def ReadsPrefix (wolf : WolfReader) : Prop :=
  ∀ der kept parsed, certparseCert wolf (der.take kept) = .ok parsed →
    ∃ whole, certparseCert wolf der = .ok whole ∧ whole.serial = parsed.serial

/-- A walk that is cut off has made all its hops. -/
theorem chainWalk_loops {capacity left : Nat} {slot : Slot} {out : Bytes} (cut : ReadsPrefix crypto.toWolfReader)
    (lost : (chainWalk config crypto capacity left slot out device).1 = .error .eloop) :
    ∃ path last, Walk.Passes (chainHop config crypto device) slot path last ∧ path.length = left := by
  induction left generalizing slot out with
  | zero => exact ⟨[], slot, .here slot, rfl⟩
  | succ left ih =>
    by_cases inside : slot < config.maxKeySlots
    case neg =>
      rw [chainWalk_outside inside] at lost
      cases lost
    cases stored : device.fs.files (.slot slot .cert) with
    | none =>
      rw [chainWalk_absent inside stored] at lost
      cases lost
    | some whole =>
      rw [chainWalk_stored inside stored] at lost
      dsimp only at lost
      cases chained : device.fs.files (.slot slot .chain) with
      | some chain =>
        rw [chained] at lost
        cases lost
      | none =>
        rw [chained] at lost
        cases read : certparseCert crypto.toWolfReader (whole.take (capacity - out.length)) with
        | error error =>
          rw [read] at lost
          cases lost
        | ok parsed =>
          simp only [read] at lost
          obtain ⟨entire, entirely, serial⟩ := cut whole _ parsed read
          split_ifs at lost with root
          obtain ⟨path, last, passes, long⟩ := ih lost
          have moved : chainHop config crypto device slot =
              .go whole (recordedIssuer device slot parsed.serial) := by
            simp [chainHop, inside, stored, chained, entirely, serial, root]
          exact ⟨(slot, whole) :: path, last, .go moved passes, by simp [long]⟩

/-- A rooted store sends no walk around. -/
theorem Rooted.chain (rooted : Rooted config crypto (ledgerOf device)) (cut : ReadsPrefix crypto.toWolfReader)
    (slot : Slot) (capacity : Nat) (bytes : Bytes) :
    (caGetChainSlot config crypto slot capacity device).1 ≠ .ok (.error .eloop, bytes) := by
  intro answered
  rcases Nat.eq_zero_or_pos capacity with rfl | positive
  · cases answered
  have walked : chainWalk config crypto capacity config.maxKeySlots.toNat slot [] device = (_, device) :=
    Op.read_eq rfl
  rw [caGetChainSlot_eq positive walked] at answered
  have lost : (chainWalk config crypto capacity config.maxKeySlots.toNat slot [] device).1 = .error .eloop := by
    generalize (chainWalk config crypto capacity config.maxKeySlots.toNat slot [] device).1 = result at answered
    cases result with
    | ok chain => cases answered
    | error error =>
      have same : error = .eloop := Except.error.inj (Prod.mk.inj (Except.ok.inj answered)).1
      rw [same]
  obtain ⟨path, last, passes, long⟩ := chainWalk_loops cut lost
  rcases (Walk.follow_eq_none_iff_revisits slotNumber_injective chainHop_go_inside).mp
      (Walk.follow_eq_none.mpr ⟨path, last, passes, long⟩) with again | ⟨around, beyond, strayed, hops, outside⟩
  · rw [chainHop_eq_hop] at again
    exact rooted.acyclic slot again
  · have slots : 0 < config.maxKeySlots.toNat := UInt32.le_iff_toNat_le.mp config.maxKeySlots_range.1
    rw [chainHop_eq_hop] at strayed
    obtain ⟨node, label, sent⟩ := strayed.sent (by rintro rfl; simp at hops; omega)
    obtain ⟨_, _, _, _, serial, _, recorded⟩ := hop_go_iff.mp sent
    have inside := UInt32.lt_iff_toNat_lt.mp (rooted.inside _ _ recorded)
    omega

/-- Issuers never lead back where no step opens a cycle. -/
theorem run_issuers_acyclic (config : Config) (crypto : Crypto) (start : Device) (events : List Event)
    (blank : start.fs = Fs.empty) (cut : ReadsPrefix crypto.toWolfReader)
    (reads : ∀ event ∈ events, ReadsSerial crypto event.env)
    (prudent : ∀ visit ∈ Trace.visits (step config crypto) start events,
      Reliable visit.2.env.toFaults ∧ OpensNoCycle config crypto visit.1 visit.2)
    (before after : List Event) (split : events = before ++ after) (slot : Slot) :
    ¬ Walk.Revisits (chainHop config crypto (Trace.run (step config crypto) start before)) slot ∧
      ∀ capacity bytes, (caGetChainSlot config crypto slot capacity
        (Trace.run (step config crypto) start before)).1 ≠ .ok (.error .eloop, bytes) := by
  have initial : Rooted config crypto (ledgerOf start) := by
    rw [ledgerOf_blank blank]
    exact rooted_empty config crypto
  have rooted : Rooted config crypto (ledgerOf (Trace.run (step config crypto) start before)) :=
    Trace.prefix_invariant (step config crypto) (fun device => Rooted config crypto (ledgerOf device))
      (fun event => ReadsSerial crypto event.env)
      (fun device event => Reliable event.env.toFaults ∧ OpensNoCycle config crypto device event)
      (fun _ _ law met rooted => step_rooted met.1 law met.2 rooted) reads prudent initial split
  refine ⟨?_, rooted.chain cut slot⟩
  rw [chainHop_eq_hop]
  exact rooted.acyclic slot

end Runs

/-- Two slots sign each other. -/
def crossSigning : List Event :=
  [openRequest 1 .provisionCa [], openRequest 2 .genKey [], openRequest 3 .genKey [],
    openRequest 4 .pushKeyX509 ([0, 0, 0, 1] ++ plainParams), openRequest 5 .pushKeyX509 ([0, 0, 0, 2] ++ plainParams),
    openRequest 6 .signKeySlot [0, 0, 0, 1, 0, 0, 0, 2]]

def backSigning : Event := openRequest 7 .signKeySlot [0, 0, 0, 2, 0, 0, 0, 1]

/-- Two slots lead to each other, and the chain is refused. -/
theorem backSigning_loops :
    let device := Trace.run (step .default openCrypto) blankDevice (crossSigning ++ [backSigning])
    Walk.Revisits (chainHop .default openCrypto device) 1 ∧
      (caGetChainSlot .default openCrypto 1 respCapacity device).1 = .ok (.error .eloop, []) := by
  intro device
  have away : chainHop .default openCrypto device 1 = .go ((device.fs.files (.slot 1 .cert)).getD []) 2 := by
    decide +kernel
  have back : chainHop .default openCrypto device 2 = .go ((device.fs.files (.slot 2 .cert)).getD []) 1 := by
    decide +kernel
  exact ⟨⟨_, 1, .go away (.go back (.here 1)), by simp⟩, by decide +kernel⟩

/-- An open certificate is read when its head is there. -/
theorem openCrypto_read {der : Bytes} {serial : Bytes} :
    (∃ parsed, certparseCert openCrypto.toWolfReader der = .ok parsed ∧ parsed.serial = serial) ↔
      141 ≤ der.length ∧ fieldAt 1 8 der = serial := by
  have short : (fieldAt 1 8 der).length ≤ certparseSerialMax := by
    simp only [fieldAt, List.length_take, certparseSerialMax]
    omega
  unfold certparseCert
  by_cases long : 141 ≤ der.length
  · have present : der.length ≠ 0 := by omega
    simp [present, openCrypto, long, openDecoded, short]
  · simp [openCrypto, long]

theorem openCrypto_readsPrefix : ReadsPrefix openCrypto.toWolfReader := by
  intro der kept parsed read
  obtain ⟨long, serial⟩ := openCrypto_read.mp ⟨parsed, read, rfl⟩
  rw [List.length_take] at long
  rw [fieldAt_take der (by omega)] at serial
  exact openCrypto_read.mpr ⟨by omega, serial⟩

theorem openEnv_readsSerial (random : UInt8) : ReadsSerial openCrypto (openEnv random) := by
  intro spec der parsed built read
  obtain ⟨_, decoded, _⟩ := openBuild_eq_ok built
  have field := (openCrypto_read.mp ⟨parsed, read, rfl⟩).2
  rw [← field]
  exact congrArg DecodedCert.serial decoded

/-- The serial is compared with the certificates of all slots. -/
theorem drawsUnused_of {config : Config} {crypto : Crypto} {env : Env} {ledger : Ledger} (serial : Bytes)
    (draws : Draws env serial) (unrecorded : ledger.issuer (hexName serial) = none)
    (uninstalled : ∀ number < config.maxKeySlots.toNat, ledger.serialIn crypto (UInt32.ofNat number) ≠ some serial) :
    DrawsUnused config crypto env ledger := by
  intro other drawn
  obtain rfl : serial = other := Except.ok.inj ((draws blankDevice).symm.trans (drawn blankDevice))
  refine ⟨unrecorded, fun slot inside => ?_⟩
  have number := uninstalled slot.toNat (UInt32.lt_iff_toNat_lt.mp inside)
  rwa [UInt32.ofNat_toNat] at number

theorem openRequest_opensNoCycle {config : Config} {crypto : Crypto} {device : Device} {random : UInt8}
    {command : Command} {data : Bytes}
    (safe : CommandOpensNoCycle config crypto (openEnv random) data (ledgerOf device) command) :
    Reliable (openRequest random command data).env.toFaults ∧
      OpensNoCycle config crypto device (openRequest random command data) := by
  refine ⟨⟨fun _ => rfl, fun _ => rfl⟩, ?_, ?_⟩
  · intro env volume boots
    cases boots
  · intro env other content runs
    obtain ⟨rfl, rfl, rfl⟩ := executes_code runs
    exact safe

/-- With one signature only, nothing leads back. -/
theorem crossSigning_leads :
    let device := Trace.run (step .default openCrypto) blankDevice crossSigning
    chainHop .default openCrypto device 2 = .go ((device.fs.files (.slot 2 .cert)).getD []) 1 ∧
      ¬ Walk.Revisits (chainHop .default openCrypto device) 2 := by
  refine ⟨by decide +kernel, (run_issuers_acyclic .default openCrypto blankDevice crossSigning rfl
    openCrypto_readsPrefix ?_ ?_ crossSigning [] (List.append_nil _).symm 2).1⟩
  · intro event inside
    simp only [crossSigning, List.mem_cons, List.not_mem_nil, or_false] at inside
    rcases inside with rfl | rfl | rfl | rfl | rfl | rfl <;> exact openEnv_readsSerial _
  · simp only [crossSigning, Trace.visits_cons, Trace.visits_nil, List.forall_mem_cons, List.not_mem_nil,
      false_implies, implies_true, and_true]
    refine ⟨openRequest_opensNoCycle trivial, openRequest_opensNoCycle trivial, openRequest_opensNoCycle trivial,
      openRequest_opensNoCycle ?_, openRequest_opensNoCycle ?_, openRequest_opensNoCycle ⟨?_, .inr ?_⟩⟩
    · exact drawsUnused_of (5 :: List.replicate 7 4) (fun _ => rfl) (by decide +kernel) (by decide +kernel)
    · exact drawsUnused_of (5 :: List.replicate 7 5) (fun _ => rfl) (by decide +kernel) (by decide +kernel)
    · exact drawsUnused_of (7 :: List.replicate 7 6) (fun _ => rfl) (by decide +kernel) (by decide +kernel)
    · have issuer : slotArg [0, 0, 0, 1, 0, 0, 0, 2] = 1 := by decide
      have subject : slotArg (List.drop 4 [0, 0, 0, 1, 0, 0, 0, 2]) = 2 := by decide
      rintro ⟨path, passes⟩
      generalize reached : step .default openCrypto _ (openRequest 5 .pushKeyX509 ([0, 0, 0, 2] ++ plainParams)) =
        device at passes
      have root : (ledgerOf device).hop .default openCrypto 1 =
          .stop (.ok ((device.fs.files (.slot 1 .cert)).getD [])) := by
        rw [← reached]
        decide +kernel
      exact absurd (passes.stays root) (by decide)

end Cantil.Dispatcher
