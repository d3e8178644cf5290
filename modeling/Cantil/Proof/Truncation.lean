import Cantil.Firmware.Reads
import Cantil.Proof.ChainWalk

namespace Cantil.Ca
open Library

section Complete

variable {config : Config} {crypto : Crypto} {device : Device} {slot : Slot}

/-- The whole certificates of the walk. -/
def CompleteChain (config : Config) (crypto : Crypto) (device : Device) (slot : Slot) (bytes : Bytes) : Prop :=
  ∃ path last tail, Walk.Passes (chainHop config crypto device) slot path last ∧
    chainHop config crypto device last = .stop (.ok tail) ∧ bytes = (path.map Prod.snd).flatten ++ tail

theorem completeChain_of_stop {result : Except Errno Bytes} (stops : chainHop config crypto device slot = .stop result)
    (bytes : Bytes) : CompleteChain config crypto device slot bytes ↔ result = .ok bytes := by
  constructor
  · rintro ⟨path, last, tail, passes, ends, rfl⟩
    cases passes with
    | here => exact Walk.Hop.stop.inj (stops.symm.trans ends)
    | go moved _ => cases stops.symm.trans moved
  · rintro rfl
    exact ⟨[], slot, bytes, .here slot, stops, rfl⟩

theorem completeChain_of_go {cert : Bytes} {issuer : Slot}
    (moves : chainHop config crypto device slot = .go cert issuer) (bytes : Bytes) :
    CompleteChain config crypto device slot bytes ↔
      ∃ rest, bytes = cert ++ rest ∧ CompleteChain config crypto device issuer rest := by
  constructor
  · rintro ⟨path, last, tail, passes, ends, rfl⟩
    cases passes with
    | here => cases moves.symm.trans ends
    | go moved passes =>
      obtain ⟨rfl, rfl⟩ := Walk.Hop.go.inj (moves.symm.trans moved)
      exact ⟨_, by simp, _, last, tail, passes, ends, rfl⟩
  · rintro ⟨_, rfl, path, last, tail, passes, ends, rfl⟩
    exact ⟨(slot, cert) :: path, last, tail, .go moves passes, ends, by simp⟩

/-- It starts with the slot's whole certificate. -/
theorem CompleteChain.length_le {bytes cert : Bytes} (complete : CompleteChain config crypto device slot bytes)
    (inside : slot < config.maxKeySlots) (stored : device.fs.files (.slot slot .cert) = some cert) :
    cert.length ≤ bytes.length := by
  cases chained : device.fs.files (.slot slot .chain) with
  | some chain =>
    have stops : chainHop config crypto device slot = .stop (.ok (cert ++ chain)) := by
      simp [chainHop, inside, stored, chained]
    obtain rfl := Except.ok.inj ((completeChain_of_stop stops bytes).mp complete)
    simp
  | none =>
    cases parse : certparseCert crypto.toWolfReader cert with
    | error error =>
      have stops : chainHop config crypto device slot = .stop (.error .eio) := by
        simp [chainHop, inside, stored, chained, parse]
      cases (completeChain_of_stop stops bytes).mp complete
    | ok parsed =>
      by_cases root : recordedIssuer device slot parsed.serial = slot
      · have stops : chainHop config crypto device slot = .stop (.ok cert) := by
          simp [chainHop, inside, stored, chained, parse, root]
        obtain rfl := Except.ok.inj ((completeChain_of_stop stops bytes).mp complete)
        exact le_rfl
      · have moves : chainHop config crypto device slot =
            .go cert (recordedIssuer device slot parsed.serial) := by
          simp [chainHop, inside, stored, chained, parse, root]
        obtain ⟨rest, rfl, _⟩ := (completeChain_of_go moves bytes).mp complete
        simp

end Complete

section Cut

variable {config : Config} {crypto : Crypto} {device : Device} {capacity : Nat}
variable {left : Nat} {slot : Slot} {out whole : Bytes}

/-- The walk only appends, and never behind the buffer. -/
theorem chainWalk_length {bytes : Bytes} (room : out.length ≤ capacity)
    (walked : (chainWalk config crypto capacity left slot out device).1 = .ok bytes) :
    out.length ≤ bytes.length ∧ bytes.length ≤ capacity := by
  induction left generalizing slot out with
  | zero => cases walked
  | succ left ih =>
    obtain ⟨_, whole, cert, _, cut, rest⟩ := chainWalk_ok walked
    have short : cert.length ≤ capacity - out.length := by
      rw [cut, List.length_take]
      omega
    rcases rest with ⟨chain, _, rfl⟩ | ⟨_, parsed, _, ⟨_, rfl⟩ | ⟨_, onward⟩⟩
    · simp only [List.length_append, List.length_take]
      omega
    · rw [List.length_append]
      omega
    · have bounds := ih (by rw [List.length_append]; omega) onward
      rw [List.length_append] at bounds
      omega

/-- With a full buffer only a slot with a chain ends the walk. -/
theorem chainWalk_full (config : Config) (crypto : Crypto) (device : Device) (left : Nat) (slot : Slot)
    (full : capacity ≤ out.length) :
    (∃ bytes, (chainWalk config crypto capacity left slot out device).1 = .ok bytes) ↔
      0 < left ∧ slot < config.maxKeySlots ∧ (device.fs.files (.slot slot .cert)).isSome = true ∧
        (device.fs.files (.slot slot .chain)).isSome = true := by
  cases left with
  | zero => simp [chainWalk]
  | succ left =>
    by_cases inside : slot < config.maxKeySlots
    case neg => simp [chainWalk_outside inside, inside]
    cases stored : device.fs.files (.slot slot .cert) with
    | none => simp [chainWalk_absent inside stored]
    | some whole =>
      have nothing : whole.take (capacity - out.length) = [] := by
        rw [Nat.sub_eq_zero_of_le full, List.take_zero]
      have unread : certparseCert crypto.toWolfReader [] = .error .einval := rfl
      rw [chainWalk_stored inside stored, nothing]
      cases device.fs.files (.slot slot .chain) with
      | some chain => simp [inside]
      | none => simp [unread]

/-- No chain follows, and the rest leads nowhere. -/
def CutNoticed (config : Config) (crypto : Crypto) (device : Device) (left : Nat) (slot : Slot) (cut : Bytes) :
    Prop :=
  device.fs.files (.slot slot .chain) = none ∧
    ∀ parsed, certparseCert crypto.toWolfReader cut = .ok parsed →
      recordedIssuer device slot parsed.serial ≠ slot ∧
      ¬ (0 < left ∧ recordedIssuer device slot parsed.serial < config.maxKeySlots ∧
        (device.fs.files (.slot (recordedIssuer device slot parsed.serial) .cert)).isSome = true ∧
        (device.fs.files (.slot (recordedIssuer device slot parsed.serial) .chain)).isSome = true)

/-- Every file fits, or the first that does not is noticed. -/
def ChainFits (config : Config) (crypto : Crypto) (device : Device) : (left room : Nat) → Slot → Prop
  | 0, _, _ => True
  | left + 1, room, slot =>
    ∀ cert, slot < config.maxKeySlots → device.fs.files (.slot slot .cert) = some cert →
      if cert.length ≤ room then
        match device.fs.files (.slot slot .chain) with
        | some chain => cert.length + chain.length ≤ room
        | none => ∀ parsed, certparseCert crypto.toWolfReader cert = .ok parsed →
            recordedIssuer device slot parsed.serial ≠ slot →
            ChainFits config crypto device left (room - cert.length) (recordedIssuer device slot parsed.serial)
      else CutNoticed config crypto device left slot (cert.take room)

/-- What the walk appends is complete whenever it ends well. -/
def AppendsWhole (config : Config) (crypto : Crypto) (device : Device) (capacity left : Nat) (slot : Slot)
    (out : Bytes) : Prop :=
  ∀ bytes, (chainWalk config crypto capacity left slot out device).1 = .ok bytes →
    ∃ tail, bytes = out ++ tail ∧ CompleteChain config crypto device slot tail

section Stored

variable (inside : slot < config.maxKeySlots) (stored : device.fs.files (.slot slot .cert) = some whole)
include inside stored

theorem chainFits_of_cut {room : Nat} (long : room < whole.length) :
    ChainFits config crypto device (left + 1) room slot ↔
      CutNoticed config crypto device left slot (whole.take room) := by
  constructor
  · intro fits
    simpa [Nat.not_le.mpr long] using fits whole inside stored
  · intro noticed cert _ held
    obtain rfl := Option.some.inj (stored.symm.trans held)
    rwa [if_neg (Nat.not_le.mpr long)]

theorem chainFits_of_le {room : Nat} (short : whole.length ≤ room) :
    ChainFits config crypto device (left + 1) room slot ↔
      match device.fs.files (.slot slot .chain) with
      | some chain => whole.length + chain.length ≤ room
      | none => ∀ parsed, certparseCert crypto.toWolfReader whole = .ok parsed →
          recordedIssuer device slot parsed.serial ≠ slot →
          ChainFits config crypto device left (room - whole.length) (recordedIssuer device slot parsed.serial) := by
  constructor
  · intro fits
    simpa only [if_pos short] using fits whole inside stored
  · intro fits cert _ held
    obtain rfl := Option.some.inj (stored.symm.trans held)
    rwa [if_pos short]

/-- A cut certificate leaves no complete chain. -/
theorem appendsWhole_of_cut (room : out.length ≤ capacity) (long : capacity - out.length < whole.length) :
    AppendsWhole config crypto device capacity left slot out ↔
      ¬ ∃ bytes, (chainWalk config crypto capacity left slot out device).1 = .ok bytes := by
  constructor
  · rintro appends ⟨bytes, walked⟩
    obtain ⟨tail, rfl, complete⟩ := appends bytes walked
    have most := (chainWalk_length room walked).2
    have least := complete.length_le inside stored
    rw [List.length_append] at most
    omega
  · intro fails bytes walked
    exact absurd ⟨bytes, walked⟩ fails

theorem appendsWhole_cut_iff (room : out.length ≤ capacity) (long : capacity - out.length < whole.length) :
    AppendsWhole config crypto device capacity (left + 1) slot out ↔
      CutNoticed config crypto device left slot (whole.take (capacity - out.length)) := by
  have full : capacity ≤ (out ++ whole.take (capacity - out.length)).length := by
    rw [List.length_append, List.length_take]
    omega
  rw [appendsWhole_of_cut inside stored room long, chainWalk_stored inside stored, CutNoticed]
  dsimp only
  cases device.fs.files (.slot slot .chain) with
  | some chain => simp
  | none =>
    cases parse : certparseCert crypto.toWolfReader (whole.take (capacity - out.length)) with
    | error error => simp
    | ok parsed =>
      by_cases root : recordedIssuer device slot parsed.serial = slot
      · simp [root]
      · have onward := chainWalk_full config crypto device left (recordedIssuer device slot parsed.serial) full
        simp only [root, if_false, onward]
        simp [root]

/-- A chain is appended as far as it fits. -/
theorem appendsWhole_chain_iff {chain : Bytes} (chained : device.fs.files (.slot slot .chain) = some chain)
    (room : out.length ≤ capacity) (short : whole.length ≤ capacity - out.length) :
    AppendsWhole config crypto device capacity (left + 1) slot out ↔
      whole.length + chain.length ≤ capacity - out.length := by
  have kept : whole.take (capacity - out.length) = whole := List.take_of_length_le short
  have stops : chainHop config crypto device slot = .stop (.ok (whole ++ chain)) := by
    simp [chainHop, inside, stored, chained]
  rw [AppendsWhole, chainWalk_stored inside stored, chained, kept]
  dsimp only
  constructor
  · intro appends
    obtain ⟨tail, same, complete⟩ := appends _ rfl
    obtain rfl := Except.ok.inj ((completeChain_of_stop stops tail).mp complete)
    have lengths := congrArg List.length same
    simp only [List.length_append, List.length_take] at lengths
    omega
  · intro fits bytes walked
    have keptChain : chain.take (capacity - (out ++ whole).length) = chain :=
      List.take_of_length_le (by rw [List.length_append]; omega)
    rw [keptChain] at walked
    obtain rfl := Except.ok.inj walked
    exact ⟨whole ++ chain, by simp, (completeChain_of_stop stops _).mpr rfl⟩

/-- The walk ends, or goes on to the issuer. -/
theorem appendsWhole_issuer_iff (unchained : device.fs.files (.slot slot .chain) = none)
    (short : whole.length ≤ capacity - out.length) :
    AppendsWhole config crypto device capacity (left + 1) slot out ↔
      ∀ parsed, certparseCert crypto.toWolfReader whole = .ok parsed →
        recordedIssuer device slot parsed.serial ≠ slot →
        AppendsWhole config crypto device capacity left (recordedIssuer device slot parsed.serial)
          (out ++ whole) := by
  have kept : whole.take (capacity - out.length) = whole := List.take_of_length_le short
  unfold AppendsWhole
  rw [chainWalk_stored inside stored, unchained, kept]
  dsimp only
  cases parse : certparseCert crypto.toWolfReader whole with
  | error error => simp
  | ok parsed =>
    by_cases root : recordedIssuer device slot parsed.serial = slot
    · have stops : chainHop config crypto device slot = .stop (.ok whole) := by
        simp [chainHop, inside, stored, unchained, parse, root]
      refine iff_of_true (fun bytes walked => ?_) ?_
      · simp only [root, if_true] at walked
        obtain rfl := Except.ok.inj walked
        exact ⟨whole, rfl, (completeChain_of_stop stops whole).mpr rfl⟩
      · intro other same away
        obtain rfl := Except.ok.inj same
        exact absurd root away
    · have moves : chainHop config crypto device slot = .go whole (recordedIssuer device slot parsed.serial) := by
        simp [chainHop, inside, stored, unchained, parse, root]
      simp only [root, if_false, Except.ok.injEq]
      constructor
      · rintro appends _ rfl _ bytes walked
        obtain ⟨tail, rfl, complete⟩ := appends bytes walked
        obtain ⟨rest, rfl, above⟩ := (completeChain_of_go moves tail).mp complete
        exact ⟨rest, by simp, above⟩
      · intro appends bytes walked
        obtain ⟨tail, rfl, complete⟩ := appends parsed rfl root bytes walked
        exact ⟨whole ++ tail, by simp, (completeChain_of_go moves _).mpr ⟨tail, rfl, complete⟩⟩

end Stored

theorem appendsWhole_iff_fits (config : Config) (crypto : Crypto) (device : Device) (left : Nat) (slot : Slot)
    (out : Bytes) (room : out.length ≤ capacity) :
    AppendsWhole config crypto device capacity left slot out ↔
      ChainFits config crypto device left (capacity - out.length) slot := by
  induction left generalizing slot out with
  | zero => exact iff_of_true (fun _ walked => by cases walked) trivial
  | succ left ih =>
    by_cases inside : slot < config.maxKeySlots
    case neg =>
      refine iff_of_true (fun bytes walked => ?_) fun _ within => absurd within inside
      rw [chainWalk_outside inside] at walked
      cases walked
    cases stored : device.fs.files (.slot slot .cert) with
    | none =>
      refine iff_of_true (fun bytes walked => ?_) fun cert _ held => ?_
      · rw [chainWalk_absent inside stored] at walked
        cases walked
      · cases stored.symm.trans held
    | some whole =>
      by_cases short : whole.length ≤ capacity - out.length
      case neg => rw [appendsWhole_cut_iff inside stored room (by omega), chainFits_of_cut inside stored (by omega)]
      rw [chainFits_of_le inside stored short]
      cases chained : device.fs.files (.slot slot .chain) with
      | some chain => exact appendsWhole_chain_iff inside stored chained room short
      | none =>
        rw [appendsWhole_issuer_iff inside stored chained short]
        have fits : (out ++ whole).length ≤ capacity := by rw [List.length_append]; omega
        have left : capacity - (out ++ whole).length = capacity - out.length - whole.length := by
          rw [List.length_append]
          omega
        simp only [ih _ _ fits, left]

end Cut

end Cantil.Ca

namespace Cantil.Dispatcher
open Library Ca
open Protocol (Err)

section Reads

variable {config : Config} {crypto : Crypto} {session : SessionCert} {device : Device} {capacity : Nat} {data : Bytes}
variable {bytes : Bytes}

/-- The whole certificates that the store holds for a read. -/
def Stored (config : Config) (crypto : Crypto) (session : SessionCert) (device : Device) (data : Bytes) :
    Read → Bytes → Prop
  | .caCert, bytes => device.fs.files (.slot caSlot .cert) = some bytes
  | .cert, bytes => device.fs.files (.issued (hexName data) .cert) = some bytes
  | .caChain, bytes => CompleteChain config crypto device (chainArg data) bytes
  | .sessionCert, bytes => session.ephemeral.or session.file = some bytes

/-- What is read fits the buffer, or the cut is noticed. -/
def ReadFits (config : Config) (crypto : Crypto) (session : SessionCert) (device : Device) (capacity : Nat)
    (data : Bytes) : Read → Prop
  | .caCert => ∀ cert, device.fs.files (.slot caSlot .cert) = some cert → cert.length ≤ capacity
  | .cert => data.length * 2 + 20 < pathMaxLen →
      ∀ cert, device.fs.files (.issued (hexName data) .cert) = some cert → cert.length ≤ capacity
  | .caChain => data.length = 4 ∨ data.length = 0 → capacity ≠ 0 →
      ChainFits config crypto device config.maxKeySlots.toNat capacity (chainArg data)
  | .sessionCert => session.ephemeral = none → ∀ cert, session.file = some cert → cert.length ≤ capacity

/-- The read reports success with these bytes. -/
def Returns (config : Config) (crypto : Crypto) (session : SessionCert) (device : Device) (capacity : Nat)
    (data : Bytes) (read : Read) (bytes : Bytes) : Prop :=
  (handleRead config crypto session capacity data read device).1 = .ok (.reply ⟨.ok, RespData.of bytes⟩)

theorem RespData.of_inj {first second : Bytes} : RespData.of first = RespData.of second ↔ first = second :=
  ⟨congrArg RespData.known, congrArg RespData.of⟩

theorem readReply_eq_ok {failure : Err} (failed : failure ≠ .ok) {result : Except Errno Bytes} :
    readReply capacity failure result = .reply ⟨.ok, RespData.of bytes⟩ ↔ result = .ok bytes := by
  cases result with
  | error error => simp [readReply, failed]
  | ok found => simp [readReply, RespData.of_inj]

theorem returns_caCert :
    Returns config crypto session device capacity data .caCert bytes ↔
      ∃ whole, device.fs.files (.slot caSlot .cert) = some whole ∧ bytes = whole.take capacity := by
  have ran : (handleGetCaCert capacity device).1 =
      .ok (readReply capacity .storage (storageSlotCertRead caSlot capacity device).1) := rfl
  rw [Returns, handleRead, ran, Except.ok.injEq, readReply_eq_ok (by decide), storageSlotCertRead, readFile,
    Op.reads_apply]
  cases device.fs.files (.slot caSlot .cert) <;> simp [eq_comm]

theorem returns_cert :
    Returns config crypto session device capacity data .cert bytes ↔
      data.length * 2 + 20 < pathMaxLen ∧
        ∃ whole, device.fs.files (.issued (hexName data) .cert) = some whole ∧ bytes = whole.take capacity := by
  have ran : (handleGetCert capacity data device).1 =
      .ok (readReply capacity .notFound (storageIssuedCertRead data capacity device).1) := rfl
  rw [Returns, handleRead, ran, Except.ok.injEq, readReply_eq_ok (by decide), storageIssuedCertRead]
  by_cases named : data.length * 2 + 20 < pathMaxLen
  · have short : data.length * 2 + 1 ≤ pathMaxLen := by omega
    simp only [Op.bind_apply, Op.ensure, short, named, if_true, Op.pure_apply, readFile, Op.reads_apply, true_and]
    cases device.fs.files (.issued (hexName data) .cert) <;> simp [eq_comm]
  · by_cases short : data.length * 2 + 1 ≤ pathMaxLen
    · simp [Op.bind_apply, Op.ensure, short, named]
    · simp [Op.bind_apply, Op.ensure, short, named]

theorem returns_caChain :
    Returns config crypto session device capacity data .caChain bytes ↔
      (data.length = 4 ∨ data.length = 0) ∧ capacity ≠ 0 ∧
        (chainWalk config crypto capacity config.maxKeySlots.toNat (chainArg data) [] device).1 = .ok bytes := by
  rw [Returns, handleRead, handleGetCaChain]
  by_cases args : data.length ≠ 4 ∧ data.length ≠ 0
  · simp [args, refusal]
  · have named : data.length = 4 ∨ data.length = 0 := by omega
    rw [if_neg args, Op.bind_apply]
    by_cases empty : capacity = 0
    · simp [caGetChainSlot, empty, refusal]
    · have walked : chainWalk config crypto capacity config.maxKeySlots.toNat (chainArg data) [] device = (_, device) :=
        Op.read_eq rfl
      rw [caGetChainSlot_eq (Nat.pos_of_ne_zero empty) walked, and_iff_right named, and_iff_right empty]
      cases (chainWalk config crypto capacity config.maxKeySlots.toNat (chainArg data) [] device).1 with
      | ok chain => simp [covered, RespData.of_inj]
      | error error => cases error <;> simp [covered, refusal]

theorem returns_sessionCert :
    Returns config crypto session device capacity data .sessionCert bytes ↔
      session.ephemeral = some bytes ∧ bytes.length ≤ capacity ∨
      session.ephemeral = none ∧ ∃ whole, session.file = some whole ∧ bytes = whole.take capacity := by
  have reply : Returns config crypto session device capacity data .sessionCert bytes ↔
      sessionSlotGetCert session capacity = .ok bytes := by
    rw [Returns, handleRead, handleGetSessionCert]
    cases sessionSlotGetCert session capacity with
    | ok cert => simp [RespData.of_inj]
    | error error => cases error <;> simp [refusal]
  rw [reply, sessionSlotGetCert]
  cases session.ephemeral with
  | some cert =>
    by_cases long : capacity < cert.length
    · simp only [long, if_true, reduceCtorEq, false_and, or_false, Option.some.injEq, false_iff]
      rintro ⟨rfl, short⟩
      omega
    · have short : cert.length ≤ capacity := by omega
      simp only [long, if_false, Except.ok.injEq, Option.some.injEq, reduceCtorEq, false_and, or_false]
      exact ⟨fun same => ⟨same, same ▸ short⟩, And.left⟩
  | none => cases session.file <;> simp [eq_comm]

/-- A cut file is whole exactly when it fits. -/
theorem cut_whole_iff {file : Option Bytes} :
    (∀ bytes, (∃ whole, file = some whole ∧ bytes = whole.take capacity) → file = some bytes) ↔
      ∀ whole, file = some whole → whole.length ≤ capacity := by
  constructor
  · intro uncut whole held
    have same := Option.some.inj (held.symm.trans (uncut _ ⟨whole, held, rfl⟩))
    rw [same, List.length_take]
    exact Nat.min_le_left _ _
  · rintro fits bytes ⟨whole, held, rfl⟩
    rw [held, List.take_of_length_le (fits whole held)]

/-- A read is whole exactly when all fits or the cut shows. -/
theorem reads_whole_iff_fit (config : Config) (crypto : Crypto) (session : SessionCert) (device : Device)
    (capacity : Nat) (data : Bytes) (read : Read) :
    (∀ bytes, Returns config crypto session device capacity data read bytes →
      Stored config crypto session device data read bytes) ↔
    ReadFits config crypto session device capacity data read := by
  cases read with
  | caCert =>
    simp only [returns_caCert, Stored, ReadFits]
    exact cut_whole_iff
  | cert =>
    simp only [returns_cert, Stored, ReadFits]
    constructor
    · intro whole named
      exact cut_whole_iff.mp fun bytes found => whole bytes ⟨named, found⟩
    · rintro fits bytes ⟨named, found⟩
      exact cut_whole_iff.mpr (fits named) bytes found
  | caChain =>
    have whole := appendsWhole_iff_fits config crypto device config.maxKeySlots.toNat (chainArg data)
      [] (Nat.zero_le capacity)
    simp only [returns_caChain, Stored, ReadFits]
    constructor
    · intro complete named some
      refine whole.mp fun bytes walked => ⟨bytes, rfl, complete bytes ⟨named, some, walked⟩⟩
    · rintro fits bytes ⟨named, some, walked⟩
      obtain ⟨tail, rfl, complete⟩ := whole.mpr (fits named some) bytes walked
      exact complete
  | sessionCert =>
    simp only [returns_sessionCert, Stored, ReadFits]
    cases session.ephemeral with
    | some cert =>
      refine iff_of_true ?_ (by simp)
      rintro bytes (⟨held, _⟩ | ⟨absent, _⟩)
      · exact held
      · cases absent
    | none =>
      simp only [reduceCtorEq, false_and, false_or, true_and, Option.none_or, forall_const]
      exact cut_whole_iff

end Reads

def noSession : SessionCert := ⟨none, none⟩

/-- Slot 0 holds a certificate of two octets. -/
def longDevice : Device := withFile blankDevice (.slot 0 .cert) [7, 8]

/-- Certificate and chain come back cut, with success. -/
theorem cutReads_succeed :
    (Returns oneSlot octetCrypto noSession longDevice 1 [] .caCert [7] ∧
      ¬ Stored oneSlot octetCrypto noSession longDevice [] .caCert [7]) ∧
    (Returns oneSlot octetCrypto noSession chainedDevice 1 [] .caChain [7] ∧
      ¬ Stored oneSlot octetCrypto noSession chainedDevice [] .caChain [7]) := by
  have stops : chainHop oneSlot octetCrypto chainedDevice 0 = .stop (.ok [7, 8]) := by decide +kernel
  refine ⟨⟨?_, ?_⟩, ?_, ?_⟩
  · exact returns_caCert.mpr ⟨[7, 8], by decide +kernel, rfl⟩
  · simp only [Stored]
    decide +kernel
  · exact returns_caChain.mpr ⟨.inr rfl, by decide, by decide +kernel⟩
  · intro complete
    have wrong := (completeChain_of_stop stops [7]).mp complete
    exact absurd wrong (by decide)

end Cantil.Dispatcher
