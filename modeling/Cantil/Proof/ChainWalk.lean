import Cantil.Firmware.Ca.Chain
import Cantil.Firmware.PlainBackend

namespace Cantil.Ca
open Library Walk Dispatcher

section Step

variable {config : Config} {crypto : Crypto} {capacity left : Nat} {slot : Slot} {out : Bytes} {device : Device}

theorem chainWalk_outside (outside : ¬ slot < config.maxKeySlots) :
    chainWalk config crypto capacity (left + 1) slot out device = (.error .einval, device) := by
  simp [chainWalk, Op.bind_apply, Op.ensure, outside]

theorem chainWalk_absent (inside : slot < config.maxKeySlots) (absent : device.fs.files (.slot slot .cert) = none) :
    chainWalk config crypto capacity (left + 1) slot out device = (.error .enoent, device) := by
  simp [chainWalk, Op.bind_apply, Op.ensure, inside, storageSlotCertExists, fileExists, absent]

/-- A certificate is appended, then its chain or its issuer. -/
theorem chainWalk_stored {whole : Bytes} (inside : slot < config.maxKeySlots)
    (stored : device.fs.files (.slot slot .cert) = some whole) :
    chainWalk config crypto capacity (left + 1) slot out device =
      let cert := whole.take (capacity - out.length)
      match device.fs.files (.slot slot .chain) with
      | some chain => (.ok (out ++ cert ++ chain.take (capacity - (out ++ cert).length)), device)
      | none =>
        match certparseCert crypto.toWolfReader cert with
        | .error _ => (.error .eio, device)
        | .ok parsed =>
          if recordedIssuer device slot parsed.serial = slot then (.ok (out ++ cert), device)
          else chainWalk config crypto capacity left (recordedIssuer device slot parsed.serial) (out ++ cert)
            device := by
  rw [chainWalk]
  simp only [Op.bind_apply, Op.ensure, inside, if_true, storageSlotCertExists, fileExists, stored, storageSlotCertRead,
    readFile, storageSlotChainExists, storageSlotChainRead, Op.reads_apply, Op.pure_apply, Option.isSome_some]
  cases chained : device.fs.files (.slot slot .chain) with
  | some chain => simp [Op.bind_apply, chained]
  | none =>
    simp only [Option.isSome_none, Bool.false_eq_true, if_false]
    cases certparseCert crypto.toWolfReader (whole.take (capacity - out.length)) with
    | error error => rfl
    | ok parsed =>
      simp only [Op.bind_apply, Op.attempt_apply, Op.Reader.kept]
      unfold recordedIssuer
      split_ifs
      · simp
      · simp

/-- A walk that ends well has appended its own certificate. -/
theorem chainWalk_ok {bytes : Bytes}
    (walked : (chainWalk config crypto capacity (left + 1) slot out device).1 = .ok bytes) :
    slot < config.maxKeySlots ∧ ∃ whole cert, device.fs.files (.slot slot .cert) = some whole ∧
      cert = whole.take (capacity - out.length) ∧
      ((∃ chain, device.fs.files (.slot slot .chain) = some chain ∧
          bytes = out ++ cert ++ chain.take (capacity - (out ++ cert).length)) ∨
        device.fs.files (.slot slot .chain) = none ∧
          ∃ parsed, certparseCert crypto.toWolfReader cert = .ok parsed ∧
            (recordedIssuer device slot parsed.serial = slot ∧ bytes = out ++ cert ∨
              recordedIssuer device slot parsed.serial ≠ slot ∧
                (chainWalk config crypto capacity left (recordedIssuer device slot parsed.serial) (out ++ cert)
                  device).1 = .ok bytes)) := by
  by_cases inside : slot < config.maxKeySlots
  case neg =>
    rw [chainWalk_outside inside] at walked
    cases walked
  cases stored : device.fs.files (.slot slot .cert) with
  | none =>
    rw [chainWalk_absent inside stored] at walked
    cases walked
  | some whole =>
    rw [chainWalk_stored inside stored] at walked
    dsimp only at walked
    refine ⟨inside, whole, _, rfl, rfl, ?_⟩
    split at walked
    case h_1 chain chained =>
      obtain rfl := Except.ok.inj walked
      exact .inl ⟨chain, chained, rfl⟩
    case h_2 unchained =>
      refine .inr ⟨unchained, ?_⟩
      split at walked
      · cases walked
      · rename_i parsed parse
        refine ⟨parsed, parse, ?_⟩
        split_ifs at walked with root
        · exact .inl ⟨root, (Except.ok.inj walked).symm⟩
        · exact .inr ⟨root, walked⟩

end Step

/-- The bytes of a walk behind those that are there already. -/
def assembled (out : Bytes) : Option (List Bytes × Except Errno Bytes) → Except Errno Bytes
  | none => .error .eloop
  | some (certs, .ok tail) => .ok (out ++ certs.flatten ++ tail)
  | some (_, .error error) => .error error

theorem assembled_append (out cert : Bytes) (found : Option (List Bytes × Except Errno Bytes)) :
    assembled (out ++ cert) found = assembled out (found.map fun walked => (cert :: walked.1, walked.2)) := by
  rcases found with _ | ⟨certs, _ | tail⟩
  · rfl
  · rfl
  · simp [assembled]

/-- With room, the walk follows the issuers over whole files. -/
theorem chainWalk_eq_follow (config : Config) (crypto : Crypto) {capacity largest : Nat} {device : Device}
    (fits : ∀ number file data, device.fs.files (.slot number file) = some data → data.length ≤ largest)
    (left : Nat) (slot : Slot) (out : Bytes) (room : out.length + (left + 1) * largest ≤ capacity) :
    chainWalk config crypto capacity left slot out device =
      (assembled out (Walk.follow (chainHop config crypto device) left slot), device) := by
  induction left generalizing slot out with
  | zero => rfl
  | succ left ih =>
    rw [Nat.succ_mul] at room
    by_cases inside : slot < config.maxKeySlots
    case neg => simp [chainWalk_outside inside, Walk.follow, chainHop, inside, assembled]
    cases stored : device.fs.files (.slot slot .cert) with
    | none => simp [chainWalk_absent inside stored, Walk.follow, chainHop, inside, stored, assembled]
    | some whole =>
      have short := fits slot .cert whole stored
      have least : largest ≤ (left + 1) * largest := Nat.le_mul_of_pos_left _ (Nat.succ_pos left)
      have kept : whole.take (capacity - out.length) = whole := List.take_of_length_le (by omega)
      rw [chainWalk_stored inside stored, Walk.follow, chainHop]
      simp only [kept, inside, if_true, stored]
      cases chained : device.fs.files (.slot slot .chain) with
      | some chain =>
        have shortChain := fits slot .chain chain chained
        have keptChain : chain.take (capacity - (out ++ whole).length) = chain :=
          List.take_of_length_le (by rw [List.length_append]; omega)
        simp only [keptChain]
        simp [assembled]
      | none =>
        cases certparseCert crypto.toWolfReader whole with
        | error error => rfl
        | ok parsed =>
          by_cases root : recordedIssuer device slot parsed.serial = slot
          · simp [root, assembled]
          · simp only [root, if_false]
            rw [ih _ _ (by rw [List.length_append]; omega), assembled_append]

section Outcome

variable {config : Config} {crypto : Crypto} {device : Device}

theorem assembled_eq_ok {bound : Nat} {slot : Slot} {bytes : Bytes} :
    assembled [] (Walk.follow (chainHop config crypto device) bound slot) = .ok bytes ↔
      ∃ path last tail, Passes (chainHop config crypto device) slot path last ∧
        chainHop config crypto device last = .stop (.ok tail) ∧ bytes = (path.map Prod.snd).flatten ++ tail ∧
        path.length < bound := by
  constructor
  · intro done
    rcases found : Walk.follow (chainHop config crypto device) bound slot with _ | ⟨certs, _ | tail⟩
    all_goals rw [found] at done
    · cases done
    · cases done
    · obtain ⟨path, last, passes, stops, rfl, short⟩ := follow_eq_some.mp found
      obtain rfl := Except.ok.inj done
      exact ⟨path, last, tail, passes, stops, rfl, short⟩
  · rintro ⟨path, last, tail, passes, stops, rfl, short⟩
    rw [follow_eq_some.mpr ⟨path, last, passes, stops, rfl, short⟩]
    rfl

theorem assembled_eq_error {bound : Nat} {slot : Slot} {error : Errno} :
    assembled [] (Walk.follow (chainHop config crypto device) bound slot) = .error error ↔
      error = .eloop ∧ Walk.follow (chainHop config crypto device) bound slot = none ∨
      ∃ path last, Passes (chainHop config crypto device) slot path last ∧
        chainHop config crypto device last = .stop (.error error) ∧ path.length < bound := by
  constructor
  · intro failed
    rcases found : Walk.follow (chainHop config crypto device) bound slot with _ | ⟨certs, other | tail⟩
    all_goals rw [found] at failed
    · exact .inl ⟨(Except.error.inj failed).symm, rfl⟩
    · obtain ⟨path, last, passes, stops, _, short⟩ := follow_eq_some.mp found
      obtain rfl := Except.error.inj failed
      exact .inr ⟨path, last, passes, stops, short⟩
    · cases failed
  · rintro (⟨rfl, lost⟩ | ⟨path, last, passes, stops, short⟩)
    · rw [lost]
      rfl
    · rw [follow_eq_some.mpr ⟨path, last, passes, stops, rfl, short⟩]
      rfl

theorem slotNumber_injective : Function.Injective UInt32.toNat := fun _ _ => UInt32.toNat_inj.mp

/-- Only slots of the range end a walk with bytes or send it on. -/
theorem chainHop_inside {slot : Slot} (passed : ∀ error, chainHop config crypto device slot ≠ .stop (.error error)) :
    slot.toNat < config.maxKeySlots.toNat := by
  by_contra outside
  apply passed .einval
  rw [chainHop, if_neg (by rwa [UInt32.lt_iff_toNat_lt])]

theorem chainHop_go_inside (slot : Slot) (cert : Bytes) (issuer : Slot)
    (moved : chainHop config crypto device slot = .go cert issuer) : slot.toNat < config.maxKeySlots.toNat :=
  chainHop_inside fun error stopped => by cases moved.symm.trans stopped

theorem chainHop_ne_eloop (slot : Slot) : chainHop config crypto device slot ≠ .stop (.error .eloop) := by
  unfold chainHop
  intro stopped
  split at stopped
  · split at stopped
    · cases stopped
    · split at stopped
      · cases stopped
      · split at stopped
        · cases stopped
        · split_ifs at stopped
          cases stopped
  · cases stopped

theorem covered_eq_ok {result : Except Errno Bytes} {bytes : Bytes} :
    covered result = (.ok (), bytes) ↔ result = .ok bytes := by
  cases result <;> simp [covered]

theorem covered_eq_error {result : Except Errno Bytes} {error : Errno} :
    covered result = (.error error, []) ↔ result = .error error := by
  cases result <;> simp [covered]

end Outcome

/-- A slot's chain is what the walk over the issuers gives. -/
theorem caGetChainSlot_follows_issuers (config : Config) (crypto : Crypto) (device : Device) (slot : Slot)
    (largest capacity : Nat)
    (fits : ∀ number file data, device.fs.files (.slot number file) = some data → data.length ≤ largest)
    (room : (config.maxKeySlots.toNat + 1) * largest ≤ capacity) (positive : 0 < capacity) :
    ∃ outcome, caGetChainSlot config crypto slot capacity device = (.ok outcome, device) ∧
      (∀ bytes, outcome = (.ok (), bytes) ↔
        ∃ path last tail, Passes (chainHop config crypto device) slot path last ∧
          chainHop config crypto device last = .stop (.ok tail) ∧ bytes = (path.map Prod.snd).flatten ++ tail) ∧
      (outcome = (.error .eloop, []) ↔
        Revisits (chainHop config crypto device) slot ∨
          ∃ path last, Passes (chainHop config crypto device) slot path last ∧
            path.length = config.maxKeySlots.toNat ∧ config.maxKeySlots.toNat ≤ last.toNat) ∧
      ∀ error, error ≠ .eloop →
        (outcome = (.error error, []) ↔
          ∃ path last, Passes (chainHop config crypto device) slot path last ∧
            chainHop config crypto device last = .stop (.error error) ∧
            path.length < config.maxKeySlots.toNat) := by
  have walked := chainWalk_eq_follow config crypto fits config.maxKeySlots.toNat slot []
    (by simpa using room)
  refine ⟨_, caGetChainSlot_eq positive walked, ?_, ?_, ?_⟩
  · intro bytes
    rw [covered_eq_ok, assembled_eq_ok]
    constructor
    · rintro ⟨path, last, tail, passes, stops, whole, _⟩
      exact ⟨path, last, tail, passes, stops, whole⟩
    · rintro ⟨path, last, tail, passes, stops, whole⟩
      have low := chainHop_inside fun error failed => by cases stops.symm.trans failed
      exact ⟨path, last, tail, passes, stops, whole,
        passes.length_lt slotNumber_injective chainHop_go_inside stops low⟩
  · rw [covered_eq_error, assembled_eq_error,
      Walk.follow_eq_none_iff_revisits slotNumber_injective chainHop_go_inside]
    constructor
    · rintro (⟨_, lost⟩ | ⟨_, last, _, stops, _⟩)
      · exact lost
      · exact absurd stops (chainHop_ne_eloop last)
    · intro lost
      exact .inl ⟨rfl, lost⟩
  · intro error other
    rw [covered_eq_error, assembled_eq_error]
    constructor
    · rintro (⟨loop, _⟩ | found)
      · exact absurd loop other
      · exact found
    · exact .inr

/-- Certificates of one octet, which is the serial as well. -/
def octetCrypto : Crypto :=
  { plainCrypto with
    parseCert := fun der =>
      match der with
      | [serial] => some { plainDecoded [] with serial := [serial] }
      | _ => none }

/-- The store with one more file. -/
def withFile (device : Device) (path : Path) (data : Bytes) : Device :=
  { device with fs := device.fs.put 0 path data }

/-- A record that names the issuer of the one-octet serial. -/
def withRecord (device : Device) (serial : UInt8) (issuer : Slot) : Device :=
  withFile device (.issued (hexName [serial]) .metadata) (Issue.record ⟨[serial], [], issuer, []⟩).bytes

def oneSlot : Config := { Config.default with maxKeySlots := 1, maxKeySlots_range := by decide }

/-- The certificate was issued by the absent slot 5. -/
def strayDevice : Device := withRecord (withFile blankDevice (.slot 0 .cert) [7]) 7 5

/-- The only slot holds a certificate with a chain. -/
def chainedDevice : Device :=
  withFile (withFile blankDevice (.slot 0 .cert) [7]) (.slot 0 .chain) [8]

/-- Depth comes before range, and an empty buffer is refused. -/
theorem caGetChainSlot_depth_before_range :
    ((caGetChainSlot oneSlot octetCrypto 0 4094 strayDevice).1 = .ok (.error .eloop, []) ∧
      Passes (chainHop oneSlot octetCrypto strayDevice) 0 [(0, [7])] 5 ∧
      chainHop oneSlot octetCrypto strayDevice 5 = .stop (.error .einval) ∧
      ¬ Revisits (chainHop oneSlot octetCrypto strayDevice) 0) ∧
    ((caGetChainSlot oneSlot octetCrypto 0 1 chainedDevice).1 = .ok (.ok (), [7]) ∧
      chainHop oneSlot octetCrypto chainedDevice 0 = .stop (.ok [7, 8])) ∧
    (caGetChainSlot oneSlot octetCrypto 0 0 blankDevice).1 = .ok (.error .einval, []) ∧
      chainHop oneSlot octetCrypto blankDevice 0 = .stop (.error .enoent) := by
  have passes : Passes (chainHop oneSlot octetCrypto strayDevice) 0 [(0, [7])] 5 :=
    .go (by decide +kernel) (.here 5)
  have stops : chainHop oneSlot octetCrypto strayDevice 5 = .stop (.error .einval) := by decide +kernel
  refine ⟨⟨by decide +kernel, passes, stops, fun again => again.never_stops passes stops⟩,
    ⟨by decide +kernel, by decide +kernel⟩, by decide +kernel, by decide +kernel⟩

/-- Slot 2 was signed by slot 1, and slot 1 by slot 0. -/
def threeDevice : Device :=
  withRecord (withFile (withRecord (withFile (withFile blankDevice
    (.slot 0 .cert) [9]) (.slot 1 .cert) [1]) 1 0) (.slot 2 .cert) [2]) 2 1

theorem withFile_sized {device : Device} {path : Path} {data : Bytes} {largest : Nat}
    (short : ∀ number file, path = .slot number file → data.length ≤ largest)
    (before : ∀ number file held, device.fs.files (.slot number file) = some held → held.length ≤ largest)
    (number : Slot) (file : SlotFile) (held : Bytes)
    (found : (withFile device path data).fs.files (.slot number file) = some held) : held.length ≤ largest := by
  by_cases here : path = .slot number file
  · subst here
    have same : data = held := by simpa [withFile] using found
    exact same ▸ short number file rfl
  · apply before number file held
    simpa [withFile, Function.update_of_ne (Ne.symm here)] using found

theorem threeDevice_sized (number : Slot) (file : SlotFile) (data : Bytes)
    (held : threeDevice.fs.files (.slot number file) = some data) : data.length ≤ 1 := by
  refine withFile_sized (by simp) ?_ number file data held
  refine withFile_sized (by simp) ?_
  refine withFile_sized (by simp) ?_
  refine withFile_sized (by simp) ?_
  refine withFile_sized (by simp) ?_
  simp [blankDevice, Fs.empty]

/-- Three slots in a row give three certificates. -/
theorem threeDevice_chain :
    ((Config.default.maxKeySlots.toNat + 1) * 1 ≤ 9 ∧ 0 < 9) ∧
      ∃ outcome, caGetChainSlot Config.default octetCrypto 2 9 threeDevice = (.ok outcome, threeDevice) ∧
        outcome = (.ok (), [2, 1, 9]) := by
  have hops : Passes (chainHop Config.default octetCrypto threeDevice) 2 [(2, [2]), (1, [1])] 0 :=
    .go (by decide +kernel) (.go (by decide +kernel) (.here 0))
  obtain ⟨outcome, ran, whole, _⟩ := caGetChainSlot_follows_issuers Config.default octetCrypto threeDevice 2 1 9
    threeDevice_sized (by decide) (by decide)
  exact ⟨by decide, outcome, ran, (whole _).mpr ⟨_, 0, [9], hops, by decide +kernel, rfl⟩⟩

end Cantil.Ca
