import Cantil.Firmware.Gesture

namespace Cantil.Protocol
open Gesture

/-- Opcodes with a case. `PAIRING_PASSKEY_REPLY` has none. -/
inductive Command where
  | signCsr
  | getCaCert
  | getCaChain
  | getCaSerial
  | getCaCsr
  | pushCaCert
  | listCerts
  | getCert
  | getCertCount
  | revokeCert
  | autoExpire
  | getCrl
  | listKeys
  | genKey
  | genKeyCsr
  | getKeyCsr
  | pushKeyCert
  | signKeySlot
  | pushKeyX509
  | deleteKey
  | protectSlot
  | unprotectSlot
  | signCsrSlot
  | deviceStatus
  | setUnlockSeq
  | resetDevice
  | updateFirmware
  | provisionCa
  | getRandom
  | getRandomNames
  | getSessionCert
  | getSessionCsr
  | signSessionFromSlot
  | pushSessionCert
  | listClients
  | unpairClient
  | setClientName
  deriving DecidableEq, Repr

/-- The wire code of a command. -/
def Command.code : Command → UInt32
  | .signCsr => 0x01
  | .getCaCert => 0x02
  | .getCaChain => 0x03
  | .getCaSerial => 0x04
  | .getCaCsr => 0x05
  | .pushCaCert => 0x06
  | .listCerts => 0x10
  | .getCert => 0x11
  | .getCertCount => 0x12
  | .revokeCert => 0x13
  | .autoExpire => 0x14
  | .getCrl => 0x15
  | .listKeys => 0x20
  | .genKey => 0x21
  | .genKeyCsr => 0x22
  | .getKeyCsr => 0x23
  | .pushKeyCert => 0x24
  | .signKeySlot => 0x25
  | .pushKeyX509 => 0x26
  | .deleteKey => 0x27
  | .protectSlot => 0x28
  | .unprotectSlot => 0x29
  | .signCsrSlot => 0x2A
  | .deviceStatus => 0x30
  | .setUnlockSeq => 0x31
  | .resetDevice => 0x32
  | .updateFirmware => 0x33
  | .provisionCa => 0x34
  | .getRandom => 0x40
  | .getRandomNames => 0x50
  | .getSessionCert => 0x60
  | .getSessionCsr => 0x61
  | .signSessionFromSlot => 0x62
  | .pushSessionCert => 0x63
  | .listClients => 0x70
  | .unpairClient => 0x71
  | .setClientName => 0x72

/-- The dispatcher's `switch` sends a wire code to its case. -/
def Command.ofCode : UInt32 → Option Command
  | 0x01 => some .signCsr
  | 0x02 => some .getCaCert
  | 0x03 => some .getCaChain
  | 0x04 => some .getCaSerial
  | 0x05 => some .getCaCsr
  | 0x06 => some .pushCaCert
  | 0x10 => some .listCerts
  | 0x11 => some .getCert
  | 0x12 => some .getCertCount
  | 0x13 => some .revokeCert
  | 0x14 => some .autoExpire
  | 0x15 => some .getCrl
  | 0x20 => some .listKeys
  | 0x21 => some .genKey
  | 0x22 => some .genKeyCsr
  | 0x23 => some .getKeyCsr
  | 0x24 => some .pushKeyCert
  | 0x25 => some .signKeySlot
  | 0x26 => some .pushKeyX509
  | 0x27 => some .deleteKey
  | 0x28 => some .protectSlot
  | 0x29 => some .unprotectSlot
  | 0x2A => some .signCsrSlot
  | 0x30 => some .deviceStatus
  | 0x31 => some .setUnlockSeq
  | 0x32 => some .resetDevice
  | 0x33 => some .updateFirmware
  | 0x34 => some .provisionCa
  | 0x40 => some .getRandom
  | 0x50 => some .getRandomNames
  | 0x60 => some .getSessionCert
  | 0x61 => some .getSessionCsr
  | 0x62 => some .signSessionFromSlot
  | 0x63 => some .pushSessionCert
  | 0x70 => some .listClients
  | 0x71 => some .unpairClient
  | 0x72 => some .setClientName
  | _ => none

@[simp] theorem Command.ofCode_code (command : Command) :
    Command.ofCode command.code = some command := by
  cases command <;> rfl

variable {cmd : UInt32} {config : Config} {state : GestureState}

theorem Command.code_of_ofCode {command : Command} (found : Command.ofCode cmd = some command) :
    cmd = command.code := by
  unfold Command.ofCode at found
  split at found
  all_goals first
    | (obtain rfl := Option.some.inj found; rfl)
    | cases found

/-- The error codes that the dispatcher and its handlers return. -/
inductive Err where
  | ok
  | deviceLocked
  | invalidCmd
  | invalidArgs
  | storage
  | crypto
  | notFound
  | noSlots
  | busy
  | identityMismatch
  | notProvisioned
  | alreadyProvisioned
  | volumeInvalid
  deriving DecidableEq, Repr

def Err.code : Err → UInt32
  | .ok => 0
  | .deviceLocked => 1
  | .invalidCmd => 2
  | .invalidArgs => 3
  | .storage => 4
  | .crypto => 5
  | .notFound => 6
  | .noSlots => 7
  | .busy => 8
  | .identityMismatch => 9
  | .notProvisioned => 15
  | .alreadyProvisioned => 16
  | .volumeInvalid => 17

/-- What the dispatcher reads of store and session slot. -/
structure Conditions where
  inRecovery : Bool
  volumeTrusted : Bool
  caProvisioned : Bool
  volumeMayMint : Bool
  deriving DecidableEq, Repr

variable {conditions : Conditions}

/-- Identity recovery admits three opcodes. -/
def identityGate (conditions : Conditions) (cmd : UInt32) : Option Err :=
  if conditions.inRecovery ∧ cmd ≠ Command.deviceStatus.code ∧ cmd ≠ Command.resetDevice.code ∧
      cmd ≠ Command.updateFirmware.code then
    some .identityMismatch
  else none

/-- A volume with a contradicting marker admits two opcodes. -/
def volumeGate (conditions : Conditions) (cmd : UInt32) : Option Err :=
  if ¬conditions.volumeTrusted ∧ cmd ≠ Command.deviceStatus.code ∧
      cmd ≠ Command.updateFirmware.code then
    some .volumeInvalid
  else none

/-- The lock gate compares the state with `LOCKED` only. -/
def lockGate (config : Config) (state : GestureState) (cmd : UInt32) : Option Err :=
  if state = .locked ∧ cmd ≠ Command.deviceStatus.code ∧ cmd ≠ Command.updateFirmware.code ∧
      ¬(cmd = Command.resetDevice.code ∧ ¬config.resetRequiresUnlock) then
    some .deviceLocked
  else none

/-- The opcodes of slot 0 need a key in slot 0. -/
def provisionGate (conditions : Conditions) (cmd : UInt32) : Option Err :=
  if cmd ≥ Command.signCsr.code ∧ cmd ≤ Command.pushCaCert.code ∧ ¬conditions.caProvisioned then
    some .notProvisioned
  else none

def mintGate (conditions : Conditions) (cmd : UInt32) : Option Err :=
  if (cmd = Command.provisionCa.code ∨ cmd = Command.genKey.code) ∧ ¬conditions.volumeMayMint then
    some .volumeInvalid
  else none

/-- The first gate that refuses decides the answer. -/
def gate (config : Config) (state : GestureState) (conditions : Conditions) (cmd : UInt32) :
    Option Err :=
  identityGate conditions cmd <|> volumeGate conditions cmd <|> lockGate config state cmd <|>
    provisionGate conditions cmd <|> mintGate conditions cmd

/-- A request is refused by a gate, unknown, or runs. -/
inductive Dispatch where
  | refused (err : Err)
  | unknown
  | executed (command : Command)
  deriving DecidableEq, Repr

def Dispatch.isExecuted : Dispatch → Bool
  | .executed _ => true
  | _ => false

def dispatch (config : Config) (state : GestureState) (conditions : Conditions) (cmd : UInt32) :
    Dispatch :=
  match gate config state conditions cmd with
  | some err => .refused err
  | none =>
    match Command.ofCode cmd with
    | some command => .executed command
    | none => .unknown

theorem gate_eq_none_iff :
    gate config state conditions cmd = none ↔
      identityGate conditions cmd = none ∧ volumeGate conditions cmd = none ∧
        lockGate config state cmd = none ∧ provisionGate conditions cmd = none ∧
        mintGate conditions cmd = none := by
  simp [gate]

theorem gate_ne_ok : gate config state conditions cmd ≠ some .ok := by
  unfold gate identityGate volumeGate lockGate provisionGate mintGate
  split_ifs <;> simp

/-- A body runs when no gate refuses its opcode. -/
theorem dispatch_eq_executed {command : Command} (runs : dispatch config state conditions cmd = .executed command) :
    gate config state conditions command.code = none ∧ cmd = command.code := by
  unfold dispatch at runs
  split at runs
  · cases runs
  · rename_i passed
    split at runs
    · rename_i found
      obtain rfl := Dispatch.executed.inj runs
      obtain rfl := Command.code_of_ofCode found
      exact ⟨passed, rfl⟩
    · cases runs

/-- A known opcode gets a gate's error, or its body runs. -/
theorem dispatch_code (config : Config) (state : GestureState) (conditions : Conditions)
    (command : Command) :
    (∃ err, err ≠ .ok ∧ dispatch config state conditions command.code = .refused err) ∨
      dispatch config state conditions command.code = .executed command := by
  unfold dispatch
  rcases verdict : gate config state conditions command.code with _ | err
  · exact .inr (by simp)
  · exact .inl ⟨err, fun ok => gate_ne_ok (verdict.trans (congrArg some ok)), rfl⟩

end Cantil.Protocol
