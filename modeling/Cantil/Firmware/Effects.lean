import Cantil.Firmware.Ca.Signing
import Cantil.Firmware.Dispatcher
import Cantil.Library.Trace

namespace Cantil.Dispatcher
open Library Ca
open Protocol (Command)

/-- Slot, certificate length, certificate and chain. -/
def pushedCert (data : Bytes) : Bytes := fieldAt 6 (bigEndianValue (fieldAt 4 2 data)) data

def pushedChain (data : Bytes) : Bytes := data.drop (6 + bigEndianValue (fieldAt 4 2 data))

/-- The commands that work on the store alone. -/
def storeCommands : List Command :=
  [.signCsr, .pushCaCert, .autoExpire, .revokeCert, .getCrl, .genKey, .protectSlot, .unprotectSlot, .deleteKey,
    .genKeyCsr, .signCsrSlot, .signKeySlot, .pushKeyCert, .pushKeyX509, .provisionCa, .resetDevice]

/-- What an admitted command can do to the store. -/
inductive Effect (config : Config) (crypto : Crypto) (env : Env) (data : Bytes) (device : Device) :
    Command → Device → Prop
  | refused (command : Command) : Effect config crypto env data device command device
  | signCsr :
      Effect config crypto env data device .signCsr (caSignCsr config crypto env data respCapacity device).2
  | signCsrSlot :
      Effect config crypto env data device .signCsrSlot
        (caSignCsrSlot config crypto env (slotArg data) (data.drop 4) respCapacity device).2
  | signKeySlot (long : 8 ≤ data.length) :
      Effect config crypto env data device .signKeySlot
        (caSignKeySlot config crypto env (slotArg data) (slotArg (data.drop 4)) device).2
  | pushCaCert : Effect config crypto env data device .pushCaCert (caPushCert env data [] device).2
  | autoExpire :
      Effect config crypto env data device .autoExpire (caAutoExpire env (u64Arg 0 data) device).2
  | revokeCert (serial : Bytes) (nowUnix : UInt64) :
      Effect config crypto env data device .revokeCert (caRevokeCert env serial nowUnix device).2
  | genKey : Effect config crypto env data device .genKey (caGenKey config env (data.headD 0) device).2
  | protectSlot :
      Effect config crypto env data device .protectSlot
        (caProtectSlot config env (slotArg data) (data.getD 4 0 ≠ 0) device).2
  | unprotectSlot :
      Effect config crypto env data device .unprotectSlot
        (caUnprotectSlot config env (slotArg data) device).2
  | deleteKey :
      Effect config crypto env data device .deleteKey (caDeleteKey config env (slotArg data) device).2
  | genKeyCsr :
      Effect config crypto env data device .genKeyCsr
        (caGenKeyCsr config crypto env (slotArg data) (data.drop 4) device).2
  | pushKeyCert (cert chain : Bytes) :
      Effect config crypto env data device .pushKeyCert
        (caPushKeyCert config crypto env (slotArg data) cert chain device).2
  | pushKeyX509 :
      Effect config crypto env data device .pushKeyX509
        (caPushKeyX509 config crypto env (slotArg data) (data.drop 4) device).2
  | provisionCa :
      Effect config crypto env data device .provisionCa (caProvision env (data.headD 0) device).2
  | resetDevice (wiped : Device) (done : storageSecureWipe env.toFaults device = (.ok (), wiped)) :
      Effect config crypto env data device .resetDevice (boot config crypto env wiped.volume wiped).2
  | elsewhere (command : Command) (bonds : Bytes → ClientFile → Option Bytes) (other : command ∉ storeCommands) :
      Effect config crypto env data device command
        { device with fs := device.fs.withClients bonds }

section Handlers

variable {config : Config} {crypto : Crypto} {env : Env} {data : Bytes} {device : Device}
variable {command : Command} {event : Event}

/-- Arguments that fail a test change nothing. -/
theorem guarded_effect {condition : Prop} [Decidable condition] {err : Protocol.Err} {rest : Op Device Errno Answer}
    (passed : ¬ condition → Effect config crypto env data device command (rest device).2) :
    Effect config crypto env data device command
      ((if condition then pure (refusal err) else rest) device).2 := by
  by_cases failed : condition
  · rw [if_pos failed]
    exact .refused command
  · rw [if_neg failed]
    exact passed failed

/-- The request is refused, or the action is taken. -/
theorem confirmed_effect {action : Op Device Errno Answer}
    (acted : Effect config crypto env data device command (action device).2) :
    Effect config crypto env data device command (confirmed env action device).2 := by
  unfold confirmed
  split
  · exact acted
  · exact .refused command

/-- Nothing happens without the tap. -/
theorem confirmed_refused {action : Op Device Errno Answer} (refused : env.confirm ≠ .ok) :
    (confirmed env action device).2 = device := by
  simp [confirmed, refused]

/-- The answer is worked out after the store was changed. -/
theorem answered_effect {Value : Type} {op : Op Device Errno Value} {next : Value → Op Device Errno Answer}
    (acted : Effect config crypto env data device command (op device).2)
    (reader : ∀ outcome, Op.Reader (next outcome)) :
    Effect config crypto env data device command ((op >>= next) device).2 := by
  rw [Op.bind_state reader]
  exact acted

/-- A push is refused, or it is the push of its two parts. -/
theorem handlePushKeyCert_state (config : Config) (crypto : Crypto) (env : Env) (data : Bytes) (device : Device) :
    (handlePushKeyCert config crypto env data device).2 = device ∨
      (handlePushKeyCert config crypto env data device).2 =
        (caPushKeyCert config crypto env (slotArg data) (pushedCert data) (pushedChain data) device).2 := by
  unfold handlePushKeyCert
  by_cases short : data.length < 6
  · rw [if_pos short]
    exact .inl rfl
  rw [if_neg short]
  by_cases cut : 6 + bigEndianValue (fieldAt 4 2 data) > data.length
  · rw [if_pos cut]
    exact .inl rfl
  rw [if_neg cut, Op.bind_state]
  · exact .inr rfl
  · intro outcome
    split <;> exact .pure _

theorem handleProvisionCa_effect :
    Effect config crypto env data device .provisionCa (handleProvisionCa env data device).2 := by
  unfold handleProvisionCa
  refine guarded_effect fun _ => confirmed_effect <| answered_effect .provisionCa fun outcome => ?_
  split <;> exact .pure _

/-- The wipe is refused at once, or it succeeds. -/
theorem storageSecureWipe_cases (faults : Faults) (device : Device) :
    (∃ error, storageSecureWipe faults device = (.error error, device)) ∨
      ∃ wiped, storageSecureWipe faults device = (.ok (), wiped) := by
  by_cases foreign : device.volume = .mismatch
  · simp [storageSecureWipe, Op.bind_apply, storageVolumeTrusted, Op.ensure, foreign]
  · refine .inr ⟨(storageSecureWipe faults device).2, ?_⟩
    simp [storageSecureWipe, Op.bind_apply, storageVolumeTrusted, Op.ensure, foreign]
    rfl

theorem handleResetDevice_effect :
    Effect config crypto env data device .resetDevice (handleResetDevice config crypto env device).2 := by
  apply confirmed_effect
  rw [Op.bind_apply, Op.attempt_apply]
  rcases storageSecureWipe_cases env.toFaults device with ⟨error, refused⟩ | ⟨wiped, done⟩
  · rw [refused]
    exact .refused _
  · rw [done]
    show Effect config crypto env data device .resetDevice
      ((boot config crypto env wiped.volume >>= fun _ => pure Answer.rebooted) wiped).2
    rw [Op.bind_state fun _ => .pure _]
    exact .resetDevice wiped done

/-- Every handler does one of the effects of its command. -/
theorem handle_effect (command : Command) :
    Effect config crypto env data device command (handle config crypto env data command device).2 := by
  cases command
  case signCsr => exact answered_effect .signCsr fun _ => .pure _
  case signCsrSlot =>
    refine guarded_effect fun _ => guarded_effect fun _ => answered_effect .signCsrSlot ?_
    rintro ⟨copied, result⟩
    cases result <;> exact .pure _
  case signKeySlot =>
    refine guarded_effect fun short => guarded_effect fun _ => ?_
    exact answered_effect (.signKeySlot (Nat.le_of_not_lt short)) fun _ => .pure _
  case pushCaCert =>
    refine answered_effect .pushCaCert fun outcome => ?_
    split <;> exact .pure _
  case autoExpire =>
    refine guarded_effect fun _ => answered_effect .autoExpire fun outcome => ?_
    split <;> exact .pure _
  case revokeCert =>
    refine guarded_effect fun _ => guarded_effect fun _ => guarded_effect fun _ => ?_
    refine guarded_effect fun _ => answered_effect (.revokeCert _ _) fun outcome => ?_
    split <;> exact .pure _
  case getCrl =>
    refine guarded_effect fun _ => guarded_effect fun _ => ?_
    refine answered_effect ?_ fun outcome => ?_
    · rw [Op.Reader.kept]
      exact .refused _
    · split <;> exact .pure _
  case genKey =>
    refine answered_effect .genKey fun outcome => ?_
    split <;> exact .pure _
  case protectSlot => exact guarded_effect fun _ => confirmed_effect <| answered_effect .protectSlot fun _ => .pure _
  case unprotectSlot => exact guarded_effect fun _ =>
    confirmed_effect <| answered_effect .unprotectSlot fun _ => .pure _
  case deleteKey =>
    refine guarded_effect fun _ => answered_effect .deleteKey fun outcome => ?_
    split <;> exact .pure _
  case genKeyCsr => exact guarded_effect fun _ => guarded_effect fun _ => answered_effect .genKeyCsr fun _ => .pure _
  case pushKeyCert =>
    refine guarded_effect fun _ => guarded_effect fun _ => ?_
    refine answered_effect (.pushKeyCert _ _) fun outcome => ?_
    split <;> exact .pure _
  case pushKeyX509 => exact guarded_effect fun _ => answered_effect .pushKeyX509 fun _ => .pure _
  case provisionCa => exact handleProvisionCa_effect
  case resetDevice => exact handleResetDevice_effect
  all_goals exact .elsewhere _ _ (by decide)

theorem executes_request (env : Env) (cmd : UInt32) (data : Bytes) (device : Device)
    {found : Env × Command × Bytes} :
    executes config device (.request env cmd data) = some found ↔
      Protocol.dispatch config env.gestureState (conditions env device) cmd = .executed found.2.1 ∧
        found = (env, found.2.1, data) := by
  obtain ⟨foundEnv, command, foundData⟩ := found
  rcases verdict : Protocol.dispatch config env.gestureState (conditions env device) cmd with
    err | _ | admitted
  · simp [executes, verdict]
  · simp [executes, verdict]
  · simp only [executes, verdict, Option.some.injEq, Prod.mk.injEq, Protocol.Dispatch.executed.injEq]
    tauto

/-- A command runs only for a request that the gates admit. -/
theorem executes_eq_some (runs : executes config device event = some (env, command, data)) :
    ∃ cmd, event = .request env cmd data ∧
      Protocol.dispatch config env.gestureState (conditions env device) cmd = .executed command := by
  cases event with
  | powerCycle _ _ => cases runs
  | request _ cmd _ =>
    obtain ⟨admitted, same⟩ := (executes_request _ _ _ _).mp runs
    obtain ⟨rfl, _, rfl⟩ := Prod.mk.inj same |>.imp id Prod.mk.inj
    exact ⟨cmd, rfl, admitted⟩

/-- A request runs the command of its code or none. -/
theorem executes_code {known : Command} {other : Env} {content : Bytes}
    (runs : executes config device (.request env known.code data) = some (other, command, content)) :
    other = env ∧ command = known ∧ content = data := by
  obtain ⟨cmd, same, admitted⟩ := executes_eq_some runs
  obtain ⟨rfl, rfl, rfl⟩ := Event.request.inj same
  have codes := congrArg Command.ofCode (Protocol.dispatch_eq_executed admitted).2
  rw [Command.ofCode_code, Command.ofCode_code] at codes
  exact ⟨rfl, (Option.some.inj codes).symm, rfl⟩

theorem step_of_executes (runs : executes config device event = some (env, command, data)) :
    step config crypto device event = (handle config crypto env data command device).2 := by
  obtain ⟨cmd, rfl, admitted⟩ := executes_eq_some runs
  simp only [step, serve, admitted]

theorem executes_env (runs : executes config device event = some (env, command, data)) : event.env = env := by
  obtain ⟨cmd, rfl, _⟩ := executes_eq_some runs
  rfl

/-- A step does nothing, runs one admitted command, or boots. -/
theorem step_cases (config : Config) (crypto : Crypto) (device : Device) (event : Event) :
    step config crypto device event = device ∨
      (∃ env command data, executes config device event = some (env, command, data) ∧
        Effect config crypto env data device command (step config crypto device event)) ∨
      ∃ env volume, event = .powerCycle env volume ∧
        step config crypto device event = (boot config crypto env volume device).2 := by
  cases event with
  | powerCycle env volume => exact .inr (.inr ⟨env, volume, rfl, rfl⟩)
  | request env cmd data =>
    rcases verdict : Protocol.dispatch config env.gestureState (conditions env device) cmd with
      err | _ | command
    · exact .inl (by simp [step, serve, verdict])
    · exact .inl (by simp [step, serve, verdict])
    · refine .inr (.inl ⟨env, command, data, by simp [executes, verdict], ?_⟩)
      simp only [step, serve, verdict]
      exact handle_effect command

/-- The files of the slots that a command writes. -/
def slotFiles : Command → List SlotFile
  | .signKeySlot | .pushCaCert | .pushKeyCert => [.cert, .chain]
  | .pushKeyX509 => [.x509Data, .cert, .chain]
  | .genKey | .provisionCa => [.key, .metadata]
  | .protectSlot | .unprotectSlot => [.metadata]
  | .genKeyCsr => [.csr]
  | .revokeCert => [.crlNumber]
  | _ => []

/-- The commands that write the files of issued certificates. -/
def issuedCommands : List Command := [.signCsr, .signCsrSlot, .signKeySlot, .autoExpire, .revokeCert, .protectSlot]

/-- The commands that write file by file. -/
def framedCommands : List Command :=
  [.pushCaCert, .genKey, .unprotectSlot, .genKeyCsr, .pushKeyCert, .pushKeyX509, .provisionCa] ++ issuedCommands

/-- A command respects what the writes of its files respect. -/
theorem Effect.related {relation : Device → Device → Prop} [IsPreorder Device relation] {after : Device}
    (effect : Effect config crypto env data device command after) (framed : command ∈ framedCommands)
    (slots : ∀ file ∈ slotFiles command, ∀ slot, Writable relation env.toFaults (.slot slot file))
    (issued : command ∈ issuedCommands → ∀ name file, Writable relation env.toFaults (.issued name file))
    (marked : Op.Respects relation setProvisioned) : relation device after := by
  have marks (inside : command ∈ issuedCommands) (bits : UInt8) : Remarks relation env.toFaults bits :=
    remarks_of_writable (fun name => issued inside name .metadata) bits
  cases effect with
  | refused => exact refl device
  | signCsr | signCsrSlot => exact caSignCsrSlot_respects (issued (by decide)) _ _ device
  | signKeySlot =>
    exact caSignKeySlot_respects (slots _ (by decide) _) (slots _ (by decide) _) (issued (by decide)) _ device
  | pushCaCert => exact caPushCert_respects (slots _ (by decide) _) (slots _ (by decide) _) _ _ device
  | autoExpire => exact caAutoExpire_respects (marks (by decide) _) _ device
  | revokeCert => exact caRevokeCert_respects (issued (by decide) _ _) (slots _ (by decide)) _ device
  | genKey =>
    exact caGenKey_related fun free _ _ =>
      createKey_respects (slots _ (by decide) free) (slots _ (by decide) free) _ device
  | protectSlot => exact caProtectSlot_respects (slots _ (by decide) _) (marks (by decide) _) _ device
  | unprotectSlot => exact caUnprotectSlot_respects (slots _ (by decide) _) device
  | genKeyCsr => exact caGenKeyCsr_respects (slots _ (by decide) _) _ device
  | pushKeyCert => exact caPushKeyCert_respects (slots _ (by decide) _) (slots _ (by decide) _) _ _ device
  | pushKeyX509 =>
    exact caPushKeyX509_respects (slots _ (by decide) _) (slots _ (by decide) _) (slots _ (by decide) _) _ device
  | provisionCa =>
    exact caProvision_related marked fun _ _ =>
      createKey_respects (slots _ (by decide) _) (slots _ (by decide) _) _ device
  | deleteKey | resetDevice => exact absurd framed (by decide)
  | elsewhere _ bonds other => exact absurd ((by decide : framedCommands ⊆ storeCommands) framed) other

/-- The opcode of the push is refused while slot 0 has no key. -/
theorem key_of_pushCaCert (runs : executes config device event = some (env, .pushCaCert, data)) :
    (device.fs.files (.slot caSlot .key)).isSome := by
  obtain ⟨cmd, rfl, admitted⟩ := executes_eq_some runs
  obtain ⟨passed, rfl⟩ := Protocol.dispatch_eq_executed admitted
  have provisioned := (Protocol.gate_eq_none_iff.mp passed).2.2.2.1
  simpa [Protocol.provisionGate, Protocol.Command.code, conditions, Option.isSome_iff_ne_none]
    using provisioned

/-- A boot forgets the CA flag, and may certify slot 0. -/
theorem boot_related {relation : Device → Device → Prop} [IsPreorder Device relation] {volume : VolumeState}
    (forgets : relation device { device with provisioned := false, volume })
    (cert : Writable relation env.toFaults (.slot caSlot .cert))
    (marked : Op.Respects relation setProvisioned) :
    relation device (boot config crypto env volume device).2 :=
  IsTrans.trans _ _ _ forgets (caInit_respects cert marked _)

end Handlers

end Cantil.Dispatcher
