import Cantil.Firmware.HandleOne
import Cantil.Proof.Accountability
import Cantil.Proof.CborCodec

namespace Cantil.HandleOne
open Library Ca Dispatcher Cbor
open Protocol (Err Command)

/-- The length is that of the written part, or of the buffer. -/
def Whole (reply : Reply) : Prop := (∃ bytes, reply.data = RespData.of bytes) ∨ reply.data = RespData.untouched

/-- Far more than this fits a response. -/
def briefMax : Nat := 4000

/-- A short answer on success, and nothing with an error. -/
def Brief (reply : Reply) : Prop :=
  ∃ bytes, reply.data = RespData.of bytes ∧ bytes.length ≤ briefMax ∧ (reply.err ≠ .ok → bytes = [])

theorem Brief.whole {reply : Reply} (brief : Brief reply) : Whole reply := by
  obtain ⟨bytes, same, _⟩ := brief
  exact .inl ⟨bytes, same⟩

/-- The property of a reply, if there is one. -/
def Satisfies (property : Reply → Prop) : Answer → Prop
  | .reply reply => property reply
  | .rebooted => True

theorem Satisfies.mono {property weaker : Reply → Prop} {answer : Answer} (holds : Satisfies property answer)
    (implied : ∀ reply, property reply → weaker reply) : Satisfies weaker answer := by
  cases answer with
  | reply reply => exact implied reply holds
  | rebooted => trivial

/-- The commands whose answers are always short. -/
def terse : Command → Bool
  | .getCaSerial | .pushCaCert | .revokeCert | .listKeys | .genKeyCsr | .pushKeyCert | .signKeySlot | .pushKeyX509
  | .deleteKey | .protectSlot | .unprotectSlot | .deviceStatus | .setUnlockSeq | .resetDevice | .updateFirmware
  | .provisionCa | .signSessionFromSlot | .pushSessionCert | .unpairClient | .setClientName => true
  | _ => false

def Shape (command : Command) : Reply → Prop := if terse command then Brief else Whole

theorem Shape.whole {command : Command} {reply : Reply} (shape : Shape command reply) : Whole reply := by
  unfold Shape at shape
  split_ifs at shape
  · exact Brief.whole shape
  · exact shape

section Answers

variable {State : Type} {property : Reply → Prop}

theorem refusal_brief (err : Err) : Satisfies Brief (refusal err) := ⟨[], rfl, Nat.zero_le _, fun _ => rfl⟩

theorem refuses (err : Err) : Op.Yields (Satisfies Brief) (return refusal err : Op State Errno Answer) :=
  Op.yields_pure (refusal_brief err)

/-- A request that does not pass its check is refused. -/
theorem refused_or {condition : Prop} [Decidable condition] {err : Err} {op : Op State Errno Answer}
    (brief : Op.Yields (Satisfies Brief) op) :
    Op.Yields (Satisfies Brief) (if condition then return refusal err else op) :=
  Op.yields_ite (fun _ => refuses err) fun _ => brief

/-- What waits for a tap is refused without it. -/
theorem or_refused {condition : Prop} [Decidable condition] {err : Err} {op : Op State Errno Answer}
    (brief : Op.Yields (Satisfies Brief) op) :
    Op.Yields (Satisfies Brief) (if condition then op else return refusal err) :=
  Op.yields_ite (fun _ => brief) fun _ => refuses err

/-- A handler that only reports how its action ended. -/
theorem reports {Value : Type} {action : Op State Errno Value} (code : Except Errno Value → Err) :
    Op.Yields (Satisfies Brief) (do return refusal (code (← action.attempt))) :=
  Op.yields_attempt fun _ => refuses _

theorem refusal_whole (err : Err) : Satisfies Whole (refusal err) := (refusal_brief err).mono fun _ => Brief.whole

theorem of_whole (err : Err) (bytes : Bytes) : Satisfies Whole (.reply ⟨err, RespData.of bytes⟩) := .inl ⟨bytes, rfl⟩

theorem writes (err : Err) (bytes : Bytes) :
    Op.Yields (Satisfies Whole) (return .reply ⟨err, RespData.of bytes⟩ : Op State Errno Answer) :=
  Op.yields_pure (of_whole err bytes)

theorem untouched_whole (err : Err) : Satisfies Whole (.reply ⟨err, RespData.untouched⟩) := .inr rfl

theorem readReply_whole (failure : Err) (result : Except Errno Bytes) :
    Satisfies Whole (readReply respCapacity failure result) := by
  cases result with
  | error error => exact untouched_whole failure
  | ok bytes => exact of_whole .ok bytes

theorem dataReply_whole (failure : Errno → Err) (result : Except Errno Bytes) :
    Satisfies Whole (dataReply failure result) := by
  cases result with
  | error error => exact refusal_whole (failure error)
  | ok bytes => exact of_whole .ok bytes

theorem dataReply_brief (failure : Errno → Err) {result : Except Errno Bytes}
    (short : ∀ bytes, result = .ok bytes → bytes.length ≤ briefMax) : Satisfies Brief (dataReply failure result) := by
  cases result with
  | error error => exact refusal_brief (failure error)
  | ok bytes => exact ⟨bytes, rfl, short bytes rfl, fun failed => absurd rfl failed⟩

end Answers

/-! The commands of the store. -/

section Store

variable (config : Config) (crypto : Crypto) (env : Env) (data : Bytes)

theorem handleSignCsr_whole : Op.Yields (Satisfies Whole) (handleSignCsr config crypto env data) := by
  intro device
  rcases signed : signs config crypto env data device .signCsr with _ | issue
  · rw [handleSignCsr_unsigned signed]
    exact ⟨_, rfl, untouched_whole _⟩
  · rw [handleSignCsr_signed signed]
    exact ⟨_, rfl, of_whole _ _⟩

theorem handleSignCsrSlot_whole : Op.Yields (Satisfies Whole) (handleSignCsrSlot config crypto env data) := by
  intro device
  rcases signed : signs config crypto env data device .signCsrSlot with _ | issue
  · obtain ⟨err, _, ran⟩ := handleSignCsrSlot_unsigned signed
    rw [ran]
    exact ⟨_, rfl, refusal_whole err⟩
  · rw [handleSignCsrSlot_signed signed]
    refine ⟨_, rfl, ?_⟩
    split_ifs
    · exact of_whole _ _
    · exact refusal_whole _

theorem handleResetDevice_brief (device : Device) (answer : Answer)
    (ran : (handleResetDevice config crypto env device).1 = .ok answer) : Satisfies Brief answer := by
  unfold handleResetDevice confirmed at ran
  split_ifs at ran
  · rw [Op.bind_apply, Op.attempt_apply] at ran
    rcases outcome : storageSecureWipe env.toFaults device with ⟨error | ⟨⟩, wiped⟩
    · rw [outcome] at ran
      obtain rfl := Except.ok.inj ran
      exact refusal_brief _
    · rw [outcome] at ran
      obtain ⟨volume, _, ran⟩ := Op.read_ok ran
      obtain ⟨_, _, _, last⟩ := Op.bind_eq_ok.mp (Prod.ext ran rfl)
      obtain rfl := Except.ok.inj (Prod.mk.inj last).1
      trivial
  · obtain rfl := Except.ok.inj ran
    exact refusal_brief _

end Store

/-! The commands that report. -/

section Lists

variable {capacity : Nat} {out next : Bytes} {device : Device}

theorem emitHead_length {value : Nat} {major : UInt8} (emitted : emitHead capacity out major value = .ok next) :
    next.length = out.length + (headBytes major value).length := by
  unfold emitHead emitBytes at emitted
  split_ifs at emitted
  obtain rfl := Except.ok.inj emitted
  exact List.length_append

theorem emitLetter_length {key : UInt8} (emitted : emitTstr capacity out [key] = .ok next) :
    next.length = out.length + 2 := by
  obtain ⟨middle, head, rest⟩ := except_bind_ok emitted
  have first := emitHead_length head
  rw [headBytes_small (by simp)] at first
  unfold emitBytes at rest
  split_ifs at rest
  obtain rfl := Except.ok.inj rest
  rw [List.length_append, first, List.length_singleton]

theorem emitField_length {value : Nat} {key : UInt8} (emitted : emitField capacity out key value = .ok next) :
    next.length ≤ out.length + 11 := by
  obtain ⟨middle, letter, number⟩ := except_bind_ok emitted
  have first := emitLetter_length letter
  have second := emitHead_length number
  have short := headBytes_length_le mtUint value
  omega

theorem emitKeyEntry_length {hasCert hasCsr : Bool} {slot : Slot} {traits : UInt8 × Nat}
    (emitted : emitKeyEntry capacity out hasCert hasCsr slot traits = .ok next) : next.length ≤ out.length + 56 := by
  obtain ⟨out1, map, emitted⟩ := except_bind_ok emitted
  obtain ⟨out2, cert, emitted⟩ := except_bind_ok emitted
  obtain ⟨out3, bits, emitted⟩ := except_bind_ok emitted
  obtain ⟨out4, csr, emitted⟩ := except_bind_ok emitted
  obtain ⟨out5, number, kind⟩ := except_bind_ok emitted
  have start := emitHead_length map
  rw [headBytes_small (by decide)] at start
  have first := emitField_length cert
  have second := emitField_length bits
  have third := emitField_length csr
  have fourth := emitField_length number
  have fifth := emitField_length kind
  omega

/-- Every slot adds one entry at most. -/
theorem listKeysLoop_length (slots : List Slot) {context final : ListContext}
    (listed : (listKeysLoop capacity slots context device).1 = .ok final) :
    final.out.length ≤ context.out.length + 56 * slots.length := by
  induction slots generalizing context with
  | nil =>
    obtain rfl := Except.ok.inj listed
    exact Nat.le_add_right _ _
  | cons slot rest ih =>
    rw [List.length_cons]
    obtain ⟨keyed, _, listed⟩ := Op.read_ok listed
    split_ifs at listed
    · obtain ⟨record, _, listed⟩ := Op.read_ok listed
      obtain ⟨hasCert, _, listed⟩ := Op.read_ok listed
      obtain ⟨hasCsr, _, listed⟩ := Op.read_ok listed
      rcases emitted : emitKeyEntry capacity context.out hasCert hasCsr slot (slotTraits record) with error | out
      · rw [emitted] at listed
        cases listed
      · rw [emitted] at listed
        have entry := emitKeyEntry_length emitted
        have others := ih listed
        dsimp only at others
        omega
    · have others := ih listed
      omega

theorem caListKeys_length {config : Config} {bytes : Bytes}
    (listed : (caListKeys config respCapacity device).1 = .ok bytes) : bytes.length ≤ briefMax := by
  obtain ⟨_, listed⟩ := Op.ensure_bind_ok listed
  obtain ⟨count, _, listed⟩ := Op.read_ok listed
  obtain ⟨out, head, listed⟩ := Op.read_ok listed
  obtain ⟨context, between, loop, rest⟩ := Op.bind_eq_ok.mp (Prod.ext listed rfl)
  obtain ⟨_, same⟩ := Op.ensure_bind_ok (congrArg Prod.fst rest)
  obtain rfl := Except.ok.inj same
  have entries := listKeysLoop_length _ (congrArg Prod.fst loop)
  have start := emitHead_length head
  have short := headBytes_length_le mtArray count.toNat
  have slots : config.maxKeySlots.toNat ≤ 64 := UInt32.le_iff_toNat_le.mp config.maxKeySlots_range.2
  simp only [slotRange, List.length_map, List.length_range, List.length_nil] at entries start
  simp only [briefMax]
  omega

/-- The reader keeps serials of thirty-two bytes. -/
theorem caGetSerial_length {wolf : WolfReader} {bytes : Bytes}
    (found : (caGetSerial wolf respCapacity device).1 = .ok bytes) : bytes.length ≤ briefMax := by
  obtain ⟨_, found⟩ := Op.ensure_bind_ok found
  obtain ⟨cert, _, found⟩ := Op.read_ok found
  rcases read : certparseCert wolf cert with error | parsed
  · rw [read] at found
    cases found
  · rw [read] at found
    obtain ⟨_, same⟩ := Op.ensure_bind_ok found
    obtain rfl := Except.ok.inj same
    unfold certparseCert at read
    split_ifs at read
    split at read
    · cases read
    · obtain rfl := Except.ok.inj read
      split_ifs with short
      · exact short.trans (by decide)
      · exact Nat.zero_le _

/-- Two random bytes add one name of eleven bytes at most. -/
theorem appendNames_length (table : NameTable) (outSize : Nat) (random out : Bytes) :
    (appendNames table outSize random out).length ≤ out.length + 6 * random.length := by
  fun_induction appendNames table outSize random out with
  | case1 high low rest out name full => omega
  | case2 high low rest out name room ih =>
    have short : name.length ≤ 11 := by
      show (table.names.getD _ _).length ≤ 11
      rw [List.getD_eq_getElem?_getD]
      rcases found : table.names[(high.toNat * 256 + low.toNat) % namesCount]? with _ | chosen
      · exact Nat.zero_le 11
      · exact table.short chosen (List.mem_of_getElem? found)
    simp only [List.length_append, List.length_cons, List.length_nil] at ih ⊢
    omega
  | case3 => omega

end Lists

section Reports

variable (config : Config) (crypto : Crypto) (image : Image) (env : CommandEnv) (data : Bytes)

theorem handleSetUnlockSeq_brief : Satisfies Brief (handleSetUnlockSeq config env data) := by
  unfold handleSetUnlockSeq
  split_ifs
  · exact refusal_brief _
  · split <;> exact refusal_brief _

theorem handleGetRandom_whole : Satisfies Whole (handleGetRandom env data) := by
  unfold handleGetRandom
  dsimp only
  split_ifs
  · exact untouched_whole _
  · exact untouched_whole _
  · split
    · exact untouched_whole _
    · exact of_whole _ _

theorem handleGetRandomNames_whole : Satisfies Whole (handleGetRandomNames env image.names data) := by
  unfold handleGetRandomNames
  split_ifs
  · exact untouched_whole _
  · exact readReply_whole _ _

theorem handleGetCaChain_whole : Op.Yields (Satisfies Whole) (handleGetCaChain config crypto respCapacity data) := by
  have answers : Op.Yields (fun _ => True) (caGetChainSlot config crypto (chainArg data) respCapacity) := by
    intro device
    obtain ⟨outcome, ran⟩ := caGetChainSlot_answers config crypto (chainArg data) respCapacity device
    exact ⟨outcome, by rw [ran], trivial⟩
  refine Op.yields_ite (fun _ => writes _ _) fun _ => answers.bind fun outcome _ => ?_
  split <;> exact writes _ _

theorem handleGetSessionCert_whole (session : SessionCert) :
    Op.Yields (Satisfies Whole) (handleGetSessionCert session respCapacity) := by
  unfold handleGetSessionCert
  split <;> exact writes _ _

end Reports

/-! Every command. -/

section Commands

/-- The answer has the command's shape, and only a reboot sends more. -/
def Reacts (command : Command) (reaction : Reaction) : Prop :=
  Satisfies (Shape command) reaction.answer ∧
    (command ≠ .resetDevice → command ≠ .updateFirmware → reaction.acks = [])

theorem plainly_reacts {op : BoardOp Answer} (answers : Op.Yields (Satisfies (Shape command)) op) :
    Op.Yields (Reacts command) (plainly <$> op) := by
  intro board
  obtain ⟨answer, ran, shape⟩ := answers board
  rw [Op.map_apply, ran]
  exact ⟨plainly answer, rfl, shape, fun _ _ => rfl⟩

theorem onStore_reacts {op : Op Device Errno Answer} (answers : Op.Yields (Satisfies (Shape command)) op) :
    Op.Yields (Reacts command) (plainly <$> onStore op) :=
  plainly_reacts fun board => answers board.device

theorem onMachine_reacts {op : SessionSlot.SlotOp Answer} (answers : Op.Yields (Satisfies (Shape command)) op) :
    Op.Yields (Reacts command) (plainly <$> onMachine op) :=
  plainly_reacts fun board => answers ⟨board.device, board.slot⟩

theorem onBonds_reacts {op : Clients.BondOp Answer} (answers : Op.Yields (Satisfies (Shape command)) op) :
    Op.Yields (Reacts command) (plainly <$> onBonds op) :=
  plainly_reacts fun board => answers ⟨board.device, board.bonds⟩

variable (config : Config) (crypto : Crypto) (image : Image) (env : CommandEnv) (seen : SessionEnv) (seq : UInt32)
  (data : Bytes)
variable {command : Command}

variable {config crypto env seen seq} in
theorem handleReset_refused
    (refused : (Gesture.gestureRequestReset config (.request 0) (env.machine config)).1 = .error error)
    (device : Device) :
    ∃ err, handleReset config crypto env seen seq device = (.ok (plainly (refusal err)), device) := by
  rw [handleReset, refused]
  cases error <;> exact ⟨_, rfl⟩

variable {config crypto env seen seq} in
/-- A reset that is not refused at once is announced. -/
theorem handleReset_announced
    (accepted : (Gesture.gestureRequestReset config (.request 0) (env.machine config)).1 = .ok ()) (device : Device) :
    ∃ answer, (handleReset config crypto env seen seq device).1 = .ok ⟨ack seq, answer⟩ ∧ Satisfies Brief answer := by
  rw [handleReset, accepted]
  dsimp only
  rw [Op.bind_apply, Op.attempt_apply]
  rcases outcome : (handleResetDevice config crypto { seen.toEnv with confirm := promptErr env.tapped }
    device).1 with error | answer
  · exact ⟨.rebooted, rfl, trivial⟩
  · exact ⟨answer, rfl, handleResetDevice_brief _ _ _ _ _ outcome⟩

theorem handleReset_reacts : Op.Yields (Reacts .resetDevice) (onStore (handleReset config crypto env seen seq)) := by
  intro board
  rcases requested : (Gesture.gestureRequestReset config (.request 0) (env.machine config)).1 with error | ⟨⟩
  · obtain ⟨err, ran⟩ := handleReset_refused requested board.device
    exact ⟨_, congrArg Prod.fst ran, refusal_brief err, fun _ _ => rfl⟩
  · obtain ⟨answer, ran, brief⟩ := handleReset_announced requested board.device
    exact ⟨_, ran, brief, fun other => absurd rfl other⟩

/-- Every command ends in an answer. -/
theorem handleCommand_reacts (command : Command) :
    Op.Yields (Reacts command) (handleCommand config crypto image env seen seq data command) := by
  cases command with
  | signCsr => exact onStore_reacts (handleSignCsr_whole config crypto seen.toEnv data)
  | getCaCert | getCaCsr | getCert =>
    exact onStore_reacts (Op.yields_attempt fun _ => Op.yields_pure (readReply_whole _ _))
  | getCaChain => exact onStore_reacts (handleGetCaChain_whole config crypto data)
  | getCaSerial => exact onStore_reacts fun device => ⟨_, rfl, dataReply_brief _ fun bytes => caGetSerial_length⟩
  | pushCaCert =>
    refine onStore_reacts (Op.yields_attempt fun result => ?_)
    split <;> exact refuses _
  | listCerts => exact onStore_reacts (Op.yields_attempt fun _ => Op.yields_pure (dataReply_whole _ _))
  | getCertCount | genKey =>
    refine onStore_reacts (Op.yields_attempt fun result => ?_)
    split <;> exact writes _ _
  | revokeCert =>
    refine onStore_reacts (refused_or (refused_or (refused_or (refused_or (Op.yields_attempt fun result => ?_)))))
    split <;> exact refuses _
  | autoExpire =>
    refine onStore_reacts (Op.yields_ite (fun _ => writes _ _) fun _ => Op.yields_attempt fun result => ?_)
    split <;> exact writes _ _
  | getCrl =>
    refine onStore_reacts (Op.yields_ite (fun _ => writes _ _) fun _ => Op.yields_ite (fun _ => writes _ _) fun _ =>
      Op.yields_attempt fun result => ?_)
    split <;> exact writes _ _
  | listKeys => exact onStore_reacts fun device => ⟨_, rfl, dataReply_brief _ fun bytes => caListKeys_length⟩
  | getKeyCsr =>
    exact onStore_reacts (Op.yields_ite (fun _ => writes _ _) fun _ =>
      Op.yields_attempt fun _ => Op.yields_pure (dataReply_whole _ _))
  | pushKeyCert =>
    refine onStore_reacts (refused_or (refused_or (Op.yields_attempt fun result => ?_)))
    split <;> exact refuses _
  | genKeyCsr | signKeySlot => exact onStore_reacts (refused_or (refused_or (reports _)))
  | pushKeyX509 => exact onStore_reacts (refused_or (reports _))
  | deleteKey =>
    refine onStore_reacts (refused_or (Op.yields_attempt fun result => ?_))
    split <;> exact refuses _
  | protectSlot | unprotectSlot => exact onStore_reacts (refused_or (or_refused (reports _)))
  | signCsrSlot => exact onStore_reacts (handleSignCsrSlot_whole config crypto seen.toEnv data)
  | deviceStatus =>
    refine onStore_reacts (Op.yields_attempt fun slotsUsed => Op.yields_attempt fun certsStored =>
      (Op.yields_reads _).bind fun provisioned _ => (Op.yields_reads _).bind fun volume _ =>
      Op.yields_pure ⟨_, rfl, ?_, fun failed => absurd rfl failed⟩)
    simp [briefMax]
  | setUnlockSeq => exact Op.yields_pure ⟨handleSetUnlockSeq_brief config env data, fun _ _ => rfl⟩
  | resetDevice => exact handleReset_reacts config crypto env seen seq
  | updateFirmware => exact Op.yields_pure ⟨trivial, fun _ other => absurd rfl other⟩
  | provisionCa =>
    refine onStore_reacts ((Op.yields_reads _).bind fun provisioned _ =>
      refused_or (or_refused (Op.yields_attempt fun result => ?_)))
    split
    · exact Op.yields_pure ⟨_, rfl, by simp [briefMax], fun failed => absurd rfl failed⟩
    all_goals exact refuses _
  | getRandom => exact Op.yields_pure ⟨handleGetRandom_whole env data, fun _ _ => rfl⟩
  | getRandomNames => exact Op.yields_pure ⟨handleGetRandomNames_whole image env data, fun _ _ => rfl⟩
  | getSessionCert =>
    intro board
    have whole : Op.Yields (Satisfies (Shape .getSessionCert)) _ :=
      handleGetSessionCert_whole board.slot.sessionCert
    exact onStore_reacts whole board
  | getSessionCsr =>
    refine onMachine_reacts (Op.yields_attempt fun result => ?_)
    split <;> exact writes _ _
  | signSessionFromSlot | pushSessionCert =>
    exact onMachine_reacts (refused_or (refused_or (or_refused (reports _))))
  | listClients => exact onBonds_reacts (Op.yields_attempt fun _ => Op.yields_pure (dataReply_whole _ _))
  | unpairClient => exact onBonds_reacts (refused_or (refused_or (reports _)))
  | setClientName => exact onBonds_reacts (refused_or (reports _))

end Commands

/-! What goes out. -/

section Sending

variable (seq : UInt32) (acks : List Bytes) (err : Err)

/-- What a handler wrote goes out as it is, if it fits. -/
theorem send_of (stale bytes : Bytes) :
    send seq stale ⟨acks, .reply ⟨err, RespData.of bytes⟩⟩ =
      if Fits seq bytes then ⟨acks ++ [responseBytes seq err.code bytes], .ok (), false⟩
      else ⟨acks, .error .enomem, false⟩ := by
  have small : err.code.toNat < 24 := by cases err <;> decide
  have sized : (responseBytes seq err.code bytes).length ≤ msgBufSize ↔ Fits seq bytes := by
    rw [responseBytes_length small, Fits]
  simp only [send, respond, RespData.bytes_of, encodeResponse_eq, sized]
  by_cases fits : Fits seq bytes
  · rw [if_pos fits, if_pos fits]
  · rw [if_neg fits, if_neg fits]

/-- A buffer whose length was not cut never goes out. -/
theorem send_untouched (stale : Stack) :
    send seq stale.1 ⟨acks, .reply ⟨err, RespData.untouched⟩⟩ = ⟨acks, .error .enomem, false⟩ := by
  have whole : RespData.bytes stale.1 RespData.untouched = stale.1 := by
    simp [RespData.bytes, RespData.untouched, ← stale.2]
  have some : stale.1 ≠ [] := by
    intro empty
    have sized := stale.2
    rw [empty] at sized
    exact absurd sized (by decide)
  have long := responseBytes_long some seq err.code
  have wide : ¬ (responseBytes seq err.code stale.1).length ≤ msgBufSize := by
    have sized := stale.2
    simp only [respCapacity, msgBufSize] at *
    omega
  simp only [send, respond, whole, encodeResponse_eq, if_neg wide]

theorem send_stale {reaction : Reaction} (whole : Satisfies Whole reaction.answer) (stale other : Stack) :
    send seq stale.1 reaction = send seq other.1 reaction := by
  obtain ⟨acks, ⟨err, data⟩ | _⟩ := reaction
  · rcases whole with ⟨bytes, same⟩ | same
    · dsimp only at same
      rw [same, send_of, send_of]
    · dsimp only at same
      rw [same, send_untouched, send_untouched]
  · rfl

end Sending

section Requests

variable {config : Config} {crypto : Crypto} {image : Image} {env : CommandEnv} {stale : Bytes} {cmd seq : UInt32}
  {data : Bytes} {board : Board}

theorem handleRequest_refused {err : Err}
    (gated : Protocol.dispatch config (env.seen config board.slot).gestureState
      (conditions (env.seen config board.slot).toEnv board.device) cmd = .refused err) :
    handleRequest config crypto image env stale cmd seq data board =
      (send seq stale (plainly (refusal err)), board) := by
  simp only [handleRequest, gated]

theorem handleRequest_unknown
    (gated : Protocol.dispatch config (env.seen config board.slot).gestureState
      (conditions (env.seen config board.slot).toEnv board.device) cmd = .unknown) :
    handleRequest config crypto image env stale cmd seq data board =
      (send seq stale (plainly (refusal .invalidCmd)), board) := by
  simp only [handleRequest, gated]

theorem handleRequest_executed {command : Command} {reaction : Reaction}
    (gated : Protocol.dispatch config (env.seen config board.slot).gestureState
      (conditions (env.seen config board.slot).toEnv board.device) cmd = .executed command)
    (ran : (handleCommand config crypto image env (env.seen config board.slot) seq data command board).1 =
      .ok reaction) :
    handleRequest config crypto image env stale cmd seq data board = (send seq stale reaction,
      (handleCommand config crypto image env (env.seen config board.slot) seq data command board).2) := by
  have handled : handleCommand config crypto image env (env.seen config board.slot) seq data command board =
      (.ok reaction, _) := Prod.ext ran rfl
  simp only [handleRequest, gated]
  rw [handled]

end Requests

/-- Nothing that the buffer held before is sent. -/
theorem response_ignores_stale (config : Config) (crypto : Crypto) (image : Image) (depth : Nat) (env : CommandEnv)
    (stale other : Stack) (message : Bytes) (board : Board) :
    protocolHandleOne config crypto image depth env stale.1 message board =
      protocolHandleOne config crypto image depth env other.1 message board := by
  unfold protocolHandleOne
  rcases (decodeRequest 32 depth message 0).1 with error | ⟨cmd, seq, data⟩
  · rfl
  · dsimp only
    rcases gated : Protocol.dispatch config (env.seen config board.slot).gestureState
      (conditions (env.seen config board.slot).toEnv board.device) cmd with err | _ | command
    · rw [handleRequest_refused gated, handleRequest_refused gated, send_stale seq (refusal_whole _) stale other]
    · rw [handleRequest_unknown gated, handleRequest_unknown gated, send_stale seq (refusal_whole _) stale other]
    · obtain ⟨reaction, ran, shape, _⟩ :=
        handleCommand_reacts config crypto image env (env.seen config board.slot) seq data command board
      rw [handleRequest_executed gated ran, handleRequest_executed gated ran,
        send_stale seq (shape.mono fun _ => Shape.whole) stale other]

end Cantil.HandleOne
