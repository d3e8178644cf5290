import Cantil.Proof.CrlContents
import Cantil.Proof.ResponseShape

namespace Cantil.Ca
open Library

/-- A sweep at this time has to mark the record. -/
def Due (nowUnix : UInt64) (record : IssuedMeta) : Prop :=
  record.notAfterUnix ≠ 0 ∧ record.flags &&& issuedFlagExpired = 0 ∧ record.notAfterUnix ≤ nowUnix

instance (nowUnix : UInt64) (record : IssuedMeta) : Decidable (Due nowUnix record) :=
  inferInstanceAs (Decidable (_ ∧ _))

def IssuedMeta.expired (record : IssuedMeta) : IssuedMeta :=
  { record with flags := record.flags ||| issuedFlagExpired }

/-- Every record that the sweep has to mark can be written. -/
def MarksAll (env : Env) (nowUnix : UInt64) (device : Device) (names : List Bytes) : Prop :=
  ∀ name ∈ names, ∀ issued, issuedRecord device name = some issued → Due nowUnix issued.2 →
    WriteOutcome.Reported (env.write (.issued (hexName issued.1) .metadata))

section Sweep

variable {env : Env} {nowUnix : UInt64} {device : Device} {name serial : Bytes} {context : ExpireContext}

theorem expireCb_unread {error : Errno} (unread : (readIssuedMeta serial device).1 = .error error) :
    expireCb env nowUnix serial context device = (.ok (context, false), device) := by
  have read := Op.read_eq unread
  simp [expireCb, Op.bind_apply, read]

theorem expireCb_idle {record : IssuedMeta} (read : (readIssuedMeta serial device).1 = .ok record)
    (idle : ¬ Due nowUnix record) :
    expireCb env nowUnix serial context device = (.ok (context, false), device) := by
  have read := Op.read_eq read
  simp only [expireCb, Op.bind_apply, Op.attempt_apply, read]
  by_cases unlimited : record.notAfterUnix = 0
  · rw [if_pos unlimited, Op.pure_apply]
  by_cases marked : record.flags &&& issuedFlagExpired ≠ 0
  · rw [if_neg unlimited, if_pos marked, Op.pure_apply]
  by_cases early : nowUnix < record.notAfterUnix
  · rw [if_neg unlimited, if_neg marked, if_pos early, Op.pure_apply]
  · exact absurd ⟨unlimited, not_not.mp marked, UInt64.not_lt.mp early⟩ idle

/-- A due record is written back, or the sweep stops. -/
theorem expireCb_due {record : IssuedMeta} (read : (readIssuedMeta serial device).1 = .ok record)
    (due : Due nowUnix record) :
    expireCb env nowUnix serial context device =
      match writeFile env.toFaults (.issued (hexName serial) .metadata) record.expired.bytes device with
      | (.error error, after) => (.ok ({ context with err := some error }, true), after)
      | (.ok (), after) => (.ok ({ context with count := context.count + 1 }, false), after) := by
  have named := (recordAt_of_read read).1
  have read := Op.read_eq read
  obtain ⟨limited, unmarked, late⟩ := due
  have late : ¬ nowUnix < record.notAfterUnix := UInt64.not_lt.mpr late
  simp only [expireCb, Op.bind_apply, Op.attempt_apply, read, limited, unmarked, late, if_false, ne_eq,
    not_true_eq_false, storageIssuedMetaWrite, named, Op.lift_apply, IssuedMeta.expired]
  rcases writeFile env.toFaults (.issued (hexName serial) .metadata) _ device with ⟨_ | ⟨⟩, after⟩ <;> rfl

/-- Records of other directories are read as before. -/
theorem issuedRecord_frame {after : Device} {other : Bytes} (different : other ≠ name)
    (frame : SameOutside (Path.issued name .metadata = ·) device after) :
    issuedRecord after other = issuedRecord device other := by
  unfold issuedRecord
  rcases decoded : decodeName other with _ | serial
  · rfl
  · have short := (decodeName_sized decoded).2
    have same : recordAt after (hexName serial) = recordAt device (hexName serial) := by
      rw [hexName_of_decodeName decoded, recordAt, recordAt, frame]
      intro equal
      exact different (Path.issued.inj equal).1.symm
    simp only [Option.bind_eq_bind, Option.bind_some, readIssuedMeta_toOption short, same]

theorem marksAll_frame {after : Device} {names : List Bytes}
    (reported : WriteOutcome.Reported (env.write (.issued name .metadata)))
    (frame : SameOutside (Path.issued name .metadata = ·) device after) :
    MarksAll env nowUnix after names ↔ MarksAll env nowUnix device names := by
  refine forall₂_congr fun other _ => ?_
  by_cases same : other = name
  · have written (at_ : Device) (issued : Bytes × IssuedMeta) (found : issuedRecord at_ other = some issued) :
        WriteOutcome.Reported (env.write (.issued (hexName issued.1) .metadata)) := by
      rw [issuedRecord_name found, same]
      exact reported
    exact iff_of_true (fun issued found _ => written after issued found) fun issued found _ =>
      written device issued found
  · rw [issuedRecord_frame same frame]

theorem marksAll_cons {names : List Bytes} :
    MarksAll env nowUnix device (name :: names) ↔
      MarksAll env nowUnix device [name] ∧ MarksAll env nowUnix device names := by
  simp [MarksAll]

/-- Passes on, or stops at a due record it cannot write. -/
theorem expireCb_step (decoded : decodeName name = some serial) (context : ExpireContext) :
    (∃ count after, expireCb env nowUnix serial context device = (.ok ({ context with count }, false), after) ∧
      MarksAll env nowUnix device [name] ∧
      ∀ names, MarksAll env nowUnix after names ↔ MarksAll env nowUnix device names) ∨
    ∃ error after, expireCb env nowUnix serial context device =
      (.ok ({ context with err := some error }, true), after) ∧
      ¬ MarksAll env nowUnix device [name] := by
  have single : MarksAll env nowUnix device [name] ↔ ∀ issued, issuedRecord device name = some issued →
      Due nowUnix issued.2 → WriteOutcome.Reported (env.write (.issued (hexName issued.1) .metadata)) := by
    rw [MarksAll, List.forall_mem_singleton]
  rcases read : (readIssuedMeta serial device).1 with error | record
  · refine .inl ⟨context.count, device, expireCb_unread read, single.mpr ?_, fun _ => Iff.rfl⟩
    simp [issuedRecord, decoded, read, Except.toOption]
  have found : issuedRecord device name = some (serial, record) := by
    simp [issuedRecord, decoded, read, Except.toOption]
  simp only [found, Option.some.injEq, forall_eq'] at single
  by_cases due : Due nowUnix record
  · have reported := writeFile_ok_iff env.toFaults (.issued (hexName serial) .metadata) record.expired.bytes device
    have frame := writeFile_frame env.toFaults (.issued (hexName serial) .metadata) record.expired.bytes device
    rw [expireCb_due read due]
    rcases wrote : writeFile env.toFaults (.issued (hexName serial) .metadata) record.expired.bytes device with
      ⟨error | ⟨⟩, after⟩
    · rw [wrote] at reported
      exact .inr ⟨error, after, rfl, fun marks => by cases reported.mpr (single.mp marks due)⟩
    · rw [wrote] at reported frame
      have done := reported.mp rfl
      exact .inl ⟨_, after, rfl, single.mpr fun _ => done, fun names => marksAll_frame done frame⟩
  · exact .inl ⟨context.count, device, expireCb_idle read due, single.mpr fun late => absurd late due,
      fun _ => Iff.rfl⟩

/-- The sweep succeeds exactly if due records can be written. -/
theorem iterNames_expire (names : List Bytes) (context : ExpireContext) (device : Device) (fine : context.err = none) :
    ∃ final, (iterNames (expireCb env nowUnix) names context device).1 = .ok final ∧
      (final.err = none ↔ MarksAll env nowUnix device names) := by
  induction names generalizing context device with
  | nil => exact ⟨context, rfl, iff_of_true fine (List.forall_mem_nil _)⟩
  | cons name rest ih =>
    rw [marksAll_cons]
    rcases decoded : decodeName name with _ | serial
    · have unnamed : MarksAll env nowUnix device [name] := by simp [MarksAll, issuedRecord, decoded]
      simp only [iterNames, decoded, unnamed, true_and]
      exact ih context device fine
    · simp only [iterNames, decoded, Op.bind_apply]
      rcases expireCb_step decoded context with ⟨count, after, ran, marks, same⟩ | ⟨error, after, ran, unmarked⟩
      · rw [ran, ← same rest]
        simp only [marks, true_and]
        exact ih { context with count } after fine
      · rw [ran]
        exact ⟨_, rfl, iff_of_false (Option.some_ne_none _) fun marks => unmarked marks.1⟩

/-- What `ca_auto_expire` needs. -/
theorem caAutoExpire_iff (device : Device) :
    (∃ count, (caAutoExpire env nowUnix device).1 = .ok count) ↔
      nowUnix ≠ 0 ∧ MarksAll env nowUnix device device.fs.certDirs := by
  rw [caAutoExpire]
  by_cases zero : nowUnix = 0
  · simp [zero, Op.ensure, Op.bind_apply]
  · obtain ⟨⟨count, err⟩, ran, clean⟩ :
        ∃ final, (iterNames (expireCb env nowUnix) device.fs.certDirs ⟨0, none⟩ device).1 = .ok final ∧ _ :=
      iterNames_expire device.fs.certDirs ⟨0, none⟩ device rfl
    obtain ⟨after, swept⟩ : ∃ after, storageIssuedCertsIter (expireCb env nowUnix) ⟨0, none⟩ device =
      (.ok ⟨count, err⟩, after) := ⟨_, Prod.ext ran rfl⟩
    simp only [Op.ensure, zero, ne_eq, not_false_eq_true, if_true, Op.bind_apply, Op.pure_apply, swept, true_and,
      ← clean]
    cases err <;> simp

end Sweep

section Keys

variable {config : Config} {env : Env} {device : Device}

/-- Key and metadata are made and written. -/
def Creates (env : Env) (slot : Slot) : Prop :=
  env.storageKeyDerive = .ok () ∧ (∃ privkey blob, env.keygen = .ok privkey ∧ env.encryptBlob privkey = .ok blob) ∧
    WriteOutcome.Reported (env.write (.slot slot .key)) ∧ WriteOutcome.Reported (env.write (.slot slot .metadata))

theorem createKey_iff {slot : Slot} {record : SlotMeta} :
    (createKey env slot record device).1 = .ok () ↔ Creates env slot := by
  simp only [createKey, Creates, Op.bind_ok_iff, Op.lift_apply, storageKeyWrite, metaWrite, storageSlotMetaWrite,
    Unique.exists_iff, PUnit.default_eq_unit, writeFile_ok_iff]
  simp only [← exists_and_right, ← exists_and_left, and_assoc]

/-- What `ca_gen_key` needs. -/
theorem caGenKey_iff {keyType : UInt8} :
    (∃ slot, (caGenKey config env keyType device).1 = .ok slot) ↔
      normalizeKeyType keyType = keyTypeP256 ∧ mayMint device = true ∧
        ∃ slot, freeSlot config device = some slot ∧ Creates env slot := by
  simp only [caGenKey, Op.bind_apply, Op.ensure, storageVolumeMayMint, Op.reads_apply]
  by_cases kind : normalizeKeyType keyType = keyTypeP256
  · by_cases mints : mayMint device = true
    · rcases free : freeSlot config device with _ | slot
      · simp [kind, mints, firstFreeSlot_of_none free]
      · have created : (createKey env slot (slotMetaOf keyTypeP256 0 0) device).1 = .ok () ↔ Creates env slot :=
          createKey_iff
        simp only [kind, mints, firstFreeSlot_of_some free, if_true, Op.pure_apply,
          true_and, Option.some.injEq, exists_eq_left',
          ← created]
        rcases createKey env slot (slotMetaOf keyTypeP256 0 0) device with ⟨error | ⟨⟩, after⟩ <;> simp
    · simp [kind, mints]
  · simp [kind]

end Keys

end Cantil.Ca

namespace Cantil.HandleOne
open Library Ca Dispatcher Cbor
open Protocol (Err Command)

/-- One numbered response, and no data with an error. -/
structure OneResponse (seq : UInt32) (outcome : Outcome) : Prop where
  returns : outcome.result = .ok ()
  single : ∃ (err : Err) (data response : Bytes), outcome.sent = [response] ∧
    encodeResponse msgBufSize seq err.code data = .ok response ∧ (err ≠ .ok → data = [])

/-- The reply can be sent, and carries nothing with an error. -/
def Clean (seq : UInt32) (reply : Reply) : Prop :=
  ∃ bytes, reply.data = RespData.of bytes ∧ Fits seq bytes ∧ (reply.err ≠ .ok → bytes = [])

/-- A clean reply, and no reboot. -/
def Cleanly (seq : UInt32) : Answer → Prop
  | .reply reply => Clean seq reply
  | .rebooted => False

section Clean

variable {seq : UInt32}
variable {err : Err} {bytes : Bytes}

theorem encodeResponse_fits :
    encodeResponse msgBufSize seq err.code bytes =
      if Fits seq bytes then .ok (responseBytes seq err.code bytes) else .error .enomem := by
  have small : err.code.toNat < 24 := by cases err <;> decide
  rw [encodeResponse_eq, responseBytes_length small]
  rfl

/-- The code and the data can be read off a response. -/
theorem encodeResponse_inj {other : Err} {text response : Bytes}
    (first : encodeResponse msgBufSize seq err.code bytes = .ok response)
    (second : encodeResponse msgBufSize seq other.code text = .ok response) : err = other ∧ bytes = text := by
  rw [encodeResponse_fits] at first second
  split_ifs at first second with fits
  have same := (Except.ok.inj first).trans (Except.ok.inj second).symm
  have small : (responseBytes seq err.code bytes).length < 2 ^ 31 := by
    have code : err.code.toNat < 24 := by cases err <;> decide
    rw [responseBytes_length code]
    exact Nat.lt_of_le_of_lt fits (by decide)
  obtain ⟨codes, _, data⟩ := mapBytes_inj ⟨by decide, by decide⟩ small same
  refine ⟨?_, data⟩
  revert codes
  cases err <;> cases other <;> decide

theorem not_cleanly_untouched : ¬ Cleanly seq (.reply ⟨err, RespData.untouched⟩) := by
  rintro ⟨bytes, same, _⟩
  have known : [] = bytes := congrArg RespData.known same
  have sized : respCapacity = bytes.length := congrArg RespData.length same
  rw [← known] at sized
  exact absurd sized (by decide)

/-- A reply goes out as one response exactly when it is clean. -/
theorem oneResponse_iff_clean {reply : Reply} (whole : Whole reply) (stale : Stack) :
    OneResponse seq (send seq stale.1 (plainly (.reply reply))) ↔ Clean seq reply := by
  obtain ⟨err, data⟩ := reply
  rcases whole with ⟨bytes, same⟩ | same
  · obtain rfl : data = RespData.of bytes := same
    rw [plainly, send_of]
    constructor
    · rintro ⟨returns, other, text, response, sent, encoded, bare⟩
      split_ifs at returns sent with fits
      obtain rfl := List.singleton_injective sent
      have mine : encodeResponse msgBufSize seq err.code bytes =
          .ok (responseBytes seq err.code bytes) := by
        rw [encodeResponse_fits, if_pos fits]
      obtain ⟨rfl, rfl⟩ := encodeResponse_inj mine encoded
      exact ⟨bytes, rfl, fits, bare⟩
    · rintro ⟨text, same, fits, bare⟩
      obtain rfl : bytes = text := congrArg RespData.known same
      rw [if_pos fits]
      exact ⟨rfl, err, bytes, _, rfl, by rw [encodeResponse_fits, if_pos fits], bare⟩
  · obtain rfl : data = RespData.untouched := same
    rw [plainly, send_untouched]
    exact iff_of_false (fun one => nomatch one.returns) not_cleanly_untouched

theorem fits_of_brief (short : bytes.length ≤ briefMax) : Fits seq bytes := by
  have map := headBytes_length_le mtMap (if bytes.length > 0 then 3 else 2)
  have key1 := headBytes_length_le mtTstr keyErr.length
  have code := headBytes_length_le mtUint (0 : UInt32).toNat
  have key2 := headBytes_length_le mtTstr keySeq.length
  have number := headBytes_length_le mtUint seq.toNat
  have item : (dataItem keyData bytes).length ≤ bytes.length + 22 := by
    have key3 := headBytes_length_le mtTstr keyData.length
    have head := headBytes_length_le mtBstr bytes.length
    have text : keyData.length = 4 := rfl
    unfold dataItem
    split_ifs
    · simp only [List.length_append]
      omega
    · exact Nat.zero_le _
  have texts : keyErr.length = 3 ∧ keySeq.length = 3 := ⟨rfl, rfl⟩
  simp only [Fits, responseBytes, mapBytes, List.length_append, msgBufSize, briefMax] at *
  omega

theorem not_fits_of_long (long : respCapacity ≤ bytes.length) : ¬ Fits seq bytes := by
  have some : bytes ≠ [] := by
    rintro rfl
    exact absurd long (by decide)
  have wide := responseBytes_long some seq 0
  simp only [Fits, respCapacity, msgBufSize] at *
  omega

/-- What does not fit the buffer does not fit a response. -/
theorem fits_take : Fits seq (bytes.take respCapacity) ↔ Fits seq bytes := by
  by_cases short : bytes.length ≤ respCapacity
  · rw [List.take_of_length_le short]
  · refine iff_of_false (not_fits_of_long ?_) (not_fits_of_long (by omega))
    rw [List.length_take]
    omega

theorem Brief.clean {reply : Reply} (brief : Brief reply) : Clean seq reply := by
  obtain ⟨bytes, same, short, bare⟩ := brief
  exact ⟨bytes, same, fits_of_brief short, bare⟩

theorem cleanly_refusal (err : Err) : Cleanly seq (refusal err) := Brief.clean (refusal_brief err)

theorem cleanly_ok : Cleanly seq (.reply ⟨.ok, RespData.of bytes⟩) ↔ Fits seq bytes := by
  constructor
  · rintro ⟨text, same, fits, _⟩
    obtain rfl : bytes = text := congrArg RespData.known same
    exact fits
  · intro fits
    exact ⟨bytes, rfl, fits, fun failed => absurd rfl failed⟩

theorem not_cleanly_failed (failed : err ≠ .ok) (some : bytes ≠ []) :
    ¬ Cleanly seq (.reply ⟨err, RespData.of bytes⟩) := by
  rintro ⟨text, same, _, bare⟩
  obtain rfl : bytes = text := congrArg RespData.known same
  exact some (bare failed)

/-- Only a success is sent, with the length of the buffer. -/
theorem cleanly_readReply {failure : Err} {result : Except Errno Bytes} :
    Cleanly seq (readReply respCapacity failure result) ↔ ∃ bytes, result = .ok bytes ∧ Fits seq bytes := by
  cases result with
  | error error => exact iff_of_false not_cleanly_untouched (by simp)
  | ok bytes => simp [readReply, cleanly_ok]

/-- A failure carries nothing, so it is sent. -/
theorem cleanly_dataReply {failure : Errno → Err} {result : Except Errno Bytes} :
    Cleanly seq (dataReply failure result) ↔ ∀ bytes, result = .ok bytes → Fits seq bytes := by
  cases result with
  | error error => exact iff_of_true (cleanly_refusal _) (by simp)
  | ok bytes => simp [dataReply, cleanly_ok]

theorem slotData_ne_nil (slot : UInt32) : bigEndian 4 slot.toNat ≠ [] := by
  intro empty
  have sized := congrArg List.length empty
  simp at sized

theorem cleanly_slotData {slot : UInt32} : Cleanly seq (.reply ⟨err, slotData slot⟩) ↔ err = .ok := by
  by_cases fine : err = .ok
  · subst fine
    exact iff_of_true (cleanly_ok.mpr (fits_of_brief (by simp [briefMax]))) rfl
  · exact iff_of_false (not_cleanly_failed fine (slotData_ne_nil slot)) fine

end Clean

/-- It answers, cleanly exactly under the condition. -/
def AnswersIff {State : Type} (seq : UInt32) (op : Op State Errno Answer) (state : State) (condition : Prop) : Prop :=
  ∃ answer, (op state).1 = .ok answer ∧ (Cleanly seq answer ↔ condition)

/-- The file is there, and fits a response. -/
def Readable (seq : UInt32) (device : Device) (path : Path) : Prop :=
  ∃ der, device.fs.files path = some der ∧ Fits seq der

/-- What a command needs to be answered by one response. -/
def Answerable (config : Config) (crypto : Crypto) (image : Image) (env : CommandEnv) (seen : SessionEnv)
    (seq : UInt32) (data : Bytes) (board : Board) : Command → Prop
  -- An error keeps the length of the buffer, which does not fit.
  | .getCaCert => Readable seq board.device (.slot caSlot .cert)
  | .getCaCsr => Readable seq board.device (.slot caSlot .csr)
  | .getCert => data.length * 2 + 20 < pathMaxLen ∧ Readable seq board.device (.issued (hexName data) .cert)
  | .getRandom => 2 ≤ data.length ∧
      ∃ random, env.trng (bigEndianValue (data.take 2)) = .ok random ∧ Fits seq random.1
  | .getRandomNames => 2 ≤ data.length ∧ (bigEndianValue (data.take 2) = 0 ∨
      ∃ random, env.trng (min (bigEndianValue (data.take 2)) namesBatchMax * 2) = .ok random)
  -- An error comes with the certificate, the count or the slot number.
  | .signCsr => ∃ issue, signs config crypto seen.toEnv data board.device .signCsr = some issue ∧
      Fits seq issue.der ∧ (Stores seen.toEnv issue ∨ issue.der = [])
  | .getCertCount => env.certsDir = none
  | .autoExpire => data.length < 8 ∨ u64Arg 0 data ≠ 0 ∧
      MarksAll seen.toEnv (u64Arg 0 data) board.device board.device.fs.certDirs
  | .genKey => normalizeKeyType (data.headD 0) = keyTypeP256 ∧ mayMint board.device = true ∧
      ∃ slot, freeSlot config board.device = some slot ∧ Creates seen.toEnv slot
  -- The prompt is announced by a response of its own.
  | .resetDevice => (Gesture.gestureRequestReset config (.request 0) (env.machine config)).1 ≠ .ok ()
  -- The data may be larger than what a response holds.
  | .getCaChain => ∀ chain, data.length = 4 ∨ data.length = 0 →
      (caGetChainSlot config crypto (chainArg data) respCapacity board.device).1 = .ok (.ok (), chain) → Fits seq chain
  | .getSessionCert => ∀ cert, sessionSlotGetCert board.slot.sessionCert respCapacity = .ok cert → Fits seq cert
  | .getSessionCsr => ∀ csr, (SessionSlot.sessionSlotGetCsr crypto seen image.toBuild ⟨board.device, board.slot⟩).1 =
      .ok csr → Fits seq csr
  | .listCerts => ∀ list, (caListCerts env.certsDir respCapacity board.device).1 = .ok list → Fits seq list
  | .getCrl => ∀ crl, data.length = 12 → slotArg data < config.maxKeySlots →
      (caGetCrl config crypto seen.toEnv (slotArg data) (u64Arg 4 data) respCapacity board.device).1 = .ok crl →
      Fits seq crl
  | .getKeyCsr => ∀ der, 4 ≤ data.length → board.device.fs.files (.slot (slotArg data) .csr) = some der → Fits seq der
  | .signCsrSlot => ∀ issue, signs config crypto seen.toEnv data board.device .signCsrSlot = some issue →
      Stores seen.toEnv issue → Fits seq issue.der
  | .listClients => ∀ list, (Clients.clientBondListCbor env.toBondEnv respCapacity ⟨board.device, board.bonds⟩).1 =
      .ok list → Fits seq list
  | _ => True

section Handlers

variable {config : Config} {crypto : Crypto} {image : Image} {env : CommandEnv} {seen : SessionEnv} {seq : UInt32}
  {data : Bytes} {board : Board} {condition : Prop}

/-- The same of a command. -/
def ReactsIff (seq : UInt32) (op : BoardOp Reaction) (board : Board) (condition : Prop) : Prop :=
  ∃ answer, (op board).1 = .ok (plainly answer) ∧ (Cleanly seq answer ↔ condition)

theorem plainly_answers {op : BoardOp Answer} (answers : AnswersIff seq op board condition) :
    ReactsIff seq (plainly <$> op) board condition := by
  obtain ⟨answer, ran, clean⟩ := answers
  refine ⟨answer, ?_, clean⟩
  rw [Op.map_apply, ran]
  rfl

theorem onStore_answers {op : Op Device Errno Answer} (answers : AnswersIff seq op board.device condition) :
    ReactsIff seq (plainly <$> onStore op) board condition :=
  plainly_answers answers

/-- What is answered, and how, is told by `Answerable`. -/
def Answers (config : Config) (crypto : Crypto) (image : Image) (env : CommandEnv) (seen : SessionEnv) (seq : UInt32)
    (data : Bytes) (board : Board) (command : Command) : Prop :=
  ReactsIff seq (handleCommand config crypto image env seen seq data command) board
    (Answerable config crypto image env seen seq data board command)

theorem readFile_readable {device : Device} {path : Path} :
    (∃ bytes, (readFile path respCapacity device).1 = .ok bytes ∧ Fits seq bytes) ↔ Readable seq device path := by
  simp only [readFile, Op.reads_apply, Readable]
  cases device.fs.files path with
  | none => simp
  | some der => simp [fits_take]

theorem getCert_answers : Answers config crypto image env seen seq data board .getCert := by
  refine onStore_answers ⟨_, rfl, cleanly_readReply.trans ?_⟩
  rw [Answerable, ← readFile_readable]
  by_cases short : data.length * 2 + 20 < pathMaxLen
  · have room : data.length * 2 + 1 ≤ pathMaxLen := by omega
    simp [storageIssuedCertRead, Op.bind_apply, Op.ensure, short, room]
  · by_cases room : data.length * 2 + 1 ≤ pathMaxLen
    · simp [storageIssuedCertRead, Op.bind_apply, Op.ensure, short, room]
    · simp [storageIssuedCertRead, Op.bind_apply, Op.ensure, short, room]

theorem getRandom_answers : Answers config crypto image env seen seq data board .getRandom := by
  refine ⟨handleGetRandom env data, rfl, ?_⟩
  unfold handleGetRandom Answerable
  dsimp only
  split_ifs with short long
  · exact iff_of_false not_cleanly_untouched fun needs => by omega
  · refine iff_of_false not_cleanly_untouched ?_
    rintro ⟨_, random, _, fits⟩
    exact not_fits_of_long (by omega) fits
  · have enough : 2 ≤ data.length := by omega
    rcases drawn : env.trng (bigEndianValue (data.take 2)) with error | random
    · exact iff_of_false not_cleanly_untouched (by simp)
    · simp [enough, cleanly_ok]

/-- Sixty-four names always fit. -/
theorem namesGetRandomBatch_fits {count : Nat} {names : Bytes}
    (batch : namesGetRandomBatch env image.names count respCapacity = .ok names) : Fits seq names := by
  unfold namesGetRandomBatch at batch
  split_ifs at batch
  · obtain rfl := Except.ok.inj batch
    exact fits_of_brief (Nat.zero_le _)
  · rcases drawn : env.trng (min count namesBatchMax * 2) with error | random
    · rw [drawn] at batch
      cases batch
    · rw [drawn] at batch
      obtain rfl := Except.ok.inj batch
      have sized := appendNames_length image.names respCapacity random.1 []
      rw [random.2] at sized
      apply fits_of_brief
      simp only [List.length_nil, namesBatchMax, briefMax] at *
      omega

theorem getRandomNames_answers : Answers config crypto image env seen seq data board .getRandomNames := by
  refine ⟨handleGetRandomNames env image.names data, rfl, ?_⟩
  unfold handleGetRandomNames Answerable
  split_ifs with short
  · exact iff_of_false not_cleanly_untouched fun needs => by omega
  · have enough : 2 ≤ data.length := by omega
    rw [cleanly_readReply]
    have served : (∃ names, namesGetRandomBatch env image.names (bigEndianValue (data.take 2)) respCapacity =
        .ok names ∧ Fits seq names) ↔
        ∃ names, namesGetRandomBatch env image.names (bigEndianValue (data.take 2)) respCapacity = .ok names :=
      exists_congr fun names => and_iff_left_of_imp namesGetRandomBatch_fits
    rw [served, namesGetRandomBatch]
    by_cases zero : bigEndianValue (data.take 2) = 0
    · simp [zero, enough]
    · have some : ¬ (bigEndianValue (data.take 2) = 0 ∨ respCapacity = 0) := by simp [zero, respCapacity, msgBufSize]
      rw [if_neg some]
      rcases env.trng (min (bigEndianValue (data.take 2)) namesBatchMax * 2) with error | random
      · simp [zero]
      · simp [enough]

theorem signCsr_answers : Answers config crypto image env seen seq data board .signCsr := by
  unfold Answers Answerable
  apply onStore_answers
  rcases signed : signs config crypto seen.toEnv data board.device .signCsr with _ | issue
  · exact ⟨_, congrArg Prod.fst (handleSignCsr_unsigned signed), iff_of_false not_cleanly_untouched (by simp)⟩
  · refine ⟨_, congrArg Prod.fst (handleSignCsr_signed signed), ?_⟩
    have persisted : (persistIssue seen.toEnv issue board.device).1 = .ok () ↔ Stores seen.toEnv issue :=
      persistIssue_ok_iff (signs_short signed)
    simp only [Option.some.injEq, exists_eq_left']
    by_cases stored : (persistIssue seen.toEnv issue board.device).1 = .ok ()
    · rw [if_pos stored, cleanly_ok]
      exact (and_iff_left (.inl (persisted.mp stored))).symm
    · rw [if_neg stored]
      have lost := fun kept => stored (persisted.mpr kept)
      by_cases empty : issue.der = []
      · rw [empty]
        exact iff_of_true (cleanly_refusal _) ⟨fits_of_brief (Nat.zero_le _), .inr rfl⟩
      · exact iff_of_false (not_cleanly_failed (by decide) empty) fun needs => needs.2.elim lost empty

theorem signCsrSlot_answers : Answers config crypto image env seen seq data board .signCsrSlot := by
  unfold Answers Answerable
  apply onStore_answers
  rcases signed : signs config crypto seen.toEnv data board.device .signCsrSlot with _ | issue
  · obtain ⟨err, _, ran⟩ := handleSignCsrSlot_unsigned signed
    exact ⟨_, congrArg Prod.fst ran, iff_of_true (cleanly_refusal err) (by simp)⟩
  · refine ⟨_, congrArg Prod.fst (handleSignCsrSlot_signed signed), ?_⟩
    have persisted : (persistIssue seen.toEnv issue board.device).1 = .ok () ↔ Stores seen.toEnv issue :=
      persistIssue_ok_iff (signs_short signed)
    simp only [Option.some.injEq, forall_eq', ← persisted]
    by_cases stored : (persistIssue seen.toEnv issue board.device).1 = .ok ()
    · rw [if_pos stored, cleanly_ok]
      exact ⟨fun fits _ => fits, fun fits => fits stored⟩
    · rw [if_neg stored]
      exact iff_of_true (cleanly_refusal _) fun kept => absurd kept stored

theorem getCertCount_answers : Answers config crypto image env seen seq data board .getCertCount := by
  apply onStore_answers
  unfold Answerable
  rcases env.certsDir with _ | error
  · exact ⟨_, rfl, cleanly_slotData.trans (iff_of_true rfl rfl)⟩
  · exact ⟨_, rfl, cleanly_slotData.trans (by simp)⟩

theorem autoExpire_answers : Answers config crypto image env seen seq data board .autoExpire := by
  apply onStore_answers
  rw [handle, handleAutoExpire, Answerable]
  by_cases short : data.length < 8
  · rw [if_pos short]
    exact ⟨_, rfl, iff_of_true (cleanly_refusal _) (.inl short)⟩
  · rw [if_neg short, ← caAutoExpire_iff, AnswersIff, Op.bind_apply, Op.attempt_apply]
    rcases (caAutoExpire seen.toEnv (u64Arg 0 data) board.device).1 with error | count
    · exact ⟨_, rfl, cleanly_slotData.trans (by simp [short])⟩
    · exact ⟨_, rfl, cleanly_slotData.trans (by simp)⟩

theorem genKey_answers : Answers config crypto image env seen seq data board .genKey := by
  apply onStore_answers
  rw [Answerable, ← caGenKey_iff, AnswersIff, handle, handleGenKey, Op.bind_apply, Op.attempt_apply]
  rcases (caGenKey config seen.toEnv (data.headD 0) board.device).1 with error | slot
  · cases error <;> exact ⟨_, rfl, cleanly_slotData.trans (by simp)⟩
  · exact ⟨_, rfl, cleanly_slotData.trans (by simp)⟩

theorem getCaChain_answers : Answers config crypto image env seen seq data board .getCaChain := by
  apply onStore_answers
  unfold handleGetCaChain Answerable
  by_cases odd : data.length ≠ 4 ∧ data.length ≠ 0
  · rw [if_pos odd]
    exact ⟨_, rfl, iff_of_true (cleanly_refusal _) fun chain even => by omega⟩
  · have even : data.length = 4 ∨ data.length = 0 := by omega
    obtain ⟨⟨result, chain⟩, ran⟩ := caGetChainSlot_answers config crypto (chainArg data) respCapacity board.device
    rw [if_neg odd, AnswersIff, Op.bind_apply, ran]
    rcases result with error | ⟨⟩
    · cases error <;> exact ⟨_, rfl, iff_of_true (cleanly_refusal _) (by simp)⟩
    · refine ⟨_, rfl, cleanly_ok.trans ⟨fun fits other _ same => ?_, fun needs => needs chain even rfl⟩⟩
      obtain rfl : chain = other := (Prod.mk.inj (Except.ok.inj same)).2
      exact fits

theorem getSessionCert_answers : Answers config crypto image env seen seq data board .getSessionCert := by
  apply onStore_answers
  unfold handleGetSessionCert Answerable
  rcases sessionSlotGetCert board.slot.sessionCert respCapacity with error | cert
  · cases error <;> exact ⟨_, rfl, iff_of_true (cleanly_refusal _) (by simp)⟩
  · exact ⟨_, rfl, cleanly_ok.trans (by simp)⟩

theorem getSessionCsr_answers : Answers config crypto image env seen seq data board .getSessionCsr := by
  have answers : AnswersIff seq (SessionSlot.handleGetSessionCsr crypto seen image.toBuild)
      ⟨board.device, board.slot⟩ (Answerable config crypto image env seen seq data board .getSessionCsr) := by
    rw [AnswersIff, SessionSlot.handleGetSessionCsr, Op.bind_apply, Op.attempt_apply, Answerable]
    rcases (SessionSlot.sessionSlotGetCsr crypto seen image.toBuild ⟨board.device, board.slot⟩).1 with error | csr
    · cases error <;> exact ⟨_, rfl, iff_of_true (cleanly_refusal _) (by simp)⟩
    · exact ⟨_, rfl, cleanly_ok.trans (by simp)⟩
  exact plainly_answers answers

theorem getCrl_answers : Answers config crypto image env seen seq data board .getCrl := by
  apply onStore_answers
  rw [handle, handleGetCrl, Answerable]
  by_cases sized : data.length = 12
  · by_cases inside : slotArg data < config.maxKeySlots
    · have within : ¬ slotArg data ≥ config.maxKeySlots := UInt32.not_le.mpr inside
      simp only [sized, within, inside, ne_eq, not_true_eq_false, if_false, AnswersIff, Op.bind_apply, Op.attempt_apply,
        forall_const]
      rcases (caGetCrl config crypto seen.toEnv (slotArg data) (u64Arg 4 data) respCapacity board.device).1 with
        error | crl
      · cases error <;> exact ⟨_, rfl, iff_of_true (cleanly_refusal _) (by simp)⟩
      · exact ⟨_, rfl, cleanly_ok.trans (by simp)⟩
    · have outside : slotArg data ≥ config.maxKeySlots := UInt32.not_lt.mp inside
      simp only [sized, outside, ne_eq, not_true_eq_false, if_false, if_true]
      exact ⟨_, rfl, iff_of_true (cleanly_refusal _) fun _ _ within => absurd within inside⟩
  · rw [if_pos sized]
    exact ⟨_, rfl, iff_of_true (cleanly_refusal _) fun _ same => absurd same sized⟩

theorem getKeyCsr_answers : Answers config crypto image env seen seq data board .getKeyCsr := by
  apply onStore_answers
  unfold handleGetKeyCsr Answerable
  by_cases short : data.length < 4
  · rw [if_pos short]
    exact ⟨_, rfl, iff_of_true (cleanly_refusal _) fun der long => by omega⟩
  · have long : 4 ≤ data.length := by omega
    rw [if_neg short]
    refine ⟨_, rfl, cleanly_dataReply.trans ?_⟩
    simp only [caGetKeyCsr, storageSlotCsrRead, readFile, Op.reads_apply, long, forall_const]
    cases board.device.fs.files (.slot (slotArg data) .csr) with
    | none => simp
    | some der => simp [fits_take]

end Handlers

section Commands

variable {config : Config} {crypto : Crypto} {image : Image} {env : CommandEnv} {seen : SessionEnv} {seq : UInt32}
  {data : Bytes} {board : Board} {answer : Answer}

/-- The commands whose answer may be long, or an error with data. -/
theorem handleCommand_answers {command : Command} (long : terse command = false) :
    Answers config crypto image env seen seq data board command := by
  cases command
  case signCsr => exact signCsr_answers
  case getCaCert => exact onStore_answers ⟨_, rfl, cleanly_readReply.trans readFile_readable⟩
  case getCaChain => exact getCaChain_answers
  case getCaCsr => exact onStore_answers ⟨_, rfl, cleanly_readReply.trans readFile_readable⟩
  case listCerts => exact onStore_answers ⟨_, rfl, cleanly_dataReply⟩
  case getCert => exact getCert_answers
  case getCertCount => exact getCertCount_answers
  case autoExpire => exact autoExpire_answers
  case getCrl => exact getCrl_answers
  case genKey => exact genKey_answers
  case getKeyCsr => exact getKeyCsr_answers
  case signCsrSlot => exact signCsrSlot_answers
  case getRandom => exact getRandom_answers
  case getRandomNames => exact getRandomNames_answers
  case getSessionCert => exact getSessionCert_answers
  case getSessionCsr => exact getSessionCsr_answers
  case listClients =>
    have answers : AnswersIff seq (handleListClients env) ⟨board.device, board.bonds⟩ _ := ⟨_, rfl, cleanly_dataReply⟩
    exact plainly_answers answers
  all_goals cases long

/-- A plain answer is one response exactly when it is clean. -/
theorem oneResponse_iff_cleanly (whole : Satisfies Whole answer) (stale : Stack)
    (stays : (send seq stale.1 (plainly answer)).rebooted = false) :
    OneResponse seq (send seq stale.1 (plainly answer)) ↔ Cleanly seq answer := by
  cases answer with
  | reply reply => exact oneResponse_iff_clean whole stale
  | rebooted => cases stays

theorem oneResponse_of_brief (brief : Satisfies Brief answer) (stale : Stack)
    (stays : (send seq stale.1 (plainly answer)).rebooted = false) :
    OneResponse seq (send seq stale.1 (plainly answer)) := by
  cases answer with
  | reply reply => exact (oneResponse_iff_clean (Brief.whole brief) stale).mpr (Brief.clean brief)
  | rebooted => cases stays

theorem ack_length (seq : UInt32) : (ack seq).length = 1 := by
  have small : (responseBytes seq Err.ok.code []).length ≤ 32 := by
    have number := headBytes_length_le mtUint seq.toNat
    have keys : keyErr.length = 3 ∧ keySeq.length = 3 := ⟨rfl, rfl⟩
    have code : (headBytes mtUint Err.ok.code.toNat).length = 1 := rfl
    simp only [responseBytes, mapBytes, dataItem, List.length_append, List.length_nil, code, keys.1,
      keys.2, headBytes_small (show 3 < 24 by decide), Nat.lt_irrefl, if_false, gt_iff_lt,
      headBytes_small (show 2 < 24 by decide)]
    omega
  rw [ack, encodeResponse_eq, if_pos small]
  rfl

/-- What is announced and then answered is not one response. -/
theorem not_oneResponse_announced {stale : Bytes} (stays : (send seq stale ⟨ack seq, answer⟩).rebooted = false) :
    ¬ OneResponse seq (send seq stale ⟨ack seq, answer⟩) := by
  rintro ⟨returns, _, _, response, sent, _⟩
  cases answer with
  | rebooted => cases stays
  | reply reply =>
    simp only [send] at returns sent
    rcases encoded : respond seq stale reply with error | text
    · rw [encoded] at returns
      cases returns
    · rw [encoded] at sent
      have two := congrArg List.length sent
      simp [ack_length] at two

theorem reset_answers (stale : Stack) {reaction : Reaction}
    (ran : (onStore (handleReset config crypto env seen seq) board).1 = .ok reaction)
    (stays : (send seq stale.1 reaction).rebooted = false) :
    OneResponse seq (send seq stale.1 reaction) ↔
      (Gesture.gestureRequestReset config (.request 0) (env.machine config)).1 ≠ .ok () := by
  rcases requested : (Gesture.gestureRequestReset config (.request 0) (env.machine config)).1 with error | ⟨⟩
  · obtain ⟨err, refused⟩ := handleReset_refused requested board.device
    obtain rfl := Except.ok.inj (ran.symm.trans (congrArg Prod.fst refused))
    exact iff_of_true (oneResponse_of_brief (refusal_brief err) stale stays) nofun
  · obtain ⟨answer, announced, _⟩ := handleReset_announced requested board.device
    obtain rfl := Except.ok.inj (ran.symm.trans announced)
    exact iff_of_false (not_oneResponse_announced stays) fun other => other rfl

/-- Every command that does not reboot the device. -/
theorem command_answers {command : Command} (stale : Stack) {reaction : Reaction}
    (ran : (handleCommand config crypto image env seen seq data command board).1 = .ok reaction)
    (stays : (send seq stale.1 reaction).rebooted = false) :
    OneResponse seq (send seq stale.1 reaction) ↔
      Answerable config crypto image env seen seq data board command := by
  obtain ⟨same, found, shape, alone⟩ := handleCommand_reacts config crypto image env seen seq data command board
  obtain rfl := Except.ok.inj (ran.symm.trans found)
  by_cases short : terse command = true
  · by_cases reset : command = .resetDevice
    · subst reset
      exact reset_answers stale ran stays
    by_cases update : command = .updateFirmware
    · subst update
      obtain rfl := Except.ok.inj ran
      cases stays
    obtain ⟨acks, answer⟩ := reaction
    obtain rfl : acks = [] := alone reset update
    rw [Shape, if_pos short] at shape
    refine iff_of_true (oneResponse_of_brief shape stale stays) ?_
    cases command
    all_goals first | exact trivial | exact absurd rfl reset | cases short
  · obtain ⟨answer, answered, clean⟩ := handleCommand_answers (Bool.eq_false_iff.mpr short)
    obtain rfl := Except.ok.inj (ran.symm.trans answered)
    rw [← clean]
    exact oneResponse_iff_cleanly (shape.mono fun _ => Shape.whole) stale stays

end Commands

/-- One response if a gate refuses or the command can answer. -/
theorem answered_once_iff (config : Config) (crypto : Crypto) (image : Image) (depth : Nat) (env : CommandEnv)
    (stale : Stack) (message : Bytes) (board : Board) {cmd seq : UInt32} {data : Bytes}
    (decoded : (decodeRequest 32 depth message 0).1 = .ok (cmd, seq, data))
    (stays : (protocolHandleOne config crypto image depth env stale.1 message board).1.rebooted = false) :
    OneResponse seq (protocolHandleOne config crypto image depth env stale.1 message board).1 ↔
      ∀ command, Protocol.dispatch config (env.seen config board.slot).gestureState
          (conditions (env.seen config board.slot).toEnv board.device) cmd = .executed command →
        Answerable config crypto image env (env.seen config board.slot) seq data board command := by
  have handled : protocolHandleOne config crypto image depth env stale.1 message board =
      handleRequest config crypto image env stale.1 cmd seq data board := by
    rw [protocolHandleOne, decoded]
  rw [handled] at stays ⊢
  rcases gated : Protocol.dispatch config (env.seen config board.slot).gestureState
    (conditions (env.seen config board.slot).toEnv board.device) cmd with err | _ | command
  · rw [handleRequest_refused gated] at stays ⊢
    exact iff_of_true (oneResponse_of_brief (refusal_brief err) stale stays) nofun
  · rw [handleRequest_unknown gated] at stays ⊢
    exact iff_of_true (oneResponse_of_brief (refusal_brief .invalidCmd) stale stays) nofun
  · obtain ⟨reaction, ran, _⟩ :=
      handleCommand_reacts config crypto image env (env.seen config board.slot) seq data command board
    rw [handleRequest_executed gated ran] at stays ⊢
    simp only [Protocol.Dispatch.executed.injEq, forall_eq']
    exact command_answers stale ran stays

/-- Nothing fails, nobody waits for a tap, and the user denies. -/
def plainCommandEnv : CommandEnv :=
  { plainEnv 5 with
    sessionWrite := fun _ => .done
    chainUnlink := none
    dhKeygen := .error .eio
    buildSessionCert := fun _ => .error .eio
    buildSessionCsr := fun _ _ _ _ => .error .eio
    deviceId := none
    clientsDir := none
    metadataWrite := .done
    pubkeyUnlink := none
    metadataUnlink := none
    pskUnlink := none
    bondRmdir := none
    stack := fun _ => ⟨List.replicate 32 0, List.length_replicate⟩
    uptime := 0
    gesture := { Gesture.gestureInit .default 0 none none with state := .unlocked }
    tapped := .denied
    seqPersisted := true
    certsDir := none
    freeKb := .ok 0 }

def plainImage : Image :=
  ⟨⟨[], false⟩, false, List.replicate namesCount [], List.length_replicate, fun name listed => by
    rw [List.eq_of_mem_replicate listed]
    exact Nat.zero_le 11⟩

def plainStack : Stack := zeroStack

variable (device : Device) (command : Command) (data : Bytes)

def boardOf : Board := ⟨device, .blank, ⟨[], fun _ => none, fun _ => none⟩⟩

/-- A CA that has its key and no certificate yet. -/
def keyedDevice : Device := Trace.run (step .default plainCrypto) blankDevice [request 1 .provisionCa []]

/-- The request with number seven. -/
def plainRequest : Bytes := requestBytes command.code 7 data

def plainOutcome : Outcome :=
  (protocolHandleOne .default plainCrypto plainImage 1 plainCommandEnv plainStack.1 (plainRequest command data)
    (boardOf device)).1

/-- Decoded, without reboot, and not answered once. -/
def Unanswered : Prop :=
  (decodeRequest 32 1 (plainRequest command data) 0).1 = .ok (command.code, 7, data) ∧
    (plainOutcome device command data).rebooted = false ∧ ¬ OneResponse 7 (plainOutcome device command data)

/-- No answer, an error with data, and two answers. -/
theorem keyedDevice_unanswered :
    Unanswered keyedDevice .getCaCert [] ∧ Unanswered keyedDevice .genKey [9] ∧
      Unanswered keyedDevice .resetDevice [] := by
  have silent : plainOutcome keyedDevice .getCaCert [] = ⟨[], .error .enomem, false⟩ := by decide +kernel
  have loaded : plainOutcome keyedDevice .genKey [9] =
      ⟨[responseBytes 7 Err.invalidArgs.code [0, 0, 0, 0]], .ok (), false⟩ := by decide +kernel
  have twice : plainOutcome keyedDevice .resetDevice [] =
      ⟨[responseBytes 7 Err.ok.code [], responseBytes 7 Err.busy.code []], .ok (), false⟩ := by
    decide +kernel
  refine ⟨⟨by decide +kernel, ?_, ?_⟩, ⟨by decide +kernel, ?_, ?_⟩, ⟨by decide +kernel, ?_, ?_⟩⟩
  · rw [silent]
  · rw [silent]
    exact fun one => nomatch one.returns
  · rw [loaded]
  · rintro ⟨_, err, data, response, sent, encoded, bare⟩
    obtain rfl := List.singleton_injective sent
    have mine : encodeResponse msgBufSize 7 Err.invalidArgs.code [0, 0, 0, 0] =
      .ok (responseBytes 7 Err.invalidArgs.code [0, 0, 0, 0]) := by decide +kernel
    obtain ⟨rfl, rfl⟩ := encodeResponse_inj mine encoded
    exact absurd (bare (by decide)) (by decide)
  · rw [twice]
  · rintro ⟨_, _, _, _, sent, _⟩
    cases (List.cons.inj sent).2

/-- With its certificate it does. -/
theorem provisionedDevice_answers : OneResponse 7 (plainOutcome provisionedDevice .getCaCert []) := by
  have held : provisionedDevice.fs.files (.slot caSlot .cert) =
      some (plainCert (plainPoint (List.replicate 32 1))) := by
    decide +kernel
  have fits : Fits 7 (plainCert (plainPoint (List.replicate 32 1))) := by decide +kernel
  have decoded : (decodeRequest 32 1 (plainRequest .getCaCert []) 0).1 = .ok (Command.getCaCert.code, 7, []) := by
    decide +kernel
  refine (answered_once_iff .default plainCrypto plainImage 1 plainCommandEnv plainStack _ (boardOf provisionedDevice)
    decoded (by decide +kernel)).mpr fun command admitted => ?_
  obtain rfl : Command.getCaCert = command :=
    Protocol.Dispatch.executed.inj (Eq.trans (by decide +kernel) admitted)
  exact ⟨_, held, fits⟩

end Cantil.HandleOne
