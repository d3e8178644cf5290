import Cantil.Proof.Issuance

namespace Cantil.Dispatcher
open Library Ca
open Protocol (Command)

/-- The issuing slot and the request of a signing command. -/
def csrRequest (config : Config) (data : Bytes) : Command → Option (Slot × Bytes)
  | .signCsr => some (caSlot, data)
  | .signCsrSlot => if data.length < 5 ∨ slotArg data ≥ config.maxKeySlots then none
    else some (slotArg data, data.drop 4)
  | _ => none

/-- Read and fitting. Its signature is not looked at. -/
def CsrAccepted (crypto : Crypto) (env : Env) (params : X509Params) (privkey serial csr : Bytes) : Prop :=
  ∃ subject der, certparseCsr crypto.toWolfReader csr = .ok subject ∧
    env.buildCert (csrSpec subject params privkey serial) = .ok der ∧ der.length ≤ respCapacity

variable {config : Config} {crypto : Crypto} {env : Env} {data csr : Bytes} {device : Device} {command : Command}
  {slot : Slot}

theorem signs_csrRequest (requested : csrRequest config data command = some (slot, csr)) :
    signs config crypto env data device command =
      (prepareCsrIssue config crypto env slot csr respCapacity device).1.toOption := by
  cases command
  case signCsr =>
    obtain ⟨rfl, rfl⟩ := Prod.mk.inj (Option.some.inj requested)
    rfl
  case signCsrSlot =>
    simp only [csrRequest] at requested
    split_ifs at requested with bad
    obtain ⟨rfl, rfl⟩ := Prod.mk.inj (Option.some.inj requested)
    rw [signs, if_neg bad]
  all_goals cases requested

/-- Signed when the issuer is ready and it is accepted. -/
theorem signs_csr_iff (requested : csrRequest config data command = some (slot, csr)) :
    (∃ issue, signs config crypto env data device command = some issue) ↔
      CaReady device slot ∧ ∃ params privkey serial, IssuerReady config crypto env device slot params privkey serial ∧
        CsrAccepted crypto env params privkey serial csr := by
  simp only [signs_csrRequest requested, toOption_eq_some, prepareCsrIssue_iff]
  constructor
  · rintro ⟨issue, _, ready, params, privkey, subject, issuer, read, built, fits, _⟩
    exact ⟨ready, params, privkey, issue.serial, issuer, subject, issue.der, read, built, fits⟩
  · rintro ⟨ready, params, privkey, serial, issuer, subject, der, read, built, fits⟩
    exact ⟨⟨serial, der, slot, subject.1.cn⟩, by decide, ready, params, privkey, subject, issuer, read, built, fits,
      rfl, rfl⟩

/-- The request's signature verifies under its own key. -/
def Possessed (crypto : Crypto) (verifies : (csr pubkey : Bytes) → Bool) (csr : Bytes) : Prop :=
  ∃ subject, certparseCsr crypto.toWolfReader csr = .ok subject ∧ verifies csr subject.2 = true

/-- The decoder reads a badly signed request alike. -/
def DecodesOnly (wolf : WolfReader) (verifies : (csr pubkey : Bytes) → Bool) : Prop :=
  ∀ csr request, wolf.parseCertReq csr = some request → ∃ forged, forged.length = csr.length ∧
    wolf.parseCertReq forged = some request ∧ ∀ pubkey, verifies forged pubkey = false

/-- A request of the same length reaches the same issuer. -/
theorem csrRequest_replace {forged : Bytes} (requested : csrRequest config data command = some (slot, csr))
    (sized : forged.length = csr.length) : ∃ other, csrRequest config other command = some (slot, forged) := by
  cases command
  case signCsr =>
    obtain ⟨rfl, rfl⟩ := Prod.mk.inj (Option.some.inj requested)
    exact ⟨forged, rfl⟩
  case signCsrSlot =>
    simp only [csrRequest] at requested
    split_ifs at requested with bad
    obtain ⟨rfl, rfl⟩ := Prod.mk.inj (Option.some.inj requested)
    rw [not_or, Nat.not_lt] at bad
    have four : (data.take 4).length = 4 := List.length_take_of_le (Nat.le_of_succ_le bad.1)
    have same : slotArg (data.take 4 ++ forged) = slotArg data := by
      rw [slotArg, List.take_left' four, slotArg]
    have whole : (data.take 4 ++ forged).length = data.length := by
      rw [List.length_append, four, sized, List.length_drop]
      omega
    refine ⟨data.take 4 ++ forged, ?_⟩
    rw [csrRequest, same, whole, List.drop_left' four, if_neg (by rwa [not_or, Nat.not_lt])]
  all_goals cases requested

/-- An accepted request has an accepted twin that nobody signed. -/
theorem CsrAccepted.forged {verifies : (csr pubkey : Bytes) → Bool} (decodes : DecodesOnly crypto.toWolfReader verifies)
    {params : X509Params} {privkey serial : Bytes} (accepted : CsrAccepted crypto env params privkey serial csr) :
    ∃ forged, forged.length = csr.length ∧ CsrAccepted crypto env params privkey serial forged ∧
      ¬ Possessed crypto verifies forged := by
  obtain ⟨subject, der, read, built, fits⟩ := accepted
  rcases parsed : crypto.parseCertReq csr with _ | request
  · simp [certparseCsr, parsed] at read
  · obtain ⟨forged, sized, again, fails⟩ := decodes csr request parsed
    have same : certparseCsr crypto.toWolfReader forged = .ok subject := by
      rw [← read, certparseCsr, certparseCsr, sized, again, parsed]
    refine ⟨forged, sized, ⟨subject, der, same, built, fits⟩, ?_⟩
    rintro ⟨_, _, verified⟩
    rw [fails] at verified
    cases verified

/-- Served requests are signed exactly when none is served. -/
theorem issued_possessed_iff (config : Config) (crypto : Crypto) (env : Env) (device : Device) (command : Command)
    (verifies : (csr pubkey : Bytes) → Bool) (decodes : DecodesOnly crypto.toWolfReader verifies) :
    (∀ data slot csr, csrRequest config data command = some (slot, csr) →
      ∀ issue, signs config crypto env data device command = some issue → Possessed crypto verifies csr) ↔
    ∀ data slot csr, csrRequest config data command = some (slot, csr) → CaReady device slot →
      ∀ params privkey serial, IssuerReady config crypto env device slot params privkey serial →
        ¬ CsrAccepted crypto env params privkey serial csr := by
  constructor
  · intro held data slot csr requested ready params privkey serial issuer accepted
    obtain ⟨forged, sized, taken, unsigned⟩ := accepted.forged decodes
    obtain ⟨other, asked⟩ := csrRequest_replace requested sized
    obtain ⟨issue, signed⟩ := (signs_csr_iff asked).mpr ⟨ready, params, privkey, serial, issuer, taken⟩
    exact unsigned (held other slot forged asked issue signed)
  · intro none data slot csr requested issue signed
    obtain ⟨ready, params, privkey, serial, issuer, accepted⟩ := (signs_csr_iff requested).mp ⟨issue, signed⟩
    exact absurd accepted (none data slot csr requested ready params privkey serial issuer)

/-- A point with a tag behind it, 1 if the holder signed. -/
def taggedCrypto : Crypto :=
  { plainCrypto with
    parseCertReq := fun der => if der.length = 66 then some (plainDecoded (der.take 65)) else none }

def tagVerifies (csr _pubkey : Bytes) : Bool := csr.getLast? = some 1

/-- An unsigned request for somebody else's point. -/
def borrowedRequest : Bytes := plainPoint (List.replicate 32 9) ++ [0]

theorem taggedCrypto_decodesOnly : DecodesOnly taggedCrypto.toWolfReader tagVerifies := by
  intro csr request parsed
  have sized : csr.length = 66 := by
    by_contra other
    simp [taggedCrypto, other] at parsed
  have front : (csr.take 65).length = 65 := List.length_take_of_le (by omega)
  refine ⟨csr.take 65 ++ [0], by rw [List.length_append, front, sized]; rfl, ?_, fun _ => ?_⟩
  · rw [← parsed]
    simp [taggedCrypto, sized]
  · simp [tagVerifies]

/-- A certificate for a key that nobody proved to possess. -/
theorem borrowedRequest_signed :
    certparseCsr taggedCrypto.toWolfReader borrowedRequest =
        .ok ((fillDn (plainDecoded [])).1, plainPoint (List.replicate 32 9)) ∧
      tagVerifies borrowedRequest (plainPoint (List.replicate 32 9)) = false ∧
      (serve .default taggedCrypto (plainEnv 3) Command.signCsr.code borrowedRequest provisionedDevice).1 =
        .ok (.reply ⟨.ok, RespData.of (plainCert (plainPoint (List.replicate 32 9)))⟩) :=
  ⟨by decide +kernel, by decide +kernel, by decide +kernel⟩

/-- A provisioned CA serves requests that nobody signed. -/
theorem provisionedDevice_unpossessed :
    ¬ ∀ data slot csr, csrRequest .default data .signCsr = some (slot, csr) → ∀ issue,
      signs .default taggedCrypto (plainEnv 3) data provisionedDevice .signCsr = some issue →
        Possessed taggedCrypto tagVerifies csr := by
  intro held
  have issued : (signs .default taggedCrypto (plainEnv 3) borrowedRequest provisionedDevice .signCsr).isSome := by
    decide +kernel
  obtain ⟨ready, params, privkey, serial, issuer, accepted⟩ :=
    (signs_csr_iff rfl).mp (Option.isSome_iff_exists.mp issued)
  exact (issued_possessed_iff _ _ _ _ _ _ taggedCrypto_decodesOnly).mp held borrowedRequest _ _ rfl ready params
    privkey serial issuer accepted

end Cantil.Dispatcher
