import Cantil.Firmware.Pairing

namespace Cantil
open Library

variable (wolf : WolfReader) (config : Config) (stack : Bytes) (device : Device) (certs : List Bytes)

/-- The leaf carries the key in its extension. -/
def ChainBinds (pub : Bytes) : Prop :=
  ∃ leaf rest parsed, certs = leaf :: rest ∧ certparseCert wolf leaf = .ok parsed ∧
    parsed.x25519 = some pub

/-- Unbonded keys that pass are bound by their leaf. -/
def ClientsBound (method : AnchoredMethod) (payload : Bytes) : Prop :=
  ∀ pub, pub.length = 32 → (clientBondExists stack pub device).1 ≠ .ok true →
    PassesByChain wolf config stack device pub (parseClientChain payload) method →
    ChainBinds wolf (parseClientChain payload) pub

/-- No chain, or the anchor does not reach its leaf. -/
def ChainRefused (payload : Bytes) : Prop :=
  parseClientChain payload = [] ∨
    (caValidateClientCertChain wolf config.caAnchorSlot (parseClientChain payload) device).1 ≠ .ok ()

/-- A parsed chain passes exactly when it is not refused. -/
theorem certificateStep_ok_iff (payload : Bytes) :
    (certificateStep wolf config (parseClientChain payload) device).1 = .ok () ↔
      ¬ ChainRefused wolf config device payload := by
  have room := parseClientChain_length_le payload
  unfold certificateStep ChainRefused
  by_cases empty : parseClientChain payload = []
  · simp [empty, Op.bind_apply, Op.ensure]
  · rcases outcome : caValidateClientCertChain wolf config.caAnchorSlot (parseClientChain payload)
      device with ⟨_ | _, after⟩ <;>
    simp [empty, room, outcome, Op.bind_apply, Op.ensure]

theorem clientBondExists_readOnly (pub : Bytes) : Op.Respects Eq (clientBondExists stack pub) := by
  refine .read fun present => ?_
  split
  · exact .read fun _ => .pure _
  · exact .pure _

/-- An unbonded client passes once the certificate step lets it. -/
theorem passesByChain_of_certificateStep (method : AnchoredMethod) (pub : Bytes) (certs : List Bytes)
    (stranger : (clientBondExists stack pub device).1 = .ok false)
    (step : (certificateStep wolf config certs device).1 = .ok ()) :
    PassesByChain wolf config stack device pub certs method := by
  cases method with
  | caAnchor => exact step
  | caAnchorPlusPasskey =>
    have lookup : clientBondExists stack pub device = (.ok false, device) :=
      Prod.ext stranger (clientBondExists_readOnly stack pub device).symm
    have passed : certificateStep wolf config certs device = (.ok (), _) := Prod.ext step rfl
    simp only [PassesByChain, pairingCheckCaAnchorPlusPasskey]
    rw [Op.bind_of_ok lookup]
    exact congrArg Prod.fst (Op.bind_of_ok passed)

/-- Passing by the chain goes through the certificate step. -/
theorem PassesByChain.certificateStep {wolf : WolfReader} {config : Config} {stack pub : Bytes}
    {device : Device} {method : AnchoredMethod} {certs : List Bytes}
    (passes : PassesByChain wolf config stack device pub certs method) :
    (certificateStep wolf config certs device).1 = .ok () := by
  cases method with
  | caAnchor => exact passes
  | caAnchorPlusPasskey =>
    have ended : pairingCheckCaAnchorPlusPasskey wolf config stack pub certs device =
        (.ok .certified, _) := Prod.ext passes rfl
    obtain ⟨known, between, lookup, rest⟩ := Op.bind_eq_ok.mp ended
    have same : device = between := by
      have kept := clientBondExists_readOnly stack pub device
      rwa [lookup] at kept
    subst same
    cases known with
    | true => cases congrArg Prod.fst rest
    | false =>
      obtain ⟨_, _, step, _⟩ := Op.bind_eq_ok.mp rest
      exact congrArg Prod.fst step

/-- The key with this last byte, and its identifier. -/
def probeKey (last : UInt8) : Bytes := List.replicate 31 0 ++ [last]

theorem probeKey_injective {first second : UInt8} (same : probeKey first = probeKey second) :
    first = second := by
  have tails := List.append_cancel_left same
  exact List.head_eq_of_cons_eq tails

/-- What a lookup compares under the identifier of zeros. -/
def heldKey : Option Bytes :=
  (device.fs.files (.client [0, 0, 0, 0] .pubkey)).map fun data =>
    (data.take 32 ++ stack.drop (data.take 32).length).take 32

theorem clientBondExists_probeKey (last : UInt8) :
    clientBondExists stack (probeKey last) device =
      (.ok (decide (heldKey stack device = some (probeKey last))), device) := by
  have id : clientBondId (probeKey last) = [0, 0, 0, 0] := rfl
  unfold clientBondExists heldKey
  rw [id]
  cases held : device.fs.files (.client [0, 0, 0, 0] .pubkey) <;>
    simp [Op.bind_apply, fileExists, idMatchesPub, readFile, held]

/-- Some key is neither bonded nor bound by the leaf. -/
theorem exists_stranger :
    ∃ last, (clientBondExists stack (probeKey last) device).1 = .ok false ∧
      ¬ ChainBinds wolf certs (probeKey last) := by
  by_contra none
  push Not at none
  have taken (last : UInt8) : heldKey stack device = some (probeKey last) ∨
      ChainBinds wolf certs (probeKey last) := by
    by_cases held : heldKey stack device = some (probeKey last)
    · exact .inl held
    · exact .inr (none last (by simp [clientBondExists_probeKey, held]))
  have heldOnce (first second : UInt8) (one : heldKey stack device = some (probeKey first))
      (two : heldKey stack device = some (probeKey second)) : first = second :=
    probeKey_injective (Option.some.inj (one.symm.trans two))
  have boundOnce (first second : UInt8) (one : ChainBinds wolf certs (probeKey first))
      (two : ChainBinds wolf certs (probeKey second)) : first = second := by
    obtain ⟨leaf, rest, parsed, rfl, read, bound⟩ := one
    obtain ⟨_, _, again, shape, readAgain, boundAgain⟩ := two
    obtain ⟨rfl, rfl⟩ := List.cons.inj shape
    obtain rfl := Except.ok.inj (read.symm.trans readAgain)
    exact probeKey_injective (Option.some.inj (bound.symm.trans boundAgain))
  -- Two of any three keys share the one bond or the one binding.
  rcases taken 0 with zero | zero <;> rcases taken 1 with one | one <;>
    rcases taken 2 with two | two
  · exact absurd (heldOnce 0 1 zero one) (by decide)
  · exact absurd (heldOnce 0 1 zero one) (by decide)
  · exact absurd (heldOnce 0 2 zero two) (by decide)
  · exact absurd (boundOnce 1 2 one two) (by decide)
  · exact absurd (heldOnce 1 2 one two) (by decide)
  · exact absurd (boundOnce 0 2 zero two) (by decide)
  · exact absurd (boundOnce 0 1 zero one) (by decide)
  · exact absurd (boundOnce 0 1 zero one) (by decide)

/-- A payload is bound exactly when the anchor refuses its chain. -/
theorem clientsBound_iff_chainRefused (wolf : WolfReader) (config : Config) (stack : Bytes)
    (device : Device) (method : AnchoredMethod) (payload : Bytes) :
    ClientsBound wolf config stack device method payload ↔
      ChainRefused wolf config device payload := by
  constructor
  · intro bound
    by_contra accepted
    obtain ⟨last, stranger, unbound⟩ :=
      exists_stranger wolf stack device (parseClientChain payload)
    apply unbound
    apply bound (probeKey last) (by simp [probeKey]) (by simp [stranger])
    exact passesByChain_of_certificateStep wolf config stack device method _ _ stranger
      ((certificateStep_ok_iff wolf config device payload).mpr accepted)
  · intro refused pub _ _ passes
    have accepted := (certificateStep_ok_iff wolf config device payload).mp passes.certificateStep
    exact absurd refused accepted

/-- A self-signed CA certificate without a binding extension. -/
def anchorCert : Bytes := [0x30, 0x01, 0x00]

/-- Knows one certificate and accepts its own signature. -/
def anchorReader : WolfReader where
  parseCert der :=
    if der = anchorCert then
      some ⟨[1], none, none, none, none, none, none, [7], 0, [7], true, true, none, [], [9], 0, []⟩
    else none
  parseCertReq _ := none
  checkCertSigPubKey cert publicKey _ := cert = anchorCert && publicKey = [9]

/-- The anchor slot holds the certificate and nobody is bonded. -/
def anchorDevice : Device := ⟨Fs.empty.put 0 (.slot 0 .cert) anchorCert, .valid, true⟩

/-- The payload carries the anchor's own certificate. -/
def anchorPayload : Bytes := [0xA1, 0x01, 0x81, 0x43] ++ anchorCert

/-- Replaying the anchor's certificate passes either method. -/
theorem anchorPayload_admits_stranger :
    (clientBondExists [] (probeKey 5) anchorDevice).1 = .ok false ∧
      PassesByChain anchorReader .default [] anchorDevice (probeKey 5)
        (parseClientChain anchorPayload) .caAnchor ∧
      PassesByChain anchorReader .default [] anchorDevice (probeKey 5)
        (parseClientChain anchorPayload) .caAnchorPlusPasskey ∧
      ¬ ChainBinds anchorReader (parseClientChain anchorPayload) (probeKey 5) := by
  refine ⟨by decide +kernel, ?_, ?_, ?_⟩
  · show (pairingCheckCaAnchor anchorReader .default _ _ anchorDevice).1 = .ok ()
    decide +kernel
  · show (pairingCheckCaAnchorPlusPasskey anchorReader .default [] _ _ anchorDevice).1 = .ok .certified
    decide +kernel
  · rintro ⟨leaf, rest, parsed, shape, read, bound⟩
    have certs : parseClientChain anchorPayload = [anchorCert] := by decide +kernel
    obtain ⟨rfl, _⟩ := List.cons.inj (certs.symm.trans shape)
    obtain rfl := Except.ok.inj read
    cases bound

end Cantil
