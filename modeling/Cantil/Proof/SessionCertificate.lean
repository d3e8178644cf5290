import Mathlib.Data.List.TakeDrop
import Mathlib.Data.List.TakeWhile
import Cantil.Firmware.Ca.SessionCert
import Cantil.Firmware.PlainBackend
import Cantil.Library.Frame
import Cantil.Proof.Dates
import Cantil.Proof.PathBuilding

namespace Cantil.Ca
open Library Library.Calendar

/-! A certificate of the device and the constant that it was made from. -/

/-- The encoder skips an empty attribute. -/
def shown (text : Bytes) : Option Bytes := if text = [] then none else some text

/-- The bits that an X.509 key usage has. -/
def RepresentableUsage (keyUsage : UInt16) : Prop := keyUsage &&& 0x7F00 = 0

/-- What is read. The date may come with its header. -/
structure WrittenAs (cert : WolfCert) (decoded : DecodedCert) : Prop where
  cn : decoded.subjectCn = shown cert.subject.cn
  o : decoded.subjectO = shown cert.subject.o
  ou : decoded.subjectOu = shown cert.subject.ou
  c : decoded.subjectC = shown cert.subject.c
  st : decoded.subjectSt = shown cert.subject.st
  l : decoded.subjectL = shown cert.subject.l
  keyUsage : RepresentableUsage cert.keyUsage → decoded.extKeyUsage.getD 0 = cert.keyUsage
  afterDate : decoded.afterDate = cert.afterDate ∨ decoded.afterDate = cert.afterDate.drop 2

/-- `wc_MakeCert`, `wc_SignCert` and the reader are inverse. -/
def ReadsBack (nameSize : Nat) (wolf : WolfReader) (env : SessionEnv) : Prop :=
  ∀ spec cert, env.buildSessionCert spec = .ok cert → cert.length ≠ 0 ∧
    ∃ decoded, wolf.parseCert cert = some decoded ∧ WrittenAs (certgenBuildCert nameSize spec.toCertSpec) decoded

/-- A date in digits. Short forms have the years 1950 to 2049. -/
def dateText (generalized : Bool) (text : Bytes) : Nat × Nat × Nat :=
  if generalized then (digits (text.take 4), digits (fieldAt 4 2 text), digits (fieldAt 6 2 text))
  else (if digits (text.take 2) < 50 then 2000 + digits (text.take 2) else 1900 + digits (text.take 2),
    digits (fieldAt 2 2 text), digits (fieldAt 4 2 text))

/-- A date text is read by its form, with or without header. -/
theorem parseAfterDate_text {decoded : DecodedCert} {generalized : Bool} {text : Bytes}
    (sized : text.length = if generalized then 15 else 13)
    (numeric : (text.take (if generalized then 8 else 6)).all isDigit = true)
    (written : decoded.afterDate = (if generalized then asnGeneralizedTime else asnUtcTime) ::
        (if generalized then 15 else 13) :: text ∨ decoded.afterDate = text) :
    parseAfterDate decoded = dateText generalized text := by
  rcases written with tagged | bare
  · cases generalized <;> simp only [Bool.false_eq_true, if_false, if_true] at numeric tagged <;>
      simp [parseAfterDate, tagged, dateText, asnUtcTime, asnGeneralizedTime, fieldAt, - List.all_eq_true, numeric]
  · obtain ⟨first, second, rest, rfl⟩ : ∃ first second rest, text = first :: second :: rest := by
      rcases text with _ | ⟨first, _ | ⟨second, rest⟩⟩
      · cases generalized <;> cases sized
      · cases generalized <;> cases sized
      · exact ⟨first, second, rest, rfl⟩
    have digit : 48 ≤ first ∧ first ≤ 57 := by
      cases generalized <;> simp [isDigit] at numeric <;> exact numeric.1
    have untagged : ¬ (first = asnUtcTime ∨ first = asnGeneralizedTime) := by
      rintro (rfl | rfl) <;> exact absurd digit.1 (by decide)
    simp only [parseAfterDate, bare, untagged, if_false, sized]
    cases generalized <;> simp only [Bool.false_eq_true, if_false, if_true] at numeric <;>
      simp [dateText, fieldAt, - List.all_eq_true, - List.take_succ_cons, numeric]

/-- A date of this century survives both formats. -/
theorem parseAfterDate_encodeTime {decoded : DecodedCert} {year month day : Nat} {clock : Bytes}
    (century : 2000 ≤ year ∧ year < 10000) (two : month < 100 ∧ day < 100) (timed : clock.length = 6)
    (written : decoded.afterDate = encodeTime (decimal 4 year ++ decimal 2 month ++ decimal 2 day ++ clock) ∨
      decoded.afterDate = (encodeTime (decimal 4 year ++ decimal 2 month ++ decimal 2 day ++ clock)).drop 2) :
    parseAfterDate decoded = (year, month, day) := by
  have lead : digits ((decimal 4 year ++ decimal 2 month ++ decimal 2 day ++ clock).take 4) = year :=
    (digits_decimal 4 year).trans (Nat.mod_eq_of_lt century.2)
  have monthRead := digits_decimal 2 month
  have dayRead := digits_decimal 2 day
  by_cases short : year < 2050
  · have form : encodeTime (decimal 4 year ++ decimal 2 month ++ decimal 2 day ++ clock) = asnUtcTime :: 13 ::
        (decimal 2 year ++ decimal 2 month ++ decimal 2 day ++ clock.take 6 ++ [90]) := by
      rw [encodeTime, lead, if_pos short]
      rfl
    rw [form] at written
    have parsed := @parseAfterDate_text decoded false _ (by simp [decimal_length, timed]) ?_ written
    · have yearRead := digits_decimal 2 year
      rw [parsed]
      show (if digits (decimal 2 year) < 50 then 2000 + digits (decimal 2 year) else 1900 + digits (decimal 2 year),
        digits (decimal 2 month), digits (decimal 2 day)) = _
      rw [Prod.mk.injEq, Prod.mk.injEq]
      split_ifs <;> omega
    · show ((decimal 2 year ++ decimal 2 month) ++ decimal 2 day).all isDigit = true
      simp only [List.all_append, decimal_isDigit, Bool.and_self]
  · have form : encodeTime (decimal 4 year ++ decimal 2 month ++ decimal 2 day ++ clock) = asnGeneralizedTime :: 15 ::
        (decimal 4 year ++ decimal 2 month ++ decimal 2 day ++ clock.take 6 ++ [90]) := by
      rw [encodeTime, lead, if_neg short]
      rfl
    rw [form] at written
    have parsed := @parseAfterDate_text decoded true _ (by simp [decimal_length, timed]) ?_ written
    · have yearRead := digits_decimal 4 year
      rw [parsed]
      show (digits (decimal 4 year), digits (decimal 2 month), digits (decimal 2 day)) = _
      rw [Prod.mk.injEq, Prod.mk.injEq]
      omega
    · show ((decimal 4 year ++ decimal 2 month) ++ decimal 2 day).all isDigit = true
      simp only [List.all_append, decimal_isDigit, Bool.and_self]

/-! A fresh certificate. -/

/-- A text has no NUL byte in front of a cut. -/
theorem cString_take_cString (text : Bytes) (count : Nat) :
    cString ((cString text).take count) = (cString text).take count := by
  have clean : ∀ byte ∈ (cString text).take count, byte ≠ 0 := fun byte inside => by
    simpa using List.mem_takeWhile_imp (List.mem_of_mem_take inside)
  rw [cString]
  simpa using clean

theorem cString_length_le (text : Bytes) : (cString text).length ≤ text.length := by
  have front : cString text <+: text := List.takeWhile_prefix _
  exact front.length_le

/-- An attribute reads back exactly when not cut. -/
theorem dnSet_shown {nameSize capacity : Nat} (some : 0 < nameSize) {text : Bytes} (short : text.length < capacity) :
    (dnSet capacity (shown ((cString text).take (nameSize - 1)))).2 = false ∧
      (cString (dnSet capacity (shown ((cString text).take (nameSize - 1)))).1 = cString text ↔
        (cString text).length < nameSize) := by
  have length := cString_length_le text
  have whole : (cString text).take (nameSize - 1) = cString text ↔ (cString text).length < nameSize := by
    rw [List.take_eq_self_iff]
    omega
  unfold shown
  split_ifs with empty
  · exact ⟨rfl, by rw [← whole, empty]; rfl⟩
  · have cut : ¬ ((cString text).take (nameSize - 1)).length ≥ capacity := by
      rw [List.length_take]
      omega
    simp only [dnSet, if_neg cut, cString_take_cString, whole, true_and]

/-- The compared fields of the constant fit the buffers. -/
def FieldsFit (nameSize : Nat) (params : X509Params) : Prop :=
  (cString params.o).length < nameSize ∧ (cString params.ou).length < nameSize ∧
    (cString params.st).length < nameSize ∧ (cString params.l).length < nameSize

theorem sessionParams_ok {constant cn : Bytes} {params : X509Params} (made : sessionParams constant cn = .ok params) :
    ∃ name want, x509Parse constant = .ok want ∧ params = { want with cn := name } ∧ name.length < 65 := by
  obtain ⟨want, parsed, made⟩ := except_bind_ok made
  split_ifs at made
  · exact ⟨want.cn, want, parsed, (Except.ok.inj made).symm, (x509Parse_sound parsed).cn⟩
  · exact ⟨_, want, parsed, (Except.ok.inj made).symm, by omega⟩

/-- It passes at boot exactly when no field was cut. -/
theorem fresh_cert_matches_iff {nameSize : Nat} (sized : 3 ≤ nameSize) {wolf : WolfReader} {env : SessionEnv}
    (reads : ReadsBack nameSize wolf env) {constant cn idPriv x25519 cert : Bytes} {device : Device}
    (built : (caBuildSessionCert env constant cn idPriv x25519 device).1 = .ok cert) {want : X509Params}
    (parsed : x509Parse constant = .ok want) (usage : RepresentableUsage want.keyUsage) :
    caSessionCertMatchesConstant wolf cert constant = .ok true ↔ FieldsFit nameSize want := by
  obtain ⟨params, made, built⟩ := Op.read_ok built
  obtain ⟨serial, _, built⟩ := Op.read_ok built
  obtain ⟨name, held, again, rfl, short⟩ := sessionParams_ok made
  obtain rfl : held = want := Except.ok.inj (again.symm.trans parsed)
  obtain ⟨nonempty, decoded, read, written⟩ := reads _ cert built
  have sound := x509Parse_sound parsed
  have positive : 0 < nameSize := by omega
  obtain ⟨cnWhole, _⟩ := dnSet_shown positive short
  obtain ⟨oWhole, o⟩ := dnSet_shown positive sound.o
  obtain ⟨ouWhole, ou⟩ := dnSet_shown positive sound.ou
  obtain ⟨cWhole, c⟩ := dnSet_shown positive sound.c
  obtain ⟨stWhole, st⟩ := dnSet_shown positive sound.st
  obtain ⟨lWhole, l⟩ := dnSet_shown positive sound.l
  have narrow : held.validityDays < 256 ^ 2 := by
    rw [sound.validity.1]
    refine (bigEndianValue_lt _).trans_le (Nat.pow_le_pow_right (by decide) ?_)
    exact List.length_take_le 2 constant
  have stamped := computeNotAfter_date (show held.validityDays ≤ 65535 by omega)
  rw [stampDate, Date.mk.injEq] at stamped
  have date : parseAfterDate decoded = (2026 + held.validityDays / 365, min (1 + held.validityDays % 365 / 30) 12,
      min (1 + held.validityDays % 365 % 30) 28) :=
    parseAfterDate_encodeTime ⟨by omega, by omega⟩ ⟨by omega, by omega⟩ (decimal_length 6 0) written.afterDate
  have used : decoded.extKeyUsage.getD 0 = held.keyUsage := written.keyUsage usage
  have country : (cString held.c).length < nameSize :=
    lt_of_le_of_lt (cString_length_le _) (sound.c.trans_le sized)
  simp only [caSessionCertMatchesConstant, parsed, certparseCert, if_neg nonempty, read, date, bind, Except.bind, pure,
    Except.pure, fillDn, written.cn, written.o, written.ou, written.c, written.st, written.l, certgenBuildCert,
    fillCertname, paramsToDn, cnWhole, oWhole, ouWhole, cWhole, stWhole, lWhole, Bool.or_self, used, stamped, o, ou, c,
    st, l, country]
  simp [FieldsFit]

/-- One year, with a name and this organisation. -/
def constantOf (organisation : Bytes) : Bytes :=
  [1, 109, 0, 0xFF, 0, 0x88, 1, 68, UInt8.ofNat organisation.length] ++ organisation ++ [0, 0, 0, 0]

def mirrorDn (organisation : Bytes) : Dn := ⟨[68], organisation, [], [], [], []⟩

/-- Its certificates are the organisation of such a constant. -/
def mirrorEnv : SessionEnv :=
  { Dispatcher.plainEnv 1 with
    sessionWrite := fun _ => .done
    chainUnlink := none
    dhKeygen := .error .eio
    buildSessionCert := fun spec =>
      if spec.subjectDn = mirrorDn spec.subjectDn.o ∧ spec.subjectDn.o ≠ [] ∧ spec.keyUsage = 0x88 ∧
        spec.notAfter = computeNotAfter 365 then .ok spec.subjectDn.o else .error .eio
    buildSessionCsr := fun _ _ _ _ => .error .eio
    deviceId := none }

def mirrorKey : Bytes := 0x04 :: List.replicate 64 1

/-- The reader for these certificates, with buffers of 64 octets. -/
def mirrorReader : WolfReader where
  parseCert cert := some { Dispatcher.plainDecoded mirrorKey with
    subjectCn := some [68]
    subjectO := shown (cert.take 63)
    selfSigned := cert ≠ [66]
    extKeyUsage := some 0x88
    afterDate := encodeTime (computeNotAfter 365)
    extensions := oidSessionX25519 ++ [0x04, 0x20] ++ List.replicate 32 2 }
  parseCertReq _ := none
  checkCertSigPubKey _ _ _ := true

theorem mirrorEnv_readsBack : ReadsBack 64 mirrorReader mirrorEnv := by
  intro spec cert built
  simp only [mirrorEnv] at built
  split_ifs at built with shape
  obtain rfl := Except.ok.inj built
  obtain ⟨dn, some, usage, stamp⟩ := shape
  have subject : (certgenBuildCert 64 spec.toCertSpec).subject = ⟨[68], spec.subjectDn.o.take 63, [], [], [], []⟩ := by
    rw [certgenBuildCert, dn]
    rfl
  refine ⟨fun empty => some (List.length_eq_zero_iff.mp empty), _, rfl, ?_⟩
  exact {
    cn := by rw [subject]; rfl
    o := by rw [subject]
    ou := by rw [subject]; rfl
    c := by rw [subject]; rfl
    st := by rw [subject]; rfl
    l := by rw [subject]; rfl
    keyUsage := fun _ => usage.symm
    afterDate := .inl (congrArg encodeTime stamp.symm) }

/-- Two letters are not cut. -/
theorem short_organisation_matches :
    (caBuildSessionCert mirrorEnv (constantOf [65, 66]) [] [] [] Dispatcher.blankDevice).1 = .ok [65, 66] ∧
      caSessionCertMatchesConstant mirrorReader [65, 66] (constantOf [65, 66]) = .ok true := by
  have built : (caBuildSessionCert mirrorEnv (constantOf [65, 66]) [] [] [] Dispatcher.blankDevice).1 =
      .ok [65, 66] := by
    decide +kernel
  have parsed : x509Parse (constantOf [65, 66]) = .ok ⟨365, 0, 0xFF, 0x88, [68], [65, 66], [], [], [], []⟩ := by decide
  have usage : RepresentableUsage 0x88 := by unfold RepresentableUsage; decide
  have fit : FieldsFit 64 ⟨365, 0, 0xFF, 0x88, [68], [65, 66], [], [], [], []⟩ := by unfold FieldsFit; decide
  exact ⟨built, (fresh_cert_matches_iff (by decide) mirrorEnv_readsBack built parsed usage).mpr fit⟩

/-- An organisation of 64 characters is cut, and does not match. -/
theorem long_organisation_cut :
    let organisation := List.replicate 64 65
    ReadsBack 64 mirrorReader mirrorEnv ∧
      (caBuildSessionCert mirrorEnv (constantOf organisation) [] [] [] Dispatcher.blankDevice).1 = .ok organisation ∧
      caSessionCertMatchesConstant mirrorReader organisation (constantOf organisation) = .ok false :=
  ⟨mirrorEnv_readsBack, by decide +kernel, by decide +kernel⟩

/-! A pushed chain. -/

/-- A whole element. -/
def Sequence (item : Bytes) : Prop := DerWrite.derTlvLen item 0x30 = .ok item.length

/-- The chain is these elements and nothing else. -/
structure Concatenated (chain : Bytes) (parts : List Bytes) : Prop where
  few : parts.length ≤ certparseMaxChain
  whole : ∀ part ∈ parts, Sequence part
  chain : chain = parts.flatten

theorem splitPushedChain_parts {room : Nat} {chain : Bytes} {parts : List Bytes}
    (split : splitPushedChain room chain = .ok parts) : parts.length ≤ room ∧ (∀ part ∈ parts, Sequence part) ∧
      ∃ rest : Bytes, rest.length ≤ 1 ∧ chain = parts.flatten ++ rest := by
  induction room generalizing chain parts with
  | zero =>
    unfold splitPushedChain at split
    split_ifs at split with short
    obtain rfl := Except.ok.inj split
    exact ⟨Nat.le_refl 0, by simp, chain, short, rfl⟩
  | succ room ih =>
    unfold splitPushedChain at split
    split_ifs at split with short
    · obtain rfl := Except.ok.inj split
      exact ⟨Nat.zero_le _, by simp, chain, short, rfl⟩
    · rcases measured : DerWrite.derTlvLen chain 0x30 with error | size
      · rw [measured] at split
        cases split
      · rw [measured] at split
        obtain ⟨others, later, split⟩ := except_bind_ok split
        obtain rfl := Except.ok.inj split
        obtain ⟨few, whole, rest, tiny, joined⟩ := ih later
        have bounds := DerWrite.derTlvLen_bounds measured
        have here : Sequence (chain.take size) := by
          rw [Sequence, List.length_take, Nat.min_eq_left bounds.2]
          exact DerWrite.derTlvLen_take.mpr ⟨measured, Nat.le_refl _⟩
        refine ⟨Nat.succ_le_succ few, List.forall_mem_cons.mpr ⟨here, whole⟩, rest, tiny, ?_⟩
        rw [List.flatten_cons, List.append_assoc, ← joined, List.take_append_drop]

/-- Whole elements are split where they were joined. -/
theorem splitPushedChain_flatten {room : Nat} {parts : List Bytes} (few : parts.length ≤ room)
    (whole : ∀ part ∈ parts, Sequence part) : splitPushedChain room parts.flatten = .ok parts := by
  induction parts generalizing room with
  | nil => cases room <;> rfl
  | cons part others ih =>
    obtain ⟨here, later⟩ := List.forall_mem_cons.mp whole
    obtain ⟨room, rfl⟩ : ∃ less, room = less + 1 :=
      Nat.exists_eq_add_of_le' ((Nat.succ_le_succ (Nat.zero_le _)).trans few)
    have bounds := DerWrite.derTlvLen_bounds here
    have measured : DerWrite.derTlvLen (part ++ others.flatten) 0x30 = .ok part.length := by
      refine (@DerWrite.derTlvLen_take (part ++ others.flatten) 0x30 part.length part.length).mp ?_ |>.1
      rwa [List.take_left]
    have long : ¬ (part ++ others.flatten).length ≤ 1 := by
      rw [List.length_append]
      omega
    rw [List.flatten_cons, splitPushedChain, if_neg long, measured]
    dsimp only
    rw [List.drop_left, List.take_left, ih (Nat.le_of_succ_le_succ few) later]
    rfl

/-- What an accepted push has to be. -/
structure WellFormedPush (wolf : WolfReader) (cert chain idPub x25519 constant : Bytes) (leaf : ParsedCert) : Prop where
  key : leaf.pubkey = some idPub
  binding : leaf.x25519 = some x25519
  constant : caSessionCertMatchesConstant wolf cert constant = .ok true
  chain : ∃ parts, Concatenated chain parts ∧
    (leaf.selfSigned = false → ∃ anchor, parts.getLast? = some anchor ∧ HasPath wolf cert parts.dropLast anchor)

theorem verifyParts_ok {wolf : WolfReader} {cert : Bytes} {parts : List Bytes} (few : parts.length ≤ certparseMaxChain)
    (verified : verifyParts wolf cert parts = .ok ()) :
    ∃ anchor, parts.getLast? = some anchor ∧ HasPath wolf cert parts.dropLast anchor := by
  unfold verifyParts at verified
  rcases last : parts.getLast? with _ | anchor
  · rw [last] at verified
    cases verified
  · rw [last] at verified
    have fewer : parts.dropLast.length ≤ certparseMaxInter := by
      rw [List.length_dropLast]
      exact (Nat.sub_le _ _).trans few
    exact ⟨anchor, rfl, (certparseVerifyChain_iff_hasPath wolf cert anchor fewer).mp verified⟩

/-- A row of elements exactly when the split covers it. -/
theorem concatenated_iff {chain : Bytes} : (∃ parts, Concatenated chain parts) ↔
    ∃ parts, splitPushedChain certparseMaxChain chain = .ok parts ∧ parts.flatten.length = chain.length := by
  constructor
  · rintro ⟨parts, few, whole, rfl⟩
    exact ⟨parts, splitPushedChain_flatten few whole, rfl⟩
  · rintro ⟨parts, split, covers⟩
    obtain ⟨few, whole, rest, _, joined⟩ := splitPushedChain_parts split
    have none : rest = [] := by
      rw [joined, List.length_append] at covers
      exact List.eq_nil_of_length_eq_zero (by omega)
    exact ⟨parts, few, whole, by rw [joined, none, List.append_nil]⟩

end Cantil.Ca
