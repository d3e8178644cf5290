import Cantil.Firmware.CertParse
import Cantil.Library.Saturation

namespace Cantil
open Library

/-- The empty string is no certificate. -/
def decoded (wolf : WolfReader) (der : Bytes) : Option DecodedCert :=
  if der.length = 0 then none else wolf.parseCert der

/-- A CA of the issuer's name verifies the child. -/
structure Signs (wolf : WolfReader) (child parent : Bytes × DecodedCert) : Prop where
  ca : parent.2.isCa = true
  name : parent.2.subjectRaw = child.2.issuerRaw
  named : child.2.issuerRaw ≠ []
  signature : wolf.checkCertSigPubKey child.1 parent.2.publicKey parent.2.keyOid = true

theorem signedBy_iff (wolf : WolfReader) (child parent : Bytes × DecodedCert) :
    signedBy wolf child.1 child.2 parent.2 = true ↔ Signs wolf child parent := by
  simp only [signedBy, decide_eq_true_eq]
  constructor
  · rintro ⟨name, named, ca, signature⟩
    exact ⟨ca, name.symm, named, signature⟩
  · rintro ⟨ca, name, named, signature⟩
    exact ⟨name.symm, named, ca, signature⟩

/-- The certificate came with the leaf and decodes. -/
def Shipped (wolf : WolfReader) (interDers : List Bytes) (item : Bytes × DecodedCert) : Prop :=
  item.1 ∈ interDers ∧ decoded wolf item.1 = some item.2

/-- A path of links through intermediates to the anchor. -/
def Chained (wolf : WolfReader) (interDers : List Bytes) (anchor item : Bytes × DecodedCert) : Prop :=
  ∃ path : List (Bytes × DecodedCert), (∀ link ∈ path, Shipped wolf interDers link) ∧
    List.IsChain (Signs wolf) (item :: (path ++ [anchor]))

variable {wolf : WolfReader} {interDers : List Bytes}

theorem chained_iff_reaches {anchor item : Bytes × DecodedCert} :
    Chained wolf interDers anchor item ↔
      Saturation.Reaches (Signs wolf) (Shipped wolf interDers) anchor item :=
  Saturation.reaches_iff_chain.symm

theorem Chained.anchor_ca {anchor item : Bytes × DecodedCert} (found : Chained wolf interDers anchor item) :
    anchor.2.isCa = true := by
  induction chained_iff_reaches.mp found with
  | direct signs => exact signs.ca
  | through _ _ reached ih => exact ih (chained_iff_reaches.mpr reached)

/-- Leaf and anchor decode, and a path joins them. -/
def HasPath (wolf : WolfReader) (leafDer : Bytes) (interDers : List Bytes) (anchorDer : Bytes) : Prop :=
  ∃ leaf anchor, decoded wolf leafDer = some leaf ∧ decoded wolf anchorDer = some anchor ∧
    Chained wolf interDers (anchorDer, anchor) (leafDer, leaf)

/-- The intermediates as the search starts with them. -/
def unpromoted (wolf : WolfReader) (interDers : List Bytes) : List Intermediate :=
  interDers.map fun der => ⟨der, decoded wolf der, false⟩

section Pass

variable {wolf : WolfReader} {anchor : DecodedCert}

/-- What a pass does not change. -/
def Intermediate.shape (item : Intermediate) : Bytes × Option DecodedCert := (item.der, item.cert)

/-- Some copy of the certificate is trusted. -/
def Promoted (items : List Intermediate) (link : Bytes × DecodedCert) : Prop :=
  ∃ item ∈ items, item.shape = (link.1, some link.2) ∧ item.trusted = true

theorem signedByTrusted_iff {items : List Intermediate} (child : Bytes × DecodedCert) :
    signedByTrusted wolf child.1 child.2 items = true ↔ ∃ next, Promoted items next ∧ Signs wolf child next := by
  simp only [signedByTrusted, List.any_eq_true, Bool.and_eq_true, Option.any_eq_true]
  constructor
  · rintro ⟨item, inside, trusted, cert, held, signed⟩
    refine ⟨(item.der, cert), ⟨item, inside, by rw [Intermediate.shape, held], trusted⟩, ?_⟩
    exact (signedBy_iff wolf child (item.der, cert)).mp signed
  · rintro ⟨next, ⟨item, inside, shape, trusted⟩, signed⟩
    obtain ⟨_, held⟩ := Prod.mk.inj shape
    exact ⟨item, inside, trusted, next.2, held, (signedBy_iff wolf child next).mpr signed⟩

theorem promotePass_shape (done rest : List Intermediate) :
    (promotePass wolf anchor done rest).1.map Intermediate.shape = (done ++ rest).map Intermediate.shape := by
  induction rest generalizing done with
  | nil => simp [promotePass]
  | cons item rest ih =>
    rw [promotePass, ih]
    simp [Intermediate.shape]

/-- The number of intermediates that can still be promoted. -/
def untrusted (items : List Intermediate) : Nat := items.countP fun item => !item.trusted

/-- A pass with progress promotes some, and loses none. -/
theorem promotePass_untrusted (done rest : List Intermediate) :
    untrusted (promotePass wolf anchor done rest).1 ≤ untrusted (done ++ rest) ∧
      ((promotePass wolf anchor done rest).2 = true →
        untrusted (promotePass wolf anchor done rest).1 < untrusted (done ++ rest)) := by
  induction rest generalizing done with
  | nil => simp [promotePass]
  | cons item rest ih =>
    rw [promotePass]
    generalize promoted : (!item.trusted && item.cert.any fun cert =>
      signedBy wolf item.der cert anchor || signedByTrusted wolf item.der cert (done ++ rest)) = now
    obtain ⟨most, fewer⟩ := ih (done ++ [{ item with trusted := item.trusted || now }])
    cases now with
    | false =>
      have same : untrusted (done ++ [{ item with trusted := item.trusted || false }] ++ rest) =
          untrusted (done ++ item :: rest) := by simp [untrusted]
      rw [same] at most fewer
      exact ⟨most, fun progress => fewer (by simpa using progress)⟩
    | true =>
      have fresh : item.trusted = false := by
        cases held : item.trusted with
        | false => rfl
        | true => simp [held] at promoted
      have one : untrusted (done ++ [{ item with trusted := item.trusted || true }] ++ rest) + 1 =
          untrusted (done ++ item :: rest) := by
        simp [untrusted, fresh]
        omega
      exact ⟨by dsimp only; omega, fun _ => by dsimp only; omega⟩

/-- A trusted intermediate is decoded and hangs on the anchor. -/
def Justified (wolf : WolfReader) (interDers : List Bytes) (anchor : Bytes × DecodedCert)
    (item : Intermediate) : Prop :=
  item.trusted = true → ∃ cert, item.cert = some cert ∧
    Saturation.Reaches (Signs wolf) (Shipped wolf interDers) anchor (item.der, cert)

/-- What is promoted is justified by what was trusted. -/
theorem promotePass_justified {anchor : Bytes × DecodedCert} (done rest : List Intermediate)
    (shipped : ∀ item ∈ done ++ rest, ∀ cert, item.cert = some cert → Shipped wolf interDers (item.der, cert))
    (before : ∀ item ∈ done ++ rest, Justified wolf interDers anchor item) :
    ∀ item ∈ (promotePass wolf anchor.2 done rest).1, Justified wolf interDers anchor item := by
  induction rest generalizing done with
  | nil => simpa [promotePass] using before
  | cons item rest ih =>
    refine ih _ ?_ ?_
    · simp only [List.forall_mem_append, List.forall_mem_cons] at shipped ⊢
      exact ⟨⟨shipped.1, shipped.2.1, by simp⟩, shipped.2.2⟩
    · simp only [List.forall_mem_append, List.forall_mem_cons] at shipped before ⊢
      refine ⟨⟨before.1, fun trusted => ?_, by simp⟩, before.2.2⟩
      -- The item was trusted already, or its promotion names the parent.
      rcases Bool.or_eq_true _ _ |>.mp trusted with old | fresh
      · exact before.2.1 old
      · simp only [Bool.and_eq_true, Option.any_eq_true, Bool.or_eq_true] at fresh
        obtain ⟨_, cert, held, signed | signed⟩ := fresh
        · exact ⟨cert, held, .direct ((signedBy_iff wolf (item.der, cert) anchor).mp signed)⟩
        · refine ⟨cert, held, ?_⟩
          obtain ⟨next, ⟨parent, inside, shape, marked⟩, signs⟩ :=
            signedByTrusted_iff (item.der, cert) |>.mp signed
          obtain ⟨der, parentCert⟩ : parent.der = next.1 ∧ parent.cert = some next.2 := Prod.mk.inj shape
          have there : Shipped wolf interDers (parent.der, next.2) ∧ Justified wolf interDers anchor parent := by
            rcases List.mem_append.mp inside with early | late
            · exact ⟨shipped.1 parent early _ parentCert, before.1 parent early⟩
            · exact ⟨shipped.2.2 parent late _ parentCert, before.2.2 parent late⟩
          obtain ⟨other, same, reached⟩ := there.2 marked
          obtain rfl := Option.some.inj (parentCert.symm.trans same)
          rw [der] at there reached
          exact .through there.1 signs reached

/-- Without progress nothing is left to promote. -/
theorem promotePass_still {done rest : List Intermediate} (still : (promotePass wolf anchor done rest).2 = false) :
    (promotePass wolf anchor done rest).1 = done ++ rest ∧
      ∀ item ∈ rest, ∀ cert, item.cert = some cert →
        (signedBy wolf item.der cert anchor || signedByTrusted wolf item.der cert (done ++ rest)) = true →
        item.trusted = true := by
  induction rest generalizing done with
  | nil => simp [promotePass]
  | cons item rest ih =>
    rw [promotePass] at still ⊢
    obtain ⟨refused, later⟩ := Bool.or_eq_false_iff.mp still
    rw [refused] at later ⊢
    have same : { item with trusted := item.trusted || false } = item := by simp
    rw [same] at later ⊢
    obtain ⟨unchanged, closed⟩ := ih later
    rw [List.append_assoc] at unchanged closed
    refine ⟨unchanged, List.forall_mem_cons.mpr ⟨fun cert held signed => ?_, closed⟩⟩
    by_contra fresh
    have fresh : item.trusted = false := by simpa using fresh
    -- An intermediate that is not trusted counts for nobody, itself included.
    have others : signedByTrusted wolf item.der cert (done ++ item :: rest) =
        signedByTrusted wolf item.der cert (done ++ rest) := by
      simp [signedByTrusted, fresh]
    rw [others] at signed
    rw [fresh, held, Option.any_some, signed] at refused
    cases refused

end Pass

/-- Trusted are shipped intermediates that reach the anchor. -/
structure Searched (wolf : WolfReader) (interDers : List Bytes) (anchor : Bytes × DecodedCert)
    (items : List Intermediate) : Prop where
  shape : items.map Intermediate.shape = (unpromoted wolf interDers).map Intermediate.shape
  justified : ∀ item ∈ items, Justified wolf interDers anchor item

section Search

variable {wolf : WolfReader} {interDers : List Bytes} {anchor : Bytes × DecodedCert} {items : List Intermediate}

theorem Searched.mem_iff (searched : Searched wolf interDers anchor items) {link : Bytes × DecodedCert} :
    (∃ item ∈ items, item.shape = (link.1, some link.2)) ↔ Shipped wolf interDers link := by
  have member : (link.1, some link.2) ∈ items.map Intermediate.shape ↔ Shipped wolf interDers link := by
    rw [searched.shape]
    simp only [unpromoted, List.map_map, List.mem_map, Function.comp_apply, Intermediate.shape, Prod.mk.injEq,
      Shipped]
    constructor
    · rintro ⟨der, inside, rfl, held⟩
      exact ⟨inside, held⟩
    · rintro ⟨inside, held⟩
      exact ⟨link.1, inside, rfl, held⟩
  rw [← member, List.mem_map]

theorem Searched.shipped (searched : Searched wolf interDers anchor items) {item : Intermediate}
    (inside : item ∈ items) {cert : DecodedCert} (held : item.cert = some cert) :
    Shipped wolf interDers (item.der, cert) :=
  searched.mem_iff.mp ⟨item, inside, by rw [Intermediate.shape, held]⟩

theorem searched_unpromoted (wolf : WolfReader) (interDers : List Bytes) (anchor : Bytes × DecodedCert) :
    Searched wolf interDers anchor (unpromoted wolf interDers) := by
  refine ⟨rfl, fun item inside trusted => ?_⟩
  obtain ⟨der, _, rfl⟩ := List.mem_map.mp inside
  cases trusted

/-- The search marks what reaches the anchor, and no more. -/
def promotion (wolf : WolfReader) (interDers : List Bytes) (anchor : Bytes × DecodedCert) :
    Saturation.Marking (List Intermediate) (Signs wolf) (Shipped wolf interDers) anchor where
  pass := promotePass wolf anchor.2 []
  invariant := Searched wolf interDers anchor
  marked := Promoted
  unmarked := untrusted
  preserved items searched := by
    refine ⟨(promotePass_shape [] items).trans searched.shape, ?_⟩
    exact promotePass_justified [] items (fun item inside cert held => searched.shipped inside held)
      searched.justified
  reaches items searched link marked := by
    obtain ⟨item, inside, shape, trusted⟩ := marked
    obtain ⟨der, cert⟩ : item.der = link.1 ∧ item.cert = some link.2 := Prod.mk.inj shape
    obtain ⟨held, same, reached⟩ := searched.justified item inside trusted
    obtain rfl := Option.some.inj (cert.symm.trans same)
    rw [der] at reached
    exact ⟨searched.mem_iff.mp ⟨item, inside, shape⟩, reached⟩
  closed items searched still link shipped signed := by
    obtain ⟨item, inside, shape⟩ := searched.mem_iff.mpr shipped
    obtain ⟨der, cert⟩ := Prod.mk.inj shape
    refine ⟨item, inside, shape, (promotePass_still still).2 item inside link.2 cert ?_⟩
    rw [der, Bool.or_eq_true]
    exact signed.imp (signedBy_iff wolf link anchor).mpr (signedByTrusted_iff link).mpr
  decreases items progress := (promotePass_untrusted [] items).2 progress

theorem verifyRounds_eq (wolf : WolfReader) (leafDer : Bytes) (leaf anchor : DecodedCert) (bound : Nat)
    (items : List Intermediate) :
    verifyRounds wolf leafDer leaf anchor bound items =
      Saturation.rounds (fun items => signedBy wolf leafDer leaf anchor || signedByTrusted wolf leafDer leaf items)
        (promotePass wolf anchor []) bound items := by
  induction bound generalizing items with
  | zero => rfl
  | succ bound ih =>
    rw [verifyRounds, Saturation.rounds]
    split_ifs <;> simp_all

/-- One round more than intermediates finds every path. -/
theorem verifyRounds_iff (wolf : WolfReader) (interDers : List Bytes) (anchor leaf : Bytes × DecodedCert) :
    verifyRounds wolf leaf.1 leaf.2 anchor.2 (interDers.length + 1) (unpromoted wolf interDers) = true ↔
      Chained wolf interDers anchor leaf := by
  rw [verifyRounds_eq, chained_iff_reaches]
  refine (promotion wolf interDers anchor).rounds_iff_reaches (fun items _ => ?_)
    (searched_unpromoted wolf interDers anchor) ?_
  · rw [Bool.or_eq_true, signedBy_iff wolf leaf anchor, signedByTrusted_iff]
    rfl
  · have most : untrusted (unpromoted wolf interDers) ≤ (unpromoted wolf interDers).length :=
      List.countP_le_length
    have all : (unpromoted wolf interDers).length = interDers.length := List.length_map _
    exact Nat.lt_succ_of_le (most.trans all.le)

end Search

theorem certparseVerifyChain_iff_hasPath (wolf : WolfReader) (leafDer : Bytes) (anchorDer : Bytes)
    (few : interDers.length ≤ certparseMaxInter) :
    certparseVerifyChain wolf leafDer interDers anchorDer = .ok () ↔
      HasPath wolf leafDer interDers anchorDer := by
  unfold certparseVerifyChain HasPath
  by_cases leafEmpty : leafDer.length = 0
  · simp [leafEmpty, decoded]
  by_cases anchorEmpty : anchorDer.length = 0
  · simp [anchorEmpty, decoded]
  rw [if_neg (by simp [leafEmpty, anchorEmpty]), if_neg (Nat.not_lt.mpr few)]
  simp only [decoded, if_neg leafEmpty, if_neg anchorEmpty]
  rcases wolf.parseCert leafDer with _ | leaf
  · simp
  rcases wolf.parseCert anchorDer with _ | anchor
  · simp
  have found := verifyRounds_iff wolf interDers (anchorDer, anchor) (leafDer, leaf)
  have unique : (∃ held other, some leaf = some held ∧ some anchor = some other ∧
      Chained wolf interDers (anchorDer, other) (leafDer, held)) ↔
      Chained wolf interDers (anchorDer, anchor) (leafDer, leaf) := by simp
  rw [unique, ← found]
  change (if verifyRounds wolf leafDer leaf anchor _ (unpromoted wolf interDers) then _ else _) = _ ↔ _
  split_ifs with verified
  · simp [verified]
  · simp [verified]

theorem HasPath.perm {leafDer anchorDer : Bytes} {other : List Bytes} (same : other.Perm interDers)
    (found : HasPath wolf leafDer interDers anchorDer) : HasPath wolf leafDer other anchorDer := by
  obtain ⟨leaf, anchor, leafRead, anchorRead, path, shipped, chain⟩ := found
  refine ⟨leaf, anchor, leafRead, anchorRead, path, fun link inside => ?_, chain⟩
  exact ⟨same.mem_iff.mpr (shipped link inside).1, (shipped link inside).2⟩

theorem certparseVerifyChain_refuses {leafDer anchorDer : Bytes}
    (refused : certparseVerifyChain wolf leafDer interDers anchorDer ≠ .ok ()) :
    certparseVerifyChain wolf leafDer interDers anchorDer = .error .einval := by
  unfold certparseVerifyChain at refused ⊢
  split_ifs at refused ⊢
  · rfl
  · rfl
  · split at refused
    · dsimp only at refused ⊢
      split_ifs at refused ⊢
      · exact absurd rfl refused
      · rfl
    · rfl

/-- The verdict is the existence of a path, in every order. -/
theorem certparseVerifyChain_finds_paths (wolf : WolfReader) (leafDer anchorDer : Bytes) (interDers : List Bytes)
    (few : interDers.length ≤ certparseMaxInter) :
    (certparseVerifyChain wolf leafDer interDers anchorDer = .ok () ↔ HasPath wolf leafDer interDers anchorDer) ∧
    (∀ other : List Bytes, other.Perm interDers →
      certparseVerifyChain wolf leafDer other anchorDer = certparseVerifyChain wolf leafDer interDers anchorDer) ∧
    ∀ (anchor : DecodedCert) (count : Nat),
      ∀ item ∈ Saturation.passes (promotePass wolf anchor []) count (unpromoted wolf interDers),
        item.trusted = true →
          ∃ cert, item.cert = some cert ∧ Chained wolf interDers (anchorDer, anchor) (item.der, cert) := by
  refine ⟨certparseVerifyChain_iff_hasPath wolf leafDer anchorDer few, ?_, ?_⟩
  · intro other same
    have fewOther : other.length ≤ certparseMaxInter := same.length_eq ▸ few
    by_cases found : HasPath wolf leafDer interDers anchorDer
    · rw [(certparseVerifyChain_iff_hasPath wolf leafDer anchorDer few).mpr found]
      exact (certparseVerifyChain_iff_hasPath wolf leafDer anchorDer fewOther).mpr (found.perm same)
    · rw [certparseVerifyChain_refuses (mt (certparseVerifyChain_iff_hasPath wolf leafDer anchorDer few).mp found)]
      refine certparseVerifyChain_refuses fun accepted => found ?_
      exact ((certparseVerifyChain_iff_hasPath wolf leafDer anchorDer fewOther).mp accepted).perm same.symm
  · intro anchor count item inside trusted
    have searched := Saturation.passes_invariant (promotion wolf interDers (anchorDer, anchor)).preserved count
      (searched_unpromoted wolf interDers (anchorDer, anchor))
    obtain ⟨cert, held, reached⟩ := searched.justified item inside trusted
    exact ⟨cert, held, chained_iff_reaches.mpr reached⟩

/-- Every octet string is a nameless CA that every key signed. -/
def namelessReader : WolfReader where
  parseCert _ := some {
    serial := [1], subjectCn := none, subjectO := none, subjectOu := none, subjectC := none, subjectSt := none,
    subjectL := none, subjectRaw := [], subjectStart := 0, issuerRaw := [], selfSigned := true, isCa := true,
    extKeyUsage := none, afterDate := [], publicKey := [], keyOid := 0, extensions := [] }
  parseCertReq _ := none
  checkCertSigPubKey _ _ _ := true

/-- Empty names are equal, and still make no link. -/
theorem namelessReader_refused :
    (∃ cert, decoded namelessReader [1] = some cert ∧ decoded namelessReader [2] = some cert ∧ cert.isCa = true ∧
      cert.subjectRaw = cert.issuerRaw ∧
      namelessReader.checkCertSigPubKey [1] cert.publicKey cert.keyOid = true) ∧
    certparseVerifyChain namelessReader [1] [] [2] = .error .einval :=
  ⟨⟨_, rfl, rfl, rfl, rfl, rfl⟩, by decide⟩

/-- Certificate n is issued by n + 1, and only 9 is no CA. -/
def ladderReader : WolfReader where
  parseCert
    | [number] => some {
        serial := [number], subjectCn := none, subjectO := none, subjectOu := none, subjectC := none,
        subjectSt := none, subjectL := none, subjectRaw := [number], subjectStart := 0, issuerRaw := [number + 1],
        selfSigned := false, isCa := number ≠ 9, extKeyUsage := none, afterDate := [], publicKey := [number],
        keyOid := 0, extensions := [] }
    | _ => none
  parseCertReq _ := none
  checkCertSigPubKey cert key _ := cert.map (· + 1) = key

/-- Out of order, with empty, broken and repeated ones. -/
def ladderIntermediates : List Bytes := [[3], [], [7, 7], [2], [3]]

/-- Two of the five entries make the path. -/
theorem ladderReader_finds_path :
    ladderIntermediates.length ≤ certparseMaxInter ∧ HasPath ladderReader [1] ladderIntermediates [4] :=
  ⟨by decide, (certparseVerifyChain_finds_paths ladderReader [1] [4] ladderIntermediates (by decide)).1.mp
    (by decide)⟩

end Cantil
