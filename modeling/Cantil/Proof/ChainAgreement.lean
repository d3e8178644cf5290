import Cantil.Host.X509Chain
import Cantil.Proof.PathBuilding

namespace Cantil.Host
open Library

/-- Only CAs load, and a loaded CA verifies its own. -/
structure CertManager.Represents (manager : CertManager) (wolf : WolfReader)
    (loaded : manager.Store → List Bytes) : Prop where
  new : ∃ store, manager.new = some store ∧ loaded store = []
  loads : ∀ store der, (manager.loadCaBuffer store der).isSome = true ↔
    ∃ cert, decoded wolf der = some cert ∧ cert.isCa = true
  adds : ∀ store der next, manager.loadCaBuffer store der = some next → loaded next = loaded store ++ [der]
  verifies : ∀ store der, manager.verifyBuffer store der = true ↔
    ∃ child parent, decoded wolf der = some child ∧ decoded wolf parent.1 = some parent.2 ∧
      parent.1 ∈ loaded store ∧ Signs wolf (der, child) parent

/-- The intermediates that can be loaded. -/
def Loadable (wolf : WolfReader) (interDers : List Bytes) (item : Bytes × DecodedCert) : Prop :=
  Shipped wolf interDers item ∧ item.2.isCa = true

section Pass

variable {manager : CertManager} {wolf : WolfReader} {loaded : manager.Store → List Bytes}
  {interDers : List Bytes} {anchor : Bytes × DecodedCert}

theorem loadPass_ders (store : manager.Store) (items : List Candidate) :
    (loadPass manager store items).1.2.map Candidate.der = items.map Candidate.der := by
  induction items generalizing store with
  | nil => rfl
  | cons item rest ih => simp [loadPass, ih]

/-- The number of candidates that were not loaded. -/
def waiting (items : List Candidate) : Nat := items.countP fun item => !item.promoted

theorem waiting_cons (item : Candidate) (rest : List Candidate) :
    waiting (item :: rest) = waiting rest + if item.promoted then 0 else 1 := by
  cases held : item.promoted <;> simp [waiting, held]

theorem loadPass_waiting (store : manager.Store) (items : List Candidate) :
    waiting (loadPass manager store items).1.2 ≤ waiting items ∧
      ((loadPass manager store items).2 = true →
        waiting (loadPass manager store items).1.2 < waiting items) := by
  induction items generalizing store with
  | nil => simp [loadPass]
  | cons item rest ih =>
    obtain ⟨most, fewer⟩ := ih ((tryLoad manager store item).getD store)
    rw [loadPass]
    rw [waiting_cons, waiting_cons]
    cases tried : tryLoad manager store item with
    | none =>
      rw [tried] at most fewer
      simp only [Option.isSome_none, Bool.or_false, Bool.false_or]
      exact ⟨Nat.add_le_add_right most _, fun progress => Nat.add_lt_add_right (fewer progress) _⟩
    | some next =>
      rw [tried] at most
      have fresh := (tryLoad_eq_some.mp tried).1
      simp only [fresh, Option.isSome_some, Bool.or_true, if_true, Bool.false_eq_true, if_false]
      exact ⟨most.trans (Nat.le_succ _), fun _ => Nat.lt_succ_of_le most⟩

/-- A pass without progress tried all on the same store. -/
theorem loadPass_still {store : manager.Store} {items : List Candidate}
    (still : (loadPass manager store items).2 = false) : ∀ item ∈ items, tryLoad manager store item = none := by
  induction items with
  | nil => simp
  | cons item rest ih =>
    obtain ⟨refused, later⟩ := Bool.or_eq_false_iff.mp still
    have refused : tryLoad manager store item = none := by simpa using refused
    rw [refused] at later
    exact List.forall_mem_cons.mpr ⟨refused, ih later⟩

/-- What is loaded is the anchor or hangs on it. -/
def Sound (wolf : WolfReader) (loaded : manager.Store → List Bytes) (interDers : List Bytes)
    (anchor : Bytes × DecodedCert) (store : manager.Store) : Prop :=
  ∀ der ∈ loaded store, der = anchor.1 ∨ ∃ cert, Loadable wolf interDers (der, cert) ∧
    Saturation.Reaches (Signs wolf) (Loadable wolf interDers) anchor (der, cert)

/-- Store and flags agree with the intermediates. -/
structure Loading (wolf : WolfReader) (loaded : manager.Store → List Bytes) (interDers : List Bytes)
    (anchor : Bytes × DecodedCert) (store : manager.Store) (items : List Candidate) : Prop where
  shipped : ∀ item ∈ items, item.der ∈ interDers
  anchored : anchor.1 ∈ loaded store
  kept : ∀ item ∈ items, item.promoted = true → item.der ∈ loaded store
  sound : Sound wolf loaded interDers anchor store

variable {store : manager.Store} {item : Candidate} (lawful : manager.Represents wolf loaded)
include lawful

theorem loadPass_grows (store : manager.Store) (items : List Candidate) :
    loaded store ⊆ loaded (loadPass manager store items).1.1 := by
  induction items generalizing store with
  | nil => exact List.Subset.refl _
  | cons item rest ih =>
    refine List.Subset.trans ?_ (ih _)
    cases tried : tryLoad manager store item with
    | none => exact List.Subset.refl _
    | some next =>
      rw [Option.getD_some, lawful.adds _ _ _ (tryLoad_eq_some.mp tried).2.2.2]
      exact List.subset_append_left _ _

variable (anchorRead : decoded wolf anchor.1 = some anchor.2)
include anchorRead

/-- What verifies is signed by the anchor or below it. -/
theorem Sound.signed (sound : Sound wolf loaded interDers anchor store) (item : Bytes × DecodedCert)
    (read : decoded wolf item.1 = some item.2) (verified : manager.verifyBuffer store item.1 = true) :
    Signs wolf item anchor ∨ ∃ next, next.1 ∈ loaded store ∧ Loadable wolf interDers next ∧
      Saturation.Reaches (Signs wolf) (Loadable wolf interDers) anchor next ∧ Signs wolf item next := by
  obtain ⟨child, parent, childRead, parentRead, inside, signs⟩ := (lawful.verifies store item.1).mp verified
  obtain rfl := Option.some.inj (read.symm.trans childRead)
  rcases sound parent.1 inside with same | ⟨cert, loadable, reached⟩
  · rw [same, anchorRead] at parentRead
    have whole : parent = anchor := Prod.ext same (Option.some.inj parentRead).symm
    exact .inl (whole ▸ signs)
  · obtain rfl := Option.some.inj (parentRead.symm.trans loadable.1.2)
    exact .inr ⟨parent, inside, loadable, reached, signs⟩

theorem Sound.load {next : manager.Store} (sound : Sound wolf loaded interDers anchor store)
    (shipped : item.der ∈ interDers) (tried : tryLoad manager store item = some next) :
    Sound wolf loaded interDers anchor next := by
  obtain ⟨_, _, verified, result⟩ := tryLoad_eq_some.mp tried
  intro der inside
  rw [lawful.adds _ _ _ result, List.mem_append, List.mem_singleton] at inside
  rcases inside with old | rfl
  · exact sound der old
  · obtain ⟨cert, read, ca⟩ := (lawful.loads store item.der).mp (by rw [result]; rfl)
    refine .inr ⟨cert, ⟨⟨shipped, read⟩, ca⟩, ?_⟩
    rcases sound.signed lawful anchorRead (item.der, cert) read verified with
      direct | ⟨parent, _, loadable, reached, signs⟩
    · exact .direct direct
    · exact .through loadable signs reached

/-- The store grows by the candidate or stays, as the flag says. -/
theorem Loading.step {rest : List Candidate} (loading : Loading wolf loaded interDers anchor store (item :: rest)) :
    Loading wolf loaded interDers anchor ((tryLoad manager store item).getD store) rest ∧
      ((item.promoted || (tryLoad manager store item).isSome) = true →
        item.der ∈ loaded ((tryLoad manager store item).getD store)) := by
  obtain ⟨shipped, anchored, kept, sound⟩ := loading
  rw [List.forall_mem_cons] at shipped kept
  cases tried : tryLoad manager store item with
  | none => exact ⟨⟨shipped.2, anchored, kept.2, sound⟩, by simpa using kept.1⟩
  | some next =>
    have grown := lawful.adds _ _ _ (tryLoad_eq_some.mp tried).2.2.2
    refine ⟨⟨shipped.2, ?_, ?_, sound.load lawful anchorRead shipped.1 tried⟩, ?_⟩
    · simp [grown, anchored]
    · intro other inside promoted
      simp [grown, kept.2 other inside promoted]
    · simp [grown]

theorem loadPass_loading {items : List Candidate} (loading : Loading wolf loaded interDers anchor store items) :
    Loading wolf loaded interDers anchor (loadPass manager store items).1.1 (loadPass manager store items).1.2 := by
  induction items generalizing store with
  | nil => exact loading
  | cons item rest ih =>
    obtain ⟨later, kept⟩ := loading.step lawful anchorRead
    obtain ⟨shipped, anchored, others, sound⟩ := ih later
    refine ⟨?_, anchored, ?_, sound⟩
    · exact List.forall_mem_cons.mpr ⟨loading.shipped item (by simp), shipped⟩
    · refine List.forall_mem_cons.mpr ⟨fun promoted => ?_, others⟩
      exact loadPass_grows lawful _ rest (kept promoted)

end Pass

section Search

variable {manager : CertManager} {wolf : WolfReader} {loaded : manager.Store → List Bytes}
  {anchor : Bytes × DecodedCert}

/-- The host marks the loadable intermediates below the anchor. -/
def loadingSearch (lawful : manager.Represents wolf loaded) (interDers : List Bytes)
    (anchorRead : decoded wolf anchor.1 = some anchor.2) :
    Saturation.Marking (manager.Store × List Candidate) (Signs wolf) (Loadable wolf interDers) anchor where
  pass state := loadPass manager state.1 state.2
  invariant state := state.2.map Candidate.der = interDers ∧ Loading wolf loaded interDers anchor state.1 state.2
  marked state item := item.1 ∈ loaded state.1 ∧ Loadable wolf interDers item ∧
    Saturation.Reaches (Signs wolf) (Loadable wolf interDers) anchor item
  unmarked state := waiting state.2
  preserved state holds :=
    ⟨(loadPass_ders state.1 state.2).trans holds.1, loadPass_loading lawful anchorRead holds.2⟩
  reaches state _ item marked := marked.2
  closed state holds still item loadable signed := by
    obtain ⟨⟨shipped, read⟩, ca⟩ := loadable
    have reached : Saturation.Reaches (Signs wolf) (Loadable wolf interDers) anchor item := by
      rcases signed with direct | ⟨next, ⟨_, loadable, reached⟩, signs⟩
      · exact .direct direct
      · exact .through loadable signs reached
    have verified : manager.verifyBuffer state.1 item.1 = true := by
      rw [lawful.verifies]
      rcases signed with direct | ⟨next, ⟨inside, loadable, _⟩, signs⟩
      · exact ⟨item.2, anchor, read, anchorRead, holds.2.anchored, direct⟩
      · exact ⟨item.2, next, read, loadable.1.2, inside, signs⟩
    refine ⟨?_, ⟨⟨shipped, read⟩, ca⟩, reached⟩
    -- The pass tried this very candidate, and only a promoted one can be refused.
    rw [← holds.1, List.mem_map] at shipped
    obtain ⟨candidate, inside, same⟩ := shipped
    refine same ▸ holds.2.kept candidate inside (by_contra fun fresh => ?_)
    obtain ⟨next, result⟩ := Option.isSome_iff_exists.mp ((lawful.loads state.1 item.1).mpr ⟨item.2, read, ca⟩)
    have nonempty : candidate.der.length ≠ 0 := by
      rw [same]
      intro empty
      simp [decoded, empty] at read
    have tried := tryLoad_eq_some.mpr ⟨by simpa using fresh, nonempty, same ▸ verified, same ▸ result⟩
    rw [loadPass_still still candidate inside] at tried
    cases tried
  decreases state progress := (loadPass_waiting state.1 state.2).2 progress

theorem buildRounds_eq (manager : CertManager) (leafDer : Bytes) (bound : Nat)
    (state : manager.Store × List Candidate) :
    buildRounds manager leafDer bound state = .ok ↔
      Saturation.rounds (fun state => manager.verifyBuffer state.1 leafDer)
        (fun state => loadPass manager state.1 state.2) bound state = true := by
  induction bound generalizing state with
  | zero => simp [buildRounds, Saturation.rounds]
  | succ bound ih =>
    rw [buildRounds, Saturation.rounds]
    dsimp only
    split_ifs
    · simp
    · exact ih _
    · simp

/-- Enough rounds find every path from the leaf to the anchor. -/
theorem buildRounds_iff (lawful : manager.Represents wolf loaded) (interDers : List Bytes)
    (anchor : Bytes × DecodedCert) (anchorRead : decoded wolf anchor.1 = some anchor.2) (leaf : Bytes × DecodedCert)
    (leafRead : decoded wolf leaf.1 = some leaf.2) {store : manager.Store} (only : loaded store = [anchor.1])
    {bound : Nat} (enough : interDers.length < bound) :
    buildRounds manager leaf.1 bound (store, interDers.map fun der => ⟨der, false⟩) = .ok ↔
      Chained wolf interDers anchor leaf := by
  have initial : Loading wolf loaded interDers anchor store (interDers.map fun der => ⟨der, false⟩) := by
    refine ⟨by simp, by simp [only], by simp, fun der inside => .inl ?_⟩
    rwa [only, List.mem_singleton] at inside
  rw [buildRounds_eq, chained_iff_reaches]
  refine Iff.trans ((loadingSearch lawful interDers anchorRead).rounds_iff_reaches ?_ ⟨?_, initial⟩ ?_ :
    _ ↔ Saturation.Reaches (Signs wolf) (Loadable wolf interDers) anchor leaf) ?_
  · intro state holds
    constructor
    · intro verified
      rcases holds.2.sound.signed lawful anchorRead leaf leafRead verified with
        direct | ⟨next, inside, loadable, reached, signs⟩
      · exact .inl direct
      · exact .inr ⟨next, ⟨inside, loadable, reached⟩, signs⟩
    · intro signed
      rw [lawful.verifies]
      rcases signed with direct | ⟨next, ⟨inside, loadable, _⟩, signs⟩
      · exact ⟨leaf.2, anchor, leafRead, anchorRead, holds.2.anchored, direct⟩
      · exact ⟨leaf.2, next, leafRead, loadable.1.2, inside, signs⟩
  · simp [Function.comp_def]
  · have most : waiting (interDers.map fun der => Candidate.mk der false) ≤ _ := List.countP_le_length
    rw [List.length_map] at most
    exact most.trans_lt enough
  · exact ⟨fun reached => reached.mono fun _ _ _ loadable => loadable.1,
      fun reached => reached.mono fun _ _ signs shipped => ⟨shipped, signs.ca⟩⟩

end Search

/-- A leaf that can be read is inside the profile. -/
def InProfile (ssl : WolfSsl) (leafDer : Bytes) : Prop :=
  ∀ cert, ssl.parse leafDer = some cert → ssl.profileOk cert = true

theorem decoded_reader {ssl : WolfSsl} {der : Bytes} (nonempty : der.length ≠ 0) :
    decoded ssl.reader der = (ssl.parse der).map ProfiledCert.toDecodedCert := by
  rw [decoded, if_neg nonempty]
  rfl

/-- Inside the profile the host finds a path if there is one. -/
theorem x509VerifyChain_iff_hasPath {ssl : WolfSsl} {manager : CertManager} {loaded : manager.Store → List Bytes}
    (lawful : manager.Represents ssl.reader loaded) {calloc : Nat → Bool} (memory : ∀ count, calloc count = true)
    {leafDer : Bytes} (profile : InProfile ssl leafDer) (interDers : List Bytes) (anchorDer : Bytes) :
    x509VerifyChain ssl manager calloc leafDer interDers anchorDer = .ok ↔
      HasPath ssl.reader leafDer interDers anchorDer := by
  unfold x509VerifyChain HasPath
  by_cases leafEmpty : leafDer.length = 0
  · simp [leafEmpty, decoded]
  by_cases anchorEmpty : anchorDer.length = 0
  · simp [anchorEmpty, decoded]
  rw [if_neg (by simp [leafEmpty, anchorEmpty]), decoded_reader leafEmpty]
  cases read : ssl.parse leafDer with
  | none => simp
  | some leaf =>
    obtain ⟨empty, made, nothing⟩ := lawful.new
    dsimp only
    rw [if_neg (by simp [profile leaf read]), made]
    dsimp only
    cases result : manager.loadCaBuffer empty anchorDer with
    | none =>
      -- An anchor that cannot be loaded is no CA, so it signs nothing.
      refine iff_of_false (by simp) ?_
      rintro ⟨_, anchor, _, anchorRead, chained⟩
      have loads := (lawful.loads empty anchorDer).mpr ⟨anchor, anchorRead, chained.anchor_ca⟩
      rw [result] at loads
      cases loads
    | some store =>
      obtain ⟨anchor, anchorRead, _⟩ := (lawful.loads empty anchorDer).mp (by rw [result]; rfl)
      have only : loaded store = [anchorDer] := by rw [lawful.adds _ _ _ result, nothing, List.nil_append]
      dsimp only
      rw [if_neg (by simp [memory])]
      have leafRead : decoded ssl.reader leafDer = some leaf.toDecodedCert := by
        rw [decoded_reader leafEmpty, read, Option.map_some]
      refine (buildRounds_iff lawful interDers (anchorDer, anchor) anchorRead (leafDer, leaf.toDecodedCert)
        leafRead only (Nat.lt_succ_self _)).trans ?_
      rw [anchorRead]
      simp

/-- Host and device agree, and more rounds change nothing. -/
theorem x509VerifyChain_agrees (ssl : WolfSsl) (manager : CertManager) (loaded : manager.Store → List Bytes)
    (lawful : manager.Represents ssl.reader loaded) (calloc : Nat → Bool) (memory : ∀ count, calloc count = true)
    (leafDer : Bytes) (profile : InProfile ssl leafDer) (interDers : List Bytes)
    (few : interDers.length ≤ certparseMaxInter) :
    (∀ anchorDer, x509VerifyChain ssl manager calloc leafDer interDers anchorDer = .ok ↔
      certparseVerifyChain ssl.reader leafDer interDers anchorDer = .ok ()) ∧
    (∀ anchorDer anchor leaf store bound, decoded ssl.reader anchorDer = some anchor →
      decoded ssl.reader leafDer = some leaf → loaded store = [anchorDer] → interDers.length + 1 ≤ bound →
      (buildRounds manager leafDer bound (store, interDers.map fun der => ⟨der, false⟩) = .ok ↔
        buildRounds manager leafDer (interDers.length + 1) (store, interDers.map fun der => ⟨der, false⟩) = .ok)) ∧
    ∀ (readers : X509) (policy : TrustPolicy),
      tier3ChainValidate (wolfSslX509 ssl manager calloc readers) policy (leafDer :: interDers) = .ok ↔
        ∃ anchors, policy.trustStore = some anchors ∧
          ∃ anchorDer ∈ anchors, certparseVerifyChain ssl.reader leafDer interDers anchorDer = .ok () := by
  have agree (anchorDer : Bytes) : x509VerifyChain ssl manager calloc leafDer interDers anchorDer = .ok ↔
      certparseVerifyChain ssl.reader leafDer interDers anchorDer = .ok () := by
    rw [x509VerifyChain_iff_hasPath lawful memory profile, certparseVerifyChain_iff_hasPath _ _ _ few]
  refine ⟨agree, ?_, ?_⟩
  · intro anchorDer anchor leaf store bound anchorRead leafRead only enough
    rw [buildRounds_iff lawful interDers (anchorDer, anchor) anchorRead (leafDer, leaf) leafRead only enough,
      buildRounds_iff lawful interDers (anchorDer, anchor) anchorRead (leafDer, leaf) leafRead only
        (Nat.lt_succ_self _)]
  · intro readers policy
    unfold tier3ChainValidate
    rcases policy.trustStore with _ | _ | ⟨first, others⟩
    · simp
    · simp
    · have enough : (wolfSslX509 ssl manager calloc readers).calloc interDers.length = true := memory _
      simp only [enough, not_true_eq_false, and_false, if_false, Option.some.injEq, exists_eq_left', ← agree]
      split_ifs with found
      · simpa [wolfSslX509] using found
      · simpa [wolfSslX509] using found

/-- A manager that keeps the loaded certificates in a list. -/
def listManager (wolf : WolfReader) : CertManager where
  Store := List Bytes
  new := some []
  loadCaBuffer store der :=
    if (decoded wolf der).any DecodedCert.isCa then some (store ++ [der]) else none
  verifyBuffer store der := (decoded wolf der).any fun child =>
    store.any fun ca => (decoded wolf ca).any fun parent => signedBy wolf der child parent

theorem listManager_represents (wolf : WolfReader) : (listManager wolf).Represents wolf id where
  new := ⟨[], rfl, rfl⟩
  loads store der := by
    simp only [listManager]
    split_ifs with ca
    · simpa [Option.any_eq_true] using ca
    · simpa [Option.any_eq_true] using ca
  adds store der next result := by
    simp only [listManager] at result
    split_ifs at result
    exact (Option.some.inj result).symm
  verifies := fun (store : List Bytes) der => by
    simp only [listManager, Option.any_eq_true, List.any_eq_true, id]
    constructor
    · rintro ⟨child, childRead, ca, inside, parent, parentRead, signed⟩
      exact ⟨child, (ca, parent), childRead, parentRead, inside,
        (signedBy_iff wolf (der, child) (ca, parent)).mp signed⟩
    · rintro ⟨child, parent, childRead, parentRead, inside, signs⟩
      exact ⟨child, childRead, parent.1, inside, parent.2, parentRead,
        (signedBy_iff wolf (der, child) parent).mpr signs⟩

/-- The ladder of certificates, all inside the profile. -/
def ladderSsl : WolfSsl where
  parse der := (ladderReader.parseCert der).map fun cert => ⟨cert, 1, 2⟩
  checkCertSigPubKey := ladderReader.checkCertSigPubKey
  ctcSha256wEcdsa := 1
  ecdsak := 0
  eccSecp256r1 := 2

/-- The host finds the path among the same intermediates. -/
theorem ladderSsl_accepted :
    ladderIntermediates.length ≤ certparseMaxInter ∧ InProfile ladderSsl [1] ∧
      x509VerifyChain ladderSsl (listManager ladderSsl.reader) (fun _ => true) [1] ladderIntermediates [4] = .ok :=
  have profile : InProfile ladderSsl [1] := fun cert read => by
    obtain rfl := Option.some.inj read
    rfl
  ⟨by decide, profile,
    ((x509VerifyChain_agrees ladderSsl (listManager ladderSsl.reader) id (listManager_represents ladderSsl.reader)
      (fun _ => true) (fun _ => rfl) [1] profile ladderIntermediates (by decide)).1 [4]).mpr (by decide)⟩

end Cantil.Host
