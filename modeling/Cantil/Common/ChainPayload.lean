import Cantil.Common.ChainBuffer
import Mathlib.Algebra.BigOperators.Group.List.Basic

namespace Cantil.Cbor
open Library

/-- The octets of one byte string item. -/
def bstrBytes (data : Bytes) : Bytes := headBytes mtBstr data.length ++ data

/-- The map with the certificates, from the leaf on. -/
def chainBytes (certs : List Bytes) : Bytes :=
  headBytes mtMap 1 ++ (headBytes mtUint sessionCborKeyChain.toNat ++
    (headBytes mtArray certs.length ++ certs.flatMap bstrBytes))

/-- Head and certificates are written whole or not at all. -/
theorem emitCerts_appends (max : Nat) (certs : List Bytes) :
    Appends max (fun out => certs.foldlM (emitBstr max) out) (certs.flatMap bstrBytes) := by
  induction certs with
  | nil =>
    intro out room
    have within : ¬ out.length + ([] : Bytes).length > max := by simpa using room
    rw [List.flatMap_nil, emitBytes, if_neg within, List.append_nil]
    rfl
  | cons cert rest ih => exact (emitBstr_appends max cert).andThen ih

/-- The map is written whole, or it does not fit. -/
theorem emitChain_eq_ok {max : Nat} {certs : List Bytes} {payload : Bytes} :
    (do
      let out ← emitHead max [] mtMap 1
      let out ← emitHead max out mtUint sessionCborKeyChain.toNat
      let out ← emitHead max out mtArray certs.length
      certs.foldlM (emitBstr max) out) = .ok payload ↔ payload = chainBytes certs ∧ payload.length ≤ max := by
  have whole := (emitHead_appends max mtMap 1).andThen ((emitHead_appends max mtUint sessionCborKeyChain.toNat).andThen
    ((emitHead_appends max mtArray certs.length).andThen (emitCerts_appends max certs))) [] (Nat.zero_le max)
  dsimp only at whole
  rw [whole, emitBytes, List.length_nil, Nat.zero_add, ← chainBytes]
  split_ifs with long
  · simp only [false_iff]
    rintro ⟨rfl, fits⟩
    omega
  · simp only [Except.ok.injEq]
    constructor
    · rintro rfl
      exact ⟨rfl, Nat.not_lt.mp long⟩
    · rintro ⟨rfl, _⟩
      rfl

/-- Major types leave the low five bits free. -/
def Major (major : UInt8) : Prop := major ∈ [mtUint, mtBstr, mtTstr, mtArray, mtMap]

instance (major : UInt8) : Decidable (Major major) :=
  inferInstanceAs (Decidable (major ∈ [mtUint, mtBstr, mtTstr, mtArray, mtMap]))

variable {major : UInt8} {value sizeBits : Nat}

theorem Major.split (known : Major major) {low : Nat} (small : low < 32) :
    (major ||| UInt8.ofNat low) &&& 0xE0 = major ∧ (major ||| UInt8.ofNat low) &&& 0x1F = UInt8.ofNat low := by
  have all : ∀ low < 32, ∀ major ∈ [mtUint, mtBstr, mtTstr, mtArray, mtMap],
      (major ||| UInt8.ofNat low) &&& 0xE0 = major ∧ (major ||| UInt8.ofNat low) &&& 0x1F = UInt8.ofNat low := by
    decide +kernel
  exact all low small major known

/-- A head with a field behind its first octet is read back. -/
theorem readHead_wide (known : Major major) {code width : Nat}
    (choice : (code, width) ∈ [(24, 1), (25, 2), (26, 4), (27, 8)]) (fits : value < 256 ^ width) (before rest : Bytes) :
    readHead (before ++ ((major ||| UInt8.ofNat code) :: bigEndian width value) ++ rest) before.length =
      .ok (major, value, before.length + 1 + width) := by
  have small : code < 32 := by
    have all : ∀ pair ∈ [(24, 1), (25, 2), (26, 4), (27, 8)], pair.1 < 32 := by decide
    exact all (code, width) choice
  have found : (before ++ ((major ||| UInt8.ofNat code) :: bigEndian width value) ++ rest)[before.length]? =
      some (major ||| UInt8.ofNat code) := by simp
  have field : ((before ++ ((major ||| UInt8.ofNat code) :: bigEndian width value) ++ rest).drop
      (before.length + 1)).take width = bigEndian width value := by
    have shape : before ++ ((major ||| UInt8.ofNat code) :: bigEndian width value) ++ rest =
        (before ++ [major ||| UInt8.ofNat code]) ++ (bigEndian width value ++ rest) := by simp
    rw [shape, List.drop_left' (by simp), List.take_left' (bigEndian_length width value)]
  have room : ¬ before.length + 1 + width >
      (before ++ ((major ||| UInt8.ofNat code) :: bigEndian width value) ++ rest).length := by
    simp only [List.length_append, List.length_cons, bigEndian_length]
    omega
  obtain ⟨majorBits, lowBits⟩ := known.split small
  unfold readHead
  rw [found]
  dsimp only
  rw [majorBits, lowBits]
  simp only [List.mem_cons, Prod.mk.injEq, List.not_mem_nil, or_false] at choice
  rcases choice with ⟨rfl, rfl⟩ | ⟨rfl, rfl⟩ | ⟨rfl, rfl⟩ | ⟨rfl, rfl⟩
  · rw [if_neg (by decide), if_pos (by decide), if_neg room, field, bigEndianValue_bigEndian_of_lt fits]
  · rw [if_neg (by decide), if_neg (by decide), if_pos (by decide), if_neg room, field,
      bigEndianValue_bigEndian_of_lt fits]
  · rw [if_neg (by decide), if_neg (by decide), if_neg (by decide), if_pos (by decide), if_neg room, field,
      bigEndianValue_bigEndian_of_lt fits]
  · rw [if_neg (by decide), if_neg (by decide), if_neg (by decide), if_neg (by decide), if_pos (by decide), if_neg room,
      field, bigEndianValue_bigEndian_of_lt fits]

theorem readHead_narrow (known : Major major) (small : value < 24) (before rest : Bytes) :
    readHead (before ++ [major ||| UInt8.ofNat value] ++ rest) before.length =
      .ok (major, value, before.length + 1) := by
  have found : (before ++ [major ||| UInt8.ofNat value] ++ rest)[before.length]? =
      some (major ||| UInt8.ofNat value) := by simp
  obtain ⟨majorBits, lowBits⟩ := known.split (by omega : value < 32)
  have size : (UInt8.ofNat value).toNat = value := UInt8.toNat_ofNat_of_lt' (lt_trans small (by decide))
  have low : UInt8.ofNat value < 24 := by
    rw [UInt8.lt_iff_toNat_lt, size]
    exact small
  unfold readHead
  rw [found]
  dsimp only
  rw [majorBits, lowBits, if_pos low, size]

/-- A head is read back wherever it stands. -/
theorem readHead_headBytes (known : Major major) (small : value < 2 ^ 64) (before rest : Bytes) :
    readHead (before ++ headBytes major value ++ rest) before.length =
      .ok (major, value, before.length + (headBytes major value).length) := by
  unfold headBytes
  split_ifs with narrow one two four
  · exact readHead_narrow known narrow before rest
  · exact readHead_wide known (by decide) one before rest
  · exact readHead_wide known (by decide) two before rest
  · exact readHead_wide known (by decide) four before rest
  · exact readHead_wide known (by decide) small before rest

/-! What the payload carries, in unbounded arithmetic. -/

/-- A byte string inside the payload, and its end. -/
def chainItem (pt : Bytes) (off : Nat) : Option (Bytes × Nat) :=
  match readHead pt off with
  | .ok (major, value, next) =>
    if major = mtBstr ∧ next + value ≤ pt.length then some ((pt.drop next).take value, next + value) else none
  | .error _ => none

/-- The byte strings of an array of this many items. -/
def chainItems (pt : Bytes) : (count off : Nat) → Option (List Bytes)
  | 0, _ => some []
  | count + 1, off => do
      let (item, off) ← chainItem pt off
      let rest ← chainItems pt count off
      return item :: rest

variable {pt item : Bytes} {off stop : Nat}

theorem chainItem_eq_some :
    chainItem pt off = some (item, stop) ↔ ∃ next, readHead pt off = .ok (mtBstr, item.length, next) ∧
      stop = next + item.length ∧ stop ≤ pt.length ∧ (pt.drop next).take item.length = item := by
  unfold chainItem
  constructor
  · intro found
    rcases head : readHead pt off with error | ⟨major, value, next⟩
    · rw [head] at found
      cases found
    · rw [head] at found
      dsimp only at found
      split_ifs at found with string
      obtain ⟨rfl, rfl⟩ := Prod.mk.inj (Option.some.inj found)
      obtain ⟨rfl, inside⟩ := string
      have size : ((pt.drop next).take value).length = value := by
        rw [List.length_take, List.length_drop]
        omega
      exact ⟨next, by rw [size], by rw [size], inside, by rw [size]⟩
  · rintro ⟨next, head, rfl, inside, octets⟩
    rw [head]
    dsimp only
    rw [if_pos ⟨rfl, inside⟩, octets]

/-- An item of the payload is read as it is. -/
theorem readBstr_of_item (fits : pt.length < 2 ^ sizeBits) (narrow : pt.length < 2 ^ 64)
    (found : chainItem pt off = some (item, stop)) :
    ∃ next, readBstr sizeBits pt off = .ok (⟨next, item.length⟩, stop) ∧ next + item.length ≤ pt.length ∧
      (pt.drop next).take item.length = item := by
  obtain ⟨next, head, rfl, inside, octets⟩ := chainItem_eq_some.mp found
  refine ⟨next, ?_, inside, octets⟩
  have short : (next + item.length) % 2 ^ 64 = next + item.length := Nat.mod_eq_of_lt (by omega)
  have size : item.length % 2 ^ sizeBits = item.length := Nat.mod_eq_of_lt (by omega)
  have last : (next + item.length) % 2 ^ sizeBits = next + item.length := Nat.mod_eq_of_lt (by omega)
  simp only [readBstr, head, bind, Except.bind, ne_eq, not_true_eq_false, if_false, short,
    if_neg (Nat.not_lt.mpr inside), size, last]
  rfl

/-- The byte strings of an array are the ones that were written. -/
theorem chainItems_bstrBytes (certs : List Bytes) (before : Bytes)
    (small : (before ++ certs.flatMap bstrBytes).length < 2 ^ 64) :
    chainItems (before ++ certs.flatMap bstrBytes) certs.length before.length = some certs := by
  induction certs generalizing before with
  | nil => rfl
  | cons cert rest ih =>
    have shape : before ++ (cert :: rest).flatMap bstrBytes =
        before ++ headBytes mtBstr cert.length ++ (cert ++ rest.flatMap bstrBytes) := by
      simp only [List.flatMap_cons, bstrBytes, List.append_assoc]
    have behind : before ++ (cert :: rest).flatMap bstrBytes = before ++ bstrBytes cert ++ rest.flatMap bstrBytes := by
      rw [List.flatMap_cons, List.append_assoc]
    have sized : (before ++ bstrBytes cert).length =
        before.length + (headBytes mtBstr cert.length).length + cert.length := by
      simp only [bstrBytes, List.length_append, Nat.add_assoc]
    have inside : cert.length ≤ (before ++ (cert :: rest).flatMap bstrBytes).length := by
      simp only [shape, List.length_append]
      omega
    have first : chainItem (before ++ (cert :: rest).flatMap bstrBytes) before.length =
        some (cert, (before ++ bstrBytes cert).length) := by
      refine chainItem_eq_some.mpr ⟨_, ?_, sized, ?_, ?_⟩
      · rw [shape]
        exact readHead_headBytes (by decide) (lt_of_le_of_lt inside small) before _
      · rw [behind]
        exact (List.prefix_append _ _).length_le
      · rw [shape, ← List.length_append, List.drop_left, List.take_left]
    rw [List.length_cons, chainItems, first]
    rw [behind] at small ⊢
    show (chainItems _ rest.length _ >>= fun others => some (cert :: others)) = _
    rw [ih _ small]
    rfl

/-- The certificate loop takes every item that it has room for. -/
theorem collectCerts_items {maxCerts maxTotal : Nat} (fits : pt.length < 2 ^ sizeBits) (narrow : pt.length < 2 ^ 64)
    (room : maxTotal < 2 ^ sizeBits) (remaining : Nat) :
    ∀ off total items certs, chainItems pt remaining off = some items → certs.length ≤ maxCerts →
      total + (items.map List.length).sum ≤ maxTotal →
      collectCerts sizeBits maxCerts maxTotal pt remaining off total certs = (certs ++ items).take maxCerts := by
  induction remaining with
  | zero =>
    intro off total items certs all few _
    obtain rfl := Option.some.inj all
    rw [List.append_nil, List.take_of_length_le few]
    rfl
  | succ remaining ih =>
    intro off total items certs all few small
    simp only [chainItems, bind, Option.bind_eq_some_iff] at all
    obtain ⟨⟨item, stop⟩, found, rest, behind, same⟩ := all
    obtain rfl := Option.some.inj same
    obtain ⟨next, read, inside, octets⟩ := readBstr_of_item fits narrow found
    rw [List.map_cons, List.sum_cons] at small
    dsimp only at small
    have grown : (total + item.length) % 2 ^ sizeBits = total + item.length := Nat.mod_eq_of_lt (by omega)
    rw [collectCerts, read]
    dsimp only
    have whole : item.length ≤ (pt.drop next).length := by
      rw [List.length_drop]
      omega
    rw [grown, Span.bytes, List.takeD_eq_take _ whole, octets]
    by_cases full : certs.length ≥ maxCerts
    · rw [if_pos full, List.take_append_of_le_length (by omega), List.take_of_length_le few]
    · rw [if_neg full, if_neg (by omega), ih stop (total + item.length) rest (certs ++ [item]) behind
        (by rw [List.length_append, List.length_singleton]; omega) (by omega), List.append_assoc]
      rfl

theorem certs_le_flatMap (certs : List Bytes) : certs.length ≤ (certs.flatMap bstrBytes).length := by
  induction certs with
  | nil => exact Nat.zero_le _
  | cons cert rest ih =>
    have head := headBytes_length_pos mtBstr cert.length
    simp only [List.flatMap_cons, bstrBytes, List.length_append, List.length_cons]
    omega

theorem certs_sum_le (certs : List Bytes) : (certs.map List.length).sum ≤ (certs.flatMap bstrBytes).length := by
  induction certs with
  | nil => exact Nat.zero_le _
  | cons cert rest ih =>
    simp only [List.map_cons, List.sum_cons, List.flatMap_cons, bstrBytes, List.length_append]
    omega

/-- The array of the payload stands behind three heads. -/
theorem chainArray_chainBytes (wide : 0 < sizeBits) {certs : List Bytes} (count : certs.length < 2 ^ 64) :
    ∃ heads, chainBytes certs = heads ++ certs.flatMap bstrBytes ∧
      chainArray sizeBits (chainBytes certs) = some (certs.length, heads.length) := by
  let heads := headBytes mtMap 1 ++ headBytes mtUint sessionCborKeyChain.toNat ++ headBytes mtArray certs.length
  have shape : chainBytes certs = heads ++ certs.flatMap bstrBytes := by
    simp only [chainBytes, heads, List.append_assoc]
  have map : readHead (chainBytes certs) 0 = .ok (mtMap, 1, 1) :=
    readHead_headBytes (by decide : Major mtMap) (by decide : 1 < 2 ^ 64) [] _
  have key : readUint32 (chainBytes certs) 1 = .ok (sessionCborKeyChain, 2) := by
    have head : readHead (chainBytes certs) 1 = .ok (mtUint, 1, 2) :=
      readHead_headBytes (by decide : Major mtUint) (by decide : 1 < 2 ^ 64) (headBytes mtMap 1) _
    rfl
  have array : readHead (chainBytes certs) 2 = .ok (mtArray, certs.length, heads.length) := by
    have head := readHead_headBytes (by decide : Major mtArray) count
      (headBytes mtMap 1 ++ headBytes mtUint sessionCborKeyChain.toNat) (certs.flatMap bstrBytes)
    rw [← List.length_append] at head
    exact head
  have filled : ¬ (chainBytes certs).length = 0 := by
    have head := headBytes_length_pos mtMap 1
    simp only [chainBytes, List.length_append]
    omega
  have one : 1 % 2 ^ sizeBits = 1 := Nat.mod_eq_of_lt (Nat.one_lt_two_pow (by omega))
  refine ⟨heads, shape, ?_⟩
  simp only [chainArray, if_neg filled, map, key, array, bind, Option.bind, Except.toOption]
  rw [if_neg (by rw [one]; decide)]
  rfl

/-- The payload gives back the certificates it was made of. -/
theorem parseChain_chainBytes (wide : 32 ≤ sizeBits) (maxCerts maxTotal : Nat) (certs : List Bytes)
    (room : (chainBytes certs).length ≤ maxTotal) (narrow : maxTotal < 2 ^ 32) :
    parseChain sizeBits maxCerts maxTotal (chainBytes certs) = certs.take maxCerts := by
  have spread : (2 : Nat) ^ 32 ≤ 2 ^ sizeBits := Nat.pow_le_pow_right (by decide) wide
  have items := certs_le_flatMap certs
  have total := certs_sum_le certs
  have behind : (certs.flatMap bstrBytes).length ≤ (chainBytes certs).length := by
    simp only [chainBytes, List.length_append]
    omega
  obtain ⟨heads, shape, array⟩ := chainArray_chainBytes (by omega : 0 < sizeBits) (by omega : certs.length < 2 ^ 64)
  rw [parseChain_eq, array]
  dsimp only
  rw [Nat.mod_eq_of_lt (by omega)]
  rw [shape] at room behind ⊢
  exact collectCerts_items (by omega) (by omega) (by omega) certs.length heads.length 0 certs []
    (chainItems_bstrBytes certs heads (by omega)) (Nat.zero_le _) (by omega)

end Cantil.Cbor
