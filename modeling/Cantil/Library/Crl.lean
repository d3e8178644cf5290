import Cantil.Library.Der

namespace Library.Crl
open Library.Der

/-- A tag with the content of its element. -/
abbrev Element := UInt8 × Bytes

/-- The elements one after the other. -/
def elements (list : List Element) : Bytes := list.flatMap fun element => tlv element.1 element.2

/-- What a revocation list says. -/
structure Contents where
  algorithm : Bytes
  issuer : Bytes
  thisUpdate : Element
  nextUpdate : Element
  /-- Each serial number with its time of revocation. -/
  entries : List (Bytes × Element)
  number : Nat

def crlNumberOid : Bytes := [0x55, 0x1D, 0x14]

def entryElement (entry : Bytes × Element) : Element :=
  (0x30, elements [(0x02, positive entry.1), entry.2])

/-- The extensions hold the number of the list. -/
def extensions (number : Nat) : Bytes :=
  elements [(0x30, elements [(0x30,
    elements [(0x06, crlNumberOid), (0x04, elements [(0x02, positive (minimalBytes number))])])])]

/-- The list of the entries is left out when it is empty. -/
def revoked (entries : List (Bytes × Element)) : List Element :=
  if entries = [] then [] else [(0x30, elements (entries.map entryElement))]

def Contents.fields (contents : Contents) : List Element :=
  [(0x02, [1]), (0x30, contents.algorithm), (0x30, contents.issuer), contents.thisUpdate,
    contents.nextUpdate] ++ revoked contents.entries ++ [(0xA0, extensions contents.number)]

/-- The part of the list that is signed. -/
def Contents.signedPart (contents : Contents) : Bytes := tlv 0x30 (elements contents.fields)

def Contents.encode (contents : Contents) (signature : Bytes) : Bytes :=
  tlv 0x30 (contents.signedPart ++ elements [(0x30, contents.algorithm), (0x03, 0 :: signature)])

/-- What a client takes out of a list: serials and number. -/
structure View where
  serials : List Nat
  number : Nat
  deriving DecidableEq, Repr

def readNumber (text : Bytes) : Option Nat := do
  let (_, list, _) ← readTlv text
  let (_, extension, _) ← readTlv list
  let (_, oid, rest) ← readTlv extension
  let (_, value, _) ← readTlv rest
  let (_, integer, _) ← readTlv value
  if oid = crlNumberOid then some (bigEndianValue integer) else none

def readEntry (element : Element) : Option Nat := do
  let (tag, integer, _) ← readTlv element.2
  if tag = 0x02 then some (bigEndianValue integer) else none

def readFields : List Element → Option View
  | [(0xA0, text)] => do return ⟨[], ← readNumber text⟩
  | [(0x30, list), (0xA0, text)] => do
      let entries ← readAll list.length list
      return ⟨← entries.mapM readEntry, ← readNumber text⟩
  | _ => none

/-- The reader skips the five fields in front and the signature. -/
def read (crl : Bytes) : Option View := do
  let (_, body, _) ← readTlv crl
  let (_, signed, _) ← readTlv body
  let fields ← readAll signed.length signed
  readFields (fields.drop 5)

theorem length_le_tlv (tag : UInt8) (content : Bytes) : content.length + 2 ≤ (tlv tag content).length := by
  have header : 1 ≤ (lengthBytes content.length).length := by
    unfold lengthBytes
    split_ifs <;> simp
  simp only [tlv, List.length_cons, List.length_append]
  omega

theorem elements_nil : elements [] = [] := rfl

theorem elements_cons (element : Element) (rest : List Element) :
    elements (element :: rest) = tlv element.1 element.2 ++ elements rest := List.flatMap_cons

theorem elements_append (first second : List Element) :
    elements (first ++ second) = elements first ++ elements second := List.flatMap_append

variable {list : List Element} {element : Element}

/-- An element takes more room than its content. -/
theorem length_lt_elements (held : element ∈ list) :
    element.2.length < (elements list).length := by
  induction list with
  | nil => cases held
  | cons first rest ih =>
    have here := length_le_tlv first.1 first.2
    rw [elements_cons, List.length_append]
    rcases List.mem_cons.mp held with rfl | later
    · omega
    · have := ih later
      omega

theorem length_le_elements (list : List Element) : list.length ≤ (elements list).length := by
  induction list with
  | nil => exact Nat.le_refl 0
  | cons first rest ih =>
    have here := length_le_tlv first.1 first.2
    rw [elements_cons, List.length_append, List.length_cons]
    omega

/-- Elements that fit are read back. -/
theorem readAll_elements (fits : (elements list).length < 2 ^ 32) :
    readAll (elements list).length (elements list) = some list :=
  readAll_flatMap list _ (length_le_elements list)
    fun _ held => Nat.lt_trans (length_lt_elements held) fits

/-- The first element is read, with the others behind it. -/
theorem readTlv_elements {rest : List Element}
    (fits : (elements (element :: rest)).length < 2 ^ 32) :
    readTlv (elements (element :: rest)) = some (element.1, element.2, elements rest) := by
  exact readTlv_tlv element.1 (elements rest)
    (Nat.lt_trans (length_lt_elements (List.mem_cons_self (l := rest))) fits)

/-- The content of an element of a text that fits, fits. -/
theorem fits_content (fits : (elements list).length < 2 ^ 32) (held : element ∈ list) : element.2.length < 2 ^ 32 :=
  Nat.lt_trans (length_lt_elements held) fits

variable {number : Nat}

theorem readNumber_extensions (fits : (extensions number).length < 2 ^ 32) :
    readNumber (extensions number) = some number := by
  have list := fits_content fits List.mem_cons_self
  have extension := fits_content list List.mem_cons_self
  have value := fits_content extension (List.mem_cons_of_mem _ List.mem_cons_self)
  have tail : (elements [(0x04, elements [(0x02, positive (minimalBytes number))])]).length < 2 ^ 32 := by
    refine Nat.lt_of_le_of_lt ?_ extension
    rw [elements_cons (0x06, _), List.length_append]
    exact Nat.le_add_left _ _
  simp only [readNumber, extensions, readTlv_elements fits, readTlv_elements list,
    readTlv_elements extension, readTlv_elements tail, readTlv_elements value, Option.bind_eq_bind,
    Option.bind_some]
  simp [bigEndianValue_positive, bigEndianValue_minimalBytes]

theorem readEntry_entryElement {entry : Bytes × Element}
    (fits : (entryElement entry).2.length < 2 ^ 32) :
    readEntry (entryElement entry) = some (bigEndianValue entry.1) := by
  simp [readEntry, entryElement, readTlv_elements fits, bigEndianValue_positive]

variable {entries : List (Bytes × Element)}

theorem mapM_readEntry (fits : (elements (entries.map entryElement)).length < 2 ^ 32) :
    (entries.map entryElement).mapM readEntry = some (entries.map fun entry => bigEndianValue entry.1) := by
  induction entries with
  | nil => rfl
  | cons entry rest ih =>
    have here := fits_content fits List.mem_cons_self
    have later : (elements (rest.map entryElement)).length < 2 ^ 32 := by
      rw [List.map_cons, elements_cons, List.length_append] at fits
      omega
    rw [List.map_cons, List.mapM_cons, readEntry_entryElement here, ih later]
    rfl

theorem readFields_revoked (fits : (elements (revoked entries ++ [(0xA0, extensions number)])).length < 2 ^ 32) :
    readFields (revoked entries ++ [(0xA0, extensions number)]) =
      some ⟨entries.map fun entry => bigEndianValue entry.1, number⟩ := by
  have numberFits := fits_content fits (List.mem_append_right _ List.mem_cons_self)
  unfold revoked at fits ⊢
  split_ifs with none
  · subst none
    simp [readFields, readNumber_extensions numberFits]
  · rw [if_neg none] at fits
    have listFits := fits_content fits List.mem_cons_self
    simp [readFields, readAll_elements listFits, mapM_readEntry listFits, readNumber_extensions numberFits]

/-- A list that was encoded is read back. -/
theorem read_encode (contents : Contents) (signature : Bytes)
    (fits : (contents.encode signature).length < 2 ^ 32) :
    read (contents.encode signature) =
      some ⟨contents.entries.map fun entry => bigEndianValue entry.1, contents.number⟩ := by
  have bodyFits : (contents.signedPart ++
      elements [(0x30, contents.algorithm), (0x03, 0 :: signature)]).length < 2 ^ 32 :=
    Nat.lt_of_le_of_lt (Nat.le_of_add_right_le (length_le_tlv _ _)) fits
  have signedFits : (elements contents.fields).length < 2 ^ 32 := by
    have inside := length_le_tlv 0x30 (elements contents.fields)
    rw [List.length_append, Contents.signedPart] at bodyFits
    omega
  have tailFits : (elements (revoked contents.entries ++ [(0xA0, extensions contents.number)])).length <
      2 ^ 32 := by
    rw [Contents.fields, List.append_assoc, elements_append, List.length_append] at signedFits
    omega
  have outer : readTlv (contents.encode signature) = some (0x30, contents.signedPart ++
      elements [(0x30, contents.algorithm), (0x03, 0 :: signature)], []) := by
    simpa [Contents.encode] using readTlv_tlv 0x30 [] bodyFits
  have inner : readTlv (contents.signedPart ++
      elements [(0x30, contents.algorithm), (0x03, 0 :: signature)]) = some (0x30, elements contents.fields,
        elements [(0x30, contents.algorithm), (0x03, 0 :: signature)]) :=
    readTlv_tlv 0x30 _ signedFits
  simp only [read, outer, inner, Option.bind_eq_bind, Option.bind_some, readAll_elements signedFits]
  exact readFields_revoked tailFits

end Library.Crl
