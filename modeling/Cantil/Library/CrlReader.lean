import Cantil.Library.Calendar
import Cantil.Library.Crl

namespace Library.Crl
open Library.Der Library.Calendar

/-- What a strict reader finds in a list. -/
structure Reading where
  version : Nat
  issuer : Bytes
  thisUpdate : Int
  nextUpdate : Int
  /-- The serial numbers with the seconds of the revocations. -/
  entries : List (Nat × Int)
  number : Nat
  signature : Nat × Nat
  deriving DecidableEq, Repr

/-- The first element. Its length has the shortest form. -/
def takeElement (text : Bytes) : Option (Element × Bytes) := do
  let (tag, content, rest) ← readTlv text
  if tlv tag content ++ rest = text then some ((tag, content), rest) else none

def takeTagged (tag : UInt8) (text : Bytes) : Option (Bytes × Bytes) := do
  let ((found, content), rest) ← takeElement text
  if found = tag then some (content, rest) else none

/-- The content of an element that nothing follows. -/
def takeOnly (tag : UInt8) (text : Bytes) : Option Bytes := do
  let (content, rest) ← takeTagged tag text
  if rest = [] then some content else none

/-- A number without a sign, in its shortest form. -/
def takeInteger (text : Bytes) : Option (Nat × Bytes) := do
  let (content, rest) ← takeTagged 0x02 text
  if content = positive (minimalBytes (bigEndianValue content)) then some (bigEndianValue content, rest) else none

def takeTime (text : Bytes) : Option (Int × Bytes) := do
  let (element, rest) ← takeElement text
  let moment ← readTime element
  return (moment.unix, rest)

def takeEntry (element : Element) : Option (Nat × Int) := do
  let (serial, rest) ← takeInteger element.2
  let (date, rest) ← takeTime rest
  if element.1 = 0x30 ∧ rest = [] then some (serial, date) else none

/-- The entries may be missing, but their list is not empty. -/
def takeRevoked (text : Bytes) : Option (List (Nat × Int) × Bytes) :=
  match takeTagged 0x30 text with
  | none => some ([], text)
  | some (list, rest) => do
      let entries ← readAll list.length list
      if elements entries = list ∧ entries ≠ [] then return (← entries.mapM takeEntry, rest) else none

def takeNumber (text : Bytes) : Option Nat := do
  let extension ← takeOnly 0x30 (← takeOnly 0x30 text)
  let (oid, rest) ← takeTagged 0x06 extension
  let (number, rest) ← takeInteger (← takeOnly 0x04 rest)
  if oid = crlNumberOid ∧ rest = [] then some number else none

def takeSignature (text : Bytes) : Option (Nat × Nat) := do
  let (first, rest) ← takeInteger (← takeOnly 0x30 text)
  let (second, rest) ← takeInteger rest
  if rest = [] then some (first, second) else none

/-- Accepts the shortest forms only and nothing behind them. -/
def readStrictly (crl : Bytes) : Option Reading := do
  let (signed, behind) ← takeTagged 0x30 (← takeOnly 0x30 crl)
  let (algorithm, behind) ← takeTagged 0x30 behind
  let bits ← takeOnly 0x03 behind
  let (version, rest) ← takeInteger signed
  let (inner, rest) ← takeTagged 0x30 rest
  let (issuer, rest) ← takeTagged 0x30 rest
  let (thisUpdate, rest) ← takeTime rest
  let (nextUpdate, rest) ← takeTime rest
  let (entries, rest) ← takeRevoked rest
  let number ← takeNumber (← takeOnly 0xA0 rest)
  let signature ← takeSignature (bits.drop 1)
  if inner = algorithm ∧ bits.head? = some 0 then
    some ⟨version, issuer, thisUpdate, nextUpdate, entries, number, signature⟩
  else none

/-- Elements that a length of four octets is enough for. -/
def Fits (list : List Element) : Prop := (elements list).length < 2 ^ 32

variable {content : Bytes}

namespace Fits

variable {element : Element} {rest list : List Element}

theorem tail (fits : Fits (element :: rest)) : Fits rest := by
  rw [Fits, elements_cons, List.length_append] at fits
  exact Nat.lt_of_le_of_lt (Nat.le_add_left _ _) fits

variable {tag : UInt8}

theorem inside (fits : Fits ((tag, elements list) :: rest)) : Fits list :=
  fits_content fits List.mem_cons_self

theorem takeElement (fits : Fits (element :: rest)) :
    takeElement (elements (element :: rest)) = some (element, elements rest) := by
  simp [Crl.takeElement, readTlv_elements fits, ← elements_cons]

theorem takeTagged (fits : Fits ((tag, content) :: rest)) :
    takeTagged tag (elements ((tag, content) :: rest)) = some (content, elements rest) := by
  simp [Crl.takeTagged, fits.takeElement]

theorem takeOnly (fits : Fits [(tag, content)]) :
    takeOnly tag (elements [(tag, content)]) = some content := by
  simp [Crl.takeOnly, fits.takeTagged, elements_nil]

theorem takeInteger {value : Nat} (fits : Fits ((0x02, content) :: rest))
    (shortest : content = positive (minimalBytes value)) :
    takeInteger (elements ((0x02, content) :: rest)) = some (value, elements rest) := by
  subst shortest
  simp [Crl.takeInteger, fits.takeTagged, bigEndianValue_positive, bigEndianValue_minimalBytes]

theorem takeTime {seconds : Int} (fits : Fits (element :: rest))
    (read : (readTime element).map Moment.unix = some seconds) :
    takeTime (elements (element :: rest)) = some (seconds, elements rest) := by
  obtain ⟨moment, found, rfl⟩ := Option.map_eq_some_iff.mp read
  simp [Crl.takeTime, fits.takeElement, found]

end Fits

/-- The number in its shortest form, and the date of the second. -/
def Entry (entry : Bytes × Element) (value : Nat × Int) : Prop :=
  positive entry.1 = positive (minimalBytes value.1) ∧ (readTime entry.2).map Moment.unix = some value.2

theorem takeEntry_entryElement {entry : Bytes × Element} {value : Nat × Int} (holds : Entry entry value)
    (fits : Fits [(0x02, positive entry.1), entry.2]) : takeEntry (entryElement entry) = some value := by
  simp [takeEntry, entryElement, fits.takeInteger holds.1, fits.tail.takeTime holds.2, elements_nil]

variable {entries : List (Bytes × Element)} {values : List (Nat × Int)}

theorem mapM_takeEntry (hold : List.Forall₂ Entry entries values) (fits : Fits (entries.map entryElement)) :
    (entries.map entryElement).mapM takeEntry = some values := by
  induction hold with
  | nil => rfl
  | cons here _ ih => simp [takeEntry_entryElement here (Fits.inside fits), ih (Fits.tail fits)]

theorem takeRevoked_revoked
    (hold : List.Forall₂ Entry entries values) (fits : Fits (revoked entries ++ [(0xA0, content)])) :
    takeRevoked (elements (revoked entries ++ [(0xA0, content)])) = some (values, elements [(0xA0, content)]) := by
  unfold revoked at fits ⊢
  split_ifs with none
  · subst none
    cases hold
    simp [takeRevoked, takeTagged, Fits.takeElement fits]
  · rw [if_neg none, List.singleton_append] at fits
    simp [takeRevoked, Fits.takeTagged fits, readAll_elements (Fits.inside fits), none,
      mapM_takeEntry hold (Fits.inside fits)]

theorem takeNumber_extensions {number : Nat} (fits : Fits [(0xA0, extensions number)]) :
    takeNumber (extensions number) = some number := by
  have list := fits.inside
  have extension := list.inside.inside
  simp [takeNumber, extensions, list.takeOnly, list.inside.takeOnly, extension.takeTagged, extension.tail.takeOnly,
    extension.tail.inside.takeInteger rfl, elements_nil]

/-- The signature as two numbers. -/
def signatureElements (first second : Nat) : List Element :=
  [(0x30, elements [(0x02, positive (minimalBytes first)), (0x02, positive (minimalBytes second))])]

variable {first second : Nat}

theorem takeSignature_elements (fits : Fits (signatureElements first second)) :
    takeSignature (elements (signatureElements first second)) = some (first, second) := by
  have pair := fits.inside
  simp [takeSignature, signatureElements, Fits.takeOnly fits, pair.takeInteger rfl, pair.tail.takeInteger rfl,
    elements_nil]

theorem Contents.fields_eq (contents : Contents) : contents.fields = (0x02, [1]) :: (0x30, contents.algorithm) ::
    (0x30, contents.issuer) :: contents.thisUpdate :: contents.nextUpdate ::
    (revoked contents.entries ++ [(0xA0, extensions contents.number)]) := by
  simp [fields]

theorem bind_found {First Second : Type} {part : Option First} {next : First → Option Second} {value : First}
    {result : Second} (found : part = some value) (rest : next value = some result) :
    (part >>= next) = some result := by
  rw [found]
  exact rest

/-- A strict reader finds in an encoded list what was encoded. -/
theorem readStrictly_encode (contents : Contents) {thisUpdate nextUpdate : Int}
    (starts : (readTime contents.thisUpdate).map Moment.unix = some thisUpdate)
    (ends : (readTime contents.nextUpdate).map Moment.unix = some nextUpdate)
    (hold : List.Forall₂ Entry contents.entries values)
    (fits : (contents.encode (elements (signatureElements first second))).length < 2 ^ 32) :
    readStrictly (contents.encode (elements (signatureElements first second))) =
      some ⟨1, contents.issuer, thisUpdate, nextUpdate, values, contents.number, (first, second)⟩ := by
  obtain ⟨signature, text⟩ : ∃ signature, signature = elements (signatureElements first second) := ⟨_, rfl⟩
  rw [← text] at fits ⊢
  have outer : contents.encode signature = elements [(0x30, elements [(0x30, elements contents.fields),
      (0x30, contents.algorithm), (0x03, 0 :: signature)])] := by
    simp [Contents.encode, Contents.signedPart, elements_cons, elements_nil]
  have whole : Fits [(0x30, elements [(0x30, elements contents.fields),
      (0x30, contents.algorithm), (0x03, 0 :: signature)])] := by
    rw [Fits, ← outer]
    exact fits
  have body := whole.inside
  have signed := body.inside
  rw [Contents.fields_eq] at signed
  have bits : (0 :: signature).length < 2 ^ 32 := fits_content body.tail.tail List.mem_cons_self
  have signatureRead : takeSignature signature = some (first, second) := by
    rw [text] at bits ⊢
    exact takeSignature_elements (Nat.lt_trans (Nat.lt_succ_self _) bits)
  have one : ([1] : Bytes) = positive (minimalBytes 1) := by
    unfold minimalBytes
    rfl
  have behind := signed.tail.tail.tail.tail.tail
  have numbered : Fits [(0xA0, extensions contents.number)] := by
    rw [Fits, elements_append, List.length_append] at behind
    exact Nat.lt_of_le_of_lt (Nat.le_add_left _ _) behind
  rw [outer]
  refine bind_found whole.takeOnly (bind_found body.takeTagged (bind_found body.tail.takeTagged
    (bind_found body.tail.tail.takeOnly ?_)))
  rw [Contents.fields_eq]
  exact bind_found (signed.takeInteger one) (bind_found signed.tail.takeTagged (bind_found signed.tail.tail.takeTagged
    (bind_found (signed.tail.tail.tail.takeTime starts) (bind_found (signed.tail.tail.tail.tail.takeTime ends)
    (bind_found (takeRevoked_revoked hold behind) (bind_found numbered.takeOnly
    (bind_found (takeNumber_extensions numbered) (bind_found signatureRead (if_pos ⟨rfl, rfl⟩)))))))))

end Library.Crl
