import Cantil.Firmware.PlainBackend
import Mathlib.Data.List.Infix

namespace Cantil.Ca
open Library Library.Der

/-- One extension of a certificate. -/
structure Extension where
  oid : Bytes
  critical : Bool
  value : Bytes
  deriving DecidableEq

/-- What stands behind the identifier. -/
def Extension.behind (extension : Extension) : Bytes :=
  (if extension.critical then tlv 0x01 [0xFF] else []) ++ tlv 0x04 extension.value

def Extension.encode (extension : Extension) : Bytes := tlv 0x30 (tlv 0x06 extension.oid ++ extension.behind)

def encodeExtensions (list : List Extension) : Bytes := tlv 0x30 (list.flatMap Extension.encode)

/-- The extension binds a key. -/
def Extension.Binds (extension : Extension) (key : Bytes) : Prop :=
  extension.oid = oidSessionX25519 ∧ key.length = 32 ∧ extension.value = tlv 0x04 key

/-- The octets of the identifier are found nowhere else. -/
def OnlyAsIdentifier (list : List Extension) : Prop :=
  ∀ tail ∈ (encodeExtensions list).tails, oidSessionX25519 <+: tail →
    ∃ rest ∈ list.tails, ∃ extension ∈ rest.head?, extension.oid = oidSessionX25519 ∧
      tail.drop oidSessionX25519.length = extension.behind ++ rest.tail.flatMap Extension.encode

instance (list : List Extension) : Decidable (OnlyAsIdentifier list) := List.decidableBAll _ _

/-- The scan stops at the needle, or there is none. -/
theorem findBytes_cases {needle : Bytes} (nonempty : needle ≠ []) (hay : Bytes) :
    (∃ tail ∈ hay.tails, needle <+: tail ∧ findBytes needle hay = some (tail.drop needle.length)) ∨
      findBytes needle hay = none ∧ ∀ tail ∈ hay.tails, ¬ needle <+: tail := by
  induction hay with
  | nil => simp [findBytes, nonempty]
  | cons byte rest ih =>
    by_cases here : needle <+: byte :: rest
    · left
      exact ⟨byte :: rest, by simp, here, by rw [findBytes, if_pos (List.isPrefixOf_iff_prefix.mpr here)]⟩
    · rw [findBytes, if_neg (mt List.isPrefixOf_iff_prefix.mp here)]
      rcases ih with ⟨tail, inside, occurs, found⟩ | ⟨absent, nowhere⟩
      · exact .inl ⟨tail, by simp [inside], occurs, found⟩
      · exact .inr ⟨absent, by simpa using ⟨here, by simpa using nowhere⟩⟩

section Lists

variable {list : List Extension} {extension : Extension} {key : Bytes}

theorem suffix_tlv (tag : UInt8) (content : Bytes) : content <:+ tlv tag content :=
  (List.suffix_append _ _).trans (List.suffix_cons _ _)

theorem identifier_occurs (inside : extension ∈ list) (binds : extension.oid = oidSessionX25519) :
    ∃ tail ∈ (encodeExtensions list).tails, oidSessionX25519 <+: tail := by
  obtain ⟨before, after, rfl⟩ := List.append_of_mem inside
  have own : oidSessionX25519 ++ extension.behind <:+ extension.encode := by
    rw [Extension.encode, binds]
    refine List.IsSuffix.trans ?_ (suffix_tlv _ _)
    exact List.suffix_append [0x06, 0x0A] _
  obtain ⟨front, whole⟩ := own
  refine ⟨oidSessionX25519 ++ extension.behind ++ after.flatMap Extension.encode, ?_, by simp⟩
  rw [List.mem_tails]
  refine List.IsSuffix.trans ⟨before.flatMap Extension.encode ++ front, ?_⟩ (suffix_tlv _ _)
  simp [← whole]

/-- Behind the identifier the scan comes to the key. -/
theorem findBytes_behind (binds : extension.Binds key) (rest : Bytes) :
    findBytes [0x04, 0x20] (extension.behind ++ rest) = some (key ++ rest) := by
  obtain ⟨_, length, value⟩ := binds
  have inner : tlv 0x04 key = 0x04 :: 0x20 :: key := by rw [tlv, length]; rfl
  have outer : tlv 0x04 extension.value = 0x04 :: 0x22 :: 0x04 :: 0x20 :: key := by
    rw [value, inner, tlv, List.length_cons, List.length_cons, length]
    rfl
  rw [Extension.behind, outer]
  cases extension.critical <;> rfl

end Lists

/-- The binding, and the restriction to the authority. -/
def boundList : List Extension :=
  [⟨[0x55, 0x1D, 0x13], true, tlv 0x30 []⟩, ⟨oidSessionX25519, false, tlv 0x04 (List.replicate 32 7)⟩]

/-- Another extension that repeats the octets is taken. -/
def quoting : List Extension :=
  [⟨[0x55, 0x1D, 0x0E], false, tlv 0x04 (oidSessionX25519 ++ [0x04, 0x20] ++ List.replicate 32 9)⟩]

/-- An extension of the right kind whose octet string is too long. -/
def missized : List Extension :=
  [⟨oidSessionX25519, false, tlv 0x04 ([0x04, 0x20] ++ List.replicate 32 9)⟩]

end Cantil.Ca
