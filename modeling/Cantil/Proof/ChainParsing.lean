import Cantil.Common.CborDecode
import Cantil.Firmware.Pairing
import Cantil.Host.Session

namespace Cantil.Cbor
open Library

section Payload

variable {pt : Bytes} {off stop sizeBits : Nat}

/-- What is read where no item stands has a huge length. -/
theorem readBstr_of_no_item (size : sizeBits = 32 ∨ sizeBits = 64) (object : pt.length < 2 ^ (sizeBits - 1))
    (missing : chainItem pt off = none) {span : Span} (read : readBstr sizeBits pt off = .ok (span, stop)) :
    2 ^ (sizeBits - 1) < span.length ∧ span.length < 2 ^ sizeBits := by
  unfold readBstr at read
  unfold chainItem at missing
  rcases head : readHead pt off with error | ⟨major, value, next⟩
  · rw [head] at read
    cases read
  · obtain ⟨_, within, small⟩ := readHead_bounds head
    rw [head] at missing
    simp only [head, bind, Except.bind] at read
    dsimp only at missing
    split_ifs at read with other passes
    split_ifs at missing with inside
    obtain ⟨rfl, rfl⟩ := Prod.mk.inj (Except.ok.inj read)
    have beyond : ¬ next + value ≤ pt.length := fun within => inside ⟨not_not.mp other, within⟩
    dsimp only
    rcases size with rfl | rfl
    · omega
    · omega

/-- Half the address space is below all of it. -/
theorem lt_sizes_of_half (size : sizeBits = 32 ∨ sizeBits = 64) {count : Nat} (half : count < 2 ^ (sizeBits - 1)) :
    count < 2 ^ sizeBits ∧ count < 2 ^ 64 := by
  rcases size with rfl | rfl
  · omega
  · omega

end Payload

/-! The spans that the loop records. -/

section Spans

/-- The spans lie behind each other without gaps. -/
def Laid : (start : Nat) → List Span → (stop : Nat) → Prop
  | start, [], stop => start = stop
  | start, span :: rest, stop => span.start = start ∧ Laid (start + span.length) rest stop

variable {start stop : Nat} {spans : List Span}

variable (laid : Laid start spans stop)
include laid

theorem Laid.snoc (length : Nat) : Laid start (spans ++ [⟨stop, length⟩]) (stop + length) := by
  induction spans generalizing start with
  | nil =>
    obtain rfl : start = stop := laid
    exact ⟨rfl, rfl⟩
  | cons span rest ih => exact ⟨laid.1, ih laid.2⟩

theorem Laid.total : start + (spans.map Span.length).sum = stop := by
  induction spans generalizing start with
  | nil => exact laid
  | cons span rest ih =>
    have behind := ih laid.2
    rw [List.map_cons, List.sum_cons]
    omega

theorem Laid.bounds {span : Span} (member : span ∈ spans) : start ≤ span.start ∧ span.start + span.length ≤ stop := by
  induction spans generalizing start with
  | nil => cases member
  | cons first rest ih =>
    rcases List.mem_cons.mp member with rfl | later
    · have behind := laid.2.total
      have here := laid.1
      omega
    · have behind := ih laid.2 later
      omega

theorem Laid.apart : spans.Pairwise fun first second => first.start + first.length ≤ second.start := by
  induction spans generalizing start with
  | nil => exact List.Pairwise.nil
  | cons span rest ih =>
    apply List.pairwise_cons.mpr
    refine ⟨?_, ih laid.2⟩
    intro second member
    have behind := laid.2.bounds member
    have here := laid.1
    omega

end Spans

section Loop

variable {pt : Bytes} {beyond : Memory} {sizeBits maxCerts maxTotal : Nat}

/-- Another certificate is copied behind the ones that are there. -/
theorem contents_snoc {record : RecordedChain} (laid : Laid 0 record.certs record.total) {next : Nat} {item : Bytes}
    (inside : next + item.length ≤ pt.length) (octets : (pt.drop next).take item.length = item) (total : Nat) :
    RecordedChain.contents
      { chain := record.chain.copy record.total (beyond.store 0 pt) next item.length
        certs := record.certs ++ [⟨record.total, item.length⟩]
        total := total } = record.contents ++ [item] := by
  have kept : record.certs.map (fun span =>
      (record.chain.copy record.total (beyond.store 0 pt) next item.length).read span.start span.length) =
      record.contents := by
    apply List.map_congr_left
    intro span member
    exact Memory.read_copy_before (laid.bounds member).2
  unfold RecordedChain.contents
  rw [List.map_append, kept]
  simp only [List.map_cons, List.map_nil, Memory.read_copy, Memory.read_store_part inside, octets]
  rfl

/-- A list that fits is recorded whole. -/
theorem recordCerts_whole (fits : pt.length < 2 ^ sizeBits) (narrow : pt.length < 2 ^ 64)
    (room : maxTotal < 2 ^ sizeBits) (beyond : Memory) (remaining : Nat) :
    ∀ off items record, chainItems pt remaining off = some items → Laid 0 record.certs record.total →
      record.certs.length + items.length ≤ maxCerts → record.total + (items.map List.length).sum ≤ maxTotal →
      Laid 0 (recordCerts sizeBits maxCerts maxTotal pt beyond remaining off record).certs
          (recordCerts sizeBits maxCerts maxTotal pt beyond remaining off record).total ∧
        (recordCerts sizeBits maxCerts maxTotal pt beyond remaining off record).contents =
          record.contents ++ items := by
  induction remaining with
  | zero =>
    intro off items record all laid _ _
    obtain rfl := Option.some.inj all
    exact ⟨laid, (List.append_nil _).symm⟩
  | succ remaining ih =>
    intro off items record all laid few small
    simp only [chainItems, bind, Option.bind_eq_some_iff] at all
    obtain ⟨⟨item, stop⟩, found, rest, behind, same⟩ := all
    obtain rfl := Option.some.inj same
    obtain ⟨next, read, inside, octets⟩ := readBstr_of_item fits narrow found
    rw [List.map_cons, List.sum_cons] at small
    rw [List.length_cons] at few
    dsimp only at small
    have grown : (record.total + item.length) % 2 ^ sizeBits = record.total + item.length :=
      Nat.mod_eq_of_lt (by omega)
    rw [recordCerts, read]
    dsimp only
    rw [if_neg (by omega), grown, if_neg (by omega)]
    obtain ⟨done, contents⟩ := ih stop rest
      { chain := record.chain.copy record.total (beyond.store 0 pt) next item.length
        certs := record.certs ++ [⟨record.total, item.length⟩]
        total := record.total + item.length } behind (laid.snoc item.length)
      (by rw [List.length_append, List.length_singleton]; omega) (by dsimp only; omega)
    refine ⟨done, ?_⟩
    rw [contents, contents_snoc laid inside octets, List.append_assoc]
    rfl

/-- What is recorded stays, in the limits that the loop tests. -/
theorem recordCerts_grows (sizeBits : Nat) (pt : Bytes) (beyond : Memory) (remaining : Nat) :
    ∀ off (record : RecordedChain), record.certs.length ≤ maxCerts → record.total ≤ maxTotal →
      record.certs.length ≤ (recordCerts sizeBits maxCerts maxTotal pt beyond remaining off record).certs.length ∧
      (recordCerts sizeBits maxCerts maxTotal pt beyond remaining off record).certs.length ≤ maxCerts ∧
      (recordCerts sizeBits maxCerts maxTotal pt beyond remaining off record).total ≤ maxTotal := by
  induction remaining with
  | zero => exact fun off record few small => ⟨Nat.le_refl _, few, small⟩
  | succ remaining ih =>
    intro off record few small
    unfold recordCerts
    rcases readBstr sizeBits pt off with error | ⟨span, stop⟩
    · exact ⟨Nat.le_refl _, few, small⟩
    · dsimp only
      split_ifs with full long
      · exact ⟨Nat.le_refl _, few, small⟩
      · exact ⟨Nat.le_refl _, few, small⟩
      · obtain ⟨more, limit, total⟩ := ih stop
          { chain := record.chain.copy record.total (beyond.store 0 pt) span.start span.length
            certs := record.certs ++ [⟨record.total, span.length⟩]
            total := (record.total + span.length) % 2 ^ sizeBits }
          (by rw [List.length_append, List.length_singleton]; omega) (Nat.not_lt.mp long)
        rw [List.length_append] at more
        exact ⟨by omega, limit, total⟩

end Loop

/-! The whole payload. -/

section Chain

variable {pt : Bytes} {chain beyond : Memory} {sizeBits maxCerts maxTotal : Nat}

/-- The complete list of the byte strings of the chain array. -/
def carried (sizeBits : Nat) (pt : Bytes) : Option (List Bytes) :=
  match chainArray sizeBits pt with
  | some (count, off) => chainItems pt count off
  | none => none

/-- Spans are disjoint and inside, the list complete or empty. -/
structure Parsed (sizeBits maxTotal : Nat) (pt : Bytes) (record : RecordedChain) : Prop where
  apart : record.certs.Pairwise fun first second =>
    first.start + first.length ≤ second.start ∨ second.start + second.length ≤ first.start
  inside : ∀ span ∈ record.certs, span.start + span.length ≤ maxTotal
  sum : (record.certs.map Span.length).sum = record.total
  whole : record.certs = [] ∨ carried sizeBits pt = some record.contents

/-- No chain, a refused first item, or all items fit. -/
def Fitting (sizeBits maxCerts maxTotal : Nat) (pt : Bytes) : Prop :=
  match chainArray sizeBits pt with
  | some (count, off) =>
    count % 2 ^ sizeBits = 0 ∨ (∀ item stop, chainItem pt off = some (item, stop) → maxTotal < item.length) ∨
      ∃ items, chainItems pt count off = some items ∧ items.length ≤ maxCerts ∧
        (items.map List.length).sum ≤ maxTotal
  | none => True

theorem parsed_empty : Parsed sizeBits maxTotal pt ⟨chain, [], 0⟩ :=
  ⟨List.Pairwise.nil, fun _ member => (by cases member), rfl, .inl rfl⟩

/-- Every item takes an octet of the payload. -/
theorem chainItems_count (count : Nat) :
    ∀ {off : Nat} {items : List Bytes}, chainItems pt count off = some items → count = 0 ∨ off + count ≤ pt.length := by
  induction count with
  | zero => exact fun _ => .inl rfl
  | succ count ih =>
    intro off items all
    simp only [chainItems, bind, Option.bind_eq_some_iff] at all
    obtain ⟨⟨item, stop⟩, found, rest, behind, _⟩ := all
    obtain ⟨next, head, rfl, inside, _⟩ := chainItem_eq_some.mp found
    obtain ⟨forward, _, _⟩ := readHead_bounds head
    rcases ih behind with rfl | later
    · omega
    · omega

theorem chainItems_counted {count off : Nat} {items : List Bytes} (fits : pt.length < 2 ^ sizeBits)
    (all : chainItems pt count off = some items) : count % 2 ^ sizeBits = count := by
  apply Nat.mod_eq_of_lt
  rcases chainItems_count count all with rfl | inside
  · exact Nat.pow_pos (by decide)
  · omega

/-- A first item that fits is recorded for good. -/
theorem recordCerts_accepted (fits : pt.length < 2 ^ sizeBits) (narrow : pt.length < 2 ^ 64) (positive : 0 < maxCerts)
    {off stop : Nat} {item : Bytes} (found : chainItem pt off = some (item, stop)) (short : item.length ≤ maxTotal)
    (chain beyond : Memory) (remaining : Nat) :
    (recordCerts sizeBits maxCerts maxTotal pt beyond (remaining + 1) off ⟨chain, [], 0⟩).certs ≠ [] := by
  obtain ⟨next, read, inside, _⟩ := readBstr_of_item fits narrow found
  have whole : item.length % 2 ^ sizeBits = item.length := Nat.mod_eq_of_lt (by omega)
  rw [recordCerts, read]
  dsimp only
  rw [List.length_nil, if_neg (Nat.not_le.mpr positive), Nat.zero_add, whole, if_neg (Nat.not_lt.mpr short)]
  obtain ⟨more, _, _⟩ := recordCerts_grows sizeBits pt beyond remaining stop
    { chain := chain.copy 0 (beyond.store 0 pt) next item.length
      certs := [] ++ [⟨0, item.length⟩]
      total := item.length } positive short
  intro none
  rw [none] at more
  exact absurd more (by simp)

section Bounded

variable (size : sizeBits = 32 ∨ sizeBits = 64) (object : pt.length < 2 ^ (sizeBits - 1))
  (room : maxTotal < 2 ^ (sizeBits - 1))
include size object room

/-- A missing or overlong item gives a length that does not fit. -/
theorem readBstr_refused {off stop : Nat} {span : Span}
    (refused : ∀ item stop, chainItem pt off = some (item, stop) → maxTotal < item.length)
    (read : readBstr sizeBits pt off = .ok (span, stop)) : maxTotal < (0 + span.length) % 2 ^ sizeBits := by
  obtain ⟨fits, narrow⟩ := lt_sizes_of_half size object
  rw [Nat.zero_add]
  rcases found : chainItem pt off with _ | ⟨item, last⟩
  · obtain ⟨long, whole⟩ := readBstr_of_no_item size object found read
    rw [Nat.mod_eq_of_lt whole]
    exact lt_trans room long
  · obtain ⟨next, same, inside, _⟩ := readBstr_of_item fits narrow found
    rw [read] at same
    obtain ⟨rfl, _⟩ := Prod.mk.inj (Except.ok.inj same)
    rw [Nat.mod_eq_of_lt (by dsimp only; omega)]
    exact refused item last found

theorem recordCerts_refused {off : Nat}
    (refused : ∀ item stop, chainItem pt off = some (item, stop) → maxTotal < item.length) (remaining : Nat) :
    recordCerts sizeBits maxCerts maxTotal pt beyond remaining off ⟨chain, [], 0⟩ = ⟨chain, [], 0⟩ ∧
      collectCerts sizeBits maxCerts maxTotal pt remaining off 0 [] = [] := by
  cases remaining with
  | zero => exact ⟨rfl, rfl⟩
  | succ remaining =>
    rw [recordCerts, collectCerts]
    rcases read : readBstr sizeBits pt off with error | ⟨span, stop⟩
    · exact ⟨rfl, rfl⟩
    · have long := readBstr_refused size object room refused read
      dsimp only
      rw [if_pos long, if_pos long, ite_self, ite_self]
      exact ⟨rfl, rfl⟩

/-- A chain is recorded safely exactly when it is absent or fits. -/
theorem recordChain_parsed_iff (positive : 0 < maxCerts) (chain beyond : Memory) :
    Parsed sizeBits maxTotal pt (recordChain sizeBits maxCerts maxTotal pt chain beyond) ↔
      Fitting sizeBits maxCerts maxTotal pt := by
  obtain ⟨fits, narrow⟩ := lt_sizes_of_half size object
  obtain ⟨within, _⟩ := lt_sizes_of_half size room
  unfold recordChain Fitting
  rcases array : chainArray sizeBits pt with _ | ⟨count, off⟩
  · exact iff_of_true parsed_empty trivial
  · dsimp only
    constructor
    · intro parsed
      rcases passes : count % 2 ^ sizeBits with _ | remaining
      · exact .inl rfl
      · rw [passes] at parsed
        right
        by_cases refused : ∀ item stop, chainItem pt off = some (item, stop) → maxTotal < item.length
        · exact .inl refused
        · right
          simp only [not_forall, not_lt] at refused
          obtain ⟨item, stop, found, short⟩ := refused
          have recorded := recordCerts_accepted fits narrow positive found short chain beyond remaining
          have whole := parsed.whole.resolve_left recorded
          rw [carried, array] at whole
          obtain ⟨_, few, small⟩ := recordCerts_grows sizeBits pt beyond (remaining + 1) off ⟨chain, [], 0⟩
            (Nat.zero_le maxCerts) (Nat.zero_le maxTotal)
          have lengths : ∀ record : RecordedChain, record.contents.length = record.certs.length ∧
              record.contents.map List.length = record.certs.map Span.length := by
            simp [RecordedChain.contents]
          refine ⟨_, whole, ?_, ?_⟩
          · rw [(lengths _).1]
            exact few
          · rw [(lengths _).2, parsed.sum]
            exact small
    · rintro (none | refused | ⟨items, all, few, small⟩)
      · rw [none]
        exact parsed_empty
      · rw [(recordCerts_refused size object room refused _).1]
        exact parsed_empty
      · rw [chainItems_counted fits all]
        obtain ⟨laid, contents⟩ := recordCerts_whole fits narrow within beyond count
          off items ⟨chain, [], 0⟩ all rfl (by simpa using few) (by simpa using small)
        obtain ⟨_, _, total⟩ := recordCerts_grows sizeBits pt beyond count off ⟨chain, [], 0⟩
            (Nat.zero_le maxCerts) (Nat.zero_le maxTotal)
        exact {
          apart := laid.apart.imp fun behind => .inl behind
          inside := fun span member => Nat.le_trans (laid.bounds member).2 total
          sum := by simpa using laid.total
          whole := by
            right
            rw [carried, array, contents]
            exact all }

/-- A chain that fits is recorded whole. -/
theorem recordChain_contents (chain beyond : Memory) (fitting : Fitting sizeBits maxCerts maxTotal pt) :
    (recordChain sizeBits maxCerts maxTotal pt chain beyond).contents = parseChain sizeBits maxCerts maxTotal pt := by
  obtain ⟨fits, narrow⟩ := lt_sizes_of_half size object
  obtain ⟨within, _⟩ := lt_sizes_of_half size room
  rw [parseChain_eq, recordChain]
  unfold Fitting at fitting
  rcases array : chainArray sizeBits pt with _ | ⟨count, off⟩
  · rfl
  · rw [array] at fitting
    dsimp only at fitting ⊢
    rcases fitting with none | refused | ⟨items, all, few, small⟩
    · rw [none]
      rfl
    · obtain ⟨recorded, collected⟩ := recordCerts_refused size object room refused (count % 2 ^ sizeBits)
      rw [recorded, collected]
      rfl
    · rw [chainItems_counted fits all, collectCerts_items fits narrow within count off 0 items [] all
        (Nat.zero_le _) (by simpa using small), List.nil_append, List.take_of_length_le few]
      exact (recordCerts_whole fits narrow within beyond count off items
        ⟨chain, [], 0⟩ all rfl (by simpa using few) (by simpa using small)).2

end Bounded

/-- Both parsers are safe exactly when the chain fits. -/
theorem chain_parsers_safe_iff (size : sizeBits = 32 ∨ sizeBits = 64) (object : pt.length < 2 ^ (sizeBits - 1))
    (chain beyond : Memory) :
    (Parsed sizeBits sessionClientChainMax pt (parseClientChainInto sizeBits pt chain beyond) ↔
      Fitting sizeBits sessionChainMaxCerts sessionClientChainMax pt) ∧
    (Parsed sizeBits Host.deviceChainMax pt (Host.parseDeviceChainInto sizeBits pt chain beyond) ↔
      Fitting sizeBits Host.deviceChainCerts Host.deviceChainMax pt) := by
  have wide : (2 : Nat) ^ 31 ≤ 2 ^ (sizeBits - 1) := Nat.pow_le_pow_right (by decide) (by omega)
  constructor
  · exact recordChain_parsed_iff size object (lt_of_lt_of_le (by decide) wide) (by decide) chain beyond
  · exact recordChain_parsed_iff size object (lt_of_lt_of_le (by decide) wide) (by decide) chain beyond

/-- Nine octets, and the head of 2^64 - 9 more. -/
def wrappingChain : Bytes :=
  [0xA1, 0x01, 0x82, 0x49, 1, 2, 3, 4, 5, 6, 7, 8, 9, 0x5B, 0xFF, 0xFF, 0xFF, 0xFF, 0xFF, 0xFF, 0xFF, 0xF7]

/-- A certificate of one octet, and a number behind it. -/
def brokenChain : Bytes := [0xA1, 0x01, 0x82, 0x41, 0x07, 0x00]

/-- The first length leaves the buffer, the second chain is cut. -/
theorem chain_parsers_unsafe :
    (parseClientChainInto 32 wrappingChain (fun _ => 0) (fun _ => 0)).certs = [⟨0, 9⟩, ⟨9, 2 ^ 32 - 9⟩] ∧
    (Host.parseDeviceChainInto 64 wrappingChain (fun _ => 0) (fun _ => 0)).certs = [⟨0, 9⟩, ⟨9, 2 ^ 64 - 9⟩] ∧
    ¬ Parsed 32 sessionClientChainMax wrappingChain (parseClientChainInto 32 wrappingChain (fun _ => 0) (fun _ => 0)) ∧
    ¬ Parsed 64 Host.deviceChainMax wrappingChain
      (Host.parseDeviceChainInto 64 wrappingChain (fun _ => 0) (fun _ => 0)) ∧
    ¬ Parsed 32 sessionClientChainMax brokenChain (parseClientChainInto 32 brokenChain (fun _ => 0) (fun _ => 0)) ∧
    ¬ Parsed 64 Host.deviceChainMax brokenChain
      (Host.parseDeviceChainInto 64 brokenChain (fun _ => 0) (fun _ => 0)) := by
  have client : (parseClientChainInto 32 wrappingChain (fun _ => 0) (fun _ => 0)).certs =
      [⟨0, 9⟩, ⟨9, 2 ^ 32 - 9⟩] := by decide
  have device : (Host.parseDeviceChainInto 64 wrappingChain (fun _ => 0) (fun _ => 0)).certs =
      [⟨0, 9⟩, ⟨9, 2 ^ 64 - 9⟩] := by decide
  have leaves {sizeBits maxTotal length : Nat} {record : RecordedChain}
      (recorded : record.certs = [⟨0, 9⟩, ⟨9, length⟩])
      (long : maxTotal < length) : ¬ Parsed sizeBits maxTotal wrappingChain record := by
    intro parsed
    have inside := parsed.inside ⟨9, length⟩ (by rw [recorded]; simp)
    dsimp only at inside
    omega
  have partly {sizeBits maxTotal : Nat} {record : RecordedChain} (recorded : record.certs ≠ [])
      (incomplete : carried sizeBits brokenChain = none) : ¬ Parsed sizeBits maxTotal brokenChain record := by
    intro parsed
    have whole := parsed.whole.resolve_left recorded
    rw [incomplete] at whole
    cases whole
  refine ⟨client, device, leaves client (by decide), leaves device (by decide),
    partly ?_ (by decide), partly ?_ (by decide)⟩
  · decide
  · decide

/-- Two certificates are recorded. -/
def plainChain : Bytes := [0xA1, 0x01, 0x82, 0x41, 0x07, 0x42, 0x08, 0x09]

/-- Both parsers are safe on two short certificates. -/
theorem chain_parsers_safe :
    Parsed 32 sessionClientChainMax plainChain (parseClientChainInto 32 plainChain (fun _ => 0) (fun _ => 0)) ∧
    Parsed 64 Host.deviceChainMax plainChain (Host.parseDeviceChainInto 64 plainChain (fun _ => 0) (fun _ => 0)) := by
  constructor
  · apply (chain_parsers_safe_iff (.inl rfl) (by decide) _ _).1.mpr
    exact .inr (.inr ⟨[[7], [8, 9]], by decide, by decide, by decide⟩)
  · apply (chain_parsers_safe_iff (.inr rfl) (by decide) _ _).2.mpr
    exact .inr (.inr ⟨[[7], [8, 9]], by decide, by decide, by decide⟩)

end Chain

end Cantil.Cbor
