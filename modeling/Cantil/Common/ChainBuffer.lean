import Cantil.Common.Cbor
import Cantil.Library.Memory

namespace Cantil.Cbor
open Library

/-- The buffer, the certificates' places, and the octets in use. -/
structure RecordedChain where
  chain : Memory
  certs : List Span
  total : Nat

def RecordedChain.contents (record : RecordedChain) : List Bytes :=
  record.certs.map fun span => record.chain.read span.start span.length

/-- Items are copied in a row. The payload starts its memory. -/
def recordCerts (sizeBits maxCerts maxTotal : Nat) (pt : Bytes) (beyond : Memory) :
    (remaining off : Nat) → RecordedChain → RecordedChain
  | 0, _, record => record
  | remaining + 1, off, record =>
    match readBstr sizeBits pt off with
    | .error _ => record
    | .ok (span, off) =>
      if record.certs.length ≥ maxCerts then record
      else if (record.total + span.length) % 2 ^ sizeBits > maxTotal then record
      else recordCerts sizeBits maxCerts maxTotal pt beyond remaining off
        { chain := record.chain.copy record.total (beyond.store 0 pt) span.start span.length
          certs := record.certs ++ [⟨record.total, span.length⟩]
          total := (record.total + span.length) % 2 ^ sizeBits }

/-- The number of items of the chain array and where they begin. -/
def chainArray (sizeBits : Nat) (pt : Bytes) : Option (Nat × Nat) :=
  if pt.length = 0 then none
  else do
    let (major, value, off) ← (readHead pt 0).toOption
    -- The loop over the pairs returns in its first pass.
    if major ≠ mtMap ∨ value % 2 ^ sizeBits = 0 then none
    else
      let (key, off) ← (readUint32 pt off).toOption
      if key ≠ sessionCborKeyChain then none
      else
        let (arrayMajor, count, off) ← (readHead pt off).toOption
        if arrayMajor ≠ mtArray then none else return (count, off)

def recordChain (sizeBits maxCerts maxTotal : Nat) (pt : Bytes) (chain beyond : Memory) : RecordedChain :=
  match chainArray sizeBits pt with
  | some (count, off) =>
    recordCerts sizeBits maxCerts maxTotal pt beyond (count % 2 ^ sizeBits) off ⟨chain, [], 0⟩
  | none => ⟨chain, [], 0⟩

theorem parseChain_eq (sizeBits maxCerts maxTotal : Nat) (pt : Bytes) :
    parseChain sizeBits maxCerts maxTotal pt =
      match chainArray sizeBits pt with
      | some (count, off) => collectCerts sizeBits maxCerts maxTotal pt (count % 2 ^ sizeBits) off 0 []
      | none => [] := by
  unfold parseChain chainArray
  simp only [bind, Except.bind, Option.bind, pure, Except.pure]
  split_ifs
  · rfl
  · rcases readHead pt 0 with error | ⟨major, value, off⟩
    · rfl
    · dsimp only [Except.toOption]
      split_ifs
      · rfl
      · rcases readUint32 pt off with error | ⟨key, off⟩
        · rfl
        · dsimp only
          split_ifs
          · rfl
          · rcases readHead pt off with error | ⟨major, count, off⟩
            · rfl
            · dsimp only
              split_ifs
              · rfl
              · rfl

end Cantil.Cbor
