import Cantil.Host.Request

namespace Cantil.Host
open Library

/-- A text up to its NUL byte. Null counts as empty. -/
abbrev CText := { text : Bytes // 0 ∉ text }

/-- The subject data. A negative path length is none. -/
structure X509Data where
  validityDays : UInt16
  isCa : Bool
  pathLen : Int8
  keyUsage : UInt16
  cn : CText
  o : CText
  ou : CText
  c : CText
  st : CText
  l : CText
  deriving DecidableEq

def x509EmitStr (capacity : Nat) (out : Bytes) (text : CText) : Option Bytes :=
  if text.1.length > 64 then none
  else if out.length + 1 + text.1.length > capacity then none
  else some (out ++ UInt8.ofNat text.1.length :: text.1)

/-- The room for the header and six texts. -/
def x509RequestMax : Nat := 4 + 6 + 6 * (1 + 64)

def pathLenByte (pathLen : Int8) : UInt8 := if pathLen < 0 then 0xFF else pathLen.toUInt8

def x509Head (data : X509Data) : Bytes :=
  bigEndian 2 data.validityDays.toNat ++ [if data.isCa then 1 else 0, pathLenByte data.pathLen] ++
    bigEndian 2 data.keyUsage.toNat

/-- The data of the request, if it is sent. -/
def pushKeyX509 (slot : UInt32) (data : X509Data) : Option Bytes :=
  if data.validityDays = 0 then none
  else if data.cn.1.length = 0 ∨ data.cn.1.length > 64 then none
  else if data.c.1.length ≠ 0 ∧ data.c.1.length ≠ 2 then none
  else do
    let out ← x509EmitStr x509RequestMax (bigEndian 4 slot.toNat ++ x509Head data) data.cn
    let out ← x509EmitStr x509RequestMax out data.o
    let out ← x509EmitStr x509RequestMax out data.ou
    let out ← x509EmitStr x509RequestMax out data.c
    let out ← x509EmitStr x509RequestMax out data.st
    x509EmitStr x509RequestMax out data.l

end Cantil.Host
