import Mathlib.Data.Nat.Notation

namespace Cantil

/-- The error numbers that the modelled functions return. -/
inductive Errno where
  | eperm
  | enoent
  | eio
  | e2big
  | enomem
  | eacces
  | ebusy
  | eexist
  | einval
  | enospc
  | erange
  | enametoolong
  | eloop
  | ealready
  | enotsup
  | ebadmsg
  | enotempty
  | eproto
  | enobufs
  | etimedout
  | emsgsize
  | enotdir
  | eisdir
  | erofs
  | eaddrinuse
  | enodev
  /-- The codes of the DER writer, passed on as they are. -/
  | derBufTooSmall
  | derInvalidData
  deriving DecidableEq, Repr

/-- The tap alphabet is a build-time choice. -/
inductive Alphabet where
  | countColor
  | stdtBinary
  | stdtPlain
  deriving DecidableEq, Repr

/-- These are the build options that the modelled code reads. -/
structure Config where
  alphabet : Alphabet
  unlockPaletteSize : Nat
  gestureRehearsal : Bool
  resetRequiresUnlock : Bool
  inactivityTimeoutSec : Nat
  unlockRateLimitThreshold : UInt32
  maxKeySlots : UInt32
  maxKeySlots_range : 1 ≤ maxKeySlots ∧ maxKeySlots ≤ 64
  caAnchorSlot : UInt32
  crlValiditySec : Nat
  revokeRequireNowUnix : Bool
  deriving DecidableEq, Repr

/-- The Kconfig defaults. -/
def Config.default : Config where
  alphabet := .countColor
  unlockPaletteSize := 6
  gestureRehearsal := false
  resetRequiresUnlock := false
  inactivityTimeoutSec := 300
  unlockRateLimitThreshold := 3
  maxKeySlots := 8
  maxKeySlots_range := by decide
  caAnchorSlot := 0
  crlValiditySec := 86400
  revokeRequireNowUnix := false

end Cantil
