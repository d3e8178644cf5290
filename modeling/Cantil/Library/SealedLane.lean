import Cantil.Library.Noise
import Mathlib.Data.List.Nodup

namespace Library.Noise

/-- One encryption. -/
structure Seal where
  key : Bytes
  nonce : UInt64
  ad : Bytes
  plain : Bytes
  deriving DecidableEq, Repr

def Seal.cipher (suite : Suite) (sealing : Seal) : Bytes :=
  suite.encrypt sealing.key sealing.nonce sealing.ad sealing.plain

/-- A lane carries messages in one direction and in order. -/
structure Lane where
  sent : List Bytes
  received : List Bytes

namespace Lane

/-- Only the next message is received. -/
def Ordered (lane : Lane) : Prop := lane.received <+: lane.sent

theorem Ordered.send {lane : Lane} (ordered : lane.Ordered) (plain : Bytes) :
    Ordered ⟨lane.sent ++ [plain], lane.received⟩ :=
  ordered.trans (List.prefix_append _ _)

theorem Ordered.receive {lane : Lane} (ordered : lane.Ordered) {plain : Bytes}
    (next : lane.sent[lane.received.length]? = some plain) : Ordered ⟨lane.sent, lane.received ++ [plain]⟩ := by
  obtain ⟨rest, shape⟩ := ordered
  rw [← shape, List.getElem?_append_right (Nat.le_refl _)] at next
  obtain ⟨tail, rfl⟩ : ∃ tail, rest = plain :: tail := by
    cases rest with
    | nil => cases next
    | cons first tail => exact ⟨tail, by simpa using next⟩
  exact ⟨tail, by rw [List.append_assoc]; exact shape⟩

end Lane

/-- The encryptions of a lane: each message under its own place. -/
def laneSeals (key : Bytes) (sent : List Bytes) : List Seal :=
  sent.mapIdx fun place plain => ⟨key, UInt64.ofNat place, [], plain⟩

/-- Two counters follow the lane, whose key seals nothing else. -/
structure Tracks (key : Bytes) (seals : List Seal) (lane : Lane) (txNonce rxNonce : UInt64) : Prop where
  ordered : lane.Ordered
  counted : txNonce = UInt64.ofNat lane.sent.length
  awaited : rxNonce = UInt64.ofNat lane.received.length
  own : seals.filter (·.key = key) = laneSeals key lane.sent

namespace Tracks

variable {key : Bytes} {seals : List Seal} {lane : Lane} {txNonce rxNonce : UInt64}

theorem start (key : Bytes) : Tracks key [] ⟨[], []⟩ 0 0 :=
  ⟨List.prefix_refl [], rfl, rfl, rfl⟩

variable (tracks : Tracks key seals lane txNonce rxNonce)

include tracks

theorem send (plain : Bytes) :
    Tracks key (seals ++ [⟨key, txNonce, [], plain⟩]) ⟨lane.sent ++ [plain], lane.received⟩ (txNonce + 1) rxNonce where
  ordered := tracks.ordered.send plain
  counted := by
    rw [tracks.counted, List.length_append, UInt64.ofNat_add]
    rfl
  awaited := tracks.awaited
  own := by
    rw [List.filter_append, tracks.own, tracks.counted]
    simp [laneSeals, List.mapIdx_append]

/-- The encryptions of another key are no matter of the lane. -/
theorem other {sealing : Seal} (apart : sealing.key ≠ key) :
    Tracks key (seals ++ [sealing]) lane txNonce rxNonce :=
  { tracks with
    own := by
      rw [List.filter_append, tracks.own]
      simp [apart] }

/-- A message sealed for the receiver's counter is the next one. -/
theorem receive (few : lane.sent.length < 2 ^ 64) {plain : Bytes}
    (genuine : ⟨key, rxNonce, [], plain⟩ ∈ seals) :
    Tracks key seals ⟨lane.sent, lane.received ++ [plain]⟩ txNonce (rxNonce + 1) := by
  have mine : (⟨key, rxNonce, [], plain⟩ : Seal) ∈ laneSeals key lane.sent := by
    rw [← tracks.own]
    exact List.mem_filter.mpr ⟨genuine, by simp⟩
  obtain ⟨place, inside, same⟩ := List.mem_mapIdx.mp mine
  have behind := tracks.ordered.length_le
  have here : place = lane.received.length := by
    have nonces : UInt64.ofNat place = UInt64.ofNat lane.received.length := by
      rw [← tracks.awaited]
      exact congrArg Seal.nonce same
    have values := congrArg UInt64.toNat nonces
    rw [UInt64.toNat_ofNat_of_lt' (lt_trans inside few),
      UInt64.toNat_ofNat_of_lt' (lt_of_le_of_lt behind few)] at values
    exact values
  subst here
  exact {
    ordered := tracks.ordered.receive (by
      rw [List.getElem?_eq_getElem inside]
      exact congrArg some (congrArg Seal.plain same))
    counted := tracks.counted
    awaited := by
      rw [tracks.awaited, List.length_append, UInt64.ofNat_add]
      rfl
    own := tracks.own }

/-- The nonces of a lane do not repeat. -/
theorem nodup (few : lane.sent.length < 2 ^ 64) :
    ((seals.filter (·.key = key)).map fun sealing => (sealing.key, sealing.nonce)).Nodup := by
  have places : (laneSeals key lane.sent).map (fun sealing => (sealing.key, sealing.nonce)) =
      (List.range lane.sent.length).map fun place => (key, UInt64.ofNat place) := by
    apply List.ext_getElem
    · simp [laneSeals]
    · simp [laneSeals]
  rw [tracks.own, places]
  apply List.Nodup.map_on _ List.nodup_range
  intro first firstInside second secondInside same
  have values := congrArg UInt64.toNat (Prod.mk.inj same).2
  rw [UInt64.toNat_ofNat_of_lt' (lt_trans (List.mem_range.mp firstInside) few),
    UInt64.toNat_ofNat_of_lt' (lt_trans (List.mem_range.mp secondInside) few)] at values
  exact values

end Tracks

/-- Encryptions that do not repeat under any key do not repeat. -/
theorem nodup_of_keys {seals : List Seal}
    (distinct : ∀ key, ((seals.filter (·.key = key)).map fun sealing => (sealing.key, sealing.nonce)).Nodup) :
    (seals.map fun sealing => (sealing.key, sealing.nonce)).Nodup := by
  induction seals with
  | nil => exact List.nodup_nil
  | cons first rest ih =>
    rw [List.map_cons, List.nodup_cons]
    constructor
    · intro again
      obtain ⟨second, member, same⟩ := List.mem_map.mp again
      have mine := distinct first.key
      rw [List.filter_cons_of_pos (by simp), List.map_cons, List.nodup_cons] at mine
      apply mine.1
      rw [← same]
      exact List.mem_map_of_mem (List.mem_filter.mpr ⟨member, by simp [(Prod.mk.inj same).1]⟩)
    · apply ih
      intro key
      exact (distinct key).sublist (((List.sublist_cons_self first rest).filter _).map _)

end Library.Noise
