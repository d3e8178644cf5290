import Cantil.Library.Bytes
import Cantil.Library.Trace

namespace Cantil.Host.Pairing
open Library Trace

/-- The own keys, and the saved key of each device directory. -/
structure KeyStore where
  client : Option (Bytes × Bytes)
  devices : Bytes → Option (Option Bytes)

/-- What `cantil pair` meets, with what a failed save leaves. -/
structure PairEnv where
  force : Bool
  keypair : Option (Bytes × Bytes)
  connected : Bool
  devicePub : Bytes
  mkdir : Bool
  passkey : Bool
  status : Bool
  savedPub : Bool
  torn : Option Bytes
  returned : Bool

/-- What another command meets before it selects a device. -/
structure OpenEnv where
  connected : Bool
  devicePub : Bytes

inductive Event where
  | pair (env : PairEnv)
  | command (env : OpenEnv)

variable (sha256 : Bytes → Bytes) (env : PairEnv) (store : KeyStore)

/-- The octets whose digits name the directory of a device. -/
def fp16OfPub (pub : Bytes) : Bytes := (sha256 pub).take 8

def keyStoreSelectDevice (pub : Bytes) : Option (Option Bytes) := store.devices (fp16OfPub sha256 pub)

/-- A key that is saved stays until it is replaced. -/
def keyStoreSave (saved : Option Bytes) : KeyStore :=
  { store with devices := Function.update store.devices (fp16OfPub sha256 env.devicePub) (some saved) }

def cmdPair : Bool × KeyStore :=
  let store := { store with client := store.client.or env.keypair }
  let held := (keyStoreSelectDevice sha256 store env.devicePub).join
  if store.client.isNone || !env.connected || (!env.force && held.isSome) || !env.mkdir then (false, store)
  else if !env.passkey || !env.status then (false, keyStoreSave sha256 env store held)
  else if !env.savedPub then (false, keyStoreSave sha256 env store (env.torn.or held))
  else (env.returned, keyStoreSave sha256 env store (some env.devicePub))

/-- A command goes on when there is a directory. -/
def selectsDevice (env : OpenEnv) : Bool :=
  store.client.isSome && env.connected && (keyStoreSelectDevice sha256 store env.devicePub).isSome

/-- The store, and the keys of the devices that were paired. -/
structure History where
  store : KeyStore
  paired : List Bytes

def fresh : History := ⟨⟨none, fun _ => none⟩, []⟩

variable (history : History)

def step : Event → History
  | .pair env =>
    let (success, store) := cmdPair sha256 env history.store
    ⟨store, if success then env.devicePub :: history.paired else history.paired⟩
  | .command _ => history

/-- A run with a directory is completed, and none is shared. -/
def Completed : Event → Prop
  | .pair env => keyStoreSelectDevice sha256 history.store env.devicePub = none → env.connected ∧ env.mkdir →
      env.passkey ∧ env.status ∧ env.savedPub ∧ env.returned
  | .command env => ∀ pub ∈ history.paired, fp16OfPub sha256 pub = fp16OfPub sha256 env.devicePub → pub = env.devicePub

/-- Every directory is that of a paired device. -/
def Accounted : Prop :=
  ∀ dir, (history.store.devices dir).isSome → ∃ pub ∈ history.paired, fp16OfPub sha256 pub = dir

/-- A run makes its own directory, or none. -/
theorem cmdPair_made {sha256 : Bytes → Bytes} {env : PairEnv} {store : KeyStore} {dir : Bytes}
    (absent : store.devices dir = none) (made : ((cmdPair sha256 env store).2.devices dir).isSome) :
    dir = fp16OfPub sha256 env.devicePub ∧ (env.connected ∧ env.mkdir) ∧
      (env.passkey ∧ env.status ∧ env.savedPub ∧ env.returned → (cmdPair sha256 env store).1 = true) := by
  unfold cmdPair at made ⊢
  dsimp only at made ⊢
  split_ifs at made ⊢ with stopped failed torn
  all_goals
    have here : dir = fp16OfPub sha256 env.devicePub := by
      by_contra other
      simp [keyStoreSave, other, absent] at made
    refine ⟨here, by simp_all, ?_⟩
    rintro ⟨passkey, status, savedPub, returned⟩
    simp_all

theorem step_accounted {sha256 : Bytes → Bytes} (event : Event) (completed : Completed sha256 history event)
    (accounted : Accounted sha256 history) : Accounted sha256 (step sha256 history event) := by
  cases event with
  | command env => exact accounted
  | pair env =>
    intro dir present
    rcases before : history.store.devices dir with _ | files
    · obtain ⟨rfl, reached, success⟩ := cmdPair_made before present
      have returned := success (completed before reached)
      exact ⟨env.devicePub, by simp [step, returned], rfl⟩
    · obtain ⟨pub, inside, named⟩ := accounted dir (by rw [before]; rfl)
      refine ⟨pub, ?_, named⟩
      simp only [step]
      split_ifs
      · exact List.mem_cons_of_mem _ inside
      · exact inside

/-- With completed runs, commands go on with paired devices only. -/
theorem selected_paired (sha256 : Bytes → Bytes) (events : List Event)
    (completed : ∀ visit ∈ visits (step sha256) fresh events, Completed sha256 visit.1 visit.2)
    (history : History) (env : OpenEnv) (visited : (history, Event.command env) ∈ visits (step sha256) fresh events)
    (selected : selectsDevice sha256 history.store env) : env.devicePub ∈ history.paired := by
  obtain ⟨before, after, split, reached⟩ := (mem_visits_iff _ _ _ _ _).mp visited
  have accounted : Accounted sha256 (run (step sha256) fresh before) :=
    prefix_invariant (step sha256) (Accounted sha256) (fun _ => True) (Completed sha256)
      (fun history event _ => step_accounted history event) (fun _ _ => trivial) completed
      (fun _ present => by cases present) split
  rw [← reached] at accounted
  obtain ⟨pub, inside, named⟩ := accounted _ (Bool.and_eq_true_iff.mp selected).2
  exact completed _ visited pub inside named ▸ inside

def userEnv (passkey : Bool) : PairEnv := ⟨false, some ([1], [2]), true, [7], true, passkey, true, true, none, true⟩

/-- After a completed pairing the next command goes on. -/
theorem completed_pairing_selected :
    selectsDevice id (run (step id) fresh [.pair (userEnv true)]).store ⟨true, [7]⟩ ∧
      [7] ∈ (run (step id) fresh [.pair (userEnv true)]).paired :=
  ⟨by decide, selected_paired id [.pair (userEnv true), .command ⟨true, [7]⟩] (by
    simp only [visits_cons, visits_nil, List.forall_mem_cons, List.not_mem_nil, false_implies, implies_true, and_true]
    exact ⟨fun _ _ => ⟨rfl, rfl, rfl, rfl⟩, fun pub inside _ => List.mem_singleton.mp inside⟩) _ ⟨true, [7]⟩
    (by simp [visits_cons]) (by decide)⟩

/-- A refused passkey, and the next command goes on. -/
theorem refused_pairing_selected :
    selectsDevice id (run (step id) fresh [.pair (userEnv false)]).store ⟨true, [7]⟩ ∧
      (run (step id) fresh [.pair (userEnv false)]).paired = [] := by
  decide

end Cantil.Host.Pairing
