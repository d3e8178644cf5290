import Cantil.Firmware.SessionSlot
import Cantil.Library.FileTree
import Mathlib.Data.Nat.Digits.Lemmas

namespace Cantil
open Library

/-- The volume below the mount point. -/
abbrev Tree := FileTree Bytes Bytes

/-- The names from the mount point down. -/
abbrev Route := List Bytes

/-- What the medium does to the calls of a wipe. -/
structure TreeFaults where
  write : Route → WriteOutcome
  /-- What is there when the next directory cannot be made. -/
  made : Route → Nat
  opendir : Route → Option Errno
  /-- The listing of the directory ends before this entry. -/
  missed : Route → Bool
  unlink : Route → Option Errno
  /-- Its own sweep and the outer one unlink a directory. -/
  unlinkAgain : Route → Option Errno

namespace VolumeTree

/-- Four characters of mount point, and a slash before each name. -/
def pathLength (route : Route) : Nat := 4 + (route.map fun name => name.length + 1).sum

/-- Assumed: a path cut at the end of the buffer names no other entry. -/
def fits (route : Route) : Bool := pathLength route < pathMaxLen

def writeFile (faults : TreeFaults) (route : Route) (data : Bytes) (root : Tree) : Except Errno Unit × Tree :=
  let dirs := route.dropLast
  let old := (root.fileAt route).getD []
  if FileTree.blocked route (some root) then
    (.error (if (root.nodeAt route).isSome then .eisdir else .enotdir), root)
  else
    match faults.write route with
    | .done => (.ok (), .store data route root)
    | .mkdirFailed error => (.error error, .makeDirs (faults.made route) dirs root)
    | .openFailed error => (.error error, .makeDirs dirs.length dirs root)
    | .short (some kept) => (.error .eio, .store (data.take kept) route root)
    | .short none => (.error .eio, .store old route root)
    | .uncommitted => (.ok (), .store old route root)

/-- A directory goes only when it is empty. -/
def fsUnlink (fault : Option Errno) : Option Tree → Except Errno Unit × Option Tree
  | none => (.error .enoent, none)
  | some (.dir (first :: rest) entry) => (.error .enotempty, some (.dir (first :: rest) entry))
  | some tree =>
    match fault with
    | some error => (.error error, some tree)
    | none => (.ok (), none)

/-- What `rm_rf` leaves of an entry after its own call. -/
def entryLeft (faults : TreeFaults) (child : Route) (entry : Tree) (swept : Option Tree) : Option Tree :=
  if faults.missed child ∨ fits child = false then some entry
  else
    match entry with
    | .file data => (fsUnlink (faults.unlink child) (some (.file data))).2
    | .dir _ _ => (fsUnlink (faults.unlinkAgain child) swept).2

/-- The results of the calls in the loop are ignored. -/
def rmRf (faults : TreeFaults) : Route → Tree → Except Errno Unit × Option Tree
  | _, .file data => (.error .enotdir, some (.file data))
  | route, .dir listing entry =>
    match faults.opendir route with
    | some error => (if error = .enoent then .ok () else .error error, some (.dir listing entry))
    | none =>
      let left (name : Bytes) : Option Tree :=
        entryLeft faults (route ++ [name]) (entry name) (rmRf faults (route ++ [name]) (entry name)).2
      fsUnlink (faults.unlink route)
        (some (.dir (listing.filter fun name => (left name).isSome) fun name => (left name).getD (entry name)))

/-- The sweep comes to the file of the route, and can remove it. -/
def sweeps (faults : TreeFaults) : Route → Route → Bool
  | _, [] => false
  | route, [name] =>
    (faults.opendir route).isNone && !faults.missed (route ++ [name]) && fits (route ++ [name]) &&
      (faults.unlink (route ++ [name])).isNone
  | route, name :: next :: rest =>
    (faults.opendir route).isNone && !faults.missed (route ++ [name]) && fits (route ++ [name]) &&
      sweeps faults (route ++ [name]) (next :: rest)

section Sweep

variable {faults : TreeFaults}

/-- Nothing below an entry goes with it. -/
theorem contentAt_fsUnlink (fault : Option Errno) (tree : Option Tree) (name : Bytes) (rest : Route) :
    FileTree.contentAt (fsUnlink fault tree).2 (name :: rest) = FileTree.contentAt tree (name :: rest) := by
  rcases tree with _ | (data | ⟨_ | ⟨first, others⟩, entry⟩)
  · rfl
  · cases fault <;> rfl
  · cases fault <;> rfl
  · rfl

theorem contentAt_file_fsUnlink (fault : Option Errno) (data : Bytes) :
    FileTree.contentAt (fsUnlink fault (some (.file data))).2 [] = if fault.isNone then none else some data := by
  cases fault <;> rfl

theorem contentAt_nil_fsUnlink (fault : Option Errno) {tree : Option Tree} (other : FileTree.contentAt tree [] = none) :
    FileTree.contentAt (fsUnlink fault tree).2 [] = none := by
  rcases tree with _ | (data | ⟨_ | ⟨first, others⟩, entry⟩)
  · rfl
  · cases other
  · cases fault <;> rfl
  · rfl

/-- A sweep leaves no file in the place of its directory. -/
theorem rmRf_contentAt_nil (route : Route) (listing : List Bytes) (entry : Bytes → Tree) :
    FileTree.contentAt (rmRf faults route (.dir listing entry)).2 [] = none := by
  rw [rmRf]
  cases faults.opendir route with
  | some error => rfl
  | none => exact contentAt_nil_fsUnlink _ rfl

/-- The loop keeps what it does not reach and removes files. -/
theorem entryLeft_contentAt (child : Route) (entry : Tree) (rest : Route)
    (swept : ∀ name rest, FileTree.contentAt (rmRf faults child entry).2 (name :: rest) =
      if sweeps faults child (name :: rest) then none else entry.fileAt (name :: rest)) :
    FileTree.contentAt (entryLeft faults child entry (rmRf faults child entry).2) rest =
      if !faults.missed child && fits child &&
          (if rest = [] then (faults.unlink child).isNone else sweeps faults child rest) then none
      else entry.fileAt rest := by
  unfold entryLeft
  by_cases passed : faults.missed child = true ∨ fits child = false
  · have unseen : (!faults.missed child && fits child) = false := by
      rcases passed with missed | cut
      · simp [missed]
      · simp [cut]
    simp [passed, unseen]
  · obtain ⟨seen, whole⟩ := not_or.mp passed
    rw [if_neg passed]
    rcases entry with data | ⟨listing, entry⟩
    · rcases rest with _ | ⟨name, rest⟩
      · rw [contentAt_file_fsUnlink]
        simp [seen, whole, FileTree.fileAt]
      · rw [contentAt_fsUnlink]
        simp
    · rcases rest with _ | ⟨name, rest⟩
      · rw [contentAt_nil_fsUnlink _ (rmRf_contentAt_nil child listing entry)]
        simp
      · rw [contentAt_fsUnlink, swept]
        simp [seen, whole]

theorem sweeps_cons (route : Route) (name : Bytes) (rest : Route) :
    sweeps faults route (name :: rest) = ((faults.opendir route).isNone && (!faults.missed (route ++ [name]) &&
      fits (route ++ [name]) &&
      (if rest = [] then (faults.unlink (route ++ [name])).isNone else sweeps faults (route ++ [name]) rest))) := by
  cases rest <;> simp [sweeps, Bool.and_assoc]

/-- What a sweep leaves of the files below its directory. -/
theorem rmRf_contentAt (tree : Tree) (route : Route) (name : Bytes) (rest : Route) :
    FileTree.contentAt (rmRf faults route tree).2 (name :: rest) =
      if sweeps faults route (name :: rest) then none else tree.fileAt (name :: rest) := by
  induction tree generalizing route name rest with
  | file data => simp [rmRf]
  | dir listing entry ih =>
    rw [rmRf, sweeps_cons]
    rcases opened : faults.opendir route with _ | error
    · have left := entryLeft_contentAt (route ++ [name]) (entry name) rest fun next others =>
        ih name (route ++ [name]) next others
      rw [contentAt_fsUnlink, FileTree.contentAt_some, Option.isNone_none, Bool.true_and]
      by_cases listed : name ∈ listing
      · rw [FileTree.fileAt_cons, FileTree.fileAt_cons]
        simp only [FileTree.child, List.mem_filter, listed, true_and, if_true, FileTree.contentAt_some]
        rw [← left]
        rcases entryLeft faults (route ++ [name]) (entry name) (rmRf faults (route ++ [name]) (entry name)).2 with
          _ | kept
        · rfl
        · rfl
      · simp [FileTree.fileAt, listed]
    · simp

end Sweep

/-! The wipe. -/

/-- The names `keys`, `certs`, `noise`, `session` and `clients`. -/
def keysDir : Bytes := [107, 101, 121, 115]

def certsDir : Bytes := [99, 101, 114, 116, 115]

def noiseDir : Bytes := [110, 111, 105, 115, 101]

def sessionDir : Bytes := [115, 101, 115, 115, 105, 111, 110]

def clientsDir : Bytes := [99, 108, 105, 101, 110, 116, 115]

/-- The directories that a wipe removes, in its order. -/
def wipedDirs : List Bytes := [keysDir, certsDir, noiseDir, sessionDir, clientsDir]

/-- The names `key.bin` and `id_key.bin`. -/
def keyFile : Bytes := [107, 101, 121, 46, 98, 105, 110]

def idKeyFile : Bytes := [105, 100, 95, 107, 101, 121, 46, 98, 105, 110]

/-- What is overwritten first, of slot 0 and the session slot. -/
def overwrittenFiles : List Route := [[keysDir, [48], keyFile], [sessionDir, keyFile], [sessionDir, idKeyFile]]

/-- The names `config.bin`, `config_unlock_seq.bin` and `config_unlock_attempts.bin`. -/
def configFile : Bytes := [99, 111, 110, 102, 105, 103, 46, 98, 105, 110]

def unlockSeqFile : Bytes :=
  [99, 111, 110, 102, 105, 103, 95, 117, 110, 108, 111, 99, 107, 95, 115, 101, 113, 46, 98, 105, 110]

def unlockAttemptsFile : Bytes :=
  [99, 111, 110, 102, 105, 103, 95, 117, 110, 108, 111, 99, 107, 95, 97, 116, 116, 101, 109, 112, 116, 115, 46, 98,
    105, 110]

def configFiles : List Bytes := [configFile, unlockSeqFile, unlockAttemptsFile]

variable (faults : TreeFaults) (root : Tree)

/-- A directory that is not there counts as removed. -/
def rmRfAt (name : Bytes) : Tree :=
  root.replaceAt name fun tree => (rmRf faults [name] tree).2

def unlinkAt (name : Bytes) : Tree :=
  root.replaceAt name fun tree => (fsUnlink (faults.unlink [name]) (some tree)).2

def overwrite : Tree :=
  overwrittenFiles.foldl (fun root route => (writeFile faults route (List.replicate keyBlobLen 0xA5) root).2) root

/-- The marker of the volume is not removed. -/
def storageSecureWipe (volume : VolumeState) (root : Tree) : Except Errno Unit × Tree :=
  if volume = .mismatch then (.error .eperm, root)
  else
    let swept := wipedDirs.foldl (rmRfAt faults) (overwrite faults root)
    (.ok (), configFiles.foldl (unlinkAt faults) swept)

/-- The wipe comes to the file of the route, and can remove it. -/
def wipes : Route → Bool
  | [] => false
  | first :: rest =>
    decide (first ∈ wipedDirs) && sweeps faults [first] rest ||
      decide (rest = [] ∧ first ∈ configFiles) && (faults.unlink [first]).isNone

section Wipe

/-- A write changes the file at its route and no other. -/
theorem writeFile_fileAt (route : Route) (data : Bytes) (root : Tree) (other : Route) :
    (writeFile faults route data root).2.fileAt other =
      if other = route ∧ FileTree.blocked route (some root) = false then
        (SessionSlot.writeContent (faults.write route) (root.fileAt route) data).2
      else root.fileAt other := by
  unfold writeFile
  by_cases stopped : FileTree.blocked route (some root) = true
  · simp [stopped]
  · have free : FileTree.blocked route (some root) = false := by simpa using stopped
    have stored (content : Bytes) : (FileTree.store content route (some root)).fileAt other =
        if other = route then some content else root.fileAt other :=
      FileTree.fileAt_store content route other (some root) free
    have same (content : Option Bytes) (unchanged : content = root.fileAt route) :
        root.fileAt other = if other = route then content else root.fileAt other := by
      split_ifs with here
      · rw [unchanged, here]
      · rfl
    simp only [free, Bool.false_eq_true, if_false, and_true]
    rcases faults.write route with _ | error | error | (_ | kept) | _
    · exact stored _
    · exact (FileTree.fileAt_makeDirs _ _ _ _).trans (same _ rfl)
    · exact (FileTree.fileAt_makeDirs _ _ _ _).trans (same _ rfl)
    · exact stored _
    · exact stored _
    · exact stored _

/-- A write blocks no file beside its own. -/
theorem writeFile_blocked (route : Route) (data : Bytes) (root : Tree) {other : Route} (below : ¬ route <+: other)
    (above : ¬ other <+: route) :
    FileTree.blocked other (some (writeFile faults route data root).2) = FileTree.blocked other (some root) := by
  have beside : ¬ other <+: route.dropLast := fun inside => above (inside.trans (List.dropLast_prefix route))
  unfold writeFile
  by_cases stopped : FileTree.blocked route (some root) = true
  · simp [stopped]
  · have free : FileTree.blocked route (some root) = false := by simpa using stopped
    have stored (content : Bytes) : FileTree.blocked other (some (FileTree.store content route (some root))) =
        FileTree.blocked other (some root) := FileTree.blocked_store content other route (some root) free below above
    simp only [free, Bool.false_eq_true, if_false]
    rcases faults.write route with _ | error | error | (_ | kept) | _
    · exact stored _
    · exact FileTree.blocked_makeDirs _ _ _ _ beside
    · exact FileTree.blocked_makeDirs _ _ _ _ beside
    · exact stored _
    · exact stored _
    · exact stored _

/-- Writes beside each other each change their own file. -/
theorem foldl_writeFile_fileAt (data : Bytes) (routes : List Route)
    (apart : routes.Pairwise fun first second => ¬ first <+: second ∧ ¬ second <+: first) (root : Tree)
    (route : Route) :
    (routes.foldl (fun root route => (writeFile faults route data root).2) root).fileAt route =
      if route ∈ routes ∧ FileTree.blocked route (some root) = false then
        (SessionSlot.writeContent (faults.write route) (root.fileAt route) data).2
      else root.fileAt route := by
  induction routes generalizing root with
  | nil => simp
  | cons target rest ih =>
    obtain ⟨beside, apart⟩ := List.pairwise_cons.mp apart
    rw [List.foldl_cons, ih apart, writeFile_fileAt]
    by_cases later : route ∈ rest
    · obtain ⟨below, above⟩ := beside route later
      have different : route ≠ target := by
        rintro rfl
        exact below (List.prefix_refl route)
      simp [later, different, writeFile_blocked faults target data root below above]
    · by_cases here : route = target
      · subst here
        simp [later]
      · simp [later, here]

theorem overwrite_fileAt (route : Route) :
    (overwrite faults root).fileAt route =
      if route ∈ overwrittenFiles ∧ FileTree.blocked route (some root) = false then
        (SessionSlot.writeContent (faults.write route) (root.fileAt route) (List.replicate keyBlobLen 0xA5)).2
      else root.fileAt route :=
  foldl_writeFile_fileAt faults _ overwrittenFiles (by decide) root route

theorem rmRfAt_fileAt (name : Bytes) (route : Route) :
    (rmRfAt faults root name).fileAt route =
      if route.head? = some name ∧ sweeps faults [name] route.tail = true then none else root.fileAt route := by
  rcases route with _ | ⟨first, rest⟩
  · exact FileTree.fileAt_nil_replaceAt root name _
  · rw [rmRfAt, FileTree.fileAt_replaceAt]
    by_cases here : first = name
    · subst here
      rw [FileTree.fileAt_cons]
      rcases root.child first with _ | tree
      · simp
      · rcases rest with _ | ⟨next, rest⟩
        · cases tree with
          | file data => simp [rmRf, sweeps]
          | dir listing entry => simp [rmRf_contentAt_nil]
        · simp [rmRf_contentAt]
    · simp [here]

theorem unlinkAt_fileAt (name : Bytes) (route : Route) :
    (unlinkAt faults root name).fileAt route =
      if route = [name] ∧ faults.unlink [name] = none then none else root.fileAt route := by
  rcases route with _ | ⟨first, rest⟩
  · exact FileTree.fileAt_nil_replaceAt root name _
  · rw [unlinkAt, FileTree.fileAt_replaceAt]
    by_cases here : first = name
    · subst here
      rw [FileTree.fileAt_cons]
      rcases root.child first with _ | tree
      · simp
      · rcases rest with _ | ⟨next, rest⟩
        · cases tree with
          | file data => simp [contentAt_file_fsUnlink, FileTree.fileAt]
          | dir listing entry => simpa using contentAt_nil_fsUnlink (faults.unlink [first]) rfl
        · simp [contentAt_fsUnlink]
    · simp [here]

theorem foldl_rmRfAt_fileAt (names : List Bytes) (root : Tree) (first : Bytes) (rest : Route) :
    (names.foldl (rmRfAt faults) root).fileAt (first :: rest) =
      if first ∈ names ∧ sweeps faults [first] rest = true then none else root.fileAt (first :: rest) := by
  induction names generalizing root with
  | nil => simp
  | cons name names ih =>
    rw [List.foldl_cons, ih, rmRfAt_fileAt]
    by_cases here : first = name
    · subst here
      by_cases swept : sweeps faults [first] rest = true
      · simp [swept]
      · simp [swept]
    · simp [here]

theorem foldl_unlinkAt_fileAt (names : List Bytes) (root : Tree) (first : Bytes) (rest : Route) :
    (names.foldl (unlinkAt faults) root).fileAt (first :: rest) =
      if rest = [] ∧ first ∈ names ∧ faults.unlink [first] = none then none else root.fileAt (first :: rest) := by
  induction names generalizing root with
  | nil => simp
  | cons name names ih =>
    rw [List.foldl_cons, ih, unlinkAt_fileAt]
    by_cases here : first = name
    · subst here
      by_cases gone : rest = [] ∧ faults.unlink [first] = none
      · simp [gone]
      · rcases not_and_or.mp gone with below | stuck
        · simp [below]
        · simp [stuck]
    · simp [here]

theorem wipes_cons (first : Bytes) (rest : Route) :
    wipes faults (first :: rest) = true ↔ first ∈ wipedDirs ∧ sweeps faults [first] rest = true ∨
      rest = [] ∧ first ∈ configFiles ∧ faults.unlink [first] = none := by
  simp [wipes, and_assoc]

/-- What a wipe leaves of the files. -/
theorem storageSecureWipe_fileAt {faults : TreeFaults} {root : Tree} {volume : VolumeState}
    (trusted : volume ≠ .mismatch) (first : Bytes) (rest : Route) :
    (storageSecureWipe faults volume root).2.fileAt (first :: rest) =
      if wipes faults (first :: rest) then none else (overwrite faults root).fileAt (first :: rest) := by
  rw [storageSecureWipe, if_neg trusted]
  rw [foldl_unlinkAt_fileAt, foldl_rmRfAt_fileAt]
  have split := wipes_cons faults first rest
  by_cases removed : rest = [] ∧ first ∈ configFiles ∧ faults.unlink [first] = none
  · rw [if_pos removed, if_pos (split.mpr (.inr removed))]
  · rw [if_neg removed]
    by_cases swept : first ∈ wipedDirs ∧ sweeps faults [first] rest = true
    · rw [if_pos swept, if_pos (split.mpr (.inl swept))]
    · rw [if_neg swept, if_neg fun wiped => (split.mp wiped).elim swept removed]

end Wipe

/-! The tree holds the files of the store. -/

def decimal (value : Nat) : Bytes :=
  (if value = 0 then [0] else (Nat.digits 10 value).reverse).map fun digit => UInt8.ofNat (48 + digit)

/-- The names `key.bin`, `cert.der`, `chain.der`, `meta.bin`, `x509_data.bin`, `csr.der` and `crl_number.bin`. -/
def slotFileName : SlotFile → Bytes
  | .key => keyFile
  | .cert => [99, 101, 114, 116, 46, 100, 101, 114]
  | .chain => [99, 104, 97, 105, 110, 46, 100, 101, 114]
  | .metadata => [109, 101, 116, 97, 46, 98, 105, 110]
  | .x509Data => [120, 53, 48, 57, 95, 100, 97, 116, 97, 46, 98, 105, 110]
  | .csr => [99, 115, 114, 46, 100, 101, 114]
  | .crlNumber => [99, 114, 108, 95, 110, 117, 109, 98, 101, 114, 46, 98, 105, 110]

def issuedFileName : IssuedFile → Bytes
  | .cert => slotFileName .cert
  | .metadata => slotFileName .metadata

/-- The name `pubkey.bin`. -/
def clientFileName : ClientFile → Bytes
  | .pubkey => [112, 117, 98, 107, 101, 121, 46, 98, 105, 110]

def routeOf : Path → Route
  | .slot number file => [keysDir, decimal number.toNat, slotFileName file]
  | .issued name file => [certsDir, name, issuedFileName file]
  | .client id file => [clientsDir, hexName id, clientFileName file]

/-- The files of the store that the volume holds. -/
def filesOf (root : Tree) (path : Path) : Option Bytes := root.fileAt (routeOf path)

/-- Failures of the tree as failures of the store, file by file. -/
def flatFaults (faults : TreeFaults) (root : Tree) (place : Nat) : Faults where
  write path :=
    if FileTree.blocked (routeOf path) (some root) then .openFailed .enotdir else faults.write (routeOf path)
  unlink path := if wipes faults (routeOf path) then none else some .eio
  rmdir := none
  stuckDir _ := false
  place

section Refinement

/-- Only one number has the text `0`. -/
theorem decimal_eq_zero {value : Nat} (zero : decimal value = [48]) : value = 0 := by
  by_contra positive
  rw [decimal, if_neg positive] at zero
  obtain ⟨digit, single⟩ : ∃ digit, Nat.digits 10 value = [digit] :=
    List.length_eq_one_iff.mp (by simpa using congrArg List.length zero)
  have small : digit < 10 := Nat.digits_lt_base (by decide) (single ▸ List.mem_singleton_self digit)
  have same : digit = value := by
    have sum := Nat.ofDigits_digits 10 value
    rwa [single] at sum
  have shown : UInt8.ofNat (48 + digit) = 48 := by simpa [single] using zero
  have number := congrArg UInt8.toNat shown
  rw [UInt8.toNat_ofNat_of_lt' (by show 48 + digit < 256; omega)] at number
  simp only [UInt8.reduceToNat] at number
  omega

theorem slotFileName_eq_keyFile {file : SlotFile} (same : slotFileName file = keyFile) : file = .key := by
  cases file with
  | key => rfl
  | _ => exact absurd same (by decide)

theorem mem_overwrittenFiles (path : Path) : routeOf path ∈ overwrittenFiles ↔ path = .slot 0 .key := by
  constructor
  · intro member
    cases path with
    | slot number file =>
      simp only [overwrittenFiles, routeOf, List.mem_cons, List.cons.injEq, List.not_mem_nil, or_false, true_and,
        and_true, reduceCtorEq, and_false] at member
      obtain ⟨zero, key⟩ := member
      rw [slotFileName_eq_keyFile key, UInt32.toNat_inj.mp (show number.toNat = (0 : UInt32).toNat from
        decimal_eq_zero zero)]
    | issued name file => simp [overwrittenFiles, routeOf, certsDir, keysDir, sessionDir] at member
    | client id file => simp [overwrittenFiles, routeOf, clientsDir, keysDir, sessionDir] at member
  · rintro rfl
    exact List.mem_cons_self

/-- A write changes the file at its path and no other. -/
theorem writeFile_files (faults : Faults) (path : Path) (data : Bytes) (device : Device) :
    (Cantil.writeFile faults path data device).2.fs.files =
      Function.update device.fs.files path
        (SessionSlot.writeContent (faults.write path) (device.fs.files path) data).2 := by
  rcases outcome : faults.write path with _ | error | error | (_ | kept) | _ <;>
    simp [Cantil.writeFile, SessionSlot.writeContent, outcome]

/-- The wipe of the store is the wipe of the tree that holds it. -/
theorem storageSecureWipe_refines (place : Nat) {device : Device} (trusted : device.volume ≠ .mismatch)
    (same : device.fs.files = filesOf root) :
    (Cantil.storageSecureWipe (flatFaults faults root place) device).2.fs.files =
      filesOf (storageSecureWipe faults device.volume root).2 := by
  obtain ⟨wiped, done⟩ : ∃ wiped, Cantil.storageSecureWipe (flatFaults faults root place) device = (.ok (), wiped) :=
    ⟨_, storageSecureWipe_eq_ok.mpr ⟨trusted, rfl⟩⟩
  rw [done]
  funext path
  obtain ⟨first, rest, route⟩ : ∃ first rest, routeOf path = first :: rest := by
    cases path <;> exact ⟨_, _, rfl⟩
  have tree := @storageSecureWipe_fileAt faults root device.volume trusted first rest
  rw [← route, overwrite_fileAt] at tree
  rw [filesOf, tree, storageSecureWipe_path done, writeFile_files, same]
  by_cases gone : wipes faults (routeOf path) = true
  · simp [flatFaults, gone]
  · simp only [flatFaults, gone, Bool.false_eq_true, if_false, Option.isNone_some]
    by_cases key : path = .slot 0 .key
    · subst key
      have overwritten : routeOf (.slot 0 .key) ∈ overwrittenFiles := (mem_overwrittenFiles _).mpr rfl
      by_cases stopped : FileTree.blocked (routeOf (.slot 0 .key)) (some root) = true
      · simp [stopped, SessionSlot.writeContent, filesOf]
      · simp [stopped, overwritten, filesOf]
    · rw [Function.update_of_ne key, if_neg fun both => key ((mem_overwrittenFiles path).mp both.1)]
      rfl

end Refinement

end VolumeTree

end Cantil
