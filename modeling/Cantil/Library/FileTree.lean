import Mathlib.Data.List.Basic
import Mathlib.Logic.Function.Basic

namespace Library

/-- A directory holds its listed names and no others. -/
inductive FileTree (Name Data : Type) where
  | file (data : Data)
  | dir (listing : List Name) (entry : Name → FileTree Name Data)

namespace FileTree

variable {Name Data : Type} [DecidableEq Name]

def child : FileTree Name Data → Name → Option (FileTree Name Data)
  | .file _, _ => none
  | .dir listing entry, name => if name ∈ listing then some (entry name) else none

/-- The content of the file at the end of the route. -/
def fileAt : FileTree Name Data → List Name → Option Data
  | .file data, [] => some data
  | .file _, _ :: _ => none
  | .dir _ _, [] => none
  | .dir listing entry, name :: rest => if name ∈ listing then (entry name).fileAt rest else none

/-- What stands at the end of the route. -/
def nodeAt : FileTree Name Data → List Name → Option (FileTree Name Data)
  | tree, [] => some tree
  | .file _, _ :: _ => none
  | .dir listing entry, name :: rest => if name ∈ listing then (entry name).nodeAt rest else none

/-- The same where the tree itself may be missing. -/
def contentAt (tree : Option (FileTree Name Data)) (route : List Name) : Option Data :=
  tree.bind fun tree => tree.fileAt route

variable (tree : FileTree Name Data) (listing route : List Name) (name : Name)

@[simp] theorem contentAt_none : contentAt (none : Option (FileTree Name Data)) route = none := rfl

@[simp] theorem contentAt_some : contentAt (some tree) route = tree.fileAt route := rfl

@[simp] theorem fileAt_nil_dir (entry : Name → FileTree Name Data) : (dir listing entry).fileAt [] = none := rfl

@[simp] theorem fileAt_file_cons (data : Data) (name : Name) (rest : List Name) :
    (file data).fileAt (name :: rest) = none := rfl

theorem fileAt_cons (rest : List Name) : tree.fileAt (name :: rest) = contentAt (tree.child name) rest := by
  cases tree with
  | file data => rfl
  | dir listing entry =>
    by_cases listed : name ∈ listing
    · simp [fileAt, child, listed]
    · simp [fileAt, child, listed]

/-- The entry is replaced, added or taken out of the directory. -/
def withChild : FileTree Name Data → Name → Option (FileTree Name Data) → FileTree Name Data
  | .file data, _, _ => .file data
  | .dir listing entry, name, some tree =>
    .dir (if name ∈ listing then listing else listing ++ [name]) (Function.update entry name tree)
  | .dir listing entry, name, none => .dir (listing.filter (· ≠ name)) entry

theorem child_withChild_self (entry : Name → FileTree Name Data) (name : Name) (left : Option (FileTree Name Data)) :
    ((dir listing entry).withChild name left).child name = left := by
  cases left with
  | none => simp [withChild, child]
  | some tree =>
    by_cases listed : name ∈ listing
    · simp [withChild, child, listed]
    · simp [withChild, child, listed]

theorem child_withChild_other {name other : Name} (different : other ≠ name) (left : Option (FileTree Name Data)) :
    (tree.withChild name left).child other = tree.child other := by
  cases tree with
  | file data => rfl
  | dir listing entry =>
    cases left with
    | none => simp [withChild, child, different]
    | some replaced =>
      by_cases listed : name ∈ listing
      · simp [withChild, child, listed, different]
      · simp [withChild, child, listed, different]

/-- An entry that is there becomes what is left of it. -/
def replaceAt (left : FileTree Name Data → Option (FileTree Name Data)) : FileTree Name Data :=
  match tree.child name with
  | none => tree
  | some inner => tree.withChild name (left inner)

theorem fileAt_nil_replaceAt (left : FileTree Name Data → Option (FileTree Name Data)) :
    (tree.replaceAt name left).fileAt [] = tree.fileAt [] := by
  unfold replaceAt
  cases tree with
  | file data => rfl
  | dir listing entry =>
    split
    · rfl
    · rename_i inner _
      cases left inner <;> rfl

theorem fileAt_replaceAt (first : Name) (rest : List Name) (left : FileTree Name Data → Option (FileTree Name Data)) :
    (tree.replaceAt name left).fileAt (first :: rest) =
      if first = name then contentAt ((tree.child name).bind left) rest else tree.fileAt (first :: rest) := by
  rw [fileAt_cons, fileAt_cons]
  cases tree with
  | file data => simp [replaceAt, child]
  | dir listing entry =>
    unfold replaceAt
    by_cases here : first = name
    · subst here
      cases inside : (dir listing entry).child first with
      | none => simp [inside]
      | some inner => simp [child_withChild_self]
    · cases (dir listing entry).child name with
      | none => simp [here]
      | some inner => simp [child_withChild_other _ here, here]

/-- A file or a directory stands in the way of the route. -/
def blocked : List Name → Option (FileTree Name Data) → Bool
  | _, none => false
  | [], some (.file _) => false
  | [], some (.dir _ _) => true
  | _ :: _, some (.file _) => true
  | name :: rest, some (.dir listing entry) => blocked rest ((dir listing entry).child name)

@[simp] theorem blocked_none : blocked route (none : Option (FileTree Name Data)) = false := by
  cases route <;> rfl

theorem blocked_withChild (entry : Name → FileTree Name Data) (name first : Name) (rest : List Name)
    (left : Option (FileTree Name Data)) :
    blocked (first :: rest) (some ((dir listing entry).withChild name left)) =
      blocked rest (if first = name then left else (dir listing entry).child first) := by
  have unfolded : blocked (first :: rest) (some ((dir listing entry).withChild name left)) =
      blocked rest (((dir listing entry).withChild name left).child first) := by
    cases left <;> rfl
  rw [unfolded]
  by_cases here : first = name
  · subst here
    rw [child_withChild_self, if_pos rfl]
  · rw [child_withChild_other _ here, if_neg here]

section Store

variable [Inhabited Data]

def emptyDir : FileTree Name Data := .dir [] fun _ => .file default

@[simp] theorem fileAt_emptyDir : (emptyDir : FileTree Name Data).fileAt route = none := by
  cases route with
  | nil => rfl
  | cons name rest => rfl

/-- The first directories are made where they are missing. -/
def makeDirs : Nat → List Name → FileTree Name Data → FileTree Name Data
  | 0, _, tree => tree
  | _ + 1, [], tree => tree
  | budget + 1, name :: rest, tree =>
    tree.withChild name (some (makeDirs budget rest ((tree.child name).getD emptyDir)))

/-- New directories hold no file. -/
theorem fileAt_makeDirs (budget : Nat) (route other : List Name) (tree : FileTree Name Data) :
    (makeDirs budget route tree).fileAt other = tree.fileAt other := by
  induction budget generalizing route other tree with
  | zero => rfl
  | succ budget ih =>
    cases route with
    | nil => rfl
    | cons name rest =>
      cases tree with
      | file data => rfl
      | dir listing entry =>
        cases other with
        | nil => rfl
        | cons first others =>
          rw [makeDirs, fileAt_cons, fileAt_cons]
          by_cases here : first = name
          · subst here
            rw [child_withChild_self, contentAt_some, ih]
            cases (dir listing entry).child first with
            | none => simp
            | some inner => rfl
          · rw [child_withChild_other _ here]

/-- The file gets the data, in directories made on the way. -/
def store (data : Data) : List Name → Option (FileTree Name Data) → FileTree Name Data
  | [], _ => .file data
  | _ :: _, some (.file old) => .file old
  | name :: rest, some (.dir listing entry) =>
    (dir listing entry).withChild name (some (store data rest ((dir listing entry).child name)))
  | name :: rest, none => emptyDir.withChild name (some (store data rest none))

/-- A stored file changes no other. -/
theorem fileAt_store (data : Data) (route other : List Name) (tree : Option (FileTree Name Data))
    (free : blocked route tree = false) :
    (store data route tree).fileAt other = if other = route then some data else contentAt tree other := by
  induction route generalizing tree other with
  | nil =>
    cases tree with
    | none => cases other <;> simp [store, fileAt]
    | some tree =>
      cases tree with
      | file old => cases other <;> simp [store, fileAt]
      | dir listing entry => simp [blocked] at free
  | cons name rest ih =>
    cases other with
    | nil =>
      rcases tree with _ | (old | ⟨listing, entry⟩)
      · simp [store, emptyDir, withChild]
      · simp [blocked] at free
      · simp [store, withChild]
    | cons first others =>
      rcases tree with _ | (old | ⟨listing, entry⟩)
      · rw [store, fileAt_cons]
        by_cases here : first = name
        · subst here
          rw [emptyDir, child_withChild_self, contentAt_some, ih _ _ (blocked_none rest)]
          simp
        · rw [child_withChild_other _ here]
          simp [child, emptyDir, here]
      · simp [blocked] at free
      · rw [store, fileAt_cons, contentAt_some, fileAt_cons]
        by_cases here : first = name
        · subst here
          rw [child_withChild_self, contentAt_some, ih _ _ free]
          simp
        · rw [child_withChild_other _ here]
          simp [here]

@[simp] theorem blocked_emptyDir (first : Name) (rest : List Name) :
    blocked (first :: rest) (some (emptyDir : FileTree Name Data)) = false := by
  simp [emptyDir, blocked, child]

/-- A stored file blocks its own route and those through it only. -/
theorem blocked_store (data : Data) (route other : List Name) (tree : Option (FileTree Name Data))
    (free : blocked other tree = false) (below : ¬ other <+: route) (above : ¬ route <+: other) :
    blocked route (some (store data other tree)) = blocked route tree := by
  induction other generalizing route tree with
  | nil => exact absurd (List.nil_prefix) below
  | cons name rest ih =>
    cases route with
    | nil => exact absurd (List.nil_prefix) above
    | cons first others =>
      rcases tree with _ | (old | ⟨listing, entry⟩)
      · rw [store, emptyDir, blocked_withChild]
        by_cases here : first = name
        · subst here
          rw [if_pos rfl, ih others none (by simp) (by simpa using below) (by simpa using above)]
          simp
        · simp [here, child]
      · simp [blocked] at free
      · rw [store, blocked_withChild]
        by_cases here : first = name
        · subst here
          rw [if_pos rfl, ih others _ free (by simpa using below) (by simpa using above)]
          rfl
        · rw [if_neg here]
          rfl

/-- New directories are in the way of no file beside them. -/
theorem blocked_makeDirs (budget : Nat) (dirs route : List Name) (tree : FileTree Name Data)
    (above : ¬ route <+: dirs) : blocked route (some (makeDirs budget dirs tree)) = blocked route (some tree) := by
  induction budget generalizing dirs route tree with
  | zero => rfl
  | succ budget ih =>
    cases dirs with
    | nil => rfl
    | cons name rest =>
      cases route with
      | nil => exact absurd (List.nil_prefix) above
      | cons first others =>
        cases tree with
        | file data => rfl
        | dir listing entry =>
          rw [makeDirs, blocked_withChild]
          by_cases here : first = name
          · subst here
            have beside : ¬ others <+: rest := by simpa using above
            rw [if_pos rfl, ih _ _ _ beside, blocked]
            cases (dir listing entry).child first with
            | some inner => rfl
            | none =>
              cases others with
              | nil => exact absurd (List.nil_prefix) beside
              | cons next last => simp
          · rw [if_neg here]
            rfl

end Store

end FileTree

end Library
