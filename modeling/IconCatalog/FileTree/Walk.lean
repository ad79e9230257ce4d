import IconCatalog.FileTree
set_option autoImplicit false

namespace IconCatalog

inductive FileFault
  | notFound
  | alreadyExists
  | notDirectory
  | isDirectory
  | nameTooLong
  | zeroByte
  deriving DecidableEq, Repr

def FileFault.message : FileFault → String
  | .notFound => "No such file or directory (os error 2)"
  | .alreadyExists => "File exists (os error 17)"
  | .notDirectory => "Not a directory (os error 20)"
  | .isDirectory => "Is a directory (os error 21)"
  | .nameTooLong => "File name too long (os error 36)"
  | .zeroByte => "file name contained an unexpected NUL byte"

/-- The longest name of an entry, in bytes. -/
def maxName : Nat := 255

/-- Where someone stands. In a directory that has been taken away, its own place and the way up are
still there, but nothing is inside and nothing can be put there. -/
inductive Place
  | inTree (loc : Location)
  /-- In a directory that has been taken away, together with as many around it as `depth` says. The
  one around those stands at `outer`. -/
  | lost (depth : Nat) (outer : Location)
  deriving DecidableEq, Repr

namespace Place

def above : Place → Place
  | .inTree loc => .inTree loc.tail
  | .lost 0 outer => .inTree outer
  | .lost (depth + 1) outer => .lost depth outer

def child (dir : Place) (name : Name) : Except FileFault Place :=
  if name = Path.dot then .ok dir
  else if name = Path.dotDot then .ok dir.above
  else
    match dir with
    | .lost _ _ => .error .notFound
    | .inTree loc =>
      if maxName < name.length then .error .nameTooLong else .ok (.inTree (name :: loc))

/-- What becomes of a place when a node is taken away with everything inside. -/
def without (name : Name) (dir : Location) (place : Place) : Place :=
  match place with
  | .inTree loc =>
    if (name :: dir).isSuffixOf loc then .lost (loc.length - dir.length - 1) dir else place
  | .lost depth outer =>
    if (name :: dir).isSuffixOf outer then .lost (depth + (outer.length - dir.length)) dir
    else place

end Place

namespace FileTree

def nodeAt? (tree : FileTree) : Place → Option Node
  | .inTree loc => tree.node? loc
  | .lost _ _ => some .directory

def enter (tree : FileTree) (place : Place) : Except FileFault Place :=
  match tree.nodeAt? place with
  | none => .error .notFound
  | some (.file _) => .error .notDirectory
  | some .directory => .ok place

/-- Where names lead. All but the last must lead to directories; the last may be missing. -/
def walk (tree : FileTree) (place : Place) : List Name → Except FileFault Place
  | [] => .ok place
  | name :: names =>
    match tree.enter place with
    | .error fault => .error fault
    | .ok dir =>
      match dir.child name with
      | .error fault => .error fault
      | .ok next => walk tree next names

/-- The location that plain names lead to. -/
def below? (loc : Location) : List Name → Option Location
  | [] => some loc
  | name :: names =>
    if name = Path.dot ∨ name = Path.dotDot ∨ maxName < name.length then none
    else below? (name :: loc) names

theorem walk_of_below {tree : FileTree} {loc target : Location} {name : Name} {names : List Name}
    (plain : below? loc (name :: names) = some target)
    (directory : tree.node? target.tail = some .directory) :
    tree.node? loc = some .directory ∧
      tree.walk (.inTree loc) (name :: names) = .ok (.inTree target) := by
  rw [below?] at plain
  split at plain
  · contradiction
  next fits =>
  have stepped : (Place.inTree loc).child name = .ok (.inTree (name :: loc)) := by
    rw [Place.child, if_neg fun h => fits (.inl h), if_neg fun h => fits (.inr (.inl h))]
    exact if_neg fun h => fits (.inr (.inr h))
  have here : tree.node? loc = some .directory ∧
      tree.walk (.inTree (name :: loc)) names = .ok (.inTree target) := by
    cases names with
    | nil =>
      cases plain
      exact ⟨directory, rfl⟩
    | cons next names =>
      have inner := walk_of_below plain directory
      exact ⟨tree.closed _ _ _ inner.1, inner.2⟩
  refine ⟨here.1, ?_⟩
  rw [walk, enter, nodeAt?, here.1]
  simp only [stepped]
  exact here.2

/-- Where names lead. Where a directory stands above the end of plain names, nothing else has to be
looked up. -/
def lead (tree : FileTree) (place : Place) (names : List Name) : Except FileFault Place :=
  match place, names with
  | .inTree loc, name :: names =>
    match (below? loc (name :: names)).filter fun target =>
        tree.node? target.tail = some .directory with
    | some target => .ok (.inTree target)
    | none => tree.walk (.inTree loc) (name :: names)
  | place, names => tree.walk place names

theorem lead_eq_walk (tree : FileTree) (place : Place) (names : List Name) :
    tree.lead place names = tree.walk place names := by
  unfold lead
  split
  · split
    next target found =>
      obtain ⟨plain, directory⟩ := Option.filter_eq_some_iff.1 found
      exact (walk_of_below plain (of_decide_eq_true directory)).2.symm
    · rfl
  · rfl

def trail (place : Place) : List Name → List Place
  | [] => [place]
  | name :: names =>
    place :: match place.child name with
      | .ok next => trail next names
      | .error _ => []

end FileTree

end IconCatalog
