import IconCatalog.Path
import IconCatalog.Picture
import Std.Data.ExtTreeMap
set_option autoImplicit false

namespace IconCatalog

/-- A place in a tree: its own name, then those of the directories around it. The root has none. -/
abbrev Location := List Name

/-- The absolute path that leads to a location. -/
def Location.path (loc : Location) : Path :=
  ⟨Path.slash :: List.intercalate [Path.slash] (loc : List Name).reverse⟩

inductive Content
  | plain (bytes : Bytes)
  /-- A PNG file. -/
  | picture (p : Picture)
  deriving DecidableEq, Repr

inductive Node
  | directory
  | file (content : Content)
  deriving DecidableEq, Repr

/-- Directories and files. Whatever stands somewhere stands in a directory, and two trees with the
same nodes are equal. Devices, links and permissions are no part of a tree. -/
structure FileTree where
  nodes : Std.ExtTreeMap Location Node
  root : nodes[([] : Location)]? = some .directory
  closed : ∀ (name : Name) (dir : Location) (node : Node),
    nodes[name :: dir]? = some node → nodes[dir]? = some .directory

namespace FileTree

def node? (tree : FileTree) (loc : Location) : Option Node := tree.nodes[loc]?

theorem ext_node? {s t : FileTree} (same : ∀ loc, s.node? loc = t.node? loc) : s = t := by
  cases s
  cases t
  congr
  exact Std.ExtTreeMap.ext_getElem? same

def empty : FileTree where
  nodes := (∅ : Std.ExtTreeMap Location Node).insert [] .directory
  root := Std.ExtTreeMap.getElem?_insert_self
  closed name dir node found := by
    rw [Std.ExtTreeMap.getElem?_insert, Std.ExtTreeMap.getElem?_empty] at found
    split at found
    · next same => exact absurd (Std.LawfulEqCmp.eq_of_compare same) (List.cons_ne_nil _ _).symm
    · contradiction

instance : Inhabited FileTree := ⟨empty⟩

/-- A node can be put where a directory is around it, and only a directory in the place of a
directory. -/
def Accepts (tree : FileTree) (name : Name) (dir : Location) (node : Node) : Prop :=
  tree.node? dir = some .directory ∧
    (tree.node? (name :: dir) = some .directory → node = .directory)

instance (tree : FileTree) (name : Name) (dir : Location) (node : Node) :
    Decidable (tree.Accepts name dir node) :=
  inferInstanceAs (Decidable (_ ∧ _))

theorem getElem?_insert_node (nodes : Std.ExtTreeMap Location Node) (loc other : Location)
    (node : Node) :
    (nodes.insert loc node)[other]? = if other = loc then some node else nodes[other]? := by
  rw [Std.ExtTreeMap.getElem?_insert]
  by_cases same : loc = other
  · rw [if_pos same.symm, if_pos (same ▸ Std.ReflCmp.compare_self)]
  · rw [if_neg (Ne.symm same), if_neg fun c => same (Std.LawfulEqCmp.eq_of_compare c)]

/-- Puts a node where it is accepted; elsewhere nothing changes. -/
def put (tree : FileTree) (name : Name) (dir : Location) (node : Node) : FileTree :=
  if accepted : tree.Accepts name dir node then {
    nodes := tree.nodes.insert (name :: dir) node
    root := by
      rw [getElem?_insert_node, if_neg (List.cons_ne_nil _ _).symm]
      exact tree.root
    closed := by
      intro name' dir' node' found
      rw [getElem?_insert_node] at found ⊢
      split at found
      · next here =>
        cases here
        rw [if_neg (fun circular => List.cons_ne_self _ _ circular.symm)]
        exact accepted.1
      · have around := tree.closed _ _ _ found
        split
        · next here => rw [accepted.2 (here ▸ around)]
        · exact around }
  else tree

theorem node?_put {tree : FileTree} {name : Name} {dir : Location} {node : Node}
    (accepted : tree.Accepts name dir node) (loc : Location) :
    (tree.put name dir node).node? loc =
      if loc = name :: dir then some node else tree.node? loc := by
  rw [put, dif_pos accepted]
  exact getElem?_insert_node _ _ _ _

theorem put_eq_self {tree : FileTree} {name : Name} {dir : Location} {node : Node}
    (refused : ¬ tree.Accepts name dir node) : tree.put name dir node = tree := by
  rw [put, dif_neg refused]

def remove (tree : FileTree) (name : Name) (dir : Location) : FileTree where
  nodes := tree.nodes.filter fun loc _ => !(name :: dir).isSuffixOf loc
  root := by
    rw [Std.ExtTreeMap.getElem?_filter', tree.root, Option.filter_some, if_pos]
    rw [Bool.not_eq_true', ← Bool.not_eq_true, List.isSuffixOf_iff_suffix, List.suffix_nil]
    exact List.cons_ne_nil _ _
  closed := by
    intro name' dir' node' found
    rw [Std.ExtTreeMap.getElem?_filter', Option.filter_eq_some_iff] at found ⊢
    refine ⟨tree.closed _ _ _ found.1, ?_⟩
    have outside := found.2
    rw [Bool.not_eq_true', ← Bool.not_eq_true, List.isSuffixOf_iff_suffix] at outside ⊢
    exact fun inside => outside (inside.trans (List.suffix_cons _ _))

def toList (tree : FileTree) : List (Location × Node) :=
  tree.nodes.toList.filter fun entry => !entry.1.isEmpty

end FileTree

end IconCatalog
