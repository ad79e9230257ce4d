import IconCatalog.Pattern.Escape
set_option autoImplicit false

namespace IconCatalog.Pattern

inductive ClassOperator
  | intersection
  | difference
  | symmetricDifference
  deriving DecidableEq, Repr

/-- What stands in a class, or a class. -/
inductive ClassTree
  /-- No item, where one could stand. -/
  | empty (place : Nat)
  | single (piece : Piece)
  | range (low high : Piece)
  | named (span : Span) (name : String) (negated : Bool)
  | bracketed (span : Span) (negated : Bool) (inner : ClassTree)
  /-- Several items. -/
  | items (span : Span) (trees : List ClassTree)
  | combined (span : Span) (operator : ClassOperator) (left right : ClassTree)

def ClassTree.span : ClassTree → Span
  | .empty place => ⟨place, place⟩
  | .single piece => piece.span
  | .range low high => ⟨low.span.start, high.span.stop⟩
  | .named span _ _ | .bracketed span _ _ | .items span _ | .combined span _ _ _ => span

def ClassTree.isOwn : ClassTree → Bool
  | .single _ | .range _ _ => true
  | _ => false

/-- Whether something has characters, apart from the classes in it. -/
def ClassTree.hasOwn : ClassTree → Bool
  | .items _ trees => trees.any isOwn
  | tree => tree.isOwn

/-- How often something stands, and whether as often as can be. -/
structure Repetition where
  least : Nat
  most : Option Nat
  greedy : Bool
  deriving DecidableEq, Repr

/-- Flags in their order. From a hyphen on they are turned off. -/
abbrev Flags := List (Char × Span)

def Flags.setting? (flags : Flags) (letter : Char) : Option Bool :=
  if flags.any (·.1 = letter) then
    some !((flags.takeWhile (·.1 ≠ letter)).any (·.1 = '-'))
  else none

inductive GroupKind
  /-- A group by its number. -/
  | capture (number : Nat)
  | flagged (flags : Flags)
  deriving DecidableEq, Repr

def GroupKind.flags : GroupKind → Flags
  | .capture _ => []
  | .flagged given => given

/-- A pattern as it is written, in parts with their places. -/
inductive Tree
  | empty
  | piece (single : Piece)
  | set (classes : ClassTree)
  /-- Flags for what follows. -/
  | flags (span : Span) (given : Flags)
  | repetition (span : Span) (times : Repetition) (inner : Tree)
  | group (span : Span) (kind : GroupKind) (inner : Tree)
  | row (span : Span) (trees : List Tree)
  | choice (span : Span) (trees : List Tree)

/-- Where a part begins. An empty one begins nowhere. -/
def Tree.start : Tree → Nat
  | .empty => 0
  | .piece single => single.span.start
  | .set classes => classes.span.start
  | .flags span _ | .repetition span _ _ | .group span _ _ | .row span _ | .choice span _ =>
    span.start

def Tree.ofRow (span : Span) : List Tree → Tree
  | [] => .empty
  | [tree] => tree
  | trees => .row span trees

mutual

def ClassTree.tooDeep? (levels : Nat) : ClassTree → Option Span
  | .empty _ | .single _ | .range _ _ | .named _ _ _ => none
  | .bracketed span _ inner =>
    match levels with
    | 0 => some span
    | levels + 1 => inner.tooDeep? levels
  | .items span trees =>
    match levels with
    | 0 => some span
    | levels + 1 => ClassTree.anyTooDeep? levels trees
  | .combined span _ left right =>
    match levels with
    | 0 => some span
    | levels + 1 =>
      match left.tooDeep? levels with
      | some span => some span
      | none => right.tooDeep? levels

def ClassTree.anyTooDeep? (levels : Nat) : List ClassTree → Option Span
  | [] => none
  | tree :: rest =>
    match tree.tooDeep? levels with
    | some span => some span
    | none => ClassTree.anyTooDeep? levels rest

end

mutual

def Tree.tooDeep? (levels : Nat) : Tree → Option Span
  | .empty | .piece _ | .flags _ _ => none
  | .set classes => classes.tooDeep? levels
  | .repetition span _ inner | .group span _ inner =>
    match levels with
    | 0 => some span
    | levels + 1 => inner.tooDeep? levels
  | .row span trees | .choice span trees =>
    match levels with
    | 0 => some span
    | levels + 1 => Tree.anyTooDeep? levels trees

def Tree.anyTooDeep? (levels : Nat) : List Tree → Option Span
  | [] => none
  | tree :: rest =>
    match tree.tooDeep? levels with
    | some span => some span
    | none => Tree.anyTooDeep? levels rest

end

end IconCatalog.Pattern
