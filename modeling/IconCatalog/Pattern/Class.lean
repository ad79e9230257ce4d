import IconCatalog.Pattern.Tree
set_option autoImplicit false

namespace IconCatalog.Pattern

def classNames : List String :=
  ["alnum", "alpha", "ascii", "blank", "cntrl", "digit", "graph", "lower", "print", "punct",
    "space", "upper", "word", "xdigit"]

def className? (cursor : Cursor) : Option (ClassTree × Cursor) :=
  (cursor.after? "[:").bind fun inner =>
    let first := (inner.after? "^").getD inner
    let name := String.ofList (first.rest.takeWhile (· != ':'))
    (((first.drop name.length).after? ":]").filter fun _ => name ∈ classNames).map fun behind =>
      (.named ⟨cursor.offset, behind.offset⟩ name (inner.after? "^").isSome, behind)

structure Items where
  /-- Where the first one would begin. -/
  place : Nat
  reversed : List ClassTree

def Items.tree (items : Items) : ClassTree :=
  match items.reversed with
  | [] => .empty items.place
  | [item] => item
  | last :: rest =>
    .items ⟨(rest.getLastD last).span.start, last.span.stop⟩ (last :: rest).reverse

structure OpenClass where
  opening : Span
  negated : Bool
  /-- What stands before an operator. -/
  left : Option (ClassOperator × ClassTree)
  items : Items

namespace OpenClass

def fail {α : Type} (current : OpenClass) : Except Fault α :=
  .error (current.opening.fault .openClass)

def add (current : OpenClass) (item : ClassTree) : OpenClass :=
  { current with items := { current.items with reversed := item :: current.items.reversed } }

def tree (current : OpenClass) : ClassTree :=
  let right := current.items.tree
  match current.left with
  | none => right
  | some (operator, left) =>
    .combined ⟨left.span.start, right.span.stop⟩ operator left right

def combine (current : OpenClass) (operator : ClassOperator) (behind : Cursor) : OpenClass :=
  { current with left := some (operator, current.tree), items := ⟨behind.offset, []⟩ }

end OpenClass

def Cursor.item (cursor : Cursor) (c : Char) : ClassTree :=
  .single ⟨.literal c, ⟨cursor.offset, cursor.offset + 1⟩⟩

/-- Hyphens at the start of a class, which stand for themselves, before those found. -/
def leadingHyphens (found : List ClassTree) (cursor : Cursor) : List ClassTree × Cursor :=
  match _here : cursor.rest with
  | [] => (found, cursor)
  | c :: _ =>
    if c = '-' then leadingHyphens (cursor.item c :: found) cursor.next else (found, cursor)
termination_by cursor.rest.length
decreasing_by exact Cursor.length_next _here

/-- Opens a class, and gives the place behind the opening. Hyphens there, or else a closing
bracket, stand for themselves and belong to the opening. -/
def classStart (cursor : Cursor) : Except Fault (OpenClass × Cursor) :=
  let start := cursor.offset
  let negation := cursor.next.after? "^"
  let inner := negation.elim cursor.next Cursor.skipBlanks
  let (hyphens, behind) := leadingHyphens [] inner
  let (items, last) :=
    if hyphens.isEmpty && behind.rest.head? = some ']' then
      ([behind.item ']'], behind.next)
    else (hyphens, behind)
  if !last.rest.isEmpty then
    .ok (⟨⟨start, last.offset⟩, negation.isSome, none, ⟨inner.offset, items⟩⟩, last)
  else if hyphens.isEmpty then fail .openClass start last.offset
  else fail .openClass start start

def classItem (cursor : Cursor) : Except Fault (Piece × Cursor) :=
  match cursor.rest with
  | [] => fail .openClass cursor.offset cursor.offset
  | c :: _ =>
    if c = '\\' then escape cursor
    else .ok (⟨.literal c, ⟨cursor.offset, cursor.offset + 1⟩⟩, cursor.drop 1)

def Piece.bound (piece : Piece) : Except Fault Char :=
  match piece.kind with
  | .literal c | .byte c => .ok c
  | _ => .error (piece.span.fault .rangeBoundary)

def Piece.isAssertion (piece : Piece) : Bool :=
  match piece.kind with
  | .wordEdge _ | .lineStart | .lineStop | .textStart | .textStop => true
  | _ => false

/-- An item of a class, or a range between two. A hyphen before a closing bracket or before
another hyphen makes no range. -/
def classRange (current : OpenClass) (cursor : Cursor) : Except Fault (ClassTree × Cursor) := do
  let (low, behind) ← classItem cursor
  let mark := behind.skipBlanks
  match mark.rest.head? with
  | none => current.fail
  | some c =>
    if c ≠ '-' || mark.ahead? = some ']' || mark.ahead? = some '-' then
      if low.isAssertion then .error (low.span.fault .classEscape) else .ok (.single low, mark)
    else if mark.next.rest.isEmpty then current.fail
    else
      let (high, last) ← classItem mark.next
      let lowest ← low.bound
      let highest ← high.bound
      if highest < lowest then fail .rangeOrder low.span.start high.span.stop
      else .ok (.range low high, last)

/-- What stands, when it is doubled, between items that are combined. -/
def classOperator? (c : Char) : Option ClassOperator :=
  if c = '&' then some .intersection
  else if c = '-' then some .difference
  else if c = '~' then some .symmetricDifference
  else none

inductive ClassProgress
  | finished (tree : ClassTree) (behind : Cursor)
  /-- A class is open, in others of which the innermost comes first. -/
  | unfinished (current : OpenClass) (outer : List OpenClass) (cursor : Cursor)

namespace ClassProgress

def close (current : OpenClass) (outer : List OpenClass) (here : Cursor) : ClassProgress :=
  let behind := here.drop 1
  let tree : ClassTree :=
    .bracketed ⟨current.opening.start, behind.offset⟩ current.negated current.tree
  match outer with
  | [] => .finished tree behind
  | next :: rest => .unfinished (next.add tree) rest behind

def nest (current : OpenClass) (outer : List OpenClass) (here : Cursor) :
    Except Fault ClassProgress :=
  match className? here with
  | some (item, behind) => .ok (.unfinished (current.add item) outer behind)
  | none => do
    let (inner, behind) ← classStart here
    .ok (.unfinished inner (current :: outer) behind)

def step (current : OpenClass) (outer : List OpenClass) (here : Cursor) (c : Char)
    (next? : Option Char) : Except Fault ClassProgress :=
  if c = '[' then nest current outer here
  else if c = ']' then .ok (close current outer here)
  else
    match (classOperator? c).filter fun _ => next? = some c with
    | some operator =>
      let behind := here.drop 2
      .ok (.unfinished (current.combine operator behind) outer behind)
    | none => do
      let (item, behind) ← classRange current here
      .ok (.unfinished (current.add item) outer behind)

def finish : Nat → ClassProgress → Except Fault (ClassTree × Cursor)
  | _, .finished tree behind => .ok (tree, behind)
  | 0, .unfinished current _ _ => current.fail
  | fuel + 1, .unfinished current outer cursor =>
    let here := cursor.skipBlanks
    match here.rest with
    | [] => current.fail
    | c :: rest => do finish fuel (← step current outer here c rest.head?)

end ClassProgress

def bracketed (cursor : Cursor) : Except Fault (ClassTree × Cursor) := do
  let (opened, behind) ← classStart cursor
  ClassProgress.finish (behind.rest.length + 1) (.unfinished opened [] behind)

end IconCatalog.Pattern
