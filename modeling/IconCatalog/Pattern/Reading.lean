import IconCatalog.Pattern.Class
import IconCatalog.Pattern.Group
set_option autoImplicit false

namespace IconCatalog.Pattern

/-- The place behind a mark that makes a repetition short, if it stands here. -/
def Cursor.afterMark (cursor : Cursor) : Cursor := (cursor.after? "?").getD cursor

def Cursor.repetition (cursor : Cursor) (least : Nat) (most : Option Nat) : Repetition × Cursor :=
  (⟨least, most, (cursor.after? "?").isNone⟩, cursor.afterMark)

def countEnd (start least : Nat) (most : Option Nat) (cursor : Cursor) :
    Except Fault (Repetition × Cursor) :=
  if cursor.rest.head? ≠ some '\x7d' then fail .openCount start cursor.offset
  else if most.any (· < least) then fail .countOrder start cursor.next.afterMark.offset
  else .ok (cursor.next.repetition least most)

/-- Reads how often a piece is repeated, and gives the place behind. What is wrong with the first
number is found only when more stands behind it. -/
def count (cursor : Cursor) : Except Fault (Repetition × Cursor) :=
  let start := cursor.offset
  let (low, behind) := cursor.next.decimal
  if cursor.next.rest.isEmpty || behind.rest.isEmpty then fail .openCount start behind.offset
  else if behind.rest.head? ≠ some ',' then do
    let least ← low
    countEnd start least (some least) behind
  else if behind.next.rest.isEmpty then fail .openCount start behind.next.offset
  else if behind.next.rest.head? = some '\x7d' then do
    countEnd start (← low) none behind.next
  else do
    let least ← low
    let (high, last) := behind.next.decimal
    let most ← high
    countEnd start least (some most) last

def repetition (cursor : Cursor) (c : Char) : Except Fault (Repetition × Cursor) :=
  if c = '?' then .ok ((cursor.drop 1).repetition 0 (some 1))
  else if c = '*' then .ok ((cursor.drop 1).repetition 0 none)
  else if c = '+' then .ok ((cursor.drop 1).repetition 1 none)
  else count cursor

/-- What is read of a group, or of the pattern outside of all groups. -/
structure Level where
  /-- Where the first branch begins. -/
  start : Nat
  /-- Where the branch begins that is read. -/
  branchStart : Nat
  /-- The branches before it, in reverse. -/
  branches : List Tree
  /-- Its parts in reverse. -/
  parts : List Tree

namespace Level

def opened (start : Nat) : Level := ⟨start, start, [], []⟩

def push (level : Level) (tree : Tree) : Level := { level with parts := tree :: level.parts }

def branch (level : Level) (stop : Nat) : Tree :=
  .ofRow ⟨level.branchStart, stop⟩ level.parts.reverse

/-- Ends a branch at a place and begins another behind it. -/
def divide (level : Level) (stop behind : Nat) : Level :=
  { level with
    branchStart := behind, branches := level.branch stop :: level.branches, parts := [] }

def tree (level : Level) (stop : Nat) : Tree :=
  if level.branches.isEmpty then level.branch stop
  else .choice ⟨level.start, stop⟩ (level.branch stop :: level.branches).reverse

end Level

/-- A group that is open, and what stands before it. -/
structure Group where
  offset : Nat
  kind : GroupKind
  spaced : Bool
  before : Level

structure Progress where
  cursor : Cursor
  level : Level
  /-- The groups around the place, the innermost first. -/
  groups : List Group
  names : GroupNames
  /-- How many groups have a number. -/
  captures : Nat

namespace Progress

def openGroup (progress : Progress) : Except Fault Progress := do
  let here := progress.cursor
  let (kind, names, behind) ← opening progress.names here
  let cursor := { behind with spaced := (kind.given.setting? 'x').getD here.spaced }
  let enter (kind : GroupKind) (captures : Nat) : Progress :=
    let group : Group := ⟨here.offset, kind, here.spaced, progress.level⟩
    ⟨cursor, .opened behind.offset, group :: progress.groups, names, captures⟩
  match kind with
  | .capture => .ok (enter (.capture progress.captures) (progress.captures + 1))
  | .flagged flags => .ok (enter (.flagged flags) progress.captures)
  | .flags flags =>
    let span : Span := ⟨here.offset, behind.offset⟩
    .ok { progress with
      cursor := cursor, names := names, level := progress.level.push (.flags span flags) }

def closeGroup (progress : Progress) : Except Fault Progress :=
  let here := progress.cursor
  match progress.groups with
  | [] => fail .strayClosing here.offset (here.offset + 1)
  | group :: outer =>
    let tree : Tree :=
      .group ⟨group.offset, here.offset + 1⟩ group.kind (progress.level.tree here.offset)
    .ok { progress with
      cursor := { here.drop 1 with spaced := group.spaced },
      level := group.before.push tree, groups := outer }

def add (progress : Progress) (tree : Tree) (behind : Cursor) : Progress :=
  { progress with cursor := behind, level := progress.level.push tree }

/-- Repeats the last part. There has to be one, and flags are none. -/
def repeatLast (progress : Progress) (c : Char) : Except Fault Progress :=
  let here := progress.cursor
  match progress.level.parts with
  | [] | .flags _ _ :: _ => fail .nothingRepeated here.offset here.offset
  | tree :: before => do
    let (times, behind) ← repetition here c
    let tree : Tree := .repetition ⟨tree.start, behind.offset⟩ times tree
    .ok { progress with
      cursor := behind, level := { progress.level with parts := tree :: before } }

def isRepetition (c : Char) : Bool := c = '?' || c = '*' || c = '+' || c = '\x7b'

def characterKind (c : Char) : PieceKind :=
  if c = '.' then .anyCharacter
  else if c = '^' then .lineStart
  else if c = '$' then .lineStop
  else .literal c

def step (progress : Progress) (c : Char) : Except Fault Progress :=
  let here := progress.cursor
  if c = '(' then progress.openGroup
  else if c = ')' then progress.closeGroup
  else if c = '|' then
    .ok { progress with
      cursor := here.drop 1, level := progress.level.divide here.offset (here.offset + 1) }
  else if c = '[' then (bracketed here).map fun (tree, behind) => progress.add (.set tree) behind
  else if c = '\\' then
    (escape here).map fun (piece, behind) => progress.add (.piece piece) behind
  else if isRepetition c then progress.repeatLast c
  else
    .ok (progress.add (.piece ⟨characterKind c, ⟨here.offset, here.offset + 1⟩⟩) (here.drop 1))

def finish : Nat → Progress → Except Fault Tree
  | 0, progress => .ok (progress.level.tree progress.cursor.offset)
  | fuel + 1, progress =>
    let here := progress.cursor.skipBlanks
    match here.rest, progress.groups with
    | [], [] => .ok (progress.level.tree here.offset)
    | [], group :: _ => fail .openGroup group.offset (group.offset + 1)
    | c :: _, _ => do finish fuel (← { progress with cursor := here }.step c)

end Progress

def Tree.ofString (pattern : String) : Except Fault Tree :=
  Progress.finish (pattern.length + 1) ⟨⟨0, pattern.toList, false⟩, .opened 0, [], [], 0⟩

end IconCatalog.Pattern
