import IconCatalog.Pattern.SetStates
import IconCatalog.Pattern.Term
set_option autoImplicit false

namespace IconCatalog.Pattern

def sizeLimit : Nat := 10485760

def bytesPerState : Nat := 32

/-- What is made of a machine. States are counted in the order in which they are made, up to a limit
on their memory. -/
structure Tally where
  states : Nat
  /-- Bytes for lists in states. -/
  listBytes : Nat
  deriving DecidableEq, Repr

namespace Tally

def empty : Tally := ⟨0, 0⟩

def bytes (tally : Tally) : Nat := tally.states * bytesPerState + tally.listBytes

def add (states listBytes : Nat) (tally : Tally) : Option Tally :=
  let sum : Tally := ⟨tally.states + states, tally.listBytes + listBytes⟩
  if sizeLimit < sum.bytes then none else some sum

end Tally

/-- How a part of a machine ends. Only a fork keeps a list of what follows. -/
inductive Ending
  | plain
  | fork
  deriving DecidableEq, Repr

/-- Bytes for a state that follows a part. -/
def Ending.link : Ending → Nat
  | .plain => 0
  | .fork => bytesPerBranch

/-- Makes a part of a machine, within the limit. -/
abbrev Maker := Tally → Option (Tally × Ending)

namespace Maker

def states (count listBytes : Nat) (ending : Ending) : Maker := fun tally =>
  (tally.add count listBytes).map fun tally => (tally, ending)

def behind (next : Maker) (before : Ending) : Maker := fun tally =>
  match next tally with
  | none => none
  | some (tally, ending) => (tally.add 0 before.link).map fun tally => (tally, ending)

def copiesBehind (part : Maker) : Nat → Ending → Maker
  | 0, before, tally => some (tally, before)
  | count + 1, before, tally =>
    match part.behind before tally with
    | none => none
    | some (tally, ending) => copiesBehind part count ending tally

def copies (part : Maker) : Nat → Maker
  | 0 => states 1 0 .plain
  | count + 1 => fun tally =>
    match part tally with
    | none => none
    | some (tally, ending) => copiesBehind part count ending tally

def optional (part : Maker) : Maker := fun tally =>
  match tally.add 1 bytesPerBranch with
  | none => none
  | some tally =>
    match part tally with
    | none => none
    | some (tally, ending) => states 1 (bytesPerBranch + ending.link) .plain tally

/-- Makes a part that stands behind itself and may be left out. One that can match the empty text
needs two forks. -/
def anyNumber (nonempty : Bool) (part : Maker) : Maker := fun tally =>
  if nonempty then
    match tally.add 1 bytesPerBranch with
    | none => none
    | some tally =>
      match part tally with
      | none => none
      | some (tally, ending) => states 0 ending.link .fork tally
  else
    match part tally with
    | none => none
    | some (tally, ending) => states 3 (4 * bytesPerBranch + ending.link) .plain tally

/-- Makes a part that stands behind itself, once more than `before` copies of it. -/
def atLeast (before : Nat) (part : Maker) : Maker := fun tally =>
  let copy : Maker := match before with
    | 0 => part
    | _ => fun tally =>
      match copies part before tally with
      | none => none
      | some (tally, ending) => part.behind ending tally
  match copy tally with
  | none => none
  | some (tally, ending) => states 1 (bytesPerBranch + ending.link) .fork tally

def optionals (part : Maker) : Nat → Ending → Tally → Option (Tally × Ending)
  | 0, before, tally => some (tally, before)
  | count + 1, before, tally =>
    match tally.add 1 (2 * bytesPerBranch + before.link) with
    | none => none
    | some tally =>
      match part tally with
      | none => none
      | some (tally, ending) => optionals part count ending tally

def between (least more : Nat) (part : Maker) : Maker := fun tally =>
  match copies part least tally with
  | none => none
  | some (tally, ending) =>
    match tally.add 1 0 with
    | none => none
    | some tally =>
      match optionals part more ending tally with
      | none => none
      | some (tally, ending) => states 0 ending.link .plain tally

def repeated (least : Nat) (most : Option Nat) (nonempty : Bool) (part : Maker) : Maker :=
  match least, most with
  | 0, some 1 => optional part
  | 0, none => anyNumber nonempty part
  | before + 1, none => atLeast before part
  | least, some most =>
    if least = most then copies part least else between least (most - least) part

def enclosed (part : Maker) : Maker := fun tally =>
  match tally.add 1 0 with
  | none => none
  | some tally =>
    match part tally with
    | none => none
    | some (tally, ending) => states 1 ending.link .plain tally

end Maker

/-- A state for some transitions, and none for no transition. One transition takes no list. -/
def stateSize (transitions : Nat) : Nat × Nat :=
  if transitions = 0 then (0, 0)
  else (1, if transitions = 1 then 0 else transitions * bytesPerTransition)

/-- The texts between those that are empty. Those in front count once. -/
def untilEnds : List Bytes → List (List Bytes)
  | texts =>
    let chunks := texts.splitOn []
    match chunks with
    | [] :: rest => [] :: rest.dropWhile List.isEmpty
    | _ => chunks

def firstBytes (texts : List Bytes) : List UInt8 := (texts.filterMap List.head?).eraseDups

def tailsAt (b : UInt8) (texts : List Bytes) : List Bytes :=
  texts.filterMap fun text =>
    match text with
    | [] => none
    | c :: rest => if c = b then some rest else none

/-- The states and the bytes of lists for texts with a common start of which no text follows. The
last state for a text is the common end. -/
def trieSize : Nat → List Bytes → Nat × Nat
  | 0, _ => (0, 0)
  | depth + 1, texts =>
    if texts.all List.isEmpty then (0, 0)
    else
      let chunks := untilEnds texts
      let branches := chunks.countP (fun chunk => !chunk.isEmpty) + (chunks.length - 1)
      let fork : Nat × Nat := (1, branches * bytesPerBranch)
      chunks.foldl (fun size chunk =>
        let bytes := firstBytes chunk
        (bytes.map fun b => trieSize depth (tailsAt b chunk)).foldl
          (fun (m, n) (k, l) => (m + k, n + l))
          (size.1 + (stateSize bytes.length).1, size.2 + (stateSize bytes.length).2)) fork

def Maker.literals (texts : List Bytes) : Maker :=
  let longest := (texts.map List.length).foldl max 0
  let (states, listBytes) := trieSize (longest + 1) texts
  .states (states + 1) listBytes .plain

def Maker.set (backwards : Bool) (set : CharacterSet) : Maker := fun tally =>
  if set.isAscii then Maker.states 2 (set.length * bytesPerTransition) .plain tally
  else
    let rows := set.flatMap fun range => ByteRange.rows range.1 range.2
    if backwards then
      let known := BackwardSet.states rows tally.states
      Maker.states (known.next - tally.states) known.listBytes .plain tally
    else
      let known := ForwardSet.states rows tally.states
      Maker.states (known.next - tally.states) known.listBytes .plain tally

namespace Maker

def row : List Maker → Maker
  | [], tally => some (tally, .plain)
  | first :: rest, tally =>
    match first tally with
    | none => none
    | some (tally, ending) => rowBehind ending rest tally
where
  rowBehind (before : Ending) : List Maker → Maker
    | [], tally => some (tally, before)
    | next :: rest, tally =>
      match next.behind before tally with
      | none => none
      | some (tally, ending) => rowBehind ending rest tally

/-- Makes alternatives. The fork before them and the state behind them are made when there are two
of them. -/
def choice (alternatives : List Maker) : Maker :=
  branches 2 alternatives
where
  branches (wait : Nat) : List Maker → Maker
    | [], tally => some (tally, .plain)
    | next :: rest, tally =>
      match next tally with
      | none => none
      | some (tally, ending) =>
        match tally.add (if wait = 1 then 2 else 0) (bytesPerBranch + ending.link) with
        | none => none
        | some tally => branches (wait - 1) rest tally

end Maker

namespace Term

mutual

/-- Makes a machine for a term, which may read backwards. Groups are noted forwards alone. -/
def maker (backwards : Bool) : Term → Maker
  | .empty, tally | .look _, tally => Maker.states 1 0 .plain tally
  | .literal bytes, tally => Maker.states bytes.length 0 .plain tally
  | .set _ characters, tally => Maker.set backwards characters tally
  | .repetition least most _ inner, tally =>
    Maker.repeated least most (inner.width.least.any (0 < ·)) (inner.maker backwards) tally
  | .capture _ inner, tally =>
    if backwards then inner.maker backwards tally
    else Maker.enclosed (inner.maker backwards) tally
  | .row terms, tally =>
    let reversed := makersOnto backwards [] terms
    Maker.row (if backwards then reversed else reversed.reverse) tally
  | .choice terms, tally =>
    match terms.mapM literal? with
    | some texts => Maker.literals (if backwards then texts.map List.reverse else texts) tally
    | none => Maker.choice (makersOnto backwards [] terms).reverse tally

def makersOnto (backwards : Bool) (found : List Maker) : List Term → List Maker
  | [] => found
  | term :: rest => makersOnto backwards (term.maker backwards :: found) rest

end

/-- Makes the whole machine for a term. Where a match can start anywhere, a loop stands before
it. -/
def wholeMaker (backwards : Bool) (term : Term) : Maker := fun tally =>
  let start :=
    if term.anchored backwards then tally.add 1 0
    else tally.add 3 (bytesPerTransition + 2 * bytesPerBranch)
  start.bind fun tally =>
    let part := term.maker backwards
    let part := if backwards then part else part.enclosed
    match part tally with
    | none => none
    | some (tally, ending) => Maker.states 1 ending.link .plain tally

/-- Whether the machine for a term stays within the limit. -/
def fits (backwards : Bool) (term : Term) : Bool := (term.wholeMaker backwards .empty).isSome

end Term

end IconCatalog.Pattern
