import IconCatalog.Pattern.Term
import IconCatalog.Pattern.Tree
set_option autoImplicit false

namespace IconCatalog.Pattern

/-- How pieces are meant at some place. There are no tables of characters here, so in Unicode mode
nothing that needs one has a meaning; in ASCII mode nothing may match part of a character. -/
structure Mode where
  caseless : Bool
  /-- Characters are bytes. -/
  ascii : Bool
  /-- The marks of the start and the end hold for lines. -/
  lines : Bool
  /-- The mark of any character includes the end of a line. -/
  dotAll : Bool
  /-- Repetitions are short, and those with a mark long. -/
  short : Bool
  /-- Carriage returns end lines too. -/
  returns : Bool
  deriving DecidableEq, Repr

namespace Mode

def initial : Mode := ⟨false, false, false, false, false, false⟩

def under (mode : Mode) (flags : Flags) : Mode where
  caseless := (flags.setting? 'i').getD mode.caseless
  ascii := !((flags.setting? 'u').getD !mode.ascii)
  lines := (flags.setting? 'm').getD mode.lines
  dotAll := (flags.setting? 's').getD mode.dotAll
  short := (flags.setting? 'U').getD mode.short
  returns := (flags.setting? 'R').getD mode.returns

/-- Letters in either case are wanted, of any script. -/
def needsCases (mode : Mode) : Bool := mode.caseless && !mode.ascii

def cased (mode : Mode) (set : CharacterSet) : CharacterSet :=
  if mode.caseless && mode.ascii then set.withCases else set

/-- All characters, or all that end no line. -/
def anyCharacter (mode : Mode) : CharacterSet :=
  if mode.dotAll then CharacterSet.complement []
  else if mode.returns then CharacterSet.complement [(0x0A, 0x0A), (0x0D, 0x0D)]
  else CharacterSet.complement [(0x0A, 0x0A)]

end Mode

def namedSet (name : String) : CharacterSet :=
  match name with
  | "alnum" => [(0x30, 0x39), (0x41, 0x5A), (0x61, 0x7A)]
  | "alpha" => [(0x41, 0x5A), (0x61, 0x7A)]
  | "ascii" => [(0x00, 0x7F)]
  | "blank" => [(0x09, 0x09), (0x20, 0x20)]
  | "cntrl" => [(0x00, 0x1F), (0x7F, 0x7F)]
  | "digit" => [(0x30, 0x39)]
  | "graph" => [(0x21, 0x7E)]
  | "lower" => [(0x61, 0x7A)]
  | "print" => [(0x20, 0x7E)]
  | "punct" => [(0x21, 0x2F), (0x3A, 0x40), (0x5B, 0x60), (0x7B, 0x7E)]
  | "space" => [(0x09, 0x0D), (0x20, 0x20)]
  | "upper" => [(0x41, 0x5A)]
  | "word" => [(0x30, 0x39), (0x41, 0x5A), (0x5F, 0x5F), (0x61, 0x7A)]
  | "xdigit" => [(0x30, 0x39), (0x41, 0x46), (0x61, 0x66)]
  | _ => []

def Familiar.set : Familiar → CharacterSet
  | .digit => namedSet "digit"
  | .blank => namedSet "space"
  | .word => namedSet "word"

/-- The name of a property in its common form, with no blanks and no word in front. -/
def propertyName (name : List Char) : List Char :=
  let lower := name.map Char.toLower
  let bare := if ['i', 's'].isPrefixOf lower then lower.drop 2 else lower
  bare.filter fun c => c.toNat < 0x80 && c ∉ [' ', '_', '-']

/-- Names that could be a property and are taken for the value of one. -/
def valueNames : List (List Char) := [['c', 'f'], ['s', 'c'], ['l', 'c']]

/-- What is missing for a property. One with a value is looked for by its own name. -/
def propertyMistake (name : List Char) : Mistake :=
  if ':' ∉ name ∧ '=' ∉ name ∧ propertyName name ∈ valueNames then .unknownPropertyValue
  else .unknownProperty

def Piece.set (piece : Piece) (mode : Mode) : Except Mistake CharacterSet :=
  match piece.kind with
  | .familiar kind negated =>
    if !mode.ascii then .error .noClassTable
    else if negated then .error .notText
    else .ok kind.set
  | .property name => .error (if mode.ascii then .notUnicode else propertyMistake name)
  | _ => .ok []

/-- The set of a character, where its case matters. -/
def characterTerm (mode : Mode) (c : Char) : Except Mistake Term :=
  if mode.needsCases then .error .noCaseTable
  else if mode.caseless && c.isAlpha then
    .ok (.ofSet true (mode.cased (CharacterSet.single c)))
  else .ok (.ofChar c)

def Piece.meaning (piece : Piece) (mode : Mode) : Except Mistake Term :=
  match piece.kind with
  | .literal c => characterTerm mode c
  | .byte c => if mode.ascii && !(c.toNat < 0x80) then .error .notText else characterTerm mode c
  | .anyCharacter =>
    if mode.ascii then .error .notText else .ok (.ofSet false mode.anyCharacter)
  | .familiar _ _ | .property _ => (piece.set mode).map (.ofSet true)
  | .wordEdge edge => .ok (.look (.wordEdge edge mode.ascii))
  | .lineStart => .ok (.look (if mode.lines then .lineStart mode.returns else .textStart))
  | .lineStop => .ok (.look (if mode.lines then .lineStop mode.returns else .textStop))
  | .textStart => .ok (.look .textStart)
  | .textStop => .ok (.look .textStop)

def Piece.meaningInClass (piece : Piece) (mode : Mode) : Except Mistake CharacterSet :=
  match piece.kind with
  | .literal c =>
    if mode.ascii && !(c.toNat < 0x80) then .error .notUnicode else .ok (CharacterSet.single c)
  | .byte c =>
    if mode.ascii && !(c.toNat < 0x80) then .error .notText else .ok (CharacterSet.single c)
  | _ => piece.set mode

def Span.locate {α : Type} (span : Span) : Except Mistake α → Except Fault α
  | .ok value => .ok value
  | .error mistake => .error (span.fault mistake)

def ClassOperator.apply : ClassOperator → CharacterSet → CharacterSet → CharacterSet
  | .intersection => .intersection
  | .difference => .difference
  | .symmetricDifference => .symmetricDifference

def ClassTree.completed (tree : ClassTree) (mode : Mode) (set : CharacterSet) :
    Except Mistake CharacterSet :=
  if mode.needsCases && tree.hasOwn then .error .noCaseTable else .ok (mode.cased set)

def negatedSet (mode : Mode) (negated : Bool) (set : CharacterSet) :
    Except Mistake CharacterSet :=
  if !negated then .ok set
  else if mode.ascii then .error .notText
  else .ok set.complement

mutual

def ClassTree.meaning (mode : Mode) : ClassTree → Except Fault CharacterSet
  | .empty _ => .ok []
  | .single piece => piece.span.locate (piece.meaningInClass mode)
  | .range low high => do
    let lowest ← low.span.locate (low.meaningInClass mode)
    let highest ← high.span.locate (high.meaningInClass mode)
    .ok ((lowest.zip highest).map fun (a, b) => (a.1, b.2))
  | .named span name negated =>
    if mode.needsCases then .error (span.fault .noCaseTable)
    else span.locate (negatedSet mode negated (mode.cased (namedSet name)))
  | .bracketed span negated inner => do
    let set ← inner.meaning mode
    let set ← span.locate (inner.completed mode set)
    span.locate (negatedSet mode negated set)
  | .items _ trees => do .ok (CharacterSet.ofRanges (← ClassTree.meanings mode [] trees))
  | .combined _ operator left right => do
    let before ← left.meaning mode
    let behind ← right.meaning mode
    let behind ← right.span.locate (right.completed mode behind)
    let before ← left.span.locate (left.completed mode before)
    .ok (operator.apply before behind)

def ClassTree.meanings (mode : Mode) (found : List (Nat × Nat)) :
    List ClassTree → Except Fault (List (Nat × Nat))
  | [] => .ok found
  | tree :: rest =>
    match tree.meaning mode with
    | .error fault => .error fault
    | .ok set => ClassTree.meanings mode (set ++ found) rest

end

def GroupKind.term (kind : GroupKind) (inner : Term) : Term :=
  match kind with
  | .capture number => .capture number inner
  | .flagged _ => inner

mutual

/-- What a part means, and how the parts behind it are meant. -/
def Tree.meaning (mode : Mode) : Tree → Except Fault (Term × Mode)
  | .empty => .ok (.empty, mode)
  | .piece single => do .ok (← single.span.locate (single.meaning mode), mode)
  | .set classes => do .ok (.ofSet mode.ascii (← classes.meaning mode), mode)
  | .flags _ given => .ok (.empty, mode.under given)
  | .repetition _ times inner => do
    let (term, _) ← inner.meaning mode
    .ok (.ofRepetition times.least times.most (times.greedy != mode.short) term, mode)
  | .group _ kind inner => do
    let (term, _) ← inner.meaning (mode.under kind.flags)
    .ok (kind.term term, mode)
  | .row _ trees => do
    let (terms, mode) ← Tree.meanings mode [] trees
    .ok (.ofRow terms, mode)
  | .choice _ trees => do
    let (terms, mode) ← Tree.meanings mode [] trees
    .ok (.ofChoice terms, mode)

def Tree.meanings (mode : Mode) (found : List Term) :
    List Tree → Except Fault (List Term × Mode)
  | [] => .ok (found.reverse, mode)
  | tree :: rest =>
    match tree.meaning mode with
    | .error fault => .error fault
    | .ok (term, mode) => Tree.meanings mode (term :: found) rest

end

end IconCatalog.Pattern
