import IconCatalog.Pattern.CharacterSet
import IconCatalog.Pattern.Escape
import IconCatalog.Text.Utf8
set_option autoImplicit false

namespace IconCatalog.Pattern

/-- A condition on a place in a text. -/
inductive Look
  | textStart
  | textStop
  /-- The start of a line, which a carriage return may end as well. -/
  | lineStart (returns : Bool)
  | lineStop (returns : Bool)
  /-- The edge of a word in any script or in ASCII characters. -/
  | wordEdge (edge : WordEdge) (ascii : Bool)
  deriving DecidableEq, Repr

/-- What a pattern matches, over bytes. Terms are built in a simple form: literals that follow each
other are one, and of repetitions and alternatives only those remain that make a difference. -/
inductive Term
  | empty
  | literal (bytes : Bytes)
  /-- A character of a set, by its bytes or as one byte. -/
  | set (ascii : Bool) (characters : CharacterSet)
  | look (condition : Look)
  | repetition (least : Nat) (most : Option Nat) (greedy : Bool) (inner : Term)
  | capture (number : Nat) (inner : Term)
  | row (terms : List Term)
  | choice (terms : List Term)

namespace Term

/-- How many bytes are matched at least, and at most. Nothing matches without a least number. -/
structure Width where
  least : Option Nat
  most : Option Nat
  deriving DecidableEq, Repr

namespace Width

def exact (n : Nat) : Width := ⟨some n, some n⟩

def sum? : Option Nat → Option Nat → Option Nat
  | some m, some n => some (m + n)
  | _, _ => none

def add (first second : Width) : Width :=
  ⟨sum? first.least second.least, sum? first.most second.most⟩

def either (first second : Width) : Width where
  least := first.least.bind fun m => second.least.map (min m)
  most := first.most.bind fun m => second.most.map (max m)

/-- The width of some copies. Without a bound on both there is no bound. -/
def repeated (least : Nat) (most : Option Nat) (width : Width) : Width where
  least := width.least.map (· * least)
  most := width.most.bind fun m => most.map (· * m)

def isZero (width : Width) : Bool := width.most = some 0

end Width

def codeWidth (code : Nat) : Nat := (Utf8.encodeChar (Char.ofNat code)).length

mutual

def width : Term → Width
  | .empty | .look _ => .exact 0
  | .literal bytes => .exact bytes.length
  | .set _ characters =>
    ⟨characters.head?.map fun range => codeWidth range.1,
      characters.getLast?.map fun range => codeWidth range.2⟩
  | .repetition least most _ inner => inner.width.repeated least most
  | .capture _ inner => inner.width
  | .row terms => rowWidth (.exact 0) terms
  | .choice [] => ⟨none, none⟩
  | .choice (term :: rest) => choiceWidth term.width rest

def rowWidth (before : Width) : List Term → Width
  | [] => before
  | term :: rest => rowWidth (before.add term.width) rest

def choiceWidth (other : Width) : List Term → Width
  | [] => other
  | term :: rest => choiceWidth (other.either term.width) rest

end

mutual

/-- Whether a match starts at the start of the text, or backwards at the end of it. -/
def anchored (backwards : Bool) : Term → Bool
  | .look condition => condition = if backwards then .textStop else .textStart
  | .repetition least _ _ inner => 0 < least && inner.anchored backwards
  | .capture _ inner => inner.anchored backwards
  | .row terms => if backwards then endAnchored false terms else startAnchored terms
  | .choice terms => allAnchored backwards terms
  | .empty | .literal _ | .set _ _ => false

def startAnchored : List Term → Bool
  | [] => false
  | term :: rest => term.anchored false || (term.width.isZero && startAnchored rest)

def endAnchored (before : Bool) : List Term → Bool
  | [] => before
  | term :: rest => endAnchored (term.anchored true || (term.width.isZero && before)) rest

def allAnchored (backwards : Bool) : List Term → Bool
  | [] => true
  | term :: rest => term.anchored backwards && allAnchored backwards rest

end

mutual

/-- Whether edges of words are looked for, in any script. -/
def seeksWords : Term → Bool
  | .look (.wordEdge _ ascii) => !ascii
  | .repetition _ _ _ inner | .capture _ inner => inner.seeksWords
  | .row terms | .choice terms => anySeeksWords terms
  | .empty | .literal _ | .set _ _ | .look _ => false

def anySeeksWords : List Term → Bool
  | [] => false
  | term :: rest => term.seeksWords || anySeeksWords rest

end

mutual

def same : Term → Term → Bool
  | .empty, .empty => true
  | .literal a, .literal b => a = b
  | .set ascii a, .set ascii' b => ascii = ascii' && a = b
  | .look a, .look b => a = b
  | .repetition least most greedy a, .repetition least' most' greedy' b =>
    least = least' && most = most' && greedy = greedy' && a.same b
  | .capture number a, .capture number' b => number = number' && a.same b
  | .row a, .row b => allSame a b
  | .choice a, .choice b => allSame a b
  | _, _ => false

def allSame : List Term → List Term → Bool
  | [], [] => true
  | a :: as, b :: bs => a.same b && allSame as bs
  | _, _ => false

end

def ofChar (c : Char) : Term := .literal (Utf8.encodeChar c)

/-- A set of one character is a literal. -/
def ofSet (ascii : Bool) (characters : CharacterSet) : Term :=
  match characters with
  | [(low, high)] => if low = high then ofChar (Char.ofNat low) else .set ascii characters
  | _ => .set ascii characters

/-- A term several times. One that matches nothing but the empty text is not needed twice. -/
def ofRepetition (least : Nat) (most : Option Nat) (greedy : Bool) (inner : Term) : Term :=
  let (least, most) :=
    if inner.width.isZero then (min least 1, some (min (most.getD 1) 1)) else (least, most)
  if least = 0 ∧ most = some 0 then .empty
  else if least = 1 ∧ most = some 1 then inner
  else .repetition least most greedy inner

def parts : Term → List Term
  | .empty => []
  | .row terms => terms
  | term => [term]

/-- Puts a term before others, joined with a literal there if it is one. -/
def joinTo : Term → List Term → List Term
  | .literal a, .literal b :: rest => .literal (a ++ b) :: rest
  | term, rest => term :: rest

def ofRow (terms : List Term) : Term :=
  match (terms.flatMap parts).foldr joinTo [] with
  | [] => .empty
  | [term] => term
  | terms => .row terms

def alternatives : Term → List Term
  | .choice terms => terms
  | term => [term]

/-- The set of a literal that is one character. -/
def character? : Term → Option CharacterSet
  | .literal bytes =>
    match (Utf8.toString? bytes).map String.toList with
    | some [c] => some (CharacterSet.single c)
    | _ => none
  | _ => none

def set? : Term → Option CharacterSet
  | .set _ characters => some characters
  | _ => none

def literal? : Term → Option Bytes
  | .literal bytes => some bytes
  | _ => none

def row? : Term → Option (List Term)
  | .row terms => some terms
  | _ => none

def asSet? (terms : List Term) : Option Term :=
  ((terms.mapM character?).or (terms.mapM set?)).map fun sets =>
    ofSet false (CharacterSet.ofRanges sets.flatten)

def commonStart : List Term → List Term → List Term
  | a :: as, b :: bs => if a.same b then a :: commonStart as bs else []
  | _, _ => []

/-- Alternatives, of which those of a choice count by themselves. -/
def ofAlternatives (terms : List Term) : Term :=
  let terms := terms.flatMap alternatives
  match terms with
  | [term] => term
  | _ => (asSet? terms).getD (.choice terms)

/-- Alternatives. What rows begin with is taken out of them. -/
def ofChoice (terms : List Term) : Term :=
  match ofAlternatives terms with
  | .choice terms =>
    match terms.mapM row? with
    | some (first :: rest) =>
      let start := rest.foldl commonStart first
      if start.isEmpty then .choice terms
      else
        ofRow (start ++ [ofAlternatives ((first :: rest).map fun row =>
          ofRow (row.drop start.length))])
    | _ => .choice terms
  | term => term

end Term

end IconCatalog.Pattern
