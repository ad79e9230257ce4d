import IconCatalog.Pattern.Term
set_option autoImplicit false

namespace IconCatalog.Pattern

namespace Texts

def mostTexts : Nat := 250

def mostBytes : Nat := 100

/-- The largest set of characters, and the largest number of copies, that is spelled out. -/
def mostChoices : Nat := 10

def withoutRepeats : List Bytes → List Bytes
  | [] => []
  | text :: rest =>
    if rest.head? = some text then withoutRepeats rest else text :: withoutRepeats rest

def within (texts : List Bytes) : Option (List Bytes) :=
  if texts.length ≤ mostTexts ∧ texts.all (·.length ≤ mostBytes) then some (withoutRepeats texts)
  else none

def followed (texts others : List Bytes) : Option (List Bytes) :=
  within (texts.flatMap fun text => others.map (text ++ ·))

def either (texts others : List Bytes) : Option (List Bytes) := within (texts ++ others)

def power (texts : List Bytes) : Nat → Option (List Bytes)
  | 0 => some [[]]
  | count + 1 => (power texts count).bind fun before => followed before texts

/-- The texts of a repetition. When what is repeated has no text, it is left out or nothing
matches. -/
def repeated (least : Nat) (most : Option Nat) (greedy : Bool) (texts : List Bytes) :
    Option (List Bytes) :=
  if least = 0 then
    if most = some 1 then if greedy then either texts [[]] else either [[]] texts
    else if texts.isEmpty then some [[]]
    else none
  else if texts.isEmpty then some []
  else if most = some least ∧ least ≤ mostChoices then power texts least
  else none

def ofSet (characters : CharacterSet) : Option (List Bytes) :=
  let count := characters.foldl (fun n (low, high) => n + (high - low + 1)) 0
  if mostChoices < count then none
  else
    some (characters.flatMap fun (low, high) =>
      (List.range' low (high - low + 1)).map fun code => Utf8.encodeChar (Char.ofNat code))

def minimal (texts : List Bytes) : List Bytes :=
  texts.foldl (fun kept text =>
    if kept.any (·.isPrefixOf text) then kept else kept ++ [text]) []

def commonStart : Bytes → Bytes → Bytes
  | a :: as, b :: bs => if a = b then a :: commonStart as bs else []
  | _, _ => []

/-- The ASCII characters that are often seen in texts. -/
def frequent : List Char := "\n\r (),-./0129:_abcdefghilmnoprstuvxy|".toList

def isRare (b : UInt8) : Bool := b < 0x80 && Char.ofNat b.toNat ∉ frequent

/-- Many texts are shortened. Starts of three or four bytes are preferred to the texts. -/
def isShortened (texts : List Bytes) : Bool :=
  if texts.length ≤ 10 then false
  else
    let five := minimal (texts.map (·.take 5))
    let short := if five.length ≤ 10 then five else minimal (five.map (·.take 4))
    let shorter := if short.length ≤ 64 then short else minimal (short.map (·.take 3))
    shorter.length ≤ 64 && shorter.all (2 < ·.length) && shorter != texts

/-- Whether texts are looked for as they are, and not by something that they begin with. -/
def isDirect (texts : List Bytes) : Bool :=
  match minimal texts with
  | [] => false
  | first :: rest =>
    let start := rest.foldl commonStart first
    if texts.any List.isEmpty then false
    else if 1 < texts.length && start.length ≤ 3 && start.head?.any isRare then
      rest.isEmpty && first.length = 1
    else if rest.isEmpty then true
    else if 4 < start.length || (1 < start.length && 16 < rest.length + 1) then false
    else !isShortened (first :: rest)

end Texts

namespace Term

mutual

/-- The texts that a term matches, if they are few and short. Behind what matches nothing no more
is looked at. -/
def texts? : Term → Option (List Bytes)
  | .empty => some [[]]
  | .literal bytes => Texts.within [bytes]
  | .set _ characters => Texts.ofSet characters
  | .look _ | .capture _ _ => none
  | .repetition least most greedy inner => inner.texts?.bind (Texts.repeated least most greedy)
  | .row terms => rowTexts [[]] terms
  | .choice terms => choiceTexts [] terms

def rowTexts (found : List Bytes) : List Term → Option (List Bytes)
  | [] => some found
  | term :: rest =>
    if found.isEmpty then some []
    else
      match term.texts?.bind (Texts.followed found) with
      | none => none
      | some found => rowTexts found rest

def choiceTexts (found : List Bytes) : List Term → Option (List Bytes)
  | [] => some found
  | term :: rest =>
    match term.texts?.bind (Texts.either found) with
    | none => none
    | some found => choiceTexts found rest

end

mutual

def isPlain : Term → Bool
  | .empty | .literal _ | .set _ _ => true
  | .look _ | .capture _ _ => false
  | .repetition _ _ _ inner => inner.isPlain
  | .row terms | .choice terms => allPlain terms

def allPlain : List Term → Bool
  | [] => true
  | term :: rest => term.isPlain && allPlain rest

end

/-- Whether a term is looked for by its texts. -/
def isDirect (term : Term) : Bool := term.isPlain && term.texts?.any Texts.isDirect

end Term

end IconCatalog.Pattern
