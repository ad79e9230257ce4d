import IconCatalog.Pattern.Tree
import IconCatalog.Text.Alphanumeric
import IconCatalog.Text.Numeral
set_option autoImplicit false

namespace IconCatalog.Pattern

abbrev GroupNames := List (List Char × Span)

def isNameCharacter (c : Char) : Bool := c ∈ ['_', '.', '[', ']'] || isAlphanumeric c

def isNameStart (c : Char) : Bool := c = '_' || (isAlphanumeric c && !isNumeral c)

/-- Where in a name the first character stands that no name has there. -/
def nameFault? : List Char → Option Nat
  | [] => none
  | c :: rest => if isNameStart c then (rest.findIdx? (!isNameCharacter ·)).map (· + 1) else some 0

def groupName (names : GroupNames) (cursor : Cursor) : Except Fault (GroupNames × Cursor) :=
  let name := cursor.rest.takeWhile (· != '>')
  let last := cursor.drop name.length
  match nameFault? name with
  | some place =>
    fail .nameCharacter (cursor.offset + place) (cursor.offset + place + 1)
  | none =>
    if last.rest.isEmpty then fail .openName last.offset last.offset
    else if name.isEmpty then fail .emptyName cursor.offset cursor.offset
    else
      let span : Span := ⟨cursor.offset, last.offset⟩
      match names.lookup name with
      | some earlier => .error ⟨.repeatedName, span, some earlier⟩
      | none => .ok ((name, span) :: names, last.drop 1)

def flagLetters : List Char := ['i', 'm', 's', 'U', 'u', 'R', 'x']

/-- Reads flags up to the colon or the parenthesis behind them. -/
def flagsFrom : Nat → Flags → Cursor → Except Fault (Flags × Cursor)
  | 0, found, cursor => .ok (found, cursor)
  | fuel + 1, found, cursor =>
    match cursor.rest with
    | [] => fail .flagsEnd cursor.offset cursor.offset
    | c :: _ =>
      let span : Span := ⟨cursor.offset, cursor.offset + 1⟩
      if c = ':' || c = ')' then .ok (found, cursor)
      else if c ≠ '-' && c ∉ flagLetters then fail .unknownFlag span.start span.stop
      else
        match found.lookup c with
        | some earlier =>
          .error ⟨if c = '-' then .repeatedNegation else .repeatedFlag, span, some earlier⟩
        | none => flagsFrom fuel (found ++ [(c, span)]) (cursor.drop 1)

/-- Reads the flags at a place. None stands twice, and a hyphen stands before one. -/
def flagsAt (cursor : Cursor) : Except Fault (Flags × Cursor) := do
  let (found, last) ← flagsFrom (flagLetters.length + 2) [] cursor
  match found.getLast? with
  | some ('-', span) => fail .danglingNegation span.start span.stop
  | _ => .ok (found, last)

inductive Opening
  | capture
  | flagged (flags : Flags)
  /-- No group. -/
  | flags (flags : Flags)
  deriving DecidableEq, Repr

def Opening.given : Opening → Flags
  | .capture => []
  | .flagged given => given
  | .flags given => given

def lookAroundMarks : List String := ["?=", "?!", "?<=", "?<!"]

def opening (names : GroupNames) (cursor : Cursor) :
    Except Fault (Opening × GroupNames × Cursor) :=
  let start := cursor.offset
  let inner := cursor.next
  match lookAroundMarks.findSome? inner.after?,
      (inner.after? "?P<").or (inner.after? "?<"), inner.after? "?" with
  | some behind, _, _ => fail .lookAround start behind.offset
  | none, some named, _ => do
    let (names, behind) ← groupName names named
    .ok (.capture, names, behind)
  | none, none, some marked =>
    if marked.rest.isEmpty then fail .openGroup start (start + 1)
    else do
      let (flags, last) ← flagsAt marked
      if last.rest.head? = some ':' then .ok (.flagged flags, names, last.drop 1)
      else if flags.isEmpty then fail .nothingRepeated inner.offset inner.offset
      else .ok (.flags flags, names, last.drop 1)
  | none, none, none => .ok (.capture, names, inner)

end IconCatalog.Pattern
