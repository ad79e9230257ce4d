import IconCatalog.Pattern.Cursor
set_option autoImplicit false

namespace IconCatalog.Pattern

inductive WordEdge
  | either
  /-- Everywhere else. -/
  | neither
  | start
  | stop
  /-- No character of a word stands before the place. -/
  | startHalf
  | stopHalf
  deriving DecidableEq, Repr

inductive Familiar
  | digit
  | blank
  | word
  deriving DecidableEq, Repr

inductive PieceKind
  | literal (c : Char)
  /-- A character by two hexadecimal digits, which may be meant as a byte. -/
  | byte (c : Char)
  | anyCharacter
  /-- The characters of a familiar kind, or all others. -/
  | familiar (kind : Familiar) (negated : Bool)
  | property (name : List Char)
  | wordEdge (edge : WordEdge)
  | lineStart
  | lineStop
  | textStart
  | textStop
  deriving DecidableEq, Repr

structure Piece where
  kind : PieceKind
  span : Span
  deriving DecidableEq, Repr

def isHexDigit (c : Char) : Bool :=
  c.isDigit || ('a' ≤ c && c ≤ 'f') || ('A' ≤ c && c ≤ 'F')

def hexDigitValue (c : Char) : Nat :=
  if c.isDigit then c.toNat - '0'.toNat
  else if 'a' ≤ c then c.toNat - 'a'.toNat + 10
  else c.toNat - 'A'.toNat + 10

/-- The character of a code point in hexadecimal digits. -/
def hexCharacter? (digits : List Char) : Option Char :=
  let code := digits.foldl (fun n c => n * 16 + hexDigitValue c) 0
  if code.isValidChar then some (Char.ofNat code) else none

def hexDigits (cursor : Cursor) : Nat → Except Fault (List Char × Cursor)
  | 0 => .ok ([], cursor)
  | count + 1 =>
    match cursor.rest with
    | [] => fail .escapeEnd cursor.offset cursor.offset
    | c :: _ =>
      if !isHexDigit c then fail .hexDigit cursor.offset (cursor.offset + 1)
      else
        (hexDigits cursor.next count).map fun (digits, cursor) => (c :: digits, cursor)

def fixedHex (start : Nat) (count : Nat) (cursor : Cursor) : Except Fault (Piece × Cursor) :=
  (hexDigits cursor count).bind fun (digits, last) =>
    match hexCharacter? digits with
    | none => fail .hexValue cursor.offset last.offset
    | some c =>
      .ok (⟨if count = 2 then .byte c else .literal c, ⟨start, last.offset⟩⟩, last)

def bracedHex (start : Nat) (cursor : Cursor) : Except Fault (Piece × Cursor) :=
  let (digits, last) := cursor.next.takeWhile isHexDigit
  match last.rest with
  | [] => fail .escapeEnd cursor.offset last.offset
  | c :: _ =>
    if c ≠ '\x7d' then fail .hexDigit last.offset (last.offset + 1)
    else if digits.isEmpty then fail .hexEmpty cursor.offset last.next.offset
    else
      match hexCharacter? digits with
      | none => fail .hexValue (cursor.offset + 1) last.offset
      | some c => .ok (⟨.literal c, ⟨start, last.next.offset⟩⟩, last.next)

def hex (start count : Nat) (cursor : Cursor) : Except Fault (Piece × Cursor) :=
  match cursor.rest with
  | [] => fail .escapeEnd cursor.offset cursor.offset
  | c :: _ => if c = '\x7b' then bracedHex start cursor else fixedHex start count cursor

def property (start : Nat) (cursor : Cursor) : Except Fault (Piece × Cursor) :=
  match cursor.rest with
  | [] => fail .escapeEnd cursor.offset cursor.offset
  | c :: _ =>
    if c = '\x7b' then
      let (name, last) := cursor.next.takeWhile (· != '\x7d')
      match last.rest with
      | [] => fail .escapeEnd last.offset last.offset
      | _ :: _ => .ok (⟨.property name, ⟨start, last.offset + 1⟩⟩, last.drop 1)
    else if c = '\\' then fail .propertyName cursor.offset (cursor.offset + 1)
    else .ok (⟨.property [c], ⟨start, cursor.next.offset⟩⟩, cursor.next)

def namedEdges : List (String × WordEdge) :=
  [("start", .start), ("end", .stop), ("start-half", .startHalf), ("end-half", .stopHalf)]

def isBoundaryLetter (c : Char) : Bool := c.isAlpha || c = '-'

/-- The edge in braces behind a word boundary. A number there is a repetition and is left. -/
def boundary (start : Nat) (cursor : Cursor) : Except Fault (WordEdge × Cursor) :=
  let inner := cursor.next
  match inner.rest with
  | [] => fail .boundaryEnd start inner.offset
  | c :: _ =>
    if !isBoundaryLetter c then .ok (.either, cursor)
    else
      let (name, last) := inner.takeWhile isBoundaryLetter
      if last.rest.head? ≠ some '\x7d' then fail .openBoundary cursor.offset last.offset
      else
        match namedEdges.lookup (String.ofList name) with
        | some edge => .ok (edge, last.drop 1)
        | none => fail .unknownBoundary inner.offset last.offset

/-- The characters with a meaning of their own. -/
def isMeta (c : Char) : Bool := c ∈ "\\.+*?()|[]\x7b\x7d^$#&-~".toList

def letterMeaning? (c : Char) : Option Char :=
  if c = 'a' then some '\x07'
  else if c = 'f' then some '\x0c'
  else if c = 't' then some '\t'
  else if c = 'n' then some '\n'
  else if c = 'r' then some '\r'
  else if c = 'v' then some '\x0b'
  else none

def escapedCharacter? (c : Char) : Option Char :=
  if isMeta c then some c
  else if c.toNat < 0x80 && !c.isAlphanum && c ≠ '<' && c ≠ '>' then some c
  else letterMeaning? c

/-- What a letter after a backslash stands for, unless more has to be read. -/
def letterKind? (c : Char) : Option PieceKind :=
  if c = 'd' then some (.familiar .digit false)
  else if c = 'D' then some (.familiar .digit true)
  else if c = 's' then some (.familiar .blank false)
  else if c = 'S' then some (.familiar .blank true)
  else if c = 'w' then some (.familiar .word false)
  else if c = 'W' then some (.familiar .word true)
  else if c = 'b' then some (.wordEdge .either)
  else if c = 'B' then some (.wordEdge .neither)
  else if c = '<' then some (.wordEdge .start)
  else if c = '>' then some (.wordEdge .stop)
  else if c = 'A' then some .textStart
  else if c = 'z' then some .textStop
  else (escapedCharacter? c).map .literal

def escape (cursor : Cursor) : Except Fault (Piece × Cursor) :=
  let start := cursor.offset
  let first := cursor.drop 1
  let behind := first.drop 1
  match first.rest with
  | [] => fail .escapeEnd start first.offset
  | c :: _ =>
    if c.isDigit then fail .backreference start behind.offset
    else if c = 'x' then hex start 2 first.next
    else if c = 'u' then hex start 4 first.next
    else if c = 'U' then hex start 8 first.next
    else if c = 'p' || c = 'P' then property start first.next
    else if c = 'b' && behind.rest.head? = some '\x7b' then
      (boundary start behind).map fun (edge, last) =>
        (⟨.wordEdge edge, ⟨start, last.offset⟩⟩, last)
    else
      match letterKind? c with
      | some kind => .ok (⟨kind, ⟨start, behind.offset⟩⟩, behind)
      | none => fail .unknownEscape start behind.offset

end IconCatalog.Pattern
