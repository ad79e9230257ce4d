import IconCatalog.Pattern.Fault
import IconCatalog.Text.Basic
set_option autoImplicit false

namespace IconCatalog.Pattern

/-- A place in a pattern that is read. -/
structure Cursor where
  offset : Nat
  rest : List Char
  /-- Blanks and comments mean nothing. -/
  spaced : Bool
  deriving DecidableEq, Repr

namespace Cursor

/-- What remains behind blanks and comments. -/
def afterBlanks (comment : Bool) (offset : Nat) : List Char → Nat × List Char
  | [] => (offset, [])
  | c :: rest =>
    if comment then afterBlanks (c != '\n') (offset + 1) rest
    else if isBlank c then afterBlanks false (offset + 1) rest
    else if c = '#' then afterBlanks true (offset + 1) rest
    else (offset, c :: rest)

def skipBlanks (cursor : Cursor) : Cursor :=
  if cursor.spaced then
    let (offset, rest) := afterBlanks false cursor.offset cursor.rest
    { cursor with offset := offset, rest := rest }
  else cursor

def drop (count : Nat) (cursor : Cursor) : Cursor :=
  { cursor with
    offset := cursor.offset + (cursor.rest.take count).length, rest := cursor.rest.drop count }

/-- The place behind a character and what means nothing after it. -/
def next (cursor : Cursor) : Cursor := (cursor.drop 1).skipBlanks

def after? (text : String) (cursor : Cursor) : Option Cursor :=
  if text.toList.isPrefixOf cursor.rest then some (cursor.drop text.length) else none

/-- The character behind the one here and behind blanks. The mark of a comment counts as a blank. -/
def ahead? (cursor : Cursor) : Option Char :=
  let behind := cursor.rest.tail
  if cursor.spaced then
    match behind.dropWhile isBlank with
    | '#' :: inner => (inner.dropWhile isBlank).head?
    | other => other.head?
  else behind.head?

theorem length_afterBlanks (comment : Bool) (offset : Nat) (cs : List Char) :
    (afterBlanks comment offset cs).2.length ≤ cs.length := by
  induction cs generalizing comment offset with
  | nil => simp [afterBlanks]
  | cons c rest ih =>
    simp only [afterBlanks]
    split
    · exact Nat.le_succ_of_le (ih _ _)
    · split
      · exact Nat.le_succ_of_le (ih _ _)
      · split
        · exact Nat.le_succ_of_le (ih _ _)
        · exact Nat.le_refl _

theorem length_skipBlanks (cursor : Cursor) :
    cursor.skipBlanks.rest.length ≤ cursor.rest.length := by
  unfold skipBlanks
  split
  · exact length_afterBlanks false cursor.offset cursor.rest
  · exact Nat.le_refl _

theorem length_next {cursor : Cursor} {c : Char} {rest : List Char}
    (here : cursor.rest = c :: rest) : cursor.next.rest.length < cursor.rest.length := by
  have shorter := length_skipBlanks (cursor.drop 1)
  simp only [drop, here, List.drop_succ_cons, List.drop_zero] at shorter
  simp only [next, drop, here, List.drop_succ_cons, List.drop_zero, List.length_cons]
  omega

/-- The characters of some kind that stand here, with blanks between them where those mean
nothing. -/
def takeWhile (accept : Char → Bool) (cursor : Cursor) : List Char × Cursor :=
  match _here : cursor.rest with
  | [] => ([], cursor)
  | c :: _ =>
    if accept c then
      let (word, last) := takeWhile accept cursor.next
      (c :: word, last)
    else ([], cursor)
termination_by cursor.rest.length
decreasing_by exact length_next _here

def digitsValue (digits : List Char) : Nat :=
  digits.foldl (fun n c => n * 10 + (c.toNat - '0'.toNat)) 0

def decimal (cursor : Cursor) : Except Fault Nat × Cursor :=
  let first := cursor.drop (cursor.rest.takeWhile isBlank).length
  let (digits, last) := first.takeWhile Char.isDigit
  let blanks := (last.rest.takeWhile isBlank).length
  let behind := if blanks = 0 then last else (last.drop blanks).skipBlanks
  let value :=
    if digits.isEmpty then fail .countMissing first.offset last.offset
    else if UInt32.size ≤ digitsValue digits then fail .decimalTooLarge first.offset last.offset
    else .ok (digitsValue digits)
  (value, behind)

end Cursor

end IconCatalog.Pattern
