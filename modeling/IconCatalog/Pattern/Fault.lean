import IconCatalog.Text.Basic
set_option autoImplicit false

namespace IconCatalog.Pattern

/-- A part of a pattern, in characters from its start. -/
structure Span where
  start : Nat
  stop : Nat
  deriving DecidableEq, Repr

inductive Mistake
  | classEscape
  | rangeOrder
  | rangeBoundary
  | openClass
  | decimalTooLarge
  | hexEmpty
  | hexValue
  | hexDigit
  | escapeEnd
  | unknownEscape
  | danglingNegation
  | repeatedFlag
  | repeatedNegation
  | flagsEnd
  | unknownFlag
  | repeatedName
  | emptyName
  | nameCharacter
  | openName
  | openGroup
  | strayClosing
  | countOrder
  | countMissing
  | openCount
  | nothingRepeated
  | openBoundary
  | unknownBoundary
  | boundaryEnd
  | propertyName
  | backreference
  | lookAround
  | notUnicode
  | notText
  | unknownProperty
  | unknownPropertyValue
  | noClassTable
  | noCaseTable
  | tooDeep
  deriving DecidableEq, Repr

def nestLimit : Nat := 250

def Mistake.message : Mistake → String
  | .classEscape => "invalid escape sequence found in character class"
  | .rangeOrder => "invalid character class range, the start must be <= the end"
  | .rangeBoundary => "invalid range boundary, must be a literal"
  | .openClass => "unclosed character class"
  | .decimalTooLarge => "decimal literal invalid"
  | .hexEmpty => "hexadecimal literal empty"
  | .hexValue => "hexadecimal literal is not a Unicode scalar value"
  | .hexDigit => "invalid hexadecimal digit"
  | .escapeEnd => "incomplete escape sequence, reached end of pattern prematurely"
  | .unknownEscape => "unrecognized escape sequence"
  | .danglingNegation => "dangling flag negation operator"
  | .repeatedFlag => "duplicate flag"
  | .repeatedNegation => "flag negation operator repeated"
  | .flagsEnd => "expected flag but got end of regex"
  | .unknownFlag => "unrecognized flag"
  | .repeatedName => "duplicate capture group name"
  | .emptyName => "empty capture group name"
  | .nameCharacter => "invalid capture group character"
  | .openName => "unclosed capture group name"
  | .openGroup => "unclosed group"
  | .strayClosing => "unopened group"
  | .countOrder => "invalid repetition count range, the start must be <= the end"
  | .countMissing => "repetition quantifier expects a valid decimal"
  | .openCount => "unclosed counted repetition"
  | .nothingRepeated => "repetition operator missing expression"
  | .openBoundary =>
    "special word boundary assertion is either unclosed or contains an invalid character"
  | .unknownBoundary =>
    "unrecognized special word boundary assertion, valid choices are: start, end, start-half or " ++
      "end-half"
  | .boundaryEnd =>
    "found either the beginning of a special word boundary or a bounded repetition on a \\b " ++
      "with an opening brace, but no closing brace"
  | .propertyName => "invalid Unicode character class"
  | .backreference => "backreferences are not supported"
  | .lookAround => "look-around, including look-ahead and look-behind, is not supported"
  | .notUnicode => "Unicode not allowed here"
  | .notText => "pattern can match invalid UTF-8"
  | .unknownProperty => "Unicode property not found"
  | .unknownPropertyValue => "Unicode property value not found"
  | .noClassTable =>
    "Unicode-aware Perl class not found (make sure the unicode-perl feature is enabled)"
  | .noCaseTable =>
    "Unicode-aware case insensitivity matching is not available (make sure the unicode-case " ++
      "feature is enabled)"
  | .tooDeep =>
    "exceed the maximum number of nested parentheses/brackets (" ++ nestLimit.repr ++ ")"

structure Fault where
  mistake : Mistake
  span : Span
  /-- The part that the faulty one repeats. -/
  earlier : Option Span
  deriving DecidableEq, Repr

def Span.fault (span : Span) (mistake : Mistake) : Fault := ⟨mistake, span, none⟩

def fail {α : Type} (mistake : Mistake) (start stop : Nat) : Except Fault α :=
  .error ((Span.mk start stop).fault mistake)

/-- A character's place in a text of several lines, from line and column zero. -/
structure Spot where
  line : Nat
  column : Nat
  deriving DecidableEq, Repr

def spotOf (pattern : List Char) (offset : Nat) : Spot :=
  let before := pattern.take offset
  ⟨before.count '\n', (before.reverse.takeWhile (· != '\n')).length⟩

def linesOf (pattern : List Char) : List (List Char) :=
  let pieces := pattern.splitOn '\n'
  let whole := pieces.dropLast.map fun line =>
    if line.getLast? = some '\r' then line.dropLast else line
  whole ++ (pieces.getLast?.toList.filter fun line => !line.isEmpty)

/-- Marks under some columns of a line, each of them one column wide at least. -/
def underline (column : Nat) : List (Nat × Nat) → List Char
  | [] => []
  | (start, stop) :: rest =>
    let width := max 1 (stop - start)
    List.replicate (start - column) ' ' ++ List.replicate width '^' ++
      underline (max column start + width) rest

def pictureOfLine (margin : List Char) (spots : List (Spot × Spot)) (number : Nat)
    (line : List Char) : List Char :=
  let here := spots.filter fun spot => spot.1.line = number && spot.2.line = number
  let columns := here.map fun spot => (spot.1.column, spot.2.column)
  let sorted := columns.mergeSort fun a b => a.1 < b.1 || (a.1 = b.1 && a.2 ≤ b.2)
  margin ++ line ++ ['\n'] ++
    if sorted.isEmpty then []
    else List.replicate margin.length ' ' ++ underline 0 sorted ++ ['\n']

/-- What stands before a line: its number, when there are several lines. -/
def marginOf (count number : Nat) : List Char :=
  if count ≤ 1 then List.replicate 4 ' '
  else (number + 1).repr.toList.leftpad count.repr.length ' ' ++ [':', ' ']

def longParts (spots : List (Spot × Spot)) : List String :=
  (spots.filter fun spot => spot.1.line ≠ spot.2.line).map fun (start, stop) =>
    "on line " ++ (start.line + 1).repr ++ " (column " ++ (start.column + 1).repr ++
      ") through line " ++ (stop.line + 1).repr ++ " (column " ++ stop.column.repr ++ ")"

/-- The message for a faulty pattern: the pattern with its faulty parts underlined, then what is
wrong. -/
def Fault.message (pattern : String) (fault : Fault) : String :=
  let cs := pattern.toList
  let spots := (fault.span :: fault.earlier.toList).map fun span =>
    (spotOf cs span.start, spotOf cs span.stop)
  let lines := linesOf cs
  let count := lines.length + if cs.getLast? = some '\n' then 1 else 0
  let picture := String.ofList (lines.zipIdx.flatMap fun (line, number) =>
    pictureOfLine (marginOf count number) spots number line)
  let divider := if '\n' ∈ cs then String.ofList (List.replicate 79 '~') ++ "\n" else ""
  let notes := if '\n' ∈ cs then longParts spots else []
  "regex parse error:\n" ++ divider ++ picture ++ divider ++
    (if notes.isEmpty then "" else joined "\n" notes ++ "\n") ++ "error: " ++ fault.mistake.message

end IconCatalog.Pattern
