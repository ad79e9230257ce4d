import IconCatalog.Text.Basic
import IconCatalog.Text.Utf8
set_option autoImplicit false

namespace IconCatalog.EnvFile

abbrev lineFeed : UInt8 := 0x0A

/-- The rows of a file with their line feeds. -/
def rows : Bytes → List Bytes
  | [] => []
  | b :: rest =>
    if b = lineFeed then [b] :: rows rest
    else
      match rows rest with
      | [] => [[b]]
      | row :: more => (b :: row) :: more

def byteOrderMark : Bytes := [0xEF, 0xBB, 0xBF]

def withoutMark (file : Bytes) : Bytes :=
  if byteOrderMark.isPrefixOf file then file.drop byteOrderMark.length else file

/-- Where in a line a character leaves its reader. -/
inductive Place
  /-- The line may end here. -/
  | complete
  /-- After a blank, where a comment may begin. -/
  | blank
  | escape
  | strong
  | strongEscape
  | weak
  | weakEscape
  deriving DecidableEq, Repr

def Place.opened (c : Char) : Place :=
  if c = '\\' then .escape
  else if c = '"' then .weak
  else if c = '\x27' then .strong
  else .complete

def Place.next : Place → Char → Place
  | .blank, c => opened c
  | .complete, c => if isBlank c && c != '\n' && c != '\r' then .blank else opened c
  | .escape, _ => .complete
  | .weak, c => if c = '\\' then .weakEscape else if c = '"' then .complete else .weak
  | .weakEscape, _ => .weak
  | .strong, c => if c = '\\' then .strongEscape else if c = '\x27' then .complete else .strong
  | .strongEscape, _ => .strong

inductive RowEnd
  /-- A comment follows the text, which is in reverse. -/
  | comment (reversed : List Char)
  | unfinished (place : Place)

def scanRow (place : Place) (reversed : List Char) : List Char → RowEnd
  | [] => .unfinished place
  | c :: rest =>
    if place = .blank ∧ c = '#' then .comment reversed
    else scanRow (place.next c) (c :: reversed) rest

/-- A line without the end of its last row. -/
def withoutRowEnd (line : List Char) : List Char :=
  match line.reverse with
  | '\n' :: '\r' :: rest => rest.reverse
  | '\n' :: rest => rest.reverse
  | _ => line

/-- The lines in some rows, when `read` of a line has been taken. After a line that cannot be
read, which is `none`, there are no more. -/
def linesAfter (place : Place) (read : List Char) : List Bytes → List (Option (List Char))
  | [] => if place = .complete then [] else [none]
  | row :: more =>
    match Utf8.decode? row with
    | none => [none]
    | some cs =>
      if (trimStart (read ++ cs)).head? = some '#' then some [] :: linesAfter .complete [] more
      else
        match scanRow place read.reverse cs with
        | .comment reversed => some reversed.reverse :: linesAfter .complete [] more
        | .unfinished .complete => some (withoutRowEnd (read ++ cs)) :: linesAfter .complete [] more
        | .unfinished place => linesAfter place (read ++ cs) more

/-- The lines of an env file. Quotes and backslashes carry a line over the end of its row. Rows are
taken one by one, so that a broken row leaves those before it in force. -/
def lines (file : Bytes) : List (Option (List Char)) :=
  linesAfter .complete [] (rows (withoutMark file))

end IconCatalog.EnvFile
