import IconCatalog.Text.Utf8
set_option autoImplicit false

namespace IconCatalog.CommandLine

abbrev hyphen : UInt8 := 0x2D
abbrev equalsSign : UInt8 := 0x3D

/-- What an argument is before any meaning is given to it. -/
inductive Token
  /-- Two hyphens: all that follows are operands. -/
  | escape
  /-- A name after two hyphens, and what stands after an equals sign. -/
  | long (name : Bytes) (value : Option Bytes)
  /-- Letters after one hyphen. -/
  | short (letters : Bytes)
  | word (bytes : Bytes)
  deriving DecidableEq, Repr

def Token.ofLong (bytes : Bytes) : Token :=
  match bytes.dropWhile (· != equalsSign) with
  | [] => .long bytes none
  | _ :: value => .long (bytes.takeWhile (· != equalsSign)) (some value)

def Token.of : Bytes → Token
  | [] => .word []
  | a :: rest =>
    if a ≠ hyphen then .word (a :: rest)
    else
      match rest with
      | [] => .word [a]
      | b :: more =>
        if b ≠ hyphen then .short rest
        else if more = [] then .escape
        else .ofLong more

def longName (name : Bytes) : String := "--" ++ Utf8.toStringLossy name

/-- The first letter after a hyphen, unless it is no text. -/
def firstLetter (letters : Bytes) : Option Char := (Utf8.pieces none letters).head?.join

def shortName (letters : Bytes) : String :=
  match firstLetter letters with
  | some c => String.ofList ['-', c]
  | none => "-" ++ Utf8.toStringLossy letters

end IconCatalog.CommandLine
