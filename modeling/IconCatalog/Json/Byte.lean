import IconCatalog.Json.Fault
import IconCatalog.Text.Utf8
set_option autoImplicit false

namespace IconCatalog.Json

/-- A reader takes its value from the front and leaves the rest. -/
abbrev Reader (α : Type) := Bytes → Except Fault (α × Bytes)

namespace Byte

abbrev quote : UInt8 := 0x22
abbrev backslash : UInt8 := 0x5C
abbrev comma : UInt8 := 0x2C
abbrev colon : UInt8 := 0x3A
abbrev minus : UInt8 := 0x2D
abbrev plus : UInt8 := 0x2B
abbrev point : UInt8 := 0x2E
abbrev openList : UInt8 := 0x5B
abbrev closeList : UInt8 := 0x5D
abbrev openObject : UInt8 := 0x7B
abbrev closeObject : UInt8 := 0x7D
abbrev letterE : UInt8 := 0x45
abbrev letterF : UInt8 := 0x66
abbrev letterN : UInt8 := 0x6E
abbrev letterT : UInt8 := 0x74
abbrev letterU : UInt8 := 0x75
abbrev lowerE : UInt8 := 0x65

def isBlank (b : UInt8) : Bool := b = 0x20 || b = 0x0A || b = 0x09 || b = 0x0D

def isDigit (b : UInt8) : Bool := 0x30 ≤ b && b ≤ 0x39

def digitValue (b : UInt8) : Nat := b.toNat - 0x30

def hexValue? (b : UInt8) : Option Nat :=
  if 0x30 ≤ b ∧ b ≤ 0x39 then some (b.toNat - 0x30)
  else if 0x41 ≤ b ∧ b ≤ 0x46 then some (b.toNat - 0x41 + 10)
  else if 0x61 ≤ b ∧ b ≤ 0x66 then some (b.toNat - 0x61 + 10)
  else none

end Byte

def skipBlank (input : Bytes) : Bytes := input.dropWhile Byte.isBlank

def expectWord : Bytes → Bytes → Except Fault Bytes
  | [], input => .ok input
  | _ :: _, [] => .error .unfinished
  | w :: word, b :: rest => if b = w then expectWord word rest else .error .malformed

end IconCatalog.Json
