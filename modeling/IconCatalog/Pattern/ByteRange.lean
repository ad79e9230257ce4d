import IconCatalog.Text.Utf8
set_option autoImplicit false

namespace IconCatalog.Pattern

structure ByteRange where
  low : UInt8
  high : UInt8
  deriving DecidableEq, Repr

namespace ByteRange

/-- Ranges of code points here end before their second number. -/
def keepNonempty (ranges : List (Nat × Nat)) : List (Nat × Nat) :=
  ranges.filter fun range => range.1 < range.2

def withoutSurrogates (range : Nat × Nat) : List (Nat × Nat) :=
  if range.1 < 0xE000 ∧ 0xD800 < range.2 then
    keepNonempty [(range.1, 0xD800), (0xE000, range.2)]
  else [range]

def cutAt (code : Nat) (range : Nat × Nat) : List (Nat × Nat) :=
  keepNonempty [(range.1, min code range.2), (max code range.1, range.2)]

def byLength (range : Nat × Nat) : List (Nat × Nat) :=
  (((withoutSurrogates range).flatMap (cutAt 0x80)).flatMap (cutAt 0x800)).flatMap (cutAt 0x10000)

/-- What a range has before its first whole block, its whole blocks, and what it has behind them.
A range in one block stays whole. -/
def byBlocks (size : Nat) (range : Nat × Nat) : List (Nat × Nat) :=
  if range.1 / size = (range.2 - 1) / size then [range]
  else
    let first := (range.1 + size - 1) / size * size
    let last := range.2 / size * size
    keepNonempty [(range.1, first), (first, last), (last, range.2)]

/-- The parts of a range in which the bytes of an encoding are free of each other. -/
def byBytes (range : Nat × Nat) : List (Nat × Nat) :=
  if range.2 ≤ 0x80 then [range]
  else ((byBlocks 0x40 range).flatMap (byBlocks 0x1000)).flatMap (byBlocks 0x40000)

def encodeCode (code : Nat) : Bytes := Utf8.encodeChar (Char.ofNat code)

def rows (low high : Nat) : List (List ByteRange) :=
  ((byLength (low, high + 1)).flatMap byBytes).map fun range =>
    ((encodeCode range.1).zip (encodeCode (range.2 - 1))).map fun (a, b) => ⟨a, b⟩

end ByteRange

end IconCatalog.Pattern
