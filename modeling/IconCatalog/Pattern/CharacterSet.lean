set_option autoImplicit false

namespace IconCatalog.Pattern

/-- Ranges of code points, in rising order and apart from each other. -/
abbrev CharacterSet := List (Nat × Nat)

namespace CharacterSet

def joinTo (current : Nat × Nat) : List (Nat × Nat) → CharacterSet
  | [] => [current]
  | next :: rest =>
    if next.1 ≤ current.2 + 1 then joinTo (current.1, max current.2 next.2) rest
    else current :: joinTo next rest

def ofRanges (ranges : List (Nat × Nat)) : CharacterSet :=
  match ranges.mergeSort fun a b => decide (a.1 < b.1 ∨ (a.1 = b.1 ∧ a.2 ≤ b.2)) with
  | [] => []
  | first :: rest => joinTo first rest

def single (c : Char) : CharacterSet := [(c.toNat, c.toNat)]

def union (left right : CharacterSet) : CharacterSet := ofRanges (left ++ right)

def overlap? (a b : Nat × Nat) : Option (Nat × Nat) :=
  if max a.1 b.1 ≤ min a.2 b.2 then some (max a.1 b.1, min a.2 b.2) else none

def intersection (left right : CharacterSet) : CharacterSet :=
  left.flatMap fun a => right.filterMap (overlap? a)

/-- The code point before another, where those of surrogates do not count. -/
def before (code : Nat) : Nat := if code = 0xE000 then 0xD7FF else code - 1

/-- The code point behind another, where those of surrogates do not count. -/
def behind (code : Nat) : Nat := if code = 0xD7FF then 0xE000 else code + 1

def without (a b : Nat × Nat) : CharacterSet :=
  if (overlap? a b).isNone then [a]
  else
    (if a.1 < b.1 then [(a.1, before b.1)] else []) ++
      if b.2 < a.2 then [(behind b.2, a.2)] else []

def difference (left right : CharacterSet) : CharacterSet :=
  right.foldl (fun rest b => rest.flatMap fun a => without a b) left

def symmetricDifference (left right : CharacterSet) : CharacterSet :=
  difference (union left right) (intersection left right)

abbrev lastCode : Nat := 0x10FFFF

/-- The range between two others. Where only surrogates are between them it is that of the two
characters around. -/
def between (low high : Nat) : Nat × Nat := (min low high, max low high)

def gapsBehind (code : Nat) : CharacterSet → CharacterSet
  | [] => if code < lastCode then [(behind code, lastCode)] else []
  | next :: rest => between (behind code) (before next.1) :: gapsBehind next.2 rest

def complement : CharacterSet → CharacterSet
  | [] => [(0, lastCode)]
  | first :: rest =>
    (if 0 < first.1 then [(0, before first.1)] else []) ++ gapsBehind first.2 rest

def isAscii (set : CharacterSet) : Bool := set.all fun range => range.2 < 0x80

def otherCases (range : Nat × Nat) : CharacterSet :=
  ((overlap? range (0x61, 0x7A)).map fun (a, b) => (a - 0x20, b - 0x20)).toList ++
    ((overlap? range (0x41, 0x5A)).map fun (a, b) => (a + 0x20, b + 0x20)).toList

def withCases (set : CharacterSet) : CharacterSet := ofRanges (set ++ set.flatMap otherCases)

end CharacterSet

end IconCatalog.Pattern
