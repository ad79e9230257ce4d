set_option autoImplicit false

namespace IconCatalog

/-- Pairs characters from a place on with equal ones of another text, each with the first free one
that stands at most `range` places away. Gives the character and the place in the other text. -/
def pairUp (range : Nat) : Nat → List (Char × Nat) → List Char → List (Char × Nat)
  | _, _, [] => []
  | place, free, c :: rest =>
    match free.find? fun (d, there) => c = d && place ≤ there + range && there ≤ place + range with
    | none => pairUp range (place + 1) free rest
    | some pair => pair :: pairUp range (place + 1) (free.erase pair) rest

def share (part whole : Nat) : Float := part.toFloat / whole.toFloat

/-- The likeness of two texts, from 0 to 1: how many of their characters agree about where they
stand, and how many of those are in the same order. Half the characters that meet another one in the
order of the other text count as moved. -/
def similarity (s t : String) : Float :=
  let these := s.toList
  let those := t.toList
  if these.isEmpty && those.isEmpty then 1
  else
    let pairs := pairUp (max these.length those.length / 2 - 1) 0 those.zipIdx these
    let paired := those.zipIdx.filter fun pair => pairs.contains pair
    let moved := (pairs.zip paired).countP (fun (a, b) => a.1 != b.1) / 2
    let count := pairs.length
    if count = 0 then 0
    else
      (share count these.length + share count those.length + share (count - moved) count) / 3

end IconCatalog
