import IconCatalog.Pattern.ByteRange
import IconCatalog.Pattern.CharacterSet
import Std.Data.HashMap
set_option autoImplicit false

namespace IconCatalog.Pattern

structure Transition where
  range : ByteRange
  target : Nat
  deriving DecidableEq, Repr

/-- States that are remembered by what they do. Equal states are made once, as far as they are
remembered: a new one is remembered in a slot, where it displaces another. -/
structure Memory (α : Type) where
  /-- The number of the next state. -/
  next : Nat
  /-- Bytes for the transitions of the states. -/
  listBytes : Nat
  slots : Std.HashMap Nat (α × Nat)

namespace Memory

variable {α : Type}

def blank (next : Nat) : Memory α := ⟨next, 0, ∅⟩

/-- The number of the state that does something, which is made with `size` bytes of transitions
unless it is remembered in its slot. -/
def stateOf [DecidableEq α] (slot : Nat) (state : α) (size : Nat) (memory : Memory α) :
    Nat × Memory α :=
  match (memory.slots[slot]?).filter fun entry => entry.1 = state with
  | some (_, number) => (number, memory)
  | none =>
    (memory.next, ⟨memory.next + 1, memory.listBytes + size,
      memory.slots.insert slot (state, memory.next)⟩)

end Memory

/-- A hash of some numbers: from a seed on, each is added by exclusive or and then multiplied. -/
def hash (numbers : List Nat) : UInt64 :=
  numbers.foldl (fun h n => (h ^^^ UInt64.ofNat n) * 1099511628211) 14695981039346656037

def bytesPerTransition : Nat := 8

def bytesPerBranch : Nat := 4

namespace ForwardSet

def slotCount : UInt64 := 10000

abbrev Known := Memory (List Transition)

def stateOf (transitions : List Transition) (known : Known) : Nat × Known :=
  let numbers := transitions.flatMap fun t =>
    [t.range.low.toNat, t.range.high.toNat, t.target]
  known.stateOf (hash numbers % slotCount).toNat transitions
    (transitions.length * bytesPerTransition)

/-- A state whose last transition has no target yet. -/
structure OpenState where
  done : List Transition
  last : ByteRange

def chain (row : List ByteRange) : List OpenState := row.map fun range => ⟨[], range⟩

def close (target : Nat) : List OpenState → Known → Nat × Known
  | [], known => (target, known)
  | state :: deeper, known =>
    let (next, known) := close target deeper known
    stateOf (state.done ++ [⟨state.last, next⟩]) known

/-- Adds a row to the open states of the one before it. -/
def add (target : Nat) : List ByteRange → List OpenState → Known → List OpenState × Known
  | range :: row, state :: deeper, known =>
    if state.last = range then
      let (deeper, known) := add target row deeper known
      (state :: deeper, known)
    else
      let (next, known) := close target deeper known
      (⟨state.done ++ [⟨state.last, next⟩], range⟩ :: chain row, known)
  | row, _, known => (chain row, known)

/-- All states for some rows. They are those of a tree of rows, made from its leaves: a part of the
tree is made when a row leaves it. -/
def states (rows : List (List ByteRange)) (next : Nat) : Known :=
  let target := next
  let (path, known) := rows.foldl (fun (path, known) row => add target row path known)
    (([] : List OpenState), (Memory.blank (next + 1) : Known))
  (close target path known).2

end ForwardSet

namespace BackwardSet

def slotCount : UInt64 := 1000

abbrev Known := Memory Transition

/-- The state before the one with a number. -/
def stateOf (target : Nat) (known : Known) (range : ByteRange) : Nat × Known :=
  known.stateOf (hash [target, range.low.toNat, range.high.toNat] % slotCount).toNat
    ⟨range, target⟩ 0

def addRow (target : Nat) (known : Known) (row : List ByteRange) : Known :=
  (row.foldl (fun (target, known) range => stateOf target known range) (target, known)).2

/-- All states for some rows, the fork and the target included. The rows are read from the first
byte on, and the fork leads to the last state of each. -/
def states (rows : List (List ByteRange)) (next : Nat) : Known :=
  let known := rows.foldl (addRow (next + 1)) (.blank (next + 2))
  { known with listBytes := rows.length * bytesPerBranch }

end BackwardSet

end IconCatalog.Pattern
