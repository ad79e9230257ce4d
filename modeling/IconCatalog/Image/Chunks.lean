set_option autoImplicit false

namespace IconCatalog

/-- Puts the next `count` pieces behind those found so far, which are in reverse. -/
def chunksOnto {α : Type} (found : List (List α)) : Nat → Nat → List α → List (List α)
  | 0, _, _ => found.reverse
  | count + 1, size, xs => chunksOnto (xs.take size :: found) count size (xs.drop size)

def chunks {α : Type} (count size : Nat) (xs : List α) : List (List α) :=
  chunksOnto [] count size xs

/-- As many pieces of exactly `size` elements as there are; a shorter rest is left out. -/
def chunksExact {α : Type} (size : Nat) (xs : List α) : List (List α) :=
  chunks (xs.length / size) size xs

theorem chunksOnto_eq {α : Type} (found : List (List α)) (count size : Nat) (xs : List α) :
    chunksOnto found count size xs = found.reverse ++ chunks count size xs := by
  induction count generalizing found xs with
  | zero => simp only [chunks, chunksOnto, List.reverse_nil, List.append_nil]
  | succ count ih =>
    rw [chunks, chunksOnto, chunksOnto, ih, ih [xs.take size]]
    simp only [List.reverse_cons, List.reverse_nil, List.nil_append, List.append_assoc]

@[simp] theorem chunks_zero {α : Type} (size : Nat) (xs : List α) : chunks 0 size xs = [] := rfl

@[simp] theorem chunks_succ {α : Type} (count size : Nat) (xs : List α) :
    chunks (count + 1) size xs = xs.take size :: chunks count size (xs.drop size) := by
  rw [chunks, chunksOnto, chunksOnto_eq]
  simp only [List.reverse_cons, List.reverse_nil, List.nil_append, List.cons_append]

@[simp] theorem length_chunks {α : Type} (count size : Nat) (xs : List α) :
    (chunks count size xs).length = count := by
  induction count generalizing xs with
  | zero => rfl
  | succ count ih => rw [chunks_succ, List.length_cons, ih]

theorem flatten_chunks {α : Type} (count size : Nat) (xs : List α) :
    (chunks count size xs).flatten = xs.take (count * size) := by
  induction count generalizing xs with
  | zero => simp only [chunks_zero, List.flatten_nil, Nat.zero_mul, List.take_zero]
  | succ count ih =>
    rw [chunks_succ, List.flatten_cons, ih, Nat.succ_mul, Nat.add_comm, List.take_add]

end IconCatalog
