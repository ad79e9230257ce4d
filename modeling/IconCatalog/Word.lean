set_option autoImplicit false

namespace IconCatalog

/-- The product, when it fits in 64 bits. -/
def checkedMul (a b : UInt64) : Option UInt64 :=
  if a.toNat * b.toNat < UInt64.size then some (a * b) else none

def decimal (n : UInt64) : String := n.toNat.repr

theorem toList_decimal (n : UInt64) : (decimal n).toList = Nat.toDigits 10 n.toNat := by
  rw [decimal, Nat.repr_eq_ofList_toDigits, String.toList_ofList]

theorem isDigit_of_mem_decimal {n : UInt64} {c : Char} (inside : c ∈ (decimal n).toList) :
    c.isDigit = true := by
  rw [toList_decimal] at inside
  exact Nat.isDigit_of_mem_toDigits (by decide) (by decide) inside

theorem decimal_injective {m n : UInt64} (same : decimal m = decimal n) : m = n := by
  have values := congrArg (fun text => Nat.ofDigitChars 10 text.toList 0) same
  simp only [toList_decimal, Nat.ofDigitChars_ten_toDigits] at values
  exact UInt64.toNat_inj.1 values

theorem le_ofDigitChars (n : Nat) (cs : List Char) : n ≤ Nat.ofDigitChars 10 cs n := by
  induction cs generalizing n with
  | nil => exact Nat.le_refl n
  | cons c cs ih =>
      have grown := ih (10 * n + (c.toNat - '0'.toNat))
      rw [Nat.ofDigitChars_cons]
      omega

theorem toNat_mul_of_lt {a b : UInt64} (fits : a.toNat * b.toNat < UInt64.size) :
    (a * b).toNat = a.toNat * b.toNat := by
  rw [UInt64.toNat_mul, Nat.mod_eq_of_lt fits]

theorem checkedMul_eq_some_iff {a b c : UInt64} :
    checkedMul a b = some c ↔ a.toNat * b.toNat = c.toNat := by
  unfold checkedMul
  split
  · next fits =>
    rw [Option.some.injEq, ← toNat_mul_of_lt fits, UInt64.toNat_inj]
  · next overflows =>
    have bound := c.toNat_lt_size
    simp only [reduceCtorEq, false_iff]
    omega

/-- The part of `xs` from `start` up to `stop`, when the two are in order and inside. -/
def slice? {α : Type} (xs : List α) (start stop : UInt64) : Option (List α) :=
  if start ≤ stop ∧ stop.toNat ≤ xs.length then
    some ((xs.drop start.toNat).take (stop.toNat - start.toNat))
  else none

end IconCatalog
