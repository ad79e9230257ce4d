import IconCatalog.Json.Scalar
import IconCatalog.Proofs.JsonText
set_option autoImplicit false

namespace IconCatalog.Json

/-- What follows a number goes on with neither a digit nor a point nor an exponent. -/
structure EndsNumber (rest : Bytes) : Prop where
  noDigit : ∀ b more, rest = b :: more → Byte.isDigit b = false
  noPoint : rest.head? ≠ some Byte.point
  noExponent : startsExponent rest = false

theorem endsNumber_nil : EndsNumber [] := ⟨nofun, nofun, rfl⟩

theorem endsNumber_cons {b : UInt8} (more : Bytes)
    (kind : b = Byte.comma ∨ b = Byte.closeList ∨ b = Byte.closeObject ∨ Byte.isBlank b = true) :
    EndsNumber (b :: more) := by
  have plain : Byte.isDigit b = false ∧ b ≠ Byte.point ∧ b ≠ Byte.letterE ∧ b ≠ Byte.lowerE := by
    rcases kind with rfl | rfl | rfl | blank
    · decide
    · decide
    · decide
    · simp only [Byte.isBlank, Bool.or_eq_true, decide_eq_true_eq] at blank
      rcases blank with ((rfl | rfl) | rfl) | rfl <;> decide
  obtain ⟨noDigit, noPoint, noUpper, noLower⟩ := plain
  refine ⟨?_, ?_, ?_⟩
  · rintro b' more' same
    cases same
    exact noDigit
  · rw [List.head?_cons]
    exact fun same => noPoint (Option.some.inj same)
  · simp only [startsExponent, List.head?_cons, Option.some.injEq, noUpper, noLower, decide_false,
      Bool.or_self]

section Digits

variable {ds rest : Bytes} (someDigit : ds ≠ []) (digits : ∀ b ∈ ds, Byte.isDigit b = true)
  (stop : ∀ b more, rest = b :: more → Byte.isDigit b = false)

include someDigit digits stop

/-- Digits are taken up to the first byte that is none. -/
theorem someDigits_append : someDigits (ds ++ rest) = .ok (ds, rest) := by
  have found : takeDigits (ds ++ rest) = (ds, rest) := by
    rw [takeDigits, List.takeWhile_append_of_pos digits, List.dropWhile_append_of_pos digits]
    cases rest with
    | nil => rw [List.takeWhile_nil, List.dropWhile_nil, List.append_nil]
    | cons b more =>
        have here : ¬ Byte.isDigit b = true := by
          rw [stop b more rfl]
          exact Bool.false_ne_true
        rw [List.takeWhile_cons_of_neg here, List.dropWhile_cons_of_neg here, List.append_nil]
  obtain ⟨d, more, rfl⟩ := List.exists_cons_of_ne_nil someDigit
  rw [List.cons_append] at found ⊢
  unfold someDigits
  rw [found]

theorem wholeDigits_append (noZero : ds.head? = some 0x30 → ds.length = 1) :
    wholeDigits (ds ++ rest) = .ok (ds, rest) := by
  rw [wholeDigits, someDigits_append someDigit digits stop]
  exact if_neg fun zero => zero.2 (noZero zero.1)

end Digits

section Chars

variable {c : Char} {cs whole : List Char} {rest : Bytes}

private theorem encodeChar_digit (digit : c.isDigit = true) :
    Utf8.encodeChar c = [UInt8.ofNat c.toNat] ∧ (UInt8.ofNat c.toNat).toNat = c.toNat := by
  obtain ⟨_, to_nine⟩ : 0x30 ≤ c.toNat ∧ c.toNat ≤ 0x39 := Char.isDigit_iff_toNat.1 digit
  exact ⟨Utf8.encodeChar_of_ascii (by omega), Utf8.byte_toNat (by omega)⟩

private theorem isDigit_of_mem_encodeChar (digit : c.isDigit = true) {b : UInt8}
    (member : b ∈ Utf8.encodeChar c) : Byte.isDigit b = true := by
  obtain ⟨from_zero, to_nine⟩ : 0x30 ≤ c.toNat ∧ c.toNat ≤ 0x39 := Char.isDigit_iff_toNat.1 digit
  obtain ⟨bytes, value⟩ := encodeChar_digit digit
  rw [bytes, List.mem_singleton] at member
  simp only [Byte.isDigit, Bool.and_eq_true, decide_eq_true_eq, UInt8.le_iff_toNat_le, member,
    value]
  exact ⟨from_zero, to_nine⟩

theorem Digits.isDigit (digits : Digits cs) : ∀ b ∈ Utf8.encode cs, Byte.isDigit b = true := by
  intro b member
  obtain ⟨c, inside, part⟩ := List.mem_flatMap.1 member
  exact isDigit_of_mem_encodeChar (digits.2 c inside) part

theorem Digits.exists_cons (digits : Digits cs) :
    ∃ d more, Utf8.encode cs = d :: more ∧ Byte.isDigit d = true := by
  obtain ⟨c, cs, rfl⟩ := List.exists_cons_of_ne_nil digits.1
  obtain ⟨d, more, split⟩ := List.exists_cons_of_ne_nil (Utf8.encodeChar_ne_nil c)
  refine ⟨d, more ++ Utf8.encode cs, by rw [Utf8.encode_cons, split, List.cons_append], ?_⟩
  refine isDigit_of_mem_encodeChar (digits.2 c List.mem_cons_self) ?_
  rw [split]
  exact List.mem_cons_self

theorem wholeDigits_whole (isDigits : Digits whole)
    (noZero : whole.head? = some '0' → whole = ['0'])
    (stop : ∀ b more, rest = b :: more → Byte.isDigit b = false) :
    wholeDigits (Utf8.encode whole ++ rest) = .ok (Utf8.encode whole, rest) := by
  obtain ⟨d, more, split, _⟩ := isDigits.exists_cons
  refine wholeDigits_append (by rw [split]; exact List.cons_ne_nil _ _) isDigits.isDigit stop ?_
  intro zero
  rw [noZero (Utf8.head?_of_head?_encode (by decide) zero)]
  rfl

/-- Digits of a number of 64 bits keep fitting until the last one. -/
private theorem foldl_pushInteger {n : Nat} (digits : ∀ c ∈ cs, c.isDigit = true)
    (fits : Nat.ofDigitChars 10 cs n < UInt64.size) :
    (Utf8.encode cs).foldl (fun m d => m.pushInteger (Byte.digitValue d)) ⟨n, 0, false⟩ =
      Magnitude.mk (Nat.ofDigitChars 10 cs n) 0 false := by
  induction cs generalizing n with
  | nil => rfl
  | cons c cs ih =>
      obtain ⟨bytes, value⟩ := encodeChar_digit (digits c List.mem_cons_self)
      rw [Nat.ofDigitChars_cons] at fits ⊢
      have grown := le_ofDigitChars (10 * n + (c.toNat - '0'.toNat)) cs
      have next : n * 10 + Byte.digitValue (UInt8.ofNat c.toNat) =
          10 * n + (c.toNat - '0'.toNat) := by
        rw [Byte.digitValue, value, Nat.mul_comm]
        rfl
      have room : 10 * n + (c.toNat - '0'.toNat) < UInt64.size := by omega
      rw [Utf8.encode_cons, bytes, List.singleton_append, List.foldl_cons,
        ← ih (fun other inside => digits other (List.mem_cons_of_mem _ inside)) fits]
      simp only [Magnitude.pushInteger, next, room, Bool.not_false, decide_true, Bool.and_self,
        ↓reduceIte]

end Chars

private theorem eq_zero_of_head?_toDigits {n : Nat}
    (zero : (Nat.toDigits 10 n).head? = some '0') : n = 0 := by
  induction n using Nat.strongRecOn with
  | ind n ih =>
      by_cases small : n < 10
      · rw [Nat.toDigits_of_lt_base small] at zero
        clear ih
        revert zero
        revert n
        decide
      · obtain ⟨d, more, split⟩ := List.exists_cons_of_ne_nil (@Nat.toDigits_ne_nil (n / 10) 10)
        rw [Nat.toDigits_of_base_le (by decide) (by omega), split] at zero
        have front := ih (n / 10) (by omega) (by rw [split]; exact zero)
        omega

section Decimal

variable (n : UInt64) {rest : Bytes}

theorem digits_decimal : Digits (decimal n).toList := by
  refine ⟨?_, fun c inside => isDigit_of_mem_decimal inside⟩
  rw [toList_decimal]
  exact Nat.toDigits_ne_nil

private theorem eq_of_head?_decimal (zero : (decimal n).toList.head? = some '0') :
    (decimal n).toList = ['0'] := by
  rw [toList_decimal] at zero ⊢
  rw [eq_zero_of_head?_toDigits zero]
  rfl

theorem numberText_decimal : NumberText (decimal n).toList := by
  have number := @NumberText.mk [] (decimal n).toList [] [] (by decide) (digits_decimal n)
    (eq_of_head?_decimal n) .none .none
  rwa [List.nil_append, List.append_nil, List.append_nil] at number

theorem readNumber_decimal (ends : EndsNumber rest) :
    readNumber (Utf8.encode (decimal n).toList ++ rest) = .ok (.integer n.toNat, rest) := by
  obtain ⟨noDigit, noPoint, noExponent⟩ := ends
  obtain ⟨d, more, split, digit⟩ := (digits_decimal n).exists_cons
  have noMinus : ¬ (Utf8.encode (decimal n).toList ++ rest).head? = some Byte.minus := by
    rw [split, List.cons_append, List.head?_cons]
    intro same
    cases same
    contradiction
  have value : Nat.ofDigitChars 10 (decimal n).toList 0 = n.toNat := by
    rw [toList_decimal, Nat.ofDigitChars_ten_toDigits]
  have magnitude : Magnitude.ofDigits (Utf8.encode (decimal n).toList) = ⟨n.toNat, 0, false⟩ := by
    rw [Magnitude.ofDigits, foldl_pushInteger (digits_decimal n).2 (value ▸ n.toNat_lt_size), value]
  simp only [readNumber, noMinus, decide_false, Bool.false_eq_true, ↓reduceIte,
    wholeDigits_whole (digits_decimal n) (eq_of_head?_decimal n) noDigit, noPoint, noExponent,
    magnitude, endInteger, Bool.not_false]

/-- A size is written in digits alone, and read back from them. -/
theorem readSize_decimal {blanks : Bytes} (blank : ∀ b ∈ blanks, Byte.isBlank b = true)
    (ends : EndsNumber rest) :
    readSize (blanks ++ (Utf8.encode (decimal n).toList ++ rest)) = .ok (n, rest) := by
  have number := readNumber_decimal n ends
  obtain ⟨d, more, split, digit⟩ := (digits_decimal n).exists_cons
  have solid : Byte.isBlank d = false := by
    rw [Bool.eq_false_iff]
    intro blank
    simp only [Byte.isBlank, Bool.or_eq_true, decide_eq_true_eq] at blank
    rcases blank with ((rfl | rfl) | rfl) | rfl <;> contradiction
  rw [split, List.cons_append] at number ⊢
  rw [readSize, skipBlank_append blank, skipBlank_cons solid]
  simp only [digit, Bool.or_true, ↓reduceIte, number]
  rw [if_neg (by omega), Int.toNat_natCast, UInt64.ofNat_toNat]

end Decimal

end IconCatalog.Json
