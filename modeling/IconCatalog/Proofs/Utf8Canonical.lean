import IconCatalog.Path
set_option autoImplicit false

namespace IconCatalog.Utf8

private theorem allChars_cons_some {c : Char} {pieces : List (Option Char)} {cs : List Char}
    (read : allChars (some c :: pieces) = some cs) :
    ∃ more, cs = c :: more ∧ allChars pieces = some more := by
  simp only [allChars, Option.map_eq_some_iff] at read
  obtain ⟨more, rest, rfl⟩ := read
  exact ⟨more, rfl, rest⟩

/-- A character that has begun goes on with a byte in the expected range, or nothing is read. -/
private theorem allChars_pending {p : Pending} {bytes : Bytes} {cs : List Char}
    (read : allChars (pieces (some p) bytes) = some cs) :
    ∃ b rest, bytes = b :: rest ∧ p.low ≤ b.toNat ∧ b.toNat ≤ p.high ∧
      allChars (if p.left = 1
        then some (Char.ofNat (p.value * 64 + (b.toNat - 0x80))) :: pieces none rest
        else pieces (some ⟨p.value * 64 + (b.toNat - 0x80), p.left - 1, 0x80, 0xBF⟩) rest) =
        some cs := by
  cases bytes with
  | nil => simp only [pieces, allChars, reduceCtorEq] at read
  | cons b rest =>
      simp only [pieces] at read
      split at read
      · rename_i inside
        exact ⟨b, rest, rfl, inside.1, inside.2, read⟩
      · split at read <;> simp only [allChars, reduceCtorEq] at read

theorem toNat_charOfNat {n : Nat} (valid : n < 0xD800 ∨ 0xDFFF < n ∧ n < 0x110000) :
    (Char.ofNat n).toNat = n := by
  have scalar : n.isValidChar := valid
  rw [Char.ofNat, dif_pos scalar]
  rfl

private theorem byte_eq {b : UInt8} {n : Nat} (value : b.toNat = n) : UInt8.ofNat n = b := by
  rw [← value, UInt8.ofNat_toNat]

private theorem encodeChar_one {a : UInt8} (small : a.toNat < 0x80) :
    encodeChar (Char.ofNat a.toNat) = [a] := by
  simp only [encodeChar, toNat_charOfNat (by omega : a.toNat < 0xD800 ∨ _), small, ↓reduceIte,
    UInt8.ofNat_toNat]

private theorem encodeChar_two {a b : UInt8} {value : Nat} (lead : a.toNat = 0xC0 + value)
    (from_low : 2 ≤ value) (to_high : value < 32) (tail : 0x80 ≤ b.toNat ∧ b.toNat ≤ 0xBF) :
    encodeChar (Char.ofNat (value * 64 + (b.toNat - 0x80))) = [a, b] := by
  simp only [encodeChar, toNat_charOfNat (by omega : value * 64 + (b.toNat - 0x80) < 0xD800 ∨ _)]
  rw [if_neg (by omega), if_pos (by omega), byte_eq (b := a) (by omega),
    byte_eq (b := b) (by omega)]

private theorem encodeChar_three {a b c : UInt8} {value : Nat} (lead : a.toNat = 0xE0 + value)
    (to_high : value < 16) (first : 0x80 ≤ b.toNat ∧ b.toNat ≤ 0xBF)
    (tail : 0x80 ≤ c.toNat ∧ c.toNat ≤ 0xBF) (long : value = 0 → 0xA0 ≤ b.toNat)
    (scalar : value = 13 → b.toNat ≤ 0x9F) :
    encodeChar (Char.ofNat ((value * 64 + (b.toNat - 0x80)) * 64 + (c.toNat - 0x80))) =
      [a, b, c] := by
  have code : ((value * 64 + (b.toNat - 0x80)) * 64 + (c.toNat - 0x80)) < 0xD800 ∨
      0xDFFF < ((value * 64 + (b.toNat - 0x80)) * 64 + (c.toNat - 0x80)) ∧
        ((value * 64 + (b.toNat - 0x80)) * 64 + (c.toNat - 0x80)) < 0x110000 := by
    omega
  simp only [encodeChar, toNat_charOfNat code]
  rw [if_neg (by omega), if_neg (by omega), if_pos (by omega), byte_eq (b := a) (by omega),
    byte_eq (b := b) (by omega), byte_eq (b := c) (by omega)]

private theorem encodeChar_four {a b c d : UInt8} {value : Nat} (lead : a.toNat = 0xF0 + value)
    (to_high : value ≤ 4) (first : 0x80 ≤ b.toNat ∧ b.toNat ≤ 0xBF)
    (second : 0x80 ≤ c.toNat ∧ c.toNat ≤ 0xBF) (tail : 0x80 ≤ d.toNat ∧ d.toNat ≤ 0xBF)
    (long : value = 0 → 0x90 ≤ b.toNat) (scalar : value = 4 → b.toNat ≤ 0x8F) :
    encodeChar (Char.ofNat
      (((value * 64 + (b.toNat - 0x80)) * 64 + (c.toNat - 0x80)) * 64 + (d.toNat - 0x80))) =
      [a, b, c, d] := by
  have above : 0xFFFF <
      ((value * 64 + (b.toNat - 0x80)) * 64 + (c.toNat - 0x80)) * 64 + (d.toNat - 0x80) := by
    omega
  have below :
      ((value * 64 + (b.toNat - 0x80)) * 64 + (c.toNat - 0x80)) * 64 + (d.toNat - 0x80) <
        0x110000 := by
    omega
  simp only [encodeChar, toNat_charOfNat (Or.inr ⟨by omega, below⟩)]
  rw [if_neg (by omega), if_neg (by omega), if_neg (by omega), byte_eq (b := a) (by omega),
    byte_eq (b := b) (by omega), byte_eq (b := c) (by omega), byte_eq (b := d) (by omega)]

/-- What the first byte of a character of several bytes says: how many bytes follow, and which
range keeps the next one from an overlong form, a surrogate or a value that is too large. -/
private theorem lead_eq_begins {b : UInt8} {p : Pending} (begins : lead b = .begins p) :
    (p.left = 1 ∧ p.low = 0x80 ∧ p.high = 0xBF ∧ b.toNat = 0xC0 + p.value ∧ 2 ≤ p.value ∧
      p.value < 32) ∨
    (p.left = 2 ∧ 0x80 ≤ p.low ∧ p.high ≤ 0xBF ∧ b.toNat = 0xE0 + p.value ∧ p.value < 16 ∧
      (p.value = 0 → p.low = 0xA0) ∧ (p.value = 13 → p.high = 0x9F)) ∨
    (p.left = 3 ∧ 0x80 ≤ p.low ∧ p.high ≤ 0xBF ∧ b.toNat = 0xF0 + p.value ∧ p.value ≤ 4 ∧
      (p.value = 0 → p.low = 0x90) ∧ (p.value = 4 → p.high = 0x8F)) := by
  simp only [lead] at begins
  repeat' split at begins
  all_goals first | contradiction | (obtain rfl := Lead.begins.inj begins; grind)

private theorem lead_eq_whole {b : UInt8} {c : Char} (whole : lead b = .whole c) :
    b.toNat < 0x80 ∧ c = Char.ofNat b.toNat := by
  simp only [lead] at whole
  split at whole
  · rename_i small
    cases whole
    exact ⟨small, rfl⟩
  · repeat' split at whole
    all_goals contradiction

/-- Reading leaves nothing to choose: the bytes are those that writing would have made. -/
theorem encode_of_decode? {bytes : Bytes} {cs : List Char} (read : decode? bytes = some cs) :
    encode cs = bytes := by
  unfold decode? at read
  induction size : bytes.length using Nat.strongRecOn generalizing bytes cs with
  | ind size ih =>
      cases bytes with
      | nil =>
          cases read
          rfl
      | cons b rest =>
          simp only [pieces] at read
          split at read
          · rename_i c whole
            obtain ⟨small, rfl⟩ := lead_eq_whole whole
            obtain ⟨more, rfl, later⟩ := allChars_cons_some read
            rw [encode_cons, encodeChar_one small,
              ih rest.length (by simp only [List.length_cons] at size; omega) later rfl]
            rfl
          · rename_i p begins
            obtain ⟨b₁, rest₁, rfl, low₁, high₁, read₁⟩ := allChars_pending read
            rcases lead_eq_begins begins with one | two | three
            · obtain ⟨left, low, high, value, from_low, to_high⟩ := one
              rw [if_pos left] at read₁
              obtain ⟨more, rfl, later⟩ := allChars_cons_some read₁
              rw [encode_cons, encodeChar_two value from_low to_high (by omega),
                ih rest₁.length (by simp only [List.length_cons] at size; omega) later rfl]
              rfl
            · obtain ⟨left, low, high, value, to_high, long, scalar⟩ := two
              rw [if_neg (by omega)] at read₁
              obtain ⟨b₂, rest₂, rfl, low₂, high₂, read₂⟩ := allChars_pending read₁
              simp only [left, Nat.reduceSub, ↓reduceIte] at low₂ high₂ read₂
              obtain ⟨more, rfl, later⟩ := allChars_cons_some read₂
              rw [encode_cons,
                encodeChar_three value to_high (by omega) (by omega) (by omega) (by omega),
                ih rest₂.length (by simp only [List.length_cons] at size; omega) later rfl]
              rfl
            · obtain ⟨left, low, high, value, to_high, long, scalar⟩ := three
              rw [if_neg (by omega)] at read₁
              obtain ⟨b₂, rest₂, rfl, low₂, high₂, read₂⟩ := allChars_pending read₁
              simp only [left, Nat.reduceSub, Nat.reduceEqDiff, ↓reduceIte] at low₂ high₂ read₂
              obtain ⟨b₃, rest₃, rfl, low₃, high₃, read₃⟩ := allChars_pending read₂
              simp only [↓reduceIte] at low₃ high₃ read₃
              obtain ⟨more, rfl, later⟩ := allChars_cons_some read₃
              rw [encode_cons, encodeChar_four value to_high (by omega) (by omega) (by omega)
                  (by omega) (by omega),
                ih rest₃.length (by simp only [List.length_cons] at size; omega) later rfl]
              rfl
          · simp only [allChars, reduceCtorEq] at read

theorem toString?_eq_some_iff {bytes : Bytes} {s : String} :
    toString? bytes = some s ↔ bytes = ofString s := by
  constructor
  · intro read
    simp only [toString?, Option.map_eq_some_iff] at read
    obtain ⟨cs, decoded, rfl⟩ := read
    rw [ofString, String.toList_ofList, encode_of_decode? decoded]
  · rintro rfl
    exact toString?_ofString s

theorem encodeChar_of_ascii {c : Char} (small : c.toNat < 0x80) :
    encodeChar c = [UInt8.ofNat c.toNat] := by
  simp only [encodeChar, small, ↓reduceIte]

theorem encodeChar_ne_nil (c : Char) : encodeChar c ≠ [] := by
  simp only [encodeChar]
  repeat' split
  all_goals exact List.cons_ne_nil _ _

/-- A character outside of ASCII has no byte in common with ASCII. -/
theorem high_of_mem_encodeChar {c : Char} (large : 0x80 ≤ c.toNat) {b : UInt8}
    (member : b ∈ encodeChar c) : 0x80 ≤ b.toNat := by
  have bound : c.toNat < 0x110000 := by
    have valid : c.toNat < 0xD800 ∨ 0xDFFF < c.toNat ∧ c.toNat < 0x110000 := c.valid
    omega
  simp only [encodeChar] at member
  rw [if_neg (by omega)] at member
  split at member
  · simp only [List.mem_cons, List.not_mem_nil, or_false] at member
    rcases member with rfl | rfl <;> rw [byte_toNat (by omega)] <;> omega
  split at member
  · simp only [List.mem_cons, List.not_mem_nil, or_false] at member
    rcases member with rfl | rfl | rfl <;> rw [byte_toNat (by omega)] <;> omega
  · simp only [List.mem_cons, List.not_mem_nil, or_false] at member
    rcases member with rfl | rfl | rfl | rfl <;> rw [byte_toNat (by omega)] <;> omega

theorem mem_of_mem_encode {b : UInt8} (small : b.toNat < 0x80) {cs : List Char}
    (member : b ∈ encode cs) : Char.ofNat b.toNat ∈ cs := by
  obtain ⟨c, inside, part⟩ := List.mem_flatMap.1 member
  by_cases ascii : c.toNat < 0x80
  · rw [encodeChar_of_ascii ascii, List.mem_singleton] at part
    rw [part, byte_toNat (by omega), Char.ofNat_toNat]
    exact inside
  · have high := high_of_mem_encodeChar (by omega) part
    omega

/-- A byte of ASCII stands first only for a character that stands first. -/
theorem head?_of_head?_encode {b : UInt8} (small : b.toNat < 0x80) {cs : List Char}
    (first : (encode cs).head? = some b) : cs.head? = some (Char.ofNat b.toNat) := by
  cases cs with
  | nil => contradiction
  | cons c cs =>
      obtain ⟨b', more, split⟩ := List.exists_cons_of_ne_nil (encodeChar_ne_nil c)
      have member : b ∈ encode [c] := by
        rw [encode_cons, split, List.cons_append, List.head?_cons] at first
        rw [encode_cons, split, Option.some.inj first]
        exact List.mem_cons_self
      rw [List.head?_cons, List.mem_singleton.1 (mem_of_mem_encode small member)]

end IconCatalog.Utf8

namespace IconCatalog.Path

theorem text?_eq_some_iff {p : Path} {s : String} : p.text? = some s ↔ p = ofString s := by
  rw [text?, Utf8.toString?_eq_some_iff, ofString]
  constructor
  · intro same
    rw [← same]
  · rintro rfl
    rfl

end IconCatalog.Path
