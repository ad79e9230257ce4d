set_option autoImplicit false

namespace IconCatalog

abbrev Bytes := List UInt8

namespace Utf8

def encodeChar (c : Char) : Bytes :=
  let n := c.toNat
  if n < 0x80 then [UInt8.ofNat n]
  else if n < 0x800 then [UInt8.ofNat (0xC0 + n / 64), UInt8.ofNat (0x80 + n % 64)]
  else if n < 0x10000 then
    [UInt8.ofNat (0xE0 + n / 4096), UInt8.ofNat (0x80 + n / 64 % 64), UInt8.ofNat (0x80 + n % 64)]
  else
    [UInt8.ofNat (0xF0 + n / 262144), UInt8.ofNat (0x80 + n / 4096 % 64),
      UInt8.ofNat (0x80 + n / 64 % 64), UInt8.ofNat (0x80 + n % 64)]

def encode (cs : List Char) : Bytes := cs.flatMap encodeChar

/-- A character that has begun and still needs `left` bytes. The bounds on the next byte keep out
overlong forms, surrogates and values above U+10FFFF. -/
structure Pending where
  value : Nat
  left : Nat
  low : Nat
  high : Nat
  deriving DecidableEq, Repr

inductive Lead
  | whole (c : Char)
  | begins (p : Pending)
  | broken

def lead (b : UInt8) : Lead :=
  let n := b.toNat
  if n < 0x80 then .whole (Char.ofNat n)
  else if n < 0xC2 then .broken
  else if n < 0xE0 then .begins ⟨n - 0xC0, 1, 0x80, 0xBF⟩
  else if n = 0xE0 then .begins ⟨n - 0xE0, 2, 0xA0, 0xBF⟩
  else if n = 0xED then .begins ⟨n - 0xE0, 2, 0x80, 0x9F⟩
  else if n < 0xF0 then .begins ⟨n - 0xE0, 2, 0x80, 0xBF⟩
  else if n = 0xF0 then .begins ⟨n - 0xF0, 3, 0x90, 0xBF⟩
  else if n = 0xF4 then .begins ⟨n - 0xF0, 3, 0x80, 0x8F⟩
  else if n < 0xF4 then .begins ⟨n - 0xF0, 3, 0x80, 0xBF⟩
  else .broken

/-- The characters of a byte string, `none` standing for each longest piece that begins a
character and does not finish one. -/
def pieces : Option Pending → Bytes → List (Option Char)
  | none, [] => []
  | some _, [] => [none]
  | none, b :: rest =>
    match lead b with
    | .whole c => some c :: pieces none rest
    | .begins p => pieces (some p) rest
    | .broken => none :: pieces none rest
  | some p, b :: rest =>
    if p.low ≤ b.toNat ∧ b.toNat ≤ p.high then
      let value := p.value * 64 + (b.toNat - 0x80)
      if p.left = 1 then some (Char.ofNat value) :: pieces none rest
      else pieces (some ⟨value, p.left - 1, 0x80, 0xBF⟩) rest
    else
      match lead b with
      | .whole c => none :: some c :: pieces none rest
      | .begins q => none :: pieces (some q) rest
      | .broken => none :: none :: pieces none rest

def allChars : List (Option Char) → Option (List Char)
  | [] => some []
  | none :: _ => none
  | some c :: rest => (allChars rest).map (c :: ·)

def decode? (bytes : Bytes) : Option (List Char) := allChars (pieces none bytes)

/-- The characters of a byte string, with a replacement character for each broken piece. -/
def lossy (bytes : Bytes) : List Char :=
  (pieces none bytes).map fun piece => piece.getD (Char.ofNat 0xFFFD)

def ofString (s : String) : Bytes := encode s.toList

def toString? (bytes : Bytes) : Option String := (decode? bytes).map String.ofList

def toStringLossy (bytes : Bytes) : String := String.ofList (lossy bytes)

@[simp] theorem encode_nil : encode [] = [] := rfl

@[simp] theorem encode_cons (c : Char) (cs : List Char) :
    encode (c :: cs) = encodeChar c ++ encode cs := rfl

@[simp] theorem encode_append (xs ys : List Char) : encode (xs ++ ys) = encode xs ++ encode ys := by
  simp only [encode, List.flatMap_append]

@[simp] theorem ofString_append (s t : String) :
    ofString (s ++ t) = ofString s ++ ofString t := by
  simp only [ofString, String.toList_append, encode_append]

theorem byte_toNat {n : Nat} (small : n < 256) : (UInt8.ofNat n).toNat = n := by
  rw [UInt8.toNat_ofNat']
  exact Nat.mod_eq_of_lt small

theorem pieces_continuation {value left low high n : Nat} (rest : Bytes)
    (from_low : low ≤ n) (to_high : n ≤ high) (small : n < 256) :
    pieces (some ⟨value, left, low, high⟩) (UInt8.ofNat n :: rest) =
      if left = 1 then some (Char.ofNat (value * 64 + (n - 0x80))) :: pieces none rest
      else pieces (some ⟨value * 64 + (n - 0x80), left - 1, 0x80, 0xBF⟩) rest := by
  simp only [pieces, byte_toNat small, from_low, to_high, and_self, if_true]

private theorem pieces_begins {b : UInt8} {p : Pending} (rest : Bytes)
    (begins : lead b = .begins p) : pieces none (b :: rest) = pieces (some p) rest := by
  simp only [pieces, begins]

private theorem pieces_three (value low high : Nat) {a : UInt8} {b c : Nat} (rest : Bytes)
    (begins : lead a = .begins ⟨value, 2, low, high⟩) (from_low : low ≤ b) (to_high : b ≤ high)
    (small : b < 256) (tail : 0x80 ≤ c ∧ c ≤ 0xBF) :
    pieces none (a :: UInt8.ofNat b :: UInt8.ofNat c :: rest) =
      some (Char.ofNat ((value * 64 + (b - 0x80)) * 64 + (c - 0x80))) :: pieces none rest := by
  rw [pieces_begins _ begins, pieces_continuation _ from_low to_high small, if_neg (by omega),
    pieces_continuation _ tail.1 tail.2 (by omega), if_pos rfl]

private theorem pieces_four (value low high : Nat) {a : UInt8} {b c d : Nat} (rest : Bytes)
    (begins : lead a = .begins ⟨value, 3, low, high⟩) (from_low : low ≤ b) (to_high : b ≤ high)
    (small : b < 256) (tail : (0x80 ≤ c ∧ c ≤ 0xBF) ∧ 0x80 ≤ d ∧ d ≤ 0xBF) :
    pieces none (a :: UInt8.ofNat b :: UInt8.ofNat c :: UInt8.ofNat d :: rest) =
      some (Char.ofNat (((value * 64 + (b - 0x80)) * 64 + (c - 0x80)) * 64 + (d - 0x80))) ::
        pieces none rest := by
  rw [pieces_begins _ begins, pieces_continuation _ from_low to_high small, if_neg (by omega),
    pieces_continuation _ tail.1.1 tail.1.2 (by omega), if_neg (by omega),
    pieces_continuation _ tail.2.1 tail.2.2 (by omega), if_pos rfl]

/-- Reading undoes writing, whatever follows the character. -/
theorem pieces_encodeChar (c : Char) (rest : Bytes) :
    pieces none (encodeChar c ++ rest) = some c :: pieces none rest := by
  have bound : c.toNat < 0xD800 ∨ 0xDFFF < c.toNat ∧ c.toNat < 0x110000 := c.valid
  have back : Char.ofNat c.toNat = c := Char.ofNat_toNat c
  simp only [encodeChar]
  generalize c.toNat = n at bound back
  split
  · simp only [List.cons_append, List.nil_append, pieces, lead, byte_toNat (by omega : n < 256)]
    simp only [*, if_true]
  split
  · rw [List.cons_append, pieces_begins (p := ⟨n / 64, 1, 0x80, 0xBF⟩), List.cons_append,
      pieces_continuation _ (by omega) (by omega) (by omega), if_pos rfl]
    · rw [show n / 64 * 64 + (0x80 + n % 64 - 0x80) = n by omega, back, List.nil_append]
    · simp only [lead, byte_toNat (by omega : 0xC0 + n / 64 < 256)]
      rw [if_neg (by omega), if_neg (by omega), if_pos (by omega)]
      simp only [Nat.add_sub_cancel_left]
  split
  · have digits :
        (n / 4096 * 64 + (0x80 + n / 64 % 64 - 0x80)) * 64 + (0x80 + n % 64 - 0x80) = n := by omega
    simp only [List.cons_append, List.nil_append]
    by_cases first : n / 4096 = 0
    · rw [pieces_three (n / 4096) 0xA0 0xBF _ (by rw [first]; rfl)
        (by omega) (by omega) (by omega) (by omega), digits, back]
    by_cases surrogate : n / 4096 = 13
    · rw [pieces_three (n / 4096) 0x80 0x9F _ (by rw [surrogate]; rfl)
        (by omega) (by omega) (by omega) (by omega), digits, back]
    rw [pieces_three (n / 4096) 0x80 0xBF _ ?_
      (by omega) (by omega) (by omega) (by omega), digits, back]
    simp only [lead, byte_toNat (by omega : 0xE0 + n / 4096 < 256)]
    rw [if_neg (by omega), if_neg (by omega), if_neg (by omega), if_neg (by omega),
      if_neg (by omega), if_pos (by omega)]
    simp only [Nat.add_sub_cancel_left]
  · have digits : ((n / 262144 * 64 + (0x80 + n / 4096 % 64 - 0x80)) * 64 +
        (0x80 + n / 64 % 64 - 0x80)) * 64 + (0x80 + n % 64 - 0x80) = n := by omega
    simp only [List.cons_append, List.nil_append]
    by_cases first : n / 262144 = 0
    · rw [pieces_four (n / 262144) 0x90 0xBF _ (by rw [first]; rfl)
        (by omega) (by omega) (by omega) (by omega), digits, back]
    by_cases last : n / 262144 = 4
    · rw [pieces_four (n / 262144) 0x80 0x8F _ (by rw [last]; rfl)
        (by omega) (by omega) (by omega) (by omega), digits, back]
    rw [pieces_four (n / 262144) 0x80 0xBF _ ?_
      (by omega) (by omega) (by omega) (by omega), digits, back]
    simp only [lead, byte_toNat (by omega : 0xF0 + n / 262144 < 256)]
    rw [if_neg (by omega), if_neg (by omega), if_neg (by omega), if_neg (by omega),
      if_neg (by omega), if_neg (by omega), if_neg (by omega), if_neg (by omega),
      if_pos (by omega)]
    simp only [Nat.add_sub_cancel_left]

theorem pieces_encode (cs : List Char) : pieces none (encode cs) = cs.map some := by
  induction cs with
  | nil => rfl
  | cons c cs ih => rw [encode_cons, pieces_encodeChar, ih, List.map_cons]

theorem allChars_map_some (cs : List Char) : allChars (cs.map some) = some cs := by
  induction cs with
  | nil => rfl
  | cons c cs ih => simp only [List.map_cons, allChars, ih, Option.map_some]

@[simp] theorem decode?_encode (cs : List Char) : decode? (encode cs) = some cs := by
  rw [decode?, pieces_encode, allChars_map_some]

@[simp] theorem lossy_encode (cs : List Char) : lossy (encode cs) = cs := by
  rw [lossy, pieces_encode, List.map_map]
  exact List.map_id' cs

@[simp] theorem toString?_ofString (s : String) : toString? (ofString s) = some s := by
  rw [toString?, ofString, decode?_encode, Option.map_some, String.ofList_toList]

/-- Text is shown as it is: only broken bytes are replaced. -/
@[simp] theorem toStringLossy_ofString (s : String) : toStringLossy (ofString s) = s := by
  rw [toStringLossy, ofString, lossy_encode, String.ofList_toList]

theorem ofString_injective {s t : String} (same : ofString s = ofString t) : s = t := by
  have read := congrArg toString? same
  simpa only [toString?_ofString, Option.some.injEq] using read

end Utf8

end IconCatalog
