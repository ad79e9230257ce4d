import IconCatalog.Json.Byte
set_option autoImplicit false

namespace IconCatalog.Json

inductive Number
  | integer (value : Int)
  | float
  deriving DecidableEq, Repr

/-- The digits of a number as far as they fit in 64 bits, and the power of ten that is left. -/
structure Magnitude where
  digits : Nat
  exponent : Int
  /-- Some digit did not fit. -/
  full : Bool
  deriving DecidableEq, Repr

namespace Magnitude

/-- From the first digit that does not fit, each digit before the point is one power of ten. -/
def pushInteger (m : Magnitude) (digit : Nat) : Magnitude :=
  if !m.full && m.digits * 10 + digit < UInt64.size then { m with digits := m.digits * 10 + digit }
  else { m with exponent := m.exponent + 1, full := true }

/-- From the first digit that does not fit, digits after the point are left out. -/
def pushFraction (m : Magnitude) (digit : Nat) : Magnitude :=
  if !m.full && m.digits * 10 + digit < UInt64.size then
    { m with digits := m.digits * 10 + digit, exponent := m.exponent - 1 }
  else { m with full := true }

def ofDigits (ds : Bytes) : Magnitude :=
  ds.foldl (fun m d => m.pushInteger (Byte.digitValue d)) ⟨0, 0, false⟩

def withFraction (m : Magnitude) (ds : Bytes) : Magnitude :=
  ds.foldl (fun m d => m.pushFraction (Byte.digitValue d)) { m with full := false }

end Magnitude

/-- The nearest number of at most 53 significant bits, a half going to the even neighbour. -/
def round53 (n : Nat) : Nat :=
  if n < Nat.pow 2 53 then n
  else
    let unit := Nat.pow 2 (n.log2 - 52)
    let down := n / unit
    let rest := n % unit
    if 2 * rest < unit ∨ 2 * rest = unit ∧ down % 2 = 0 then down * unit else (down + 1) * unit

/-- The numbers from here on round to infinity. -/
def doubleLimit : Nat := Nat.pow 2 1024 - Nat.pow 2 970

/-- Whether a decimal number is too large for a double. It is taken as the product of its digits and
a power of ten, both rounded to 53 significant bits. -/
def exceedsDouble (digits : Nat) (exponent : Int) : Bool :=
  if digits = 0 then false
  else
    match exponent with
    | .negSucc _ => false
    | .ofNat e =>
      if 308 < e then true
      else decide (doubleLimit ≤ round53 digits * round53 (Nat.pow 10 e))

def takeDigits (input : Bytes) : Bytes × Bytes :=
  (input.takeWhile Byte.isDigit, input.dropWhile Byte.isDigit)

def someDigits (input : Bytes) : Except Fault (Bytes × Bytes) :=
  match input, takeDigits input with
  | [], _ => .error .unfinished
  | _ :: _, ([], _) => .error .malformed
  | _ :: _, found => .ok found

/-- The digits before the point: a zero stands alone. -/
def wholeDigits (input : Bytes) : Except Fault (Bytes × Bytes) :=
  match someDigits input with
  | .error fault => .error fault
  | .ok (ds, rest) =>
    if ds.head? = some 0x30 ∧ ds.length ≠ 1 then .error .malformed else .ok (ds, rest)

def exponentPart (input : Bytes) : Except Fault (Int × Bytes) :=
  let sign := input.head?
  let digits := if sign = some Byte.plus ∨ sign = some Byte.minus then input.drop 1 else input
  match someDigits digits with
  | .error fault => .error fault
  | .ok (ds, rest) =>
    let value : Int := ds.foldl (fun n d => n * 10 + Byte.digitValue d) 0
    .ok (if sign = some Byte.minus then -value else value, rest)

def startsExponent (input : Bytes) : Bool :=
  input.head? = some Byte.letterE || input.head? = some Byte.lowerE

def endFloat (m : Magnitude) (rest : Bytes) : Except Fault (Number × Bytes) :=
  if exceedsDouble m.digits m.exponent then .error .malformed else .ok (.float, rest)

def readExponent (m : Magnitude) (input : Bytes) : Except Fault (Number × Bytes) :=
  match exponentPart input with
  | .error fault => .error fault
  | .ok (e, rest) => endFloat { m with exponent := m.exponent + e } rest

/-- An integer of 64 bits: below zero down to `-2 ^ 63`, and without a negative zero. -/
def endInteger (negative : Bool) (m : Magnitude) (rest : Bytes) : Except Fault (Number × Bytes) :=
  if m.full then endFloat m rest
  else if !negative then .ok (.integer m.digits, rest)
  else if m.digits = 0 ∨ Nat.pow 2 63 < m.digits then .ok (.float, rest)
  else .ok (.integer (-m.digits), rest)

/-- A number without point and exponent that fits in 64 bits is an integer, any other a float, and
no float is larger than what a double can hold. -/
def readNumber (input : Bytes) : Except Fault (Number × Bytes) :=
  let negative := decide (input.head? = some Byte.minus)
  match wholeDigits (if negative then input.drop 1 else input) with
  | .error fault => .error fault
  | .ok (ds, rest) =>
    let m := Magnitude.ofDigits ds
    if rest.head? = some Byte.point then
      match someDigits (rest.drop 1) with
      | .error fault => .error fault
      | .ok (fraction, rest) =>
        let m := m.withFraction fraction
        if startsExponent rest then readExponent m (rest.drop 1) else endFloat m rest
    else if startsExponent rest then readExponent m (rest.drop 1)
    else endInteger negative m rest

/-- Where no value is taken, a number that breaks off is as malformed as any other. -/
def malformedIfAny {α : Type} : Except Fault α → Except Fault α
  | .ok value => .ok value
  | .error _ => .error .malformed

def skipNumber (input : Bytes) : Except Fault Bytes :=
  let negative := decide (input.head? = some Byte.minus)
  match malformedIfAny (wholeDigits (if negative then input.drop 1 else input)) with
  | .error fault => .error fault
  | .ok (_, rest) =>
    if rest.head? = some Byte.point then
      match malformedIfAny (someDigits (rest.drop 1)) with
      | .error fault => .error fault
      | .ok (_, rest) =>
        if startsExponent rest then (malformedIfAny (exponentPart (rest.drop 1))).map (·.2)
        else .ok rest
    else if startsExponent rest then (malformedIfAny (exponentPart (rest.drop 1))).map (·.2)
    else .ok rest

end IconCatalog.Json
