import IconCatalog.Json.Skip
set_option autoImplicit false

namespace IconCatalog.Json

/-- Characters without meaning, which may stand around every token. -/
def Spaces (cs : List Char) : Prop := ∀ c ∈ cs, c ∈ [' ', '\t', '\n', '\r']

def HexDigit (c : Char) (value : Nat) : Prop :=
  value < 16 ∧ (c = Nat.digitChar value ∨ c = (Nat.digitChar value).toUpper)

instance (c : Char) (value : Nat) : Decidable (HexDigit c value) :=
  inferInstanceAs (Decidable (_ ∧ _))

/-- Four digits to base 16, which write a unit of UTF-16. -/
def HexUnit (digits : List Char) (unit : Nat) : Prop :=
  ∃ a b c d u v w x, digits = [a, b, c, d] ∧ unit = u * 4096 + v * 256 + w * 16 + x ∧
    HexDigit a u ∧ HexDigit b v ∧ HexDigit c w ∧ HexDigit d x

/-- What follows the backslash of a short escape, with the character that it stands for. -/
def shortEscapes : List (Char × Char) :=
  [('"', '"'), ('\\', '\\'), ('/', '/'), ('b', '\x08'), ('f', '\x0c'), ('n', '\n'), ('r', '\r'),
    ('t', '\t')]

/-- A character that may stand for itself in a literal. -/
def StandsForItself (c : Char) : Prop := 0x20 ≤ c.toNat ∧ c ≠ '"' ∧ c ≠ '\\'

/-- The spellings of a character in a literal. Beyond U+FFFF it takes two units of UTF-16. -/
inductive Spells : Char → List Char → Prop
  | itself {c : Char} (isPlain : StandsForItself c) : Spells c [c]
  | short {letter c : Char} (escape : (letter, c) ∈ shortEscapes) : Spells c ['\\', letter]
  | unit {c : Char} {digits : List Char} (isUnit : HexUnit digits c.toNat) :
      Spells c ('\\' :: 'u' :: digits)
  | pair {c : Char} {high low : List Char} (above : 0x10000 ≤ c.toNat)
      (leading : HexUnit high (0xD800 + (c.toNat - 0x10000) / 0x400))
      (trailing : HexUnit low (0xDC00 + (c.toNat - 0x10000) % 0x400)) :
      Spells c ('\\' :: 'u' :: (high ++ '\\' :: 'u' :: low))

/-- What stands between the quotes of a literal that denotes some characters. -/
inductive Denotes : List Char → List Char → Prop
  | nil : Denotes [] []
  | cons {c : Char} {piece cs body : List Char} (first : Spells c piece) (rest : Denotes body cs) :
      Denotes (piece ++ body) (c :: cs)

def Literal (s : String) (text : List Char) : Prop :=
  ∃ body, Denotes body s.toList ∧ text = '"' :: (body ++ ['"'])

/-- What stands between the quotes of any literal. Its units need not make up characters: half of a
surrogate pair is allowed. -/
inductive LiteralBody : List Char → Prop
  | nil : LiteralBody []
  | itself {c : Char} {body : List Char} (isPlain : StandsForItself c) (rest : LiteralBody body) :
      LiteralBody (c :: body)
  | short {letter c : Char} {body : List Char} (escape : (letter, c) ∈ shortEscapes)
      (rest : LiteralBody body) : LiteralBody ('\\' :: letter :: body)
  | unit {digits : List Char} {unit : Nat} {body : List Char} (isUnit : HexUnit digits unit)
      (rest : LiteralBody body) : LiteralBody ('\\' :: 'u' :: (digits ++ body))

def Digits (cs : List Char) : Prop := cs ≠ [] ∧ ∀ c ∈ cs, c.isDigit = true

inductive Fraction : List Char → Prop
  | none : Fraction []
  | digits {ds : List Char} (isDigits : Digits ds) : Fraction ('.' :: ds)

inductive Power : List Char → Prop
  | none : Power []
  | digits {e : Char} {sign ds : List Char} (letter : e = 'e' ∨ e = 'E')
      (signed : sign ∈ [[], ['+'], ['-']]) (isDigits : Digits ds) : Power (e :: (sign ++ ds))

/-- A number. A zero before the point stands alone. -/
inductive NumberText : List Char → Prop
  | mk {sign whole fraction power : List Char} (signed : sign ∈ [[], ['-']])
      (isDigits : Digits whole) (noZero : whole.head? = some '0' → whole = ['0'])
      (isFraction : Fraction fraction) (isPower : Power power) :
      NumberText (sign ++ (whole ++ (fraction ++ power)))

namespace Frame

def opens : Frame → Char
  | list => '['
  | object => '\x7b'

def closes : Frame → Char
  | list => ']'
  | object => '\x7d'

end Frame

/-- What stands before a value between brackets: in an object, its name and a colon. -/
inductive Before : Frame → List Char → Prop
  | item {gap : List Char} (isGap : Spaces gap) : Before .list gap
  | member {front body middle back : List Char} (isFront : Spaces front)
      (isBody : LiteralBody body) (isMiddle : Spaces middle) (isBack : Spaces back) :
      Before .object (front ++ '"' :: (body ++ '"' :: (middle ++ ':' :: back)))

inductive Part
  | value
  /-- What stands between brackets that are not empty. -/
  | inside (frame : Frame)

/-- A value is derived together with what stands between brackets, so that one induction goes
through both. The grammar is that of the standard; how far a reader follows it is for the lemmas
about the reader to say. -/
inductive Derives : Part → List Char → Prop
  | text {body : List Char} (isBody : LiteralBody body) : Derives .value ('"' :: (body ++ ['"']))
  | number {cs : List Char} (isNumber : NumberText cs) : Derives .value cs
  | word {cs : List Char} (isWord : cs ∈ ["null".toList, "true".toList, "false".toList]) :
      Derives .value cs
  | empty {gap : List Char} (frame : Frame) (isGap : Spaces gap) :
      Derives .value (frame.opens :: (gap ++ [frame.closes]))
  | brackets {frame : Frame} {body : List Char} (isInside : Derives (.inside frame) body) :
      Derives .value (frame.opens :: (body ++ [frame.closes]))
  | last {frame : Frame} {before value gap : List Char} (isBefore : Before frame before)
      (isValue : Derives .value value) (isGap : Spaces gap) :
      Derives (.inside frame) (before ++ (value ++ gap))
  | more {frame : Frame} {before value gap later : List Char} (isBefore : Before frame before)
      (isValue : Derives .value value) (isGap : Spaces gap)
      (isLater : Derives (.inside frame) later) :
      Derives (.inside frame) (before ++ (value ++ (gap ++ ',' :: later)))

/-- A value of any kind. -/
abbrev Value : List Char → Prop := Derives .value

theorem Denotes.isBody {body cs : List Char} (denotes : Denotes body cs) : LiteralBody body := by
  induction denotes with
  | nil => exact .nil
  | cons first _ ih =>
      cases first with
      | itself isPlain => exact .itself isPlain ih
      | short escape => exact .short escape ih
      | unit isUnit => exact .unit isUnit ih
      | pair above leading trailing =>
          have units := LiteralBody.unit leading (.unit trailing ih)
          simpa only [List.cons_append, List.append_assoc] using units

theorem Literal.isValue {s : String} {text : List Char} (literal : Literal s text) :
    Value text := by
  obtain ⟨body, denotes, rfl⟩ := literal
  exact .text denotes.isBody

/-- A member of an object with the text that its name denotes and its value as written. -/
def MemberText (member : String × List Char) (text : List Char) : Prop :=
  ∃ front name middle back gap, Spaces front ∧ Literal member.1 name ∧ Spaces middle ∧
    Spaces back ∧ Value member.2 ∧ Spaces gap ∧
    text = front ++ (name ++ (middle ++ ':' :: (back ++ (member.2 ++ gap))))

/-- The members between the brackets of an object, one at least. -/
inductive MemberTexts : List (String × List Char) → List Char → Prop
  | last {member : String × List Char} {text : List Char} (only : MemberText member text) :
      MemberTexts [member] text
  | more {member : String × List Char} {members : List (String × List Char)}
      {text later : List Char} (first : MemberText member text)
      (rest : MemberTexts members later) : MemberTexts (member :: members) (text ++ ',' :: later)

/-- A whole text that holds an object, with its members in order. -/
inductive ObjectText : List (String × List Char) → List Char → Prop
  | empty {front gap back : List Char} (isFront : Spaces front) (isGap : Spaces gap)
      (isBack : Spaces back) : ObjectText [] (front ++ '\x7b' :: (gap ++ '\x7d' :: back))
  | members {members : List (String × List Char)} {front body back : List Char}
      (isFront : Spaces front) (isBody : MemberTexts members body) (isBack : Spaces back) :
      ObjectText members (front ++ '\x7b' :: (body ++ '\x7d' :: back))

theorem MemberTexts.isValue {members : List (String × List Char)} {text : List Char}
    (written : MemberTexts members text) : ∀ member ∈ members, Value member.2 := by
  induction written with
  | last only =>
      obtain ⟨_, _, _, _, _, _, _, _, _, isValue, _⟩ := only
      intro member given
      rwa [List.mem_singleton.1 given]
  | more first _ ih =>
      obtain ⟨_, _, _, _, _, _, _, _, _, isValue, _⟩ := first
      intro member given
      rcases List.mem_cons.1 given with rfl | later
      · exact isValue
      · exact ih member later

theorem ObjectText.isValue {members : List (String × List Char)} {text : List Char}
    (written : ObjectText members text) : ∀ member ∈ members, Value member.2 := by
  cases written with
  | empty => exact fun _ given => absurd given List.not_mem_nil
  | members _ isBody _ => exact isBody.isValue

/-- The values that an object gives for a name, in order. -/
def valuesOf (name : String) (members : List (String × List Char)) : List (List Char) :=
  (members.filter fun member => decide (member.1 = name)).map (·.2)

theorem mem_valuesOf {name : String} {members : List (String × List Char)} {value : List Char}
    (given : value ∈ valuesOf name members) : ∃ member ∈ members, member.2 = value := by
  obtain ⟨member, kept, rfl⟩ := List.mem_map.1 given
  exact ⟨member, (List.mem_filter.1 kept).1, rfl⟩

end IconCatalog.Json
