import IconCatalog.Json.Scalar
import IconCatalog.Json.Writer
import IconCatalog.Proofs.JsonGrammar
import IconCatalog.Proofs.Utf8Canonical
set_option autoImplicit false

namespace IconCatalog.Json

private theorem denoting_nil (read : Except Fault (Bytes × Bytes)) : denoting [] read = read := by
  cases read <;> rfl

private theorem denoting_append (front back : Bytes) (read : Except Fault (Bytes × Bytes)) :
    denoting front (denoting back read) = denoting (front ++ back) read := by
  cases read with
  | error fault => rfl
  | ok value => simp only [denoting, List.append_assoc]

/-- Bytes that stand for themselves in a literal. -/
private def Plain (b : UInt8) : Prop := 0x20 ≤ b.toNat ∧ b ≠ Byte.quote ∧ b ≠ Byte.backslash

private theorem plain_of_mem_encodeChar {c : Char} (plain : StandsForItself c) {b : UInt8}
    (member : b ∈ Utf8.encodeChar c) : Plain b := by
  obtain ⟨printable, noQuote, noBackslash⟩ := plain
  by_cases ascii : c.toNat < 0x80
  · rw [Utf8.encodeChar_of_ascii ascii, List.mem_singleton] at member
    have value : b.toNat = c.toNat := by rw [member, Utf8.byte_toNat (by omega)]
    refine ⟨by omega, ?_, ?_⟩
    · rintro rfl
      exact noQuote (Char.toNat_inj.1 value.symm)
    · rintro rfl
      exact noBackslash (Char.toNat_inj.1 value.symm)
  · have high := Utf8.high_of_mem_encodeChar (by omega) member
    refine ⟨by omega, ?_, ?_⟩ <;>
      · rintro rfl
        exact absurd high (by decide)

private theorem shortEscape_bytes {letter c : Char} (escape : (letter, c) ∈ shortEscapes) :
    ∃ kind plain, Utf8.encodeChar letter = [kind] ∧ Utf8.encodeChar c = [plain] ∧
      shortEscape? kind = some plain ∧ kind ≠ Byte.letterU := by
  have known : ∀ pair ∈ shortEscapes,
      Utf8.encodeChar pair.1 = [UInt8.ofNat pair.1.toNat] ∧
      Utf8.encodeChar pair.2 = [UInt8.ofNat pair.2.toNat] ∧
      shortEscape? (UInt8.ofNat pair.1.toNat) = some (UInt8.ofNat pair.2.toNat) ∧
      UInt8.ofNat pair.1.toNat ≠ Byte.letterU := by
    decide
  exact ⟨_, _, known _ escape⟩

private theorem hexDigit_byte {c : Char} {value : Nat} (digit : HexDigit c value) :
    ∃ b, Utf8.encodeChar c = [b] ∧ Byte.hexValue? b = some value := by
  obtain ⟨small, spelling⟩ := digit
  refine ⟨UInt8.ofNat c.toNat, ?_⟩
  rcases spelling with rfl | rfl <;> (revert value; decide)

private theorem hexUnit_bytes {digits : List Char} {unit : Nat} (written : HexUnit digits unit) :
    ∃ d1 d2 d3 d4, Utf8.encode digits = [d1, d2, d3, d4] ∧ hexUnit? d1 d2 d3 d4 = some unit := by
  obtain ⟨a, b, c, d, u, v, w, x, rfl, rfl, first, second, third, fourth⟩ := written
  obtain ⟨d1, byte1, value1⟩ := hexDigit_byte first
  obtain ⟨d2, byte2, value2⟩ := hexDigit_byte second
  obtain ⟨d3, byte3, value3⟩ := hexDigit_byte third
  obtain ⟨d4, byte4, value4⟩ := hexDigit_byte fourth
  refine ⟨d1, d2, d3, d4, ?_, ?_⟩
  · simp only [Utf8.encode_cons, Utf8.encode_nil, byte1, byte2, byte3, byte4, List.append_nil,
      List.singleton_append]
  · simp only [hexUnit?, value1, value2, value3, value4]

theorem HexUnit.lt {digits : List Char} {unit : Nat} (written : HexUnit digits unit) :
    unit < 0x10000 := by
  obtain ⟨_, _, _, _, _, _, _, _, _, rfl, ⟨_, _⟩, ⟨_, _⟩, ⟨_, _⟩, _, _⟩ := written
  omega

private theorem encode_unit (digits body : List Char) :
    Utf8.encode ('\\' :: 'u' :: (digits ++ body)) =
      Byte.backslash :: Byte.letterU :: (Utf8.encode digits ++ Utf8.encode body) := by
  rw [Utf8.encode_cons, Utf8.encode_cons, Utf8.encode_append]
  rfl

private theorem encode_short {letter : Char} {kind : UInt8}
    (letterByte : Utf8.encodeChar letter = [kind]) (body : List Char) :
    Utf8.encode ('\\' :: letter :: body) = Byte.backslash :: kind :: Utf8.encode body := by
  rw [Utf8.encode_cons, Utf8.encode_cons, letterByte]
  rfl

section Reading

variable {d1 d2 d3 d4 : UInt8} {unit : Nat}

private theorem textBytes_plain {bytes : Bytes} (plain : ∀ b ∈ bytes, Plain b) (rest : Bytes) :
    textBytes (bytes ++ rest) = denoting bytes (textBytes rest) := by
  induction bytes with
  | nil => exact (denoting_nil _).symm
  | cons b bytes ih =>
      obtain ⟨large, noQuote, noBackslash⟩ := plain b List.mem_cons_self
      have later := ih (fun c member => plain c (List.mem_cons_of_mem _ member))
      have printable : ¬ b < 0x20 := UInt8.not_lt.2 (UInt8.le_iff_toNat_le.2 large)
      rw [List.cons_append, textBytes.eq_def]
      simp only [if_neg noQuote, if_neg noBackslash, if_neg printable]
      rw [later, denoting_append, List.singleton_append]

private theorem textBytes_short {kind plain : UInt8} (escape : shortEscape? kind = some plain)
    (noUnit : kind ≠ Byte.letterU) (rest : Bytes) :
    textBytes (Byte.backslash :: kind :: rest) = denoting [plain] (textBytes rest) := by
  rw [textBytes.eq_def]
  simp only [if_neg (show Byte.backslash ≠ Byte.quote by decide), if_neg noUnit, escape, ↓reduceIte]

private theorem textBytes_unit (value : hexUnit? d1 d2 d3 d4 = some unit)
    (noTrail : isTrailingSurrogate unit = false) (noLead : isLeadingSurrogate unit = false)
    (rest : Bytes) :
    textBytes (Byte.backslash :: Byte.letterU :: d1 :: d2 :: d3 :: d4 :: rest) =
      denoting (Utf8.encodeChar (Char.ofNat unit)) (textBytes rest) := by
  rw [textBytes.eq_def]
  simp only [if_neg (show Byte.backslash ≠ Byte.quote by decide), ↓reduceIte, value, noTrail,
    noLead, Bool.false_eq_true]

private theorem textBytes_trailing (value : hexUnit? d1 d2 d3 d4 = some unit)
    (trail : isTrailingSurrogate unit = true) (rest : Bytes) :
    textBytes (Byte.backslash :: Byte.letterU :: d1 :: d2 :: d3 :: d4 :: rest) =
      .error .malformed := by
  rw [textBytes.eq_def]
  simp only [if_neg (show Byte.backslash ≠ Byte.quote by decide), ↓reduceIte, value, trail]

private theorem textBytes_half (value : hexUnit? d1 d2 d3 d4 = some unit)
    (noTrail : isTrailingSurrogate unit = false) (lead : isLeadingSurrogate unit = true)
    {b : UInt8} {rest : Bytes}
    (apart : b ≠ Byte.backslash ∨ ∃ u more, rest = u :: more ∧ u ≠ Byte.letterU) :
    textBytes (Byte.backslash :: Byte.letterU :: d1 :: d2 :: d3 :: d4 :: b :: rest) =
      .error .malformed := by
  rw [textBytes.eq_def]
  simp only [if_neg (show Byte.backslash ≠ Byte.quote by decide), ↓reduceIte, value, noTrail,
    lead, Bool.false_eq_true]
  split
  · rfl
  · rename_i backslash
    obtain other | ⟨u, more, rfl, noUnit⟩ := apart
    · exact absurd other backslash
    · simp only [noUnit, ne_eq, not_false_eq_true, ↓reduceIte]

private theorem textBytes_pair {e1 e2 e3 e4 : UInt8} {low : Nat}
    (value : hexUnit? d1 d2 d3 d4 = some unit) (noTrail : isTrailingSurrogate unit = false)
    (lead : isLeadingSurrogate unit = true) (second : hexUnit? e1 e2 e3 e4 = some low)
    (rest : Bytes) :
    textBytes (Byte.backslash :: Byte.letterU :: d1 :: d2 :: d3 :: d4 ::
        Byte.backslash :: Byte.letterU :: e1 :: e2 :: e3 :: e4 :: rest) =
      if isTrailingSurrogate low then
        denoting (Utf8.encodeChar (Char.ofNat (pairCode unit low))) (textBytes rest)
      else .error .malformed := by
  rw [textBytes.eq_def]
  simp only [if_neg (show Byte.backslash ≠ Byte.quote by decide), ↓reduceIte, value, noTrail,
    lead, Bool.false_eq_true, ne_eq, not_true_eq_false, second]

end Reading

private theorem isTrailingSurrogate_iff {unit : Nat} :
    isTrailingSurrogate unit = true ↔ 0xDC00 ≤ unit ∧ unit ≤ 0xDFFF := by
  simp only [isTrailingSurrogate, Bool.and_eq_true, decide_eq_true_eq]

private theorem isLeadingSurrogate_iff {unit : Nat} :
    isLeadingSurrogate unit = true ↔ 0xD800 ≤ unit ∧ unit ≤ 0xDBFF := by
  simp only [isLeadingSurrogate, Bool.and_eq_true, decide_eq_true_eq]

private theorem noTrail_of {unit : Nat} (outside : unit < 0xDC00 ∨ 0xDFFF < unit) :
    isTrailingSurrogate unit = false := by
  rw [Bool.eq_false_iff, ne_eq, isTrailingSurrogate_iff]
  omega

private theorem noLead_of {unit : Nat} (outside : unit < 0xD800 ∨ 0xDBFF < unit) :
    isLeadingSurrogate unit = false := by
  rw [Bool.eq_false_iff, ne_eq, isLeadingSurrogate_iff]
  omega

/-- Reading a spelling of a character takes that character, whatever follows. -/
theorem textBytes_spelling {c : Char} {piece : List Char} (spelling : Spells c piece)
    (rest : Bytes) :
    textBytes (Utf8.encode piece ++ rest) = denoting (Utf8.encodeChar c) (textBytes rest) := by
  have scalar : c.toNat < 0xD800 ∨ 0xDFFF < c.toNat ∧ c.toNat < 0x110000 := c.valid
  cases spelling with
  | itself plain =>
      rw [Utf8.encode_cons, Utf8.encode_nil, List.append_nil]
      exact textBytes_plain (fun b member => plain_of_mem_encodeChar plain member) rest
  | short escape =>
      obtain ⟨kind, plain, letterByte, charByte, value, noUnit⟩ := shortEscape_bytes escape
      rw [encode_short letterByte, charByte]
      exact textBytes_short value noUnit rest
  | @unit c digits isUnit =>
      obtain ⟨d1, d2, d3, d4, bytes, value⟩ := hexUnit_bytes isUnit
      have written := encode_unit digits []
      rw [List.append_nil, bytes] at written
      rw [written]
      have read := textBytes_unit value (noTrail_of (by omega)) (noLead_of (by omega)) rest
      rwa [Char.ofNat_toNat] at read
  | @pair c high low above leading trailing =>
      obtain ⟨d1, d2, d3, d4, highBytes, highValue⟩ := hexUnit_bytes leading
      obtain ⟨e1, e2, e3, e4, lowBytes, lowValue⟩ := hexUnit_bytes trailing
      have second := encode_unit low []
      rw [List.append_nil, lowBytes] at second
      rw [encode_unit, highBytes, second]
      have read := textBytes_pair highValue (noTrail_of (by omega))
        (isLeadingSurrogate_iff.2 (by omega)) lowValue rest
      have code : pairCode (0xD800 + (c.toNat - 0x10000) / 0x400)
          (0xDC00 + (c.toNat - 0x10000) % 0x400) = c.toNat := by
        rw [pairCode]
        omega
      rw [if_pos (isTrailingSurrogate_iff.2 (by omega)), code, Char.ofNat_toNat] at read
      exact read

theorem textBytes_denoted {body cs : List Char} (denotes : Denotes body cs) (rest : Bytes) :
    textBytes (Utf8.encode body ++ Byte.quote :: rest) = .ok (Utf8.encode cs, rest) := by
  induction denotes with
  | nil =>
      change textBytes (Byte.quote :: rest) = _
      rw [textBytes.eq_def]
      rfl
  | cons first _ ih =>
      rw [Utf8.encode_append, List.append_assoc, textBytes_spelling first, ih]
      rfl

/-- A literal is read as the text that it denotes behind its opening quote, whatever follows it. -/
theorem readText_literal {s : String} {text : List Char} (literal : Literal s text) :
    ∃ body, Utf8.encode text = Byte.quote :: body ∧
      ∀ rest, readText (body ++ rest) = .ok (s, rest) := by
  obtain ⟨inner, denotes, rfl⟩ := literal
  refine ⟨Utf8.encode inner ++ [Byte.quote], ?_, fun rest => ?_⟩
  · rw [Utf8.encode_cons, Utf8.encode_append]
    rfl
  · have decoded : Utf8.toString? (Utf8.encode s.toList) = some s := Utf8.toString?_ofString s
    rw [List.append_assoc, List.singleton_append, readText, textBytes_denoted denotes]
    simp only [decoded]

/-- Reading what stands between the quotes either takes what it denotes or fails. -/
private def Settled (body : List Char) : Prop :=
  (∃ cs, Denotes body cs) ∨
    ∀ rest, ∃ fault, textBytes (Utf8.encode body ++ Byte.quote :: rest) = .error fault

private theorem Settled.cons {c : Char} {piece body : List Char} (spelling : Spells c piece)
    (settled : Settled body) : Settled (piece ++ body) := by
  rcases settled with ⟨cs, denotes⟩ | refused
  · exact Or.inl ⟨c :: cs, .cons spelling denotes⟩
  · refine Or.inr fun rest => ?_
    obtain ⟨fault, failed⟩ := refused rest
    refine ⟨fault, ?_⟩
    rw [Utf8.encode_append, List.append_assoc, textBytes_spelling spelling, failed]
    rfl

/-- Half a pair is refused when something other than the escape of a unit follows it. -/
private theorem settled_half {digits body : List Char} {unit : Nat}
    (isUnit : HexUnit digits unit) (lead : 0xD800 ≤ unit ∧ unit ≤ 0xDBFF)
    (apart : ∀ rest, ∃ b more, Utf8.encode body ++ Byte.quote :: rest = b :: more ∧
      (b ≠ Byte.backslash ∨ ∃ u later, more = u :: later ∧ u ≠ Byte.letterU)) :
    Settled ('\\' :: 'u' :: (digits ++ body)) := by
  refine Or.inr fun rest => ⟨.malformed, ?_⟩
  obtain ⟨d1, d2, d3, d4, bytes, value⟩ := hexUnit_bytes isUnit
  obtain ⟨b, more, split, other⟩ := apart rest
  simp only [encode_unit, bytes, List.cons_append, List.nil_append, split]
  exact textBytes_half value (noTrail_of (by omega)) (isLeadingSurrogate_iff.2 lead) other

/-- A unit by itself is a character unless it is half of a pair. -/
private theorem spells_unit {digits : List Char} {unit : Nat} (isUnit : HexUnit digits unit)
    (scalar : unit < 0xD800 ∨ 0xDFFF < unit) :
    Spells (Char.ofNat unit) ('\\' :: 'u' :: digits) := by
  have small := isUnit.lt
  refine .unit ?_
  rwa [Utf8.toNat_charOfNat (by omega)]

private theorem spells_pair {high low : List Char} {leading trailing : Nat}
    (isLeading : HexUnit high leading) (isTrailing : HexUnit low trailing)
    (lead : 0xD800 ≤ leading ∧ leading ≤ 0xDBFF) (trail : 0xDC00 ≤ trailing ∧ trailing ≤ 0xDFFF) :
    Spells (Char.ofNat (pairCode leading trailing))
      ('\\' :: 'u' :: (high ++ '\\' :: 'u' :: low)) := by
  have code : (Char.ofNat (pairCode leading trailing)).toNat =
      (leading - 0xD800) * 1024 + (trailing - 0xDC00) + 0x10000 :=
    Utf8.toNat_charOfNat (by rw [pairCode]; omega)
  refine .pair (by omega) ?_ ?_
  · rwa [code, show 0xD800 + ((leading - 0xD800) * 1024 + (trailing - 0xDC00) + 0x10000 -
      0x10000) / 0x400 = leading by omega]
  · rwa [code, show 0xDC00 + ((leading - 0xD800) * 1024 + (trailing - 0xDC00) + 0x10000 -
      0x10000) % 0x400 = trailing by omega]

/-- What stands between quotes is read as what it denotes, or refused when its units make up no
characters. The induction carries along that the body is settled behind half a pair too, for a pair
takes two pieces of the body at once. -/
private theorem settled_of_body {body : List Char} (isBody : LiteralBody body) :
    Settled body ∧ ∀ digits unit, HexUnit digits unit → 0xD800 ≤ unit ∧ unit ≤ 0xDBFF →
      Settled ('\\' :: 'u' :: (digits ++ body)) := by
  induction isBody with
  | nil =>
      refine ⟨Or.inl ⟨[], .nil⟩, fun digits unit isUnit lead => ?_⟩
      exact settled_half isUnit lead fun rest => ⟨_, _, rfl, Or.inl (by decide)⟩
  | @itself c body plain rest ih =>
      refine ⟨ih.1.cons (.itself plain), fun digits unit isUnit lead => ?_⟩
      refine settled_half isUnit lead fun rest => ?_
      obtain ⟨b, more, split⟩ := List.exists_cons_of_ne_nil (Utf8.encodeChar_ne_nil c)
      have member : b ∈ Utf8.encodeChar c := by
        rw [split]
        exact List.mem_cons_self
      refine ⟨b, more ++ (Utf8.encode body ++ Byte.quote :: rest), ?_,
        Or.inl (plain_of_mem_encodeChar plain member).2.2⟩
      rw [Utf8.encode_cons, split, List.cons_append, List.cons_append, List.append_assoc]
  | @short letter c body escape rest ih =>
      refine ⟨ih.1.cons (.short escape), fun digits unit isUnit lead => ?_⟩
      obtain ⟨kind, _, letterByte, _, _, noUnit⟩ := shortEscape_bytes escape
      refine settled_half isUnit lead fun rest => ⟨Byte.backslash,
        kind :: (Utf8.encode body ++ Byte.quote :: rest), ?_, Or.inr ⟨kind, _, rfl, noUnit⟩⟩
      rw [encode_short letterByte]
      rfl
  | @unit digits unit body isUnit rest ih =>
      obtain ⟨d1, d2, d3, d4, bytes, value⟩ := hexUnit_bytes isUnit
      constructor
      · -- Half a pair of either kind, or a character by itself.
        by_cases lead : 0xD800 ≤ unit ∧ unit ≤ 0xDBFF
        · exact ih.2 digits unit isUnit lead
        by_cases trail : 0xDC00 ≤ unit ∧ unit ≤ 0xDFFF
        · refine Or.inr fun rest => ⟨.malformed, ?_⟩
          rw [encode_unit, bytes]
          exact textBytes_trailing value (isTrailingSurrogate_iff.2 trail) _
        · exact ih.1.cons (spells_unit isUnit (by omega))
      · -- Behind half a pair the unit completes it or is refused.
        intro high leading isLeading lead
        by_cases trail : 0xDC00 ≤ unit ∧ unit ≤ 0xDFFF
        · have paired := ih.1.cons (spells_pair isLeading isUnit lead trail)
          simpa only [List.cons_append, List.append_assoc] using paired
        · obtain ⟨h1, h2, h3, h4, highBytes, highValue⟩ := hexUnit_bytes isLeading
          refine Or.inr fun rest => ⟨.malformed, ?_⟩
          rw [encode_unit, highBytes, encode_unit, bytes]
          have read := textBytes_pair highValue (noTrail_of (by omega))
            (isLeadingSurrogate_iff.2 lead) value (Utf8.encode body ++ Byte.quote :: rest)
          rw [if_neg (by rw [isTrailingSurrogate_iff]; exact trail)] at read
          simpa only [List.cons_append, List.append_assoc, List.nil_append] using read

/-- A literal that denotes no text is refused. -/
theorem readText_of_no_text {body : List Char} (isBody : LiteralBody body)
    (noText : ∀ s, ¬ Literal s ('"' :: (body ++ ['"']))) (rest : Bytes) :
    ∃ fault, readText (Utf8.encode body ++ Byte.quote :: rest) = .error fault := by
  rcases (settled_of_body isBody).1 with ⟨cs, denotes⟩ | refused
  · exact absurd ⟨body, by rwa [String.toList_ofList], rfl⟩ (noText (String.ofList cs))
  · obtain ⟨fault, failed⟩ := refused rest
    refine ⟨fault, ?_⟩
    rw [readText, failed]

private theorem skipText_plain {bytes : Bytes} (plain : ∀ b ∈ bytes, Plain b) (rest : Bytes) :
    skipText (bytes ++ rest) = skipText rest := by
  induction bytes with
  | nil => rfl
  | cons b bytes ih =>
      obtain ⟨large, noQuote, noBackslash⟩ := plain b List.mem_cons_self
      have printable : ¬ b < 0x20 := UInt8.not_lt.2 (UInt8.le_iff_toNat_le.2 large)
      rw [List.cons_append, skipText.eq_def]
      simp only [if_neg noQuote, if_neg noBackslash, if_neg printable]
      exact ih fun c member => plain c (List.mem_cons_of_mem _ member)

/-- Any literal is passed over behind its opening quote, whatever it denotes. -/
theorem skipText_body {body : List Char} (isBody : LiteralBody body) (rest : Bytes) :
    skipText (Utf8.encode body ++ Byte.quote :: rest) = .ok rest := by
  induction isBody with
  | nil =>
      change skipText (Byte.quote :: rest) = _
      rw [skipText.eq_def]
      rfl
  | itself plain _ ih =>
      rw [Utf8.encode_cons, List.append_assoc,
        skipText_plain fun b member => plain_of_mem_encodeChar plain member]
      exact ih
  | short escape _ ih =>
      obtain ⟨kind, plain, letterByte, _, value, noUnit⟩ := shortEscape_bytes escape
      rw [encode_short letterByte, List.cons_append, List.cons_append, skipText.eq_def]
      simp only [if_neg (show Byte.backslash ≠ Byte.quote by decide), if_neg noUnit, value,
        Option.isSome_some, ↓reduceIte]
      exact ih
  | unit isUnit _ ih =>
      obtain ⟨d1, d2, d3, d4, bytes, value⟩ := hexUnit_bytes isUnit
      rw [encode_unit, bytes, skipText.eq_def]
      simp only [List.cons_append, List.nil_append, ↓reduceIte, value,
        if_neg (show Byte.backslash ≠ Byte.quote by decide)]
      exact ih

theorem spells_escapeChar (c : Char) : Spells c (escapeChar c) := by
  unfold escapeChar
  split
  · rename_i quote
    subst quote
    exact .short (by decide)
  split
  · rename_i backslash
    subst backslash
    exact .short (by decide)
  split
  · rename_i backspace
    subst backspace
    exact .short (by decide)
  split
  · rename_i tab
    subst tab
    exact .short (by decide)
  split
  · rename_i lineFeed
    subst lineFeed
    exact .short (by decide)
  split
  · rename_i formFeed
    subst formFeed
    exact .short (by decide)
  split
  · rename_i carriageReturn
    subst carriageReturn
    exact .short (by decide)
  split
  · rename_i control
    have digit : ∀ n < 16, HexDigit (Nat.digitChar n) n := by decide
    exact .unit ⟨_, _, _, _, 0, 0, _, _, rfl, by omega, digit 0 (by decide), digit 0 (by decide),
      digit _ (by omega), digit _ (by omega)⟩
  · rename_i noQuote noBackslash _ _ _ _ _ printable
    exact .itself ⟨by omega, noQuote, noBackslash⟩

theorem denotes_escaped (cs : List Char) : Denotes (cs.flatMap escapeChar) cs := by
  induction cs with
  | nil => exact .nil
  | cons c cs ih => exact .cons (spells_escapeChar c) ih

theorem literal_quote (s : String) : Literal s (quote s).toList := by
  refine ⟨_, denotes_escaped s.toList, ?_⟩
  rw [quote, String.toList_ofList, List.cons_append]

theorem skipBlank_append {blanks : Bytes} (blank : ∀ b ∈ blanks, Byte.isBlank b = true)
    (rest : Bytes) : skipBlank (blanks ++ rest) = skipBlank rest :=
  List.dropWhile_append_of_pos blank

theorem skipBlank_cons {b : UInt8} (solid : Byte.isBlank b = false) (rest : Bytes) :
    skipBlank (b :: rest) = b :: rest :=
  List.dropWhile_cons_of_neg (by rw [solid]; exact Bool.false_ne_true)

theorem readString_literal (expected : String) {s : String} {text : List Char}
    (literal : Literal s text) {blanks : Bytes} (blank : ∀ b ∈ blanks, Byte.isBlank b = true)
    (rest : Bytes) :
    readString expected (blanks ++ (Utf8.encode text ++ rest)) = .ok (s, rest) := by
  obtain ⟨body, written, read⟩ := readText_literal literal
  rw [readString, skipBlank_append blank, written, List.cons_append, skipBlank_cons (by decide)]
  simp only [↓reduceIte, read]

end IconCatalog.Json
