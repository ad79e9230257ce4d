import IconCatalog.Proofs.JsonNumber
import Mathlib.Data.List.DropRight
set_option autoImplicit false

namespace IconCatalog.Json

theorem Spaces.blank {cs : List Char} (spaces : Spaces cs) :
    ∀ b ∈ Utf8.encode cs, Byte.isBlank b = true := by
  intro b member
  obtain ⟨c, inside, part⟩ := List.mem_flatMap.1 member
  have kind := spaces c inside
  simp only [List.mem_cons, List.not_mem_nil, or_false] at kind
  rcases kind with rfl | rfl | rfl | rfl
  all_goals
    rw [List.mem_singleton.1 part]
    decide

section Numbers

variable {ds sign fraction power number : List Char} {rest : Bytes}

private theorem digit_ne {d b : UInt8} (digit : Byte.isDigit d = true)
    (other : Byte.isDigit b = false) : d ≠ b := by
  rintro rfl
  rw [digit] at other
  contradiction

private theorem exponentPart_digits (signed : sign ∈ [[], ['+'], ['-']]) (digits : Digits ds)
    (stop : ∀ b more, rest = b :: more → Byte.isDigit b = false) :
    (malformedIfAny (exponentPart (Utf8.encode sign ++ (Utf8.encode ds ++ rest)))).map (·.2) =
      .ok rest := by
  obtain ⟨d, more, split, digit⟩ := digits.exists_cons
  have first : (Utf8.encode ds ++ rest).head? = some d := by rw [split]; rfl
  have noPlus : d ≠ Byte.plus := digit_ne digit (by decide)
  have noMinus : d ≠ Byte.minus := digit_ne digit (by decide)
  have read : someDigits (Utf8.encode ds ++ rest) = .ok (Utf8.encode ds, rest) :=
    someDigits_append (by rw [split]; exact List.cons_ne_nil _ _) digits.isDigit stop
  simp only [List.mem_cons, List.not_mem_nil, or_false] at signed
  rcases signed with rfl | rfl | rfl
  · simp only [exponentPart, Utf8.encode_nil, List.nil_append, first, Option.some.injEq, noPlus,
      noMinus, or_self, ↓reduceIte, read]
    rfl
  · change (malformedIfAny (exponentPart (Byte.plus :: (Utf8.encode ds ++ rest)))).map _ = _
    simp only [exponentPart, List.head?_cons, true_or, ↓reduceIte, List.drop_succ_cons,
      List.drop_zero, read]
    rfl
  · change (malformedIfAny (exponentPart (Byte.minus :: (Utf8.encode ds ++ rest)))).map _ = _
    simp only [exponentPart, List.head?_cons, or_true, ↓reduceIte, List.drop_succ_cons,
      List.drop_zero, read]
    rfl

/-- What `skipNumber` does behind the fraction. -/
private def skipPower (input : Bytes) : Except Fault Bytes :=
  if startsExponent input then (malformedIfAny (exponentPart (input.drop 1))).map (·.2)
  else .ok input

private theorem skipPower_power (isPower : Power power) (ends : EndsNumber rest) :
    skipPower (Utf8.encode power ++ rest) = .ok rest := by
  cases isPower with
  | none => exact if_neg (by rw [Utf8.encode_nil, List.nil_append, ends.noExponent]; decide)
  | digits letter signed isDigits =>
      rcases letter with rfl | rfl
      all_goals
        rw [Utf8.encode_cons, Utf8.encode_append, List.append_assoc, List.append_assoc]
        refine (if_pos rfl).trans ?_
        exact exponentPart_digits signed isDigits ends.noDigit

private theorem power_starts (isPower : Power power) (ends : EndsNumber rest) :
    (∀ b more, Utf8.encode power ++ rest = b :: more → Byte.isDigit b = false) ∧
      (Utf8.encode power ++ rest).head? ≠ some Byte.point := by
  cases isPower with
  | none => exact ⟨ends.noDigit, ends.noPoint⟩
  | digits letter signed isDigits =>
      rcases letter with rfl | rfl
      all_goals
        rw [Utf8.encode_cons]
        refine ⟨?_, fun same => absurd (Option.some.inj same) (by decide)⟩
        intro b more same
        cases same
        rfl

/-- What `skipNumber` does behind the whole part. -/
private def skipFraction (input : Bytes) : Except Fault Bytes :=
  if input.head? = some Byte.point then
    (malformedIfAny (someDigits (input.drop 1))).bind fun (_, rest) => skipPower rest
  else skipPower input

private theorem skipFraction_fraction (isFraction : Fraction fraction) (isPower : Power power)
    (ends : EndsNumber rest) :
    skipFraction (Utf8.encode fraction ++ (Utf8.encode power ++ rest)) = .ok rest := by
  obtain ⟨noDigit, noPoint⟩ := power_starts isPower ends
  cases isFraction with
  | none => exact (if_neg noPoint).trans (skipPower_power isPower ends)
  | digits isDigits =>
      obtain ⟨d, more, split, digit⟩ := isDigits.exists_cons
      have read := someDigits_append (by rw [split]; exact List.cons_ne_nil _ _) isDigits.isDigit
        noDigit
      rw [Utf8.encode_cons, List.append_assoc]
      refine (if_pos rfl).trans ?_
      change (malformedIfAny (someDigits (Utf8.encode _ ++ (Utf8.encode power ++ rest)))).bind _ = _
      rw [read]
      exact skipPower_power isPower ends

private theorem fraction_starts (isFraction : Fraction fraction) (isPower : Power power)
    (ends : EndsNumber rest) (b : UInt8) (more : Bytes)
    (split : Utf8.encode fraction ++ (Utf8.encode power ++ rest) = b :: more) :
    Byte.isDigit b = false := by
  cases isFraction with
  | none => exact (power_starts isPower ends).1 b more split
  | digits isDigits =>
      rw [Utf8.encode_cons] at split
      cases split
      rfl

private theorem skipNumber_eq (input : Bytes) :
    skipNumber input =
      (malformedIfAny (wholeDigits
        (if decide (input.head? = some Byte.minus) then input.drop 1 else input))).bind
          fun (_, rest) => skipFraction rest := by
  unfold skipNumber skipFraction skipPower
  dsimp only
  generalize malformedIfAny (wholeDigits _) = found
  cases found with
  | error fault => rfl
  | ok found =>
      simp only [Except.bind]
      split
      · cases malformedIfAny (someDigits (found.2.drop 1)) <;> rfl
      · rfl

private theorem drop_minus (signed : sign ∈ [[], ['-']]) {digits : Bytes} {d : UInt8}
    (first : digits.head? = some d) (digit : Byte.isDigit d = true) :
    (if decide ((Utf8.encode sign ++ digits).head? = some Byte.minus) then
      (Utf8.encode sign ++ digits).drop 1 else Utf8.encode sign ++ digits) = digits := by
  have noMinus : d ≠ Byte.minus := digit_ne digit (by decide)
  simp only [List.mem_cons, List.not_mem_nil, or_false] at signed
  rcases signed with rfl | rfl
  · simp only [Utf8.encode_nil, List.nil_append, first, Option.some.injEq, noMinus, decide_false,
      Bool.false_eq_true, ↓reduceIte]
  · rfl

theorem skipNumber_number (isNumber : NumberText number) (ends : EndsNumber rest) :
    skipNumber (Utf8.encode number ++ rest) = .ok rest := by
  cases isNumber with
  | @mk sign whole fraction power signed isDigits noZero isFraction isPower =>
      obtain ⟨d, more, split, digit⟩ := isDigits.exists_cons
      have read := wholeDigits_whole isDigits noZero (fraction_starts isFraction isPower ends)
      have first : (Utf8.encode whole ++ (Utf8.encode fraction ++
          (Utf8.encode power ++ rest))).head? = some d := by rw [split]; rfl
      simp only [Utf8.encode_append, List.append_assoc]
      rw [skipNumber_eq, drop_minus signed first digit, read]
      exact skipFraction_fraction isFraction isPower ends

end Numbers

private theorem number_starts {number : List Char} (isNumber : NumberText number) :
    ∃ b more, Utf8.encode number = b :: more ∧ (b = Byte.minus ∨ Byte.isDigit b = true) := by
  cases isNumber with
  | @mk sign whole fraction power signed isDigits noZero isFraction isPower =>
      obtain ⟨d, more, split, digit⟩ := isDigits.exists_cons
      simp only [List.mem_cons, List.not_mem_nil, or_false] at signed
      rcases signed with rfl | rfl
      · refine ⟨d, more ++ Utf8.encode (fraction ++ power), ?_, Or.inr digit⟩
        rw [List.nil_append, Utf8.encode_append, split, List.cons_append]
      · exact ⟨Byte.minus, _, rfl, Or.inl rfl⟩

private theorem number_byte_ne {b c : UInt8} (numeric : b = Byte.minus ∨ Byte.isDigit b = true)
    (noMinus : c ≠ Byte.minus) (noDigit : Byte.isDigit c = false) : b ≠ c := by
  rcases numeric with rfl | digit
  · exact noMinus.symm
  · exact digit_ne digit noDigit

private theorem number_byte_solid {b : UInt8} (numeric : b = Byte.minus ∨ Byte.isDigit b = true) :
    Byte.isBlank b = false := by
  have noSpace : b ≠ 0x20 := number_byte_ne numeric (by decide) (by decide)
  have noLine : b ≠ 0x0A := number_byte_ne numeric (by decide) (by decide)
  have noTab : b ≠ 0x09 := number_byte_ne numeric (by decide) (by decide)
  have noReturn : b ≠ 0x0D := number_byte_ne numeric (by decide) (by decide)
  simp only [Byte.isBlank, noSpace, noLine, noTab, noReturn, decide_false, Bool.or_self]

/-- A value begins with neither a blank nor a closing bracket, and only a literal with a quote. -/
theorem Value.starts {value : List Char} (isValue : Value value) :
    ∃ b more, Utf8.encode value = b :: more ∧ Byte.isBlank b = false ∧
      (∀ frame : Frame, b ≠ frame.closer) ∧
      (b = Byte.quote → ∃ body, LiteralBody body ∧ value = '"' :: (body ++ ['"'])) := by
  have closers : ∀ b : UInt8, b ≠ Byte.closeList → b ≠ Byte.closeObject →
      ∀ frame : Frame, b ≠ frame.closer := by
    intro b noList noObject frame
    cases frame with
    | list => exact noList
    | object => exact noObject
  cases isValue with
  | text isBody =>
      exact ⟨Byte.quote, _, rfl, by decide, closers _ (by decide) (by decide),
        fun _ => ⟨_, isBody, rfl⟩⟩
  | number isNumber =>
      obtain ⟨b, more, split, numeric⟩ := number_starts isNumber
      refine ⟨b, more, split, number_byte_solid numeric, closers b ?_ ?_, fun quote => ?_⟩
      · exact number_byte_ne numeric (by decide) (by decide)
      · exact number_byte_ne numeric (by decide) (by decide)
      · exact absurd quote (number_byte_ne numeric (by decide) (by decide))
  | word isWord =>
      simp only [List.mem_cons, List.not_mem_nil, or_false] at isWord
      rcases isWord with rfl | rfl | rfl
      all_goals
        exact ⟨_, _, rfl, by decide, closers _ (by decide) (by decide),
          fun quote => absurd quote (by decide)⟩
  | empty frame isGap =>
      cases frame
      all_goals
        exact ⟨_, _, rfl, by decide, closers _ (by decide) (by decide),
          fun quote => absurd quote (by decide)⟩
  | @brackets frame body isInside =>
      cases frame
      all_goals
        exact ⟨_, _, rfl, by decide, closers _ (by decide) (by decide),
          fun quote => absurd quote (by decide)⟩

section Skipping

variable {frame : Frame} {outer : List Frame} {blanks rest : Bytes}

theorem expectColon_append (blank : ∀ b ∈ blanks, Byte.isBlank b = true) (rest : Bytes) :
    expectColon (blanks ++ Byte.colon :: rest) = .ok rest := by
  rw [expectColon, skipBlank_append blank, skipBlank_cons (by decide)]
  rfl

/-- What stands before a value leaves at most blanks before it. -/
private theorem skipName_before {before : List Char} (isBefore : Before frame before)
    (rest : Bytes) :
    ∃ gap, Spaces gap ∧ skipName frame (Utf8.encode before ++ rest) =
      .ok (Utf8.encode gap ++ rest) := by
  cases isBefore with
  | item isGap => exact ⟨before, isGap, rfl⟩
  | @member front body middle back isFront isBody isMiddle isBack =>
      refine ⟨back, isBack, ?_⟩
      have written :
          Utf8.encode (front ++ '"' :: (body ++ '"' :: (middle ++ ':' :: back))) ++ rest =
          Utf8.encode front ++ Byte.quote :: (Utf8.encode body ++ Byte.quote ::
            (Utf8.encode middle ++ Byte.colon :: (Utf8.encode back ++ rest))) := by
        simp only [Utf8.encode_append, Utf8.encode_cons, List.append_assoc]
        rfl
      rw [written, skipName, skipBlank_append isFront.blank, skipBlank_cons (by decide)]
      simp only [↓reduceIte, skipText_body isBody, Except.bind, expectColon_append isMiddle.blank]

private theorem before_starts {before value : List Char} (isBefore : Before frame before)
    (isValue : Value value) (rest : Bytes) :
    ∃ b more, skipBlank (Utf8.encode before ++ (Utf8.encode value ++ rest)) = b :: more ∧
      b ≠ frame.closer := by
  cases isBefore with
  | item isGap =>
      obtain ⟨b, more, split, solid, noCloser, _⟩ := isValue.starts
      refine ⟨b, more ++ rest, ?_, noCloser _⟩
      rw [skipBlank_append isGap.blank, split, List.cons_append, skipBlank_cons solid]
  | @member front body middle back isFront isBody isMiddle isBack =>
      rw [Utf8.encode_append, List.append_assoc, skipBlank_append isFront.blank]
      exact ⟨Byte.quote, _, skipBlank_cons (by decide) _, by decide⟩

private theorem inside_starts {body : List Char} (isInside : Derives (.inside frame) body)
    (rest : Bytes) :
    ∃ b more, skipBlank (Utf8.encode body ++ rest) = b :: more ∧ b ≠ frame.closer := by
  cases isInside with
  | last isBefore isValue isGap =>
      rw [Utf8.encode_append, Utf8.encode_append, List.append_assoc, List.append_assoc]
      exact before_starts isBefore isValue _
  | more isBefore isValue isGap isLater =>
      rw [Utf8.encode_append, Utf8.encode_append, List.append_assoc, List.append_assoc]
      exact before_starts isBefore isValue _

private theorem closeFrames_closer (blank : ∀ b ∈ blanks, Byte.isBlank b = true) :
    closeFrames (frame :: outer) (blanks ++ frame.closer :: rest) = closeFrames outer rest := by
  cases frame with
  | list =>
      rw [closeFrames, skipBlank_append blank, skipBlank_cons (by decide)]
      rfl
  | object =>
      rw [closeFrames, skipBlank_append blank, skipBlank_cons (by decide)]
      rfl

/-- Where a value is due between brackets that stay open. -/
private def nextValue (frame : Frame) (outer : List Frame) (input : Bytes) :
    Except Fault (List Frame × Bytes) :=
  (skipName frame input).map fun rest => (frame :: outer, rest)

private theorem closeFrames_comma (blank : ∀ b ∈ blanks, Byte.isBlank b = true) :
    closeFrames (frame :: outer) (blanks ++ Byte.comma :: rest) = nextValue frame outer rest := by
  rw [closeFrames, skipBlank_append blank, skipBlank_cons (by decide)]
  rfl

private theorem openFrame_empty (blank : ∀ b ∈ blanks, Byte.isBlank b = true) :
    openFrame frame outer (blanks ++ frame.closer :: rest) = closeFrames outer rest := by
  cases frame with
  | list =>
      rw [openFrame, skipBlank_append blank, skipBlank_cons (by decide)]
      rfl
  | object =>
      rw [openFrame, skipBlank_append blank, skipBlank_cons (by decide)]
      rfl

private theorem openFrame_inside {input more : Bytes} {b : UInt8}
    (starts : skipBlank input = b :: more) (noCloser : b ≠ frame.closer) :
    openFrame frame outer input = nextValue frame outer (skipBlank input) := by
  rw [openFrame, starts]
  exact if_neg noCloser

private theorem skipOne_opens (frame : Frame) (outer : List Frame) (rest : Bytes) :
    skipOne outer (Utf8.encodeChar frame.opens ++ rest) = openFrame frame outer rest := by
  cases frame <;> rfl

/-- Where skipping goes on after a value: behind it, or with the value that is due next. -/
private def goOn (rounds : Nat) : Except Fault (List Frame × Bytes) → Except Fault Bytes
  | .error fault => .error fault
  | .ok ([], rest) => .ok rest
  | .ok (frame :: outer, rest) => skipRounds rounds (frame :: outer) rest

private theorem skipRounds_succ (rounds : Nat) (outer : List Frame) (input : Bytes) :
    skipRounds (rounds + 1) outer input = goOn rounds (skipOne outer input) := by
  rw [skipRounds]
  cases skipOne outer input with
  | error fault => rfl
  | ok passed =>
      obtain ⟨frames, rest⟩ := passed
      cases frames <;> rfl

private theorem skipBlank_skipBlank (input : Bytes) :
    skipBlank (skipBlank input) = skipBlank input :=
  List.dropWhile_idempotent _ input

private theorem skipRounds_skipBlank (rounds : Nat) (outer : List Frame) (input : Bytes) :
    skipRounds (rounds + 1) outer (skipBlank input) = skipRounds (rounds + 1) outer input := by
  rw [skipRounds_succ, skipRounds_succ, skipOne, skipBlank_skipBlank]
  rfl

private theorem skipRounds_blank (rounds : Nat) (outer : List Frame)
    (blank : ∀ b ∈ blanks, Byte.isBlank b = true) (rest : Bytes) :
    skipRounds (rounds + 1) outer (blanks ++ rest) = skipRounds (rounds + 1) outer rest := by
  rw [← skipRounds_skipBlank, skipBlank_append blank, skipRounds_skipBlank]

private theorem goOn_skipBlank (rounds : Nat) (frame : Frame) (outer : List Frame) (input : Bytes) :
    goOn (rounds + 1) (nextValue frame outer (skipBlank input)) =
      goOn (rounds + 1) (nextValue frame outer input) := by
  cases frame with
  | list => exact skipRounds_skipBlank rounds (.list :: outer) input
  | object => rw [nextValue, nextValue, skipName, skipBlank_skipBlank, ← skipName]

end Skipping

/-- Skipping passes a part of a text in fewer rounds than the part has bytes, one more counted in,
and goes on behind it whatever brackets are open around it. -/
private def Passes : Part → List Char → Prop
  | .value, text =>
    ∃ rounds, rounds < (Utf8.encode text).length ∧
      ∀ later outer rest, EndsNumber rest →
        skipRounds (later + rounds + 1) outer (Utf8.encode text ++ rest) =
          goOn later (closeFrames outer rest)
  | .inside frame, text =>
    ∃ rounds, rounds < (Utf8.encode text).length ∧
      ∀ later outer rest,
        goOn (later + rounds + 1) (nextValue frame outer
          (Utf8.encode text ++ frame.closer :: rest)) = goOn later (closeFrames outer rest)

/-- A value without open brackets is passed in one round. -/
private theorem passes_of_skipOne {text : List Char} (isValue : Value text)
    (one : ∀ outer rest, EndsNumber rest →
      skipOne outer (Utf8.encode text ++ rest) = closeFrames outer rest) : Passes .value text := by
  obtain ⟨b, more, split, _⟩ := isValue.starts
  refine ⟨0, ?_, fun later outer rest ends => ?_⟩
  · rw [split, List.length_cons]
    exact Nat.zero_lt_succ _
  · rw [Nat.add_zero, skipRounds_succ, one outer rest ends]

private theorem skipOne_text {body : List Char} (isBody : LiteralBody body) (outer : List Frame)
    (rest : Bytes) :
    skipOne outer (Utf8.encode ('"' :: (body ++ ['"'])) ++ rest) = closeFrames outer rest := by
  have written : Utf8.encode ('"' :: (body ++ ['"'])) ++ rest =
      Byte.quote :: (Utf8.encode body ++ Byte.quote :: rest) := by
    simp only [Utf8.encode_append, Utf8.encode_cons, List.append_assoc]
    rfl
  have passed : (skipText (Utf8.encode body ++ Byte.quote :: rest)).bind (closeFrames outer) =
      closeFrames outer rest := by
    rw [skipText_body isBody]
    rfl
  rw [written, skipOne, skipBlank_cons (by decide)]
  exact passed

private theorem skipOne_number {number : List Char} (isNumber : NumberText number)
    (outer : List Frame) {rest : Bytes} (ends : EndsNumber rest) :
    skipOne outer (Utf8.encode number ++ rest) = closeFrames outer rest := by
  obtain ⟨b, more, split, numeric⟩ := number_starts isNumber
  have read := skipNumber_number isNumber ends
  have noList : b ≠ Byte.openList := number_byte_ne numeric (by decide) (by decide)
  have noObject : b ≠ Byte.openObject := number_byte_ne numeric (by decide) (by decide)
  have noQuote : b ≠ Byte.quote := number_byte_ne numeric (by decide) (by decide)
  have isNumeric : (decide (b = Byte.minus) || Byte.isDigit b) = true := by
    rwa [Bool.or_eq_true, decide_eq_true_eq]
  rw [split, List.cons_append] at read ⊢
  rw [skipOne, skipBlank_cons (number_byte_solid numeric)]
  simp only [if_neg noList, if_neg noObject, if_neg noQuote, if_pos isNumeric, read]
  rfl

private theorem skipOne_word {word : List Char}
    (isWord : word ∈ ["null".toList, "true".toList, "false".toList]) (outer : List Frame)
    (rest : Bytes) : skipOne outer (Utf8.encode word ++ rest) = closeFrames outer rest := by
  simp only [List.mem_cons, List.not_mem_nil, or_false] at isWord
  rcases isWord with rfl | rfl | rfl <;> rfl

private theorem encode_brackets (frame : Frame) (body : List Char) (rest : Bytes) :
    Utf8.encode (frame.opens :: (body ++ [frame.closes])) ++ rest =
      Utf8.encodeChar frame.opens ++ (Utf8.encode body ++ frame.closer :: rest) := by
  rw [Utf8.encode_cons, Utf8.encode_append, List.append_assoc, List.append_assoc]
  cases frame <;> rfl

theorem endsNumber_gap {gap : List Char} (isGap : Spaces gap) {b : UInt8}
    (kind : b = Byte.comma ∨ b = Byte.closeList ∨ b = Byte.closeObject) (more : Bytes) :
    EndsNumber (Utf8.encode gap ++ b :: more) := by
  have blank := isGap.blank
  cases split : Utf8.encode gap with
  | nil =>
      refine endsNumber_cons more ?_
      rcases kind with comma | list | object
      · exact Or.inl comma
      · exact Or.inr (Or.inl list)
      · exact Or.inr (Or.inr (Or.inl object))
  | cons first others =>
      rw [split] at blank
      exact endsNumber_cons _ (Or.inr (Or.inr (Or.inr (blank first List.mem_cons_self))))

private theorem goOn_value {frame : Frame} {before value : List Char} {rounds : Nat}
    (isBefore : Before frame before)
    (passed : ∀ later outer rest, EndsNumber rest →
      skipRounds (later + rounds + 1) outer (Utf8.encode value ++ rest) =
        goOn later (closeFrames outer rest))
    (later : Nat) (outer : List Frame) {rest : Bytes} (ends : EndsNumber rest) :
    goOn (later + rounds + 1)
        (nextValue frame outer (Utf8.encode before ++ (Utf8.encode value ++ rest))) =
      goOn later (closeFrames (frame :: outer) rest) := by
  obtain ⟨gap, isGap, read⟩ := skipName_before isBefore (Utf8.encode value ++ rest)
  rw [nextValue, read]
  change skipRounds (later + rounds + 1) (frame :: outer) _ = _
  rw [skipRounds_blank _ _ isGap.blank, passed later _ _ ends]

/-- One case for each rule of the grammar. The rounds of a part are those of its own parts, and one
for the bracket that opens it. -/
private theorem passes_of_derives {part : Part} {text : List Char} (derives : Derives part text) :
    Passes part text := by
  induction derives with
  | text isBody =>
      exact passes_of_skipOne (.text isBody) fun outer rest _ => skipOne_text isBody outer rest
  | number isNumber =>
      exact passes_of_skipOne (.number isNumber) fun outer _ ends =>
        skipOne_number isNumber outer ends
  | word isWord =>
      exact passes_of_skipOne (.word isWord) fun outer rest _ => skipOne_word isWord outer rest
  | empty frame isGap =>
      refine passes_of_skipOne (.empty frame isGap) fun outer rest _ => ?_
      rw [encode_brackets, skipOne_opens, openFrame_empty isGap.blank]
  | @brackets frame body isInside ih =>
      obtain ⟨rounds, fewer, passed⟩ := ih
      refine ⟨rounds + 1, ?_, fun later outer rest _ => ?_⟩
      · rw [Utf8.encode_cons, Utf8.encode_append, List.length_append, List.length_append]
        have opening := List.length_pos_of_ne_nil (Utf8.encodeChar_ne_nil frame.opens)
        omega
      · -- The bracket passes the blanks behind it, which the value would pass as well.
        obtain ⟨b, more, starts, noCloser⟩ := inside_starts isInside (frame.closer :: rest)
        rw [encode_brackets, skipRounds_succ, skipOne_opens, openFrame_inside starts noCloser,
          ← Nat.add_assoc, goOn_skipBlank, passed]
  | @last frame before value gap isBefore isValue isGap ih =>
      obtain ⟨rounds, fewer, passed⟩ := ih
      refine ⟨rounds, ?_, fun later outer rest => ?_⟩
      · simp only [Utf8.encode_append, List.length_append]
        omega
      · have closer : frame.closer = Byte.closeList ∨ frame.closer = Byte.closeObject := by
          cases frame with
          | list => exact Or.inl rfl
          | object => exact Or.inr rfl
        simp only [Utf8.encode_append, List.append_assoc]
        rw [goOn_value isBefore passed later outer (endsNumber_gap isGap (Or.inr closer) rest),
          closeFrames_closer isGap.blank]
  | @more frame before value gap others isBefore isValue isGap isLater valueIh othersIh =>
      obtain ⟨rounds, fewer, passed⟩ := valueIh
      obtain ⟨more, fewerMore, passedMore⟩ := othersIh
      refine ⟨rounds + more + 1, ?_, fun later outer rest => ?_⟩
      · simp only [Utf8.encode_append, Utf8.encode_cons, List.length_append]
        have comma : (Utf8.encodeChar ',').length = 1 := rfl
        omega
      · have split : Utf8.encode (before ++ (value ++ (gap ++ ',' :: others))) ++
            frame.closer :: rest = Utf8.encode before ++ (Utf8.encode value ++ (Utf8.encode gap ++
              Byte.comma :: (Utf8.encode others ++ frame.closer :: rest))) := by
          simp only [Utf8.encode_append, Utf8.encode_cons, List.append_assoc]
          rfl
        -- The value and what follows it are passed one after the other, so their rounds add up.
        have ends := endsNumber_gap isGap (Or.inl rfl)
          (Utf8.encode others ++ frame.closer :: rest)
        rw [split, show later + (rounds + more + 1) + 1 = later + more + 1 + rounds + 1 by omega,
          goOn_value isBefore passed _ outer ends, closeFrames_comma isGap.blank, passedMore]

/-- A value of any kind and depth is passed over up to its end. -/
theorem skipValue_value {value : List Char} (isValue : Value value) {blanks rest : Bytes}
    (blank : ∀ b ∈ blanks, Byte.isBlank b = true) (ends : EndsNumber rest) :
    skipValue (blanks ++ (Utf8.encode value ++ rest)) = .ok rest := by
  obtain ⟨rounds, fewer, passed⟩ := passes_of_derives isValue
  have enough : (blanks ++ (Utf8.encode value ++ rest)).length + 1 =
      (blanks ++ (Utf8.encode value ++ rest)).length - rounds + rounds + 1 := by
    simp only [List.length_append]
    omega
  rw [skipValue, skipRounds_blank _ _ blank, enough, passed _ _ _ ends]
  rfl

/-- A value that denotes no text is not read as one, whatever its kind. -/
theorem readString_of_no_text (expected : String) {value : List Char} (isValue : Value value)
    (noText : ∀ s, ¬ Literal s value) {blanks : Bytes}
    (blank : ∀ b ∈ blanks, Byte.isBlank b = true) (rest : Bytes) :
    ∃ fault, readString expected (blanks ++ (Utf8.encode value ++ rest)) = .error fault := by
  obtain ⟨b, more, split, solid, _, literal⟩ := isValue.starts
  have starts : skipBlank (blanks ++ (Utf8.encode value ++ rest)) = b :: (more ++ rest) := by
    rw [skipBlank_append blank, split, List.cons_append, skipBlank_cons solid]
  by_cases quote : b = Byte.quote
  · obtain ⟨body, isBody, rfl⟩ := literal quote
    obtain ⟨fault, failed⟩ := readText_of_no_text isBody noText rest
    have inner : more ++ rest = Utf8.encode body ++ Byte.quote :: rest := by
      have written : Utf8.encode ('"' :: (body ++ ['"'])) =
          Byte.quote :: (Utf8.encode body ++ [Byte.quote]) := by
        rw [Utf8.encode_cons, Utf8.encode_append]
        rfl
      rw [written, List.cons.injEq] at split
      rw [← split.2, List.append_assoc, List.singleton_append]
    refine ⟨fault, ?_⟩
    rw [readString, starts, inner]
    exact (if_pos quote).trans failed
  · refine ⟨mismatch expected (b :: (more ++ rest)), ?_⟩
    rw [readString, starts]
    exact if_neg quote

end IconCatalog.Json
