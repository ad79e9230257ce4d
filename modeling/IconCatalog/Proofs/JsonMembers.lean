import IconCatalog.Json.Named
import IconCatalog.Json.Record
import IconCatalog.Proofs.JsonValues
set_option autoImplicit false

namespace IconCatalog.Json

section Values

variable {α β : Type}

/-- What a reader takes a value for, `none` when it refuses it. -/
def valueOf? (reader : Reader α) (value : List Char) : Option α :=
  (reader (Utf8.encode value)).toOption.map (·.1)

/-- A reader takes a value up to its end, and alike wherever it stands. -/
def TakesValue (reader : Reader α) (value : List Char) : Prop :=
  ∀ blanks rest, (∀ b ∈ blanks, Byte.isBlank b = true) → EndsNumber rest →
    (reader (blanks ++ (Utf8.encode value ++ rest))).toOption =
      (valueOf? reader value).map fun taken => (taken, rest)

theorem eq_ok_of_toOption {ε : Type} {result : Except ε α} {value : α}
    (taken : result.toOption = some value) : result = .ok value := by
  cases result with
  | error fault => contradiction
  | ok given => exact congrArg Except.ok (Option.some.inj taken)

theorem valueOf?_literal (expected : String) {s : String} {value : List Char}
    (literal : Literal s value) : valueOf? (readString expected) value = some s := by
  have read := readString_literal expected literal (List.forall_mem_nil _) []
  rw [List.nil_append, List.append_nil] at read
  rw [valueOf?, read]
  rfl

theorem valueOf?_no_text (expected : String) {value : List Char} (isValue : Value value)
    (noText : ∀ s, ¬ Literal s value) : valueOf? (readString expected) value = none := by
  obtain ⟨fault, failed⟩ :=
    readString_of_no_text expected isValue noText (List.forall_mem_nil _) []
  rw [List.nil_append, List.append_nil] at failed
  rw [valueOf?, failed]
  rfl

theorem takesValue_readString (expected : String) {value : List Char} (isValue : Value value) :
    TakesValue (readString expected) value := by
  intro blanks rest blank _
  by_cases text : ∃ s, Literal s value
  · obtain ⟨s, literal⟩ := text
    rw [readString_literal expected literal blank, valueOf?_literal expected literal]
    rfl
  · have noText : ∀ s, ¬ Literal s value := fun s literal => text ⟨s, literal⟩
    obtain ⟨fault, failed⟩ := readString_of_no_text expected isValue noText blank rest
    rw [failed, valueOf?_no_text expected isValue noText]
    rfl

theorem valueOf?_decimal (n : UInt64) : valueOf? readSize (decimal n).toList = some n := by
  have read := readSize_decimal n (List.forall_mem_nil _) endsNumber_nil
  rw [List.nil_append, List.append_nil] at read
  rw [valueOf?, read]
  rfl

theorem takesValue_decimal (n : UInt64) : TakesValue readSize (decimal n).toList := by
  intro blanks rest blank ends
  rw [readSize_decimal n blank ends, valueOf?_decimal]
  rfl

/-- Another reader that goes as far, and takes what the first takes for something else or
refuses it. -/
def Refines (other : Reader β) (reader : Reader α) (turn : α → Option β) : Prop :=
  ∀ input, (other input).toOption =
    (reader input).toOption.bind fun (value, rest) => (turn value).map fun other => (other, rest)

variable {reader : Reader α} {other : Reader β} {turn : α → Option β}

theorem Refines.valueOf? (refines : Refines other reader turn) (value : List Char) :
    valueOf? other value = (valueOf? reader value).bind turn := by
  rw [Json.valueOf?, Json.valueOf?, refines]
  cases (reader (Utf8.encode value)).toOption with
  | none => rfl
  | some taken =>
      simp only [Option.bind_some, Option.map_some, Option.map_map]
      exact Option.map_id'

theorem Refines.takesValue {value : List Char} (refines : Refines other reader turn)
    (takes : TakesValue reader value) : TakesValue other value := by
  intro blanks rest blank ends
  rw [refines, takes blanks rest blank ends, refines.valueOf?]
  cases Json.valueOf? reader value <;> rfl

theorem refines_map {put : α → β}
    (stored : ∀ input, other input = (reader input).map fun (value, rest) => (put value, rest)) :
    Refines other reader fun value => some (put value) := by
  intro input
  rw [stored]
  cases reader input <;> rfl

theorem refines_named {ε : Type} (parse : String → Except ε α) (message : ε → String) :
    Refines (readNamed parse message) (readString "a string") fun s => (parse s).toOption := by
  intro input
  rw [readNamed]
  cases readString "a string" input with
  | error fault => rfl
  | ok read =>
      obtain ⟨s, rest⟩ := read
      cases accepted : parse s with
      | error e => simp only [accepted, Except.toOption, Option.bind_some, Option.map_none]
      | ok value => simp only [accepted, Except.toOption, Option.bind_some, Option.map_some]

theorem valuesOf_cons (name : String) (member : String × List Char)
    (members : List (String × List Char)) :
    valuesOf name (member :: members) =
      if member.1 = name then member.2 :: valuesOf name members else valuesOf name members := by
  rw [valuesOf, List.filter_cons]
  by_cases same : member.1 = name
  · rw [if_pos same, if_pos (decide_eq_true same)]
    rfl
  · rw [if_neg same, if_neg (by rw [decide_eq_true_eq]; exact same)]
    rfl

/-- The value of a field that may be given once, after the values given for it in order. -/
def takeOnce (taken? : List Char → Option α) (held : Option α) (values : List (List Char)) :
    Option (Option α) :=
  values.foldlM (fun held value => if held.isSome then none else (taken? value).map some) held

section Once

variable {taken? : List Char → Option α} {value : List Char} {values others : List (List Char)}

theorem takeOnce_cons (held : Option α) :
    takeOnce taken? held (value :: values) =
      if held.isSome then none
      else (taken? value).bind fun taken => takeOnce taken? (some taken) values := by
  rw [takeOnce, List.foldlM_cons]
  cases held with
  | some _ => rfl
  | none => cases taken? value <;> rfl

theorem takeOnce_one : takeOnce taken? none [value] = (taken? value).map some := by
  rw [takeOnce_cons]
  cases taken? value <;> rfl

theorem takeOnce_twice (twice : 2 ≤ values.length) : takeOnce taken? none values = none := by
  obtain _ | ⟨value, _ | ⟨second, more⟩⟩ := values
  · contradiction
  · contradiction
  · rw [takeOnce_cons]
    cases taken? value with
    | none => rfl
    | some taken => exact takeOnce_cons (some taken)

theorem takeOnce_refused (given : value ∈ values) (refused : taken? value = none) :
    takeOnce taken? none values = none := by
  by_cases twice : 2 ≤ values.length
  · exact takeOnce_twice twice
  · obtain _ | ⟨only, _ | ⟨second, more⟩⟩ := values
    · contradiction
    · rw [← List.mem_singleton.1 given, takeOnce_one, refused]
      rfl
    · exact absurd (by simp only [List.length_cons]; omega) twice

/-- The order of the values does not count, for there is at most one where any is taken. -/
theorem takeOnce_of_perm (same : values.Perm others) :
    takeOnce taken? none values = takeOnce taken? none others := by
  by_cases twice : 2 ≤ values.length
  · rw [takeOnce_twice twice, takeOnce_twice (same.length_eq ▸ twice)]
  · obtain _ | ⟨only, _ | ⟨second, more⟩⟩ := values
    · rw [same.nil_eq]
    · rw [List.singleton_perm.1 same]
    · exact absurd (by simp only [List.length_cons]; omega) twice

end Once

end Values

namespace RecordForm

variable {δ α : Type} {form : RecordForm δ α}

section Rounds

variable {blanks gap : Bytes} (rounds : Nat) (draft : δ) (rest : Bytes)

theorem readMembers_close (form : RecordForm δ α) (first : Bool)
    (blank : ∀ b ∈ blanks, Byte.isBlank b = true) :
    form.readMembers (rounds + 1) first draft (blanks ++ Byte.closeObject :: rest) =
      (form.finish draft).map fun value => (value, rest) := by
  rw [readMembers, skipBlank_append blank, skipBlank_cons (by decide)]
  simp only [↓reduceIte]

theorem readMembers_first (form : RecordForm δ α) (blank : ∀ b ∈ blanks, Byte.isBlank b = true) :
    form.readMembers (rounds + 1) true draft (blanks ++ Byte.quote :: rest) =
      (form.readMember draft rest).bind fun (draft, rest) =>
        form.readMembers rounds false draft rest := by
  rw [readMembers, skipBlank_append blank, skipBlank_cons (by decide)]
  simp only [if_neg (show Byte.quote ≠ Byte.closeObject by decide), nextItem, ↓reduceIte]
  cases form.readMember draft rest <;> rfl

theorem readMembers_next (form : RecordForm δ α) (blank : ∀ b ∈ blanks, Byte.isBlank b = true)
    (gapBlank : ∀ b ∈ gap, Byte.isBlank b = true) :
    form.readMembers (rounds + 1) false draft
        (gap ++ Byte.comma :: (blanks ++ Byte.quote :: rest)) =
      (form.readMember draft rest).bind fun (draft, rest) =>
        form.readMembers rounds false draft rest := by
  rw [readMembers, skipBlank_append gapBlank, skipBlank_cons (by decide)]
  simp only [if_neg (show Byte.comma ≠ Byte.closeObject by decide), nextItem, Bool.false_eq_true,
    ↓reduceIte, skipBlank_append blank,
    skipBlank_cons (show Byte.isBlank Byte.quote = false by decide)]
  cases form.readMember draft rest <;> rfl

end Rounds

/-- What a member makes of a draft, `none` when it is refused: its value is of no use, or its name
is known and was met before. -/
def takeMember? (form : RecordForm δ α) (draft : δ) (member : String × List Char) : Option δ :=
  match form.fields.find? (fun field => decide (field.name = member.1)) with
  | none => some draft
  | some field => if field.isSet draft then none else valueOf? (field.read draft) member.2

/-- The field of its name takes the value of a member up to its end. -/
def TakesMember (form : RecordForm δ α) (member : String × List Char) : Prop :=
  ∀ field, form.fields.find? (fun field => decide (field.name = member.1)) = some field →
    ∀ draft, TakesValue (field.read draft) member.2

private theorem toOption_bind {ε β γ : Type} (result : Except ε β) (next : β → Except ε γ) :
    (result.bind next).toOption = result.toOption.bind fun value => (next value).toOption := by
  cases result <;> rfl

/-- A member is read from its name on, and the blanks behind its value are left. -/
private theorem readMember_text {member : String × List Char} {text : List Char}
    (takes : form.TakesMember member) (written : MemberText member text) :
    ∃ front body gap, Spaces front ∧ Spaces gap ∧
      Utf8.encode text = Utf8.encode front ++ Byte.quote :: body ∧
      ∀ draft b more, b = Byte.comma ∨ b = Byte.closeObject →
        (form.readMember draft (body ++ b :: more)).toOption =
          (form.takeMember? draft member).map fun next => (next, Utf8.encode gap ++ b :: more) := by
  obtain ⟨front, name, middle, back, gap, isFront, isName, isMiddle, isBack, isValue, isGap, rfl⟩ :=
    written
  obtain ⟨inner, nameWritten, read⟩ := readText_literal isName
  refine ⟨front, inner ++ (Utf8.encode middle ++ Byte.colon :: (Utf8.encode back ++
    (Utf8.encode member.2 ++ Utf8.encode gap))), gap, isFront, isGap, ?_, ?_⟩
  · simp only [Utf8.encode_append, Utf8.encode_cons, nameWritten, List.cons_append]
    rfl
  · intro draft b more kind
    have ends := endsNumber_gap isGap (kind.imp_right Or.inr) more
    have colon := expectColon_append isMiddle.blank
      (Utf8.encode back ++ (Utf8.encode member.2 ++ (Utf8.encode gap ++ b :: more)))
    simp only [List.append_assoc, List.cons_append, takeMember?, readMember, readName, read, colon]
    cases known : form.fields.find? (fun field => decide (field.name = member.1)) with
    | none =>
        simp only [Except.map, skipValue_value isValue isBack.blank ends]
        rfl
    | some field =>
        have taken := takes field known draft _ _ isBack.blank ends
        cases met : field.isSet draft with
        | true =>
            simp only [met, ↓reduceIte]
            rfl
        | false => simpa only [met, Except.map, Bool.false_eq_true, ↓reduceIte] using taken

private def readOn (form : RecordForm δ α) (rounds : Nat) (draft : δ) (input : Bytes) :
    Except Fault (α × Bytes) :=
  (form.readMember draft input).bind fun (draft, rest) => form.readMembers rounds false draft rest

private def outcome? (form : RecordForm δ α) (draft : δ) (members : List (String × List Char))
    (rest : Bytes) : Option (α × Bytes) :=
  (members.foldlM form.takeMember? draft).bind fun last =>
    (form.finish last).toOption.map fun value => (value, rest)

private theorem outcome?_cons (form : RecordForm δ α) (draft : δ) (member : String × List Char)
    (members : List (String × List Char)) (rest : Bytes) :
    outcome? form draft (member :: members) rest =
      (form.takeMember? draft member).bind fun next => outcome? form next members rest := by
  rw [outcome?, List.foldlM_cons]
  cases form.takeMember? draft member <;> rfl

private theorem readMembers_end (form : RecordForm δ α) (rounds : Nat) (first : Bool) (draft : δ)
    {gap : List Char} (isGap : Spaces gap) (rest : Bytes) :
    (form.readMembers (rounds + 1) first draft
      (Utf8.encode gap ++ Byte.closeObject :: rest)).toOption = outcome? form draft [] rest := by
  rw [readMembers_close _ _ _ form first isGap.blank]
  change _ = (form.finish draft).toOption.map fun value => (value, rest)
  cases form.finish draft <;> rfl

/-- One round reads a member, and the last one closes the object. The induction is on the members;
what is read of each begins behind the quote of its name. -/
private theorem readOn_members {members : List (String × List Char)} {text : List Char}
    (takes : ∀ member ∈ members, form.TakesMember member) (written : MemberTexts members text) :
    ∃ front body, Spaces front ∧ Utf8.encode text = Utf8.encode front ++ Byte.quote :: body ∧
      ∀ rounds draft rest, members.length ≤ rounds →
        (readOn form rounds draft (body ++ Byte.closeObject :: rest)).toOption =
          outcome? form draft members rest := by
  induction written with
  | @last member text only =>
      obtain ⟨front, body, gap, isFront, isGap, split, read⟩ :=
        readMember_text (takes member (List.mem_singleton_self _)) only
      refine ⟨front, body, isFront, split, fun rounds draft rest enough => ?_⟩
      obtain ⟨rounds, rfl⟩ := Nat.exists_eq_succ_of_ne_zero (Nat.ne_of_gt enough)
      rw [readOn, toOption_bind, read draft _ _ (Or.inr rfl), outcome?_cons]
      cases form.takeMember? draft member with
      | none => rfl
      | some next => exact readMembers_end form rounds false next isGap rest
  | @more member members text later first _ ih =>
      obtain ⟨front, body, gap, isFront, isGap, split, read⟩ :=
        readMember_text (takes member List.mem_cons_self) first
      obtain ⟨laterFront, laterBody, isLaterFront, laterSplit, readLater⟩ :=
        ih fun other inside => takes other (List.mem_cons_of_mem _ inside)
      refine ⟨front, body ++ Byte.comma :: Utf8.encode later, isFront, ?_,
        fun rounds draft rest enough => ?_⟩
      · rw [Utf8.encode_append, split, List.append_assoc]
        rfl
      · have some_left : rounds ≠ 0 := Nat.ne_of_gt (Nat.zero_lt_of_lt enough)
        obtain ⟨rounds, rfl⟩ := Nat.exists_eq_succ_of_ne_zero some_left
        rw [List.append_assoc, List.cons_append, readOn, toOption_bind,
          read draft _ _ (Or.inl rfl), outcome?_cons]
        cases form.takeMember? draft member with
        | none => rfl
        | some next =>
            have step := readMembers_next rounds next (laterBody ++ Byte.closeObject :: rest) form
              isLaterFront.blank isGap.blank
            simp only [Option.map_some, Option.bind_some, laterSplit, List.append_assoc,
              List.cons_append, step]
            exact readLater rounds next rest (Nat.le_of_succ_le_succ enough)

private theorem length_le_of_memberTexts {members : List (String × List Char)} {text : List Char}
    (written : MemberTexts members text) : members.length ≤ (Utf8.encode text).length := by
  have oneByte : (Utf8.encodeChar ':').length = 1 ∧ (Utf8.encodeChar ',').length = 1 := ⟨rfl, rfl⟩
  induction written with
  | last only =>
      obtain ⟨_, _, _, _, _, _, _, _, _, _, _, rfl⟩ := only
      simp only [Utf8.encode_append, Utf8.encode_cons, List.length_append, List.length_cons,
        List.length_nil]
      omega
  | more first _ ih =>
      simp only [Utf8.encode_append, Utf8.encode_cons, List.length_append, List.length_cons]
      omega

private theorem readWhole_blank {reader : Reader α} {input : Bytes} {result : Option α}
    {back : List Char} (isBack : Spaces back)
    (read : (reader input).toOption = result.map fun value => (value, Utf8.encode back)) :
    (readWhole reader input).toOption = result := by
  have ended : skipBlank (Utf8.encode back) = [] := by
    rw [← List.append_nil (Utf8.encode back), skipBlank_append isBack.blank]
    rfl
  unfold readWhole
  cases found : reader input with
  | error fault =>
      rw [found] at read
      exact (Option.map_eq_none_iff.1 read.symm).symm
  | ok taken =>
      obtain ⟨value, rest⟩ := taken
      rw [found] at read
      obtain ⟨_, taken, same⟩ := Option.map_eq_some_iff.1 read.symm
      cases same
      simp only [ended, List.isEmpty_nil, ↓reduceIte, taken]
      rfl

private theorem readWhole_outcome {members : List (String × List Char)} {input : Bytes}
    {back : List Char} (isBack : Spaces back)
    (read : (form.read input).toOption =
      outcome? form form.blank members (Utf8.encode back)) :
    (readWhole form.read input).toOption =
      (members.foldlM form.takeMember? form.blank).bind fun last =>
        (form.finish last).toOption := by
  refine readWhole_blank isBack (read.trans ?_)
  rw [outcome?]
  cases members.foldlM form.takeMember? form.blank <;> rfl

private theorem read_opens (form : RecordForm δ α) {front : List Char} (isFront : Spaces front)
    (rest : Bytes) :
    form.read (Utf8.encode front ++ Byte.openObject :: rest) =
      form.readMembers (rest.length + 1) true form.blank rest := by
  rw [RecordForm.read, skipBlank_append isFront.blank, skipBlank_cons (by decide)]
  rfl

private theorem encode_object (front inside back : List Char) :
    Utf8.encode (front ++ '\x7b' :: (inside ++ '\x7d' :: back)) =
      Utf8.encode front ++ Byte.openObject :: (Utf8.encode inside ++
        Byte.closeObject :: Utf8.encode back) := by
  rw [Utf8.encode_append, Utf8.encode_cons, Utf8.encode_append, Utf8.encode_cons]
  rfl

/-- The record of an object is what its members make of the blank draft, one after another: it
depends on the names that they denote, on what their values are taken for and on the order of both.
Of several faults a reader names the first that it meets, so faults are left out of account. -/
theorem read_objectText {members : List (String × List Char)} {text : List Char}
    (takes : ∀ member ∈ members, form.TakesMember member) (written : ObjectText members text) :
    (readWhole form.read (Utf8.encode text)).toOption =
      (members.foldlM form.takeMember? form.blank).bind fun last =>
        (form.finish last).toOption := by
  cases written with
  | @empty front gap back isFront isGap isBack =>
      refine readWhole_outcome isBack ?_
      rw [encode_object, read_opens form isFront, readMembers_end form _ true form.blank isGap]
  | @members _ front body back isFront isBody isBack =>
      refine readWhole_outcome isBack ?_
      obtain ⟨nameFront, inner, isNameFront, split, read⟩ := readOn_members takes isBody
      have room := length_le_of_memberTexts isBody
      rw [encode_object, read_opens form isFront, split, List.append_assoc, List.cons_append,
        readMembers_first _ _ _ form isNameFront.blank]
      refine read _ _ _ (room.trans ?_)
      rw [split]
      simp only [List.length_append, List.length_cons]
      omega

end RecordForm

end IconCatalog.Json
