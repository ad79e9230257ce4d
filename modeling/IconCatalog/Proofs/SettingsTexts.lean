import IconCatalog.Proofs.JsonMembers
import IconCatalog.Settings.Reading
set_option autoImplicit false

namespace IconCatalog.Settings

open Json (Literal ObjectText Value takeOnce takeOnce_cons valueOf? valuesOf valuesOf_cons)

variable {members : List (String × List Char)} {text value : List Char} {name s : String}

/-- The directory that a value gives. -/
def readDir? (value : List Char) : Option Path :=
  (valueOf? (Json.readString "path string") value).map .ofString

def readFormat? (value : List Char) : Option ExportFormat := valueOf? ExportFormat.reader value

private theorem readFormat?_eq (value : List Char) :
    readFormat? value = (valueOf? (Json.readString "a string") value).bind fun s =>
      (ExportFormat.parse s).toOption :=
  (Json.refines_named ExportFormat.parse UnknownExportFormat.message).valueOf? value

theorem readFormat?_literal {format : ExportFormat} (literal : Literal s value)
    (named : asciiLower s = format.tag) : readFormat? value = some format := by
  rw [readFormat?_eq, Json.valueOf?_literal _ literal, Option.bind_some,
    ExportFormat.parse_eq_ok_iff.2 named]
  rfl

theorem readFormat?_unknown (literal : Literal s value)
    (unknown : ∀ format : ExportFormat, asciiLower s ≠ format.tag) : readFormat? value = none := by
  rw [readFormat?_eq, Json.valueOf?_literal _ literal, Option.bind_some]
  cases accepted : ExportFormat.parse s with
  | error _ => rfl
  | ok format => exact absurd (ExportFormat.parse_eq_ok_iff.1 accepted) (unknown format)

theorem readDir?_literal (literal : Literal s value) : readDir? value = some (.ofString s) := by
  rw [readDir?, Json.valueOf?_literal _ literal]
  rfl

theorem readDir?_no_text (isValue : Value value) (noText : ∀ s, ¬ Literal s value) :
    readDir? value = none := by
  rw [readDir?, Json.valueOf?_no_text _ isValue noText]
  rfl

theorem readFormat?_no_text (isValue : Value value) (noText : ∀ s, ¬ Literal s value) :
    readFormat? value = none := by
  rw [readFormat?_eq, Json.valueOf?_no_text _ isValue noText]
  rfl

private theorem refines_dir (given : Given) :
    Json.Refines (dirField.read given) (Json.readString "path string") fun dir =>
      some { given with exportDir := some (.ofString dir) } :=
  Json.refines_map fun _ => rfl

private theorem refines_format (given : Given) :
    Json.Refines (formatField.read given) ExportFormat.reader fun format =>
      some { given with exportFormat := some format } :=
  Json.refines_map fun _ => rfl

theorem takesMember {member : String × List Char} (isValue : Value member.2) :
    form.TakesMember member := by
  have text := fun expected => Json.takesValue_readString expected isValue
  have format : Json.TakesValue ExportFormat.reader member.2 :=
    (Json.refines_named ExportFormat.parse UnknownExportFormat.message).takesValue (text _)
  intro field known draft
  have listed := List.mem_of_find?_eq_some known
  simp only [form, List.mem_cons, List.not_mem_nil, or_false] at listed
  rcases listed with rfl | rfl
  · exact (refines_dir draft).takesValue (text _)
  · exact (refines_format draft).takesValue format

private theorem takeMember?_eq (given : Given) (member : String × List Char) :
    form.takeMember? given member =
      if member.1 = "export_dir" then
        if given.exportDir.isSome then none
        else (readDir? member.2).map fun dir => { given with exportDir := some dir }
      else if member.1 = "export_format" then
        if given.exportFormat.isSome then none
        else (readFormat? member.2).map fun format => { given with exportFormat := some format }
      else some given := by
  rw [Json.RecordForm.takeMember?]
  by_cases dir : member.1 = "export_dir"
  · have found : form.fields.find? (fun field => decide (field.name = member.1)) =
        some dirField := by
      rw [dir]
      rfl
    rw [found, if_pos dir]
    change (if given.exportDir.isSome then none else valueOf? (dirField.read given) member.2) = _
    rw [(refines_dir given).valueOf?, readDir?]
    cases valueOf? (Json.readString "path string") member.2 <;> rfl
  by_cases format : member.1 = "export_format"
  · have found : form.fields.find? (fun field => decide (field.name = member.1)) =
        some formatField := by
      rw [format]
      rfl
    rw [found, if_neg dir, if_pos format]
    change (if given.exportFormat.isSome then none
      else valueOf? (formatField.read given) member.2) = _
    rw [(refines_format given).valueOf?, readFormat?]
    cases valueOf? ExportFormat.reader member.2 <;> rfl
  · have found : form.fields.find? (fun field => decide (field.name = member.1)) = none := by
      have noDir : decide (dirField.name = member.1) = false := decide_eq_false (Ne.symm dir)
      have noFormat : decide (formatField.name = member.1) = false :=
        decide_eq_false (Ne.symm format)
      simp only [form, List.find?_cons, noDir, noFormat, List.find?_nil]
    rw [found, if_neg dir, if_neg format]

/-- The fields are settled apart from each other. The induction is on the members: each goes into
one of the fields, or into none. -/
private theorem foldlM_takeMember? (members : List (String × List Char)) (given : Given) :
    members.foldlM form.takeMember? given =
      (takeOnce readDir? given.exportDir (valuesOf "export_dir" members)).bind fun dir =>
        (takeOnce readFormat? given.exportFormat (valuesOf "export_format" members)).map fun format =>
          ⟨dir, format⟩ := by
  induction members generalizing given with
  | nil => rfl
  | cons member members ih =>
      rw [List.foldlM_cons, takeMember?_eq, valuesOf_cons, valuesOf_cons]
      by_cases dir : member.1 = "export_dir"
      · have noFormat : member.1 ≠ "export_format" := by
          rw [dir]
          decide
        rw [if_pos dir, if_pos dir, if_neg noFormat, takeOnce_cons]
        cases given.exportDir with
        | some _ => rfl
        | none =>
            cases readDir? member.2 with
            | none => rfl
            | some taken => exact ih _
      by_cases format : member.1 = "export_format"
      · -- The result settles the directory first, whichever member comes first.
        rw [if_neg dir, if_neg dir, if_pos format, if_pos format, takeOnce_cons]
        cases met : given.exportFormat with
        | some _ => cases takeOnce readDir? given.exportDir (valuesOf "export_dir" members) <;> rfl
        | none =>
            cases readFormat? member.2 with
            | none => cases takeOnce readDir? given.exportDir (valuesOf "export_dir" members) <;> rfl
            | some taken => exact ih _
      · rw [if_neg dir, if_neg dir, if_neg format, if_neg format]
        exact ih given

/-- What a text gives for one field does not depend on the other. -/
theorem ofJson_fields (written : ObjectText members text) :
    (ofJson (Utf8.encode text)).toOption =
      (takeOnce readDir? none (valuesOf "export_dir" members)).bind fun dir =>
        (takeOnce readFormat? none (valuesOf "export_format" members)).map fun format =>
          ofGiven ⟨dir, format⟩ := by
  have read : (Given.ofJson (Utf8.encode text)).toOption =
      members.foldlM form.takeMember? ⟨none, none⟩ := by
    rw [Given.ofJson, Json.RecordForm.read_objectText
      (fun member inside => takesMember (written.isValue member inside)) written]
    exact Option.bind_fun_some _
  have mapped : (ofJson (Utf8.encode text)).toOption =
      (Given.ofJson (Utf8.encode text)).toOption.map ofGiven := by
    rw [ofJson]
    cases Given.ofJson (Utf8.encode text) <;> rfl
  rw [mapped, read, foldlM_takeMember?]
  cases takeOnce readDir? none (valuesOf "export_dir" members) with
  | none => rfl
  | some dir => cases takeOnce readFormat? none (valuesOf "export_format" members) <;> rfl

/-- The text that an object gives for a name, which it may do once: `none` where it does not. -/
inductive GivesText (name : String) (members : List (String × List Char)) : Option String → Prop
  | missing (noValue : valuesOf name members = []) : GivesText name members none
  | once {value : List Char} {s : String} (only : valuesOf name members = [value])
      (literal : Literal s value) : GivesText name members (some s)

theorem takeOnce_dir {dir : Option String} (gives : GivesText "export_dir" members dir) :
    takeOnce readDir? none (valuesOf "export_dir" members) = some (dir.map .ofString) := by
  cases gives with
  | missing noValue =>
      rw [noValue]
      rfl
  | once only literal =>
      rw [only, Json.takeOnce_one, readDir?_literal literal]
      rfl

theorem takeOnce_format {spelling : Option String} {format : Option ExportFormat}
    (gives : GivesText "export_format" members spelling)
    (named : spelling.map asciiLower = format.map ExportFormat.tag) :
    takeOnce readFormat? none (valuesOf "export_format" members) = some format := by
  cases gives with
  | missing noValue =>
      rw [Option.map_none, eq_comm, Option.map_eq_none_iff] at named
      rw [noValue, named]
      rfl
  | once only literal =>
      rw [Option.map_some, eq_comm, Option.map_eq_some_iff] at named
      obtain ⟨format, rfl, tag⟩ := named
      rw [only, Json.takeOnce_one, readFormat?_literal literal tag.symm]
      rfl

/-- The names that settings know. -/
def fieldNames : List String := ["export_dir", "export_format"]

private theorem valuesOf_filter (known : name ∈ fieldNames) :
    valuesOf name (members.filter fun member => decide (member.1 ∈ fieldNames)) =
      valuesOf name members := by
  have same : ∀ member : String × List Char,
      (decide (member.1 = name) && decide (member.1 ∈ fieldNames)) = decide (member.1 = name) := by
    intro member
    by_cases named : member.1 = name
    · rw [named, decide_eq_true known, Bool.and_true]
    · rw [decide_eq_false named, Bool.false_and]
  rw [valuesOf, valuesOf, List.filter_filter]
  simp only [same]

private theorem ofJson_refused (written : ObjectText members text)
    (refused : takeOnce readDir? none (valuesOf "export_dir" members) = none ∨
      takeOnce readFormat? none (valuesOf "export_format" members) = none) :
    ∃ fault, ofJson (Utf8.encode text) = .error fault := by
  have read := ofJson_fields written
  have none : (ofJson (Utf8.encode text)).toOption = none := by
    rcases refused with dir | format
    · rw [read, dir]
      rfl
    · rw [read, format]
      cases takeOnce readDir? none (valuesOf "export_dir" members) <;> rfl
  cases result : ofJson (Utf8.encode text) with
  | error fault => exact ⟨fault, rfl⟩
  | ok settings =>
      rw [result] at none
      contradiction

/-- Settings from the text of any object. Each field is what its member denotes, and its default
where there is no such member; the order does not count, and all other members may come and go. A
field that is given twice, as something else than a text or in an unknown spelling makes the whole
unreadable. -/
theorem ofJson_objectText (written : ObjectText members text) :
    (∀ (dir spelling : Option String) (format : Option ExportFormat),
      GivesText "export_dir" members dir → GivesText "export_format" members spelling →
      spelling.map asciiLower = format.map ExportFormat.tag →
      ofJson (Utf8.encode text) =
        .ok ⟨(dir.map .ofString).getD default.exportDir, format.getD default.exportFormat⟩) ∧
    (∀ name ∈ fieldNames, 2 ≤ (valuesOf name members).length →
      ∃ fault, ofJson (Utf8.encode text) = .error fault) ∧
    (∀ name ∈ fieldNames, ∀ value ∈ valuesOf name members, (∀ s, ¬ Literal s value) →
      ∃ fault, ofJson (Utf8.encode text) = .error fault) ∧
    (∀ value ∈ valuesOf "export_format" members, ∀ s, Literal s value →
      (∀ format : ExportFormat, asciiLower s ≠ format.tag) →
      ∃ fault, ofJson (Utf8.encode text) = .error fault) ∧
    (∀ others otherText, ObjectText others otherText →
      (members.filter fun member => decide (member.1 ∈ fieldNames)).Perm
        (others.filter fun member => decide (member.1 ∈ fieldNames)) →
      (ofJson (Utf8.encode otherText)).toOption = (ofJson (Utf8.encode text)).toOption) := by
  refine ⟨?given, ?twice, ?noText, ?unknown, ?same⟩
  case given =>
    intro dir spelling format givesDir givesFormat named
    have read := ofJson_fields written
    rw [takeOnce_dir givesDir, takeOnce_format givesFormat named] at read
    exact Json.eq_ok_of_toOption read
  case twice =>
    intro name known twice
    refine ofJson_refused written ?_
    simp only [fieldNames, List.mem_cons, List.not_mem_nil, or_false] at known
    rcases known with rfl | rfl
    · exact Or.inl (Json.takeOnce_twice twice)
    · exact Or.inr (Json.takeOnce_twice twice)
  case noText =>
    intro name known value given noText
    obtain ⟨member, inside, rfl⟩ := Json.mem_valuesOf given
    have isValue := written.isValue member inside
    refine ofJson_refused written ?_
    simp only [fieldNames, List.mem_cons, List.not_mem_nil, or_false] at known
    rcases known with rfl | rfl
    · exact Or.inl (Json.takeOnce_refused given (readDir?_no_text isValue noText))
    · exact Or.inr (Json.takeOnce_refused given (readFormat?_no_text isValue noText))
  case unknown =>
    intro value given s literal unknown
    exact ofJson_refused written
      (Or.inr (Json.takeOnce_refused given (readFormat?_unknown literal unknown)))
  case same =>
    intro others otherText otherWritten perm
    have same : ∀ name ∈ fieldNames, (valuesOf name members).Perm (valuesOf name others) := by
      intro name known
      rw [← @valuesOf_filter members name known, ← @valuesOf_filter others name known]
      exact (perm.filter _).map _
    rw [ofJson_fields written, ofJson_fields otherWritten,
      Json.takeOnce_of_perm (same "export_dir" (by decide)),
      Json.takeOnce_of_perm (same "export_format" (by decide))]

/-- An object with a value to pass over, a name written with an escape and a format in mixed
case. -/
def mixedText : String :=
  " \x7b \"n\": [\x7b \x7d,-0.5e+1] ,\n\"\\u0065xport_dir\" :\"out\", \"export_format\":\"PnG\"\x7d"

theorem objectText_mixedText :
    ObjectText [("n", "[\x7b \x7d,-0.5e+1]".toList), ("export_dir", "\"out\"".toList),
      ("export_format", "\"PnG\"".toList)] mixedText.toList := by
  have none : Json.Spaces [] := List.forall_mem_nil _
  have space : Json.Spaces [' '] := List.forall_mem_singleton.2 (by decide)
  have line : Json.Spaces ['\n'] := List.forall_mem_singleton.2 (by decide)
  have digit : ∀ c : Char, c.isDigit = true → Json.Digits [c] :=
    fun c isDigit => ⟨List.cons_ne_nil _ _, List.forall_mem_singleton.2 isDigit⟩
  have number : Json.NumberText "-0.5e+1".toList :=
    @Json.NumberText.mk ['-'] ['0'] ['.', '5'] ['e', '+', '1'] (by decide) (digit '0' rfl)
      (fun _ => rfl) (.digits (digit '5' rfl))
      (@Json.Power.digits 'e' ['+'] ['1'] (by decide) (by decide) (digit '1' rfl))
  have items : Json.Derives (.inside .list) "\x7b \x7d,-0.5e+1".toList :=
    .more (.item none) (.empty .object space) none (.last (.item none) (.number number) none)
  have key : Literal "export_dir" "\"\\u0065xport_dir\"".toList :=
    ⟨_, .cons (.unit ⟨'0', '0', '6', '5', 0, 0, 6, 5, rfl, by decide, by decide, by decide,
      by decide, by decide⟩) (Json.denotes_escaped "xport_dir".toList), rfl⟩
  have n : Json.MemberText ("n", "[\x7b \x7d,-0.5e+1]".toList)
      " \"n\": [\x7b \x7d,-0.5e+1] ".toList :=
    ⟨[' '], _, [], [' '], [' '], space, Json.literal_quote "n", none, space, .brackets items,
      space, rfl⟩
  have dir : Json.MemberText ("export_dir", "\"out\"".toList)
      "\n\"\\u0065xport_dir\" :\"out\"".toList :=
    ⟨['\n'], _, [' '], [], [], line, key, space, none,
      (Json.literal_quote "out").isValue, none, rfl⟩
  have format : Json.MemberText ("export_format", "\"PnG\"".toList)
      " \"export_format\":\"PnG\"".toList :=
    ⟨[' '], _, [], [], [], space, Json.literal_quote "export_format", none, none,
      (Json.literal_quote "PnG").isValue, none, rfl⟩
  exact .members space (.more n (.more dir (.last format))) none

theorem ofJson_objectText_mixed :
    ofJson (Utf8.ofString mixedText) = .ok ⟨.ofString "out", .png⟩ :=
  (ofJson_objectText objectText_mixedText).1 (some "out") (some "PnG") (some .png)
    (.once rfl (Json.literal_quote "out")) (.once rfl (Json.literal_quote "PnG")) (by decide)

end IconCatalog.Settings
