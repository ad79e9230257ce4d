import IconCatalog.Proofs.DividedText
import IconCatalog.Proofs.JsonMembers
import IconCatalog.Proofs.JsonWriting
import IconCatalog.Summary.Reading
set_option autoImplicit false

namespace IconCatalog.Summary

open Json (Reader Refines refines_named TakesValue spelled takesValue_decimal takesValue_readString
  valueOf? valueOf?_decimal valueOf?_literal)

section Fields

variable {α : Type} {name : String} {isSet : Draft → Bool} {reader : Reader α}
  {store : Draft → α → Draft} {draft next : Draft} {value : α} {text : List Char}

theorem refines_field :
    Refines ((field name isSet reader store).read draft) reader fun v => some (store draft v) :=
  Json.refines_map fun _ => rfl

variable (known : form.fields.find? (fun field => decide (field.name = name)) =
  some (field name isSet reader store))

include known

theorem takesMember_field (takes : TakesValue reader text) : form.TakesMember (name, text) := by
  intro other found draft
  rw [known] at found
  cases found
  exact refines_field.takesValue takes

theorem takeMember?_field (fresh : isSet draft = false) (read : valueOf? reader text = some value)
    (stored : store draft value = next) : form.takeMember? draft (name, text) = some next := by
  have unset : (field name isSet reader store).isSet draft = false := fresh
  rw [Json.RecordForm.takeMember?, known]
  simp only [unset, Bool.false_eq_true, ↓reduceIte]
  rw [refines_field.valueOf?, read, Option.bind_some, stored]

end Fields

theorem valueOf?_tag (format : PixelFormat) :
    valueOf? PixelFormat.reader (Json.quote format.tag).toList = some format := by
  have named := refines_named PixelFormat.parse UnknownPixelFormat.message
  rw [PixelFormat.reader, named.valueOf?, valueOf?_literal _ (Json.literal_quote format.tag),
    Option.bind_some, PixelFormat.parse_tag]
  rfl

theorem takesMember_spelled (s : Summary) :
    ∀ member ∈ s.members.map spelled, form.TakesMember member := by
  have text (expected t : String) := takesValue_readString expected (Json.literal_quote t).isValue
  have tag := (refines_named PixelFormat.parse UnknownPixelFormat.message).takesValue
    (text "a string" s.format.tag)
  intro member inside
  simp only [members, List.map_cons, List.map_nil, spelled, Json.Scalar.write, List.mem_cons,
    List.not_mem_nil, or_false] at inside
  rcases inside with rfl | rfl | rfl | rfl | rfl
  · exact takesMember_field rfl (text "a string" s.name)
  · exact takesMember_field rfl tag
  · exact takesMember_field rfl (takesValue_decimal s.width)
  · exact takesMember_field rfl (takesValue_decimal s.height)
  · exact takesMember_field rfl (takesValue_decimal s.byteLength)

/-- The draft takes the five members in the order in which they are written. -/
theorem foldlM_takeMember? (s : Summary) :
    (s.members.map spelled).foldlM form.takeMember? form.blank =
      some ⟨some s.name, some s.format, some s.width, some s.height, some s.byteLength⟩ := by
  have name : form.takeMember? form.blank ("name", (Json.quote s.name).toList) =
      some ⟨some s.name, none, none, none, none⟩ :=
    takeMember?_field rfl rfl (valueOf?_literal "a string" (Json.literal_quote s.name)) rfl
  have format : form.takeMember? ⟨some s.name, none, none, none, none⟩
      ("format", (Json.quote s.format.tag).toList) =
      some ⟨some s.name, some s.format, none, none, none⟩ :=
    takeMember?_field rfl rfl (valueOf?_tag s.format) rfl
  have width : form.takeMember? ⟨some s.name, some s.format, none, none, none⟩
      ("width", (decimal s.width).toList) =
      some ⟨some s.name, some s.format, some s.width, none, none⟩ :=
    takeMember?_field rfl rfl (valueOf?_decimal s.width) rfl
  have height : form.takeMember? ⟨some s.name, some s.format, some s.width, none, none⟩
      ("height", (decimal s.height).toList) =
      some ⟨some s.name, some s.format, some s.width, some s.height, none⟩ :=
    takeMember?_field rfl rfl (valueOf?_decimal s.height) rfl
  have byteLength : form.takeMember? ⟨some s.name, some s.format, some s.width, some s.height, none⟩
      ("byte_len", (decimal s.byteLength).toList) =
      some ⟨some s.name, some s.format, some s.width, some s.height, some s.byteLength⟩ :=
    takeMember?_field rfl rfl (valueOf?_decimal s.byteLength) rfl
  simp only [members, List.map_cons, List.map_nil, spelled, Json.Scalar.write, List.foldlM_cons,
    List.foldlM_nil, name, format, width, height, byteLength, Option.bind_eq_bind,
    Option.bind_some]
  rfl

/-- Whatever the name, the format and the sizes, a summary comes back from its JSON text, on one
line or with one member per line. -/
theorem ofJson_toJson (s : Summary) (layout : Json.Layout) :
    ofJson (Utf8.ofString (s.toJson layout)) = .ok s := by
  have read := Json.RecordForm.read_objectText s.takesMember_spelled
    (layout.objectText_object 0 s.members)
  rw [foldlM_takeMember?, Option.bind_some] at read
  exact Json.eq_ok_of_toOption read

theorem blank_not_mem_tag (format : PixelFormat) : ' ' ∉ format.tag.toList := by
  cases format <;> decide

/-- A line loses nothing: it is that of one summary only, whatever the name of this one holds. It is
read from its end, where the marks between the format and the sizes are the last of their kind. -/
theorem line_inj {s t : Summary} : s.line = t.line ↔ s = t := by
  constructor
  · -- From the end: no field behind a mark holds the blank or the `x` of the mark.
    intro same
    rw [line, line, String.append_left_inj] at same
    obtain ⟨untilTag, byteLength⟩ :=
      eq_of_append_decimal (by decide : ' ' ∈ ", ".toList) rfl same
    obtain ⟨untilHeight, tag⟩ := eq_of_append_mark (by decide : ' ' ∈ ", ".toList)
      (blank_not_mem_tag s.format) (blank_not_mem_tag t.format) untilTag
    obtain ⟨untilWidth, height⟩ :=
      eq_of_append_decimal (by decide : 'x' ∈ "x".toList) rfl untilHeight
    obtain ⟨name, width⟩ := eq_of_append_decimal (by decide : ' ' ∈ " ".toList) rfl untilWidth
    have format := PixelFormat.tag_injective tag
    cases s
    cases t
    rw [mk.injEq]
    exact ⟨name, format, width, height, byteLength⟩
  · exact congrArg line

/-- A name that is a line itself is not taken for one. -/
example : (⟨"a 1x1, nrgba, 4 bytes", .nrgba, 1, 1, 4⟩ : Summary).line ≠
    (⟨"a", .nrgba, 1, 1, 4⟩ : Summary).line := by decide

end IconCatalog.Summary
