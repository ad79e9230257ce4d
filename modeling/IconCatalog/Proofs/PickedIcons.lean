import IconCatalog.Command.Arguments
import IconCatalog.Proofs.ArgumentReading
import IconCatalog.Proofs.JsonGrammar
import IconCatalog.Run
import Mathlib.Data.List.Nodup
set_option autoImplicit false

namespace IconCatalog

namespace Catalog

variable {icon other wider : Image} {size larger : UInt64}

/-- The right icon for a size: the narrowest of those that are wide enough, or the widest of all
where none is. -/
inductive Chosen (size : UInt64) (icon : Image) : Prop
  | narrowest (mem : icon ∈ icons) (fits : size ≤ icon.width)
      (least : ∀ other ∈ icons, size ≤ other.width → icon.width ≤ other.width)
  | widest (mem : icon ∈ icons) (tooLarge : ∀ other ∈ icons, other.width < size)
      (most : ∀ other ∈ icons, other.width ≤ icon.width)

theorem Chosen.mem (chosen : Chosen size icon) : icon ∈ icons := by
  cases chosen with
  | narrowest mem _ _ => exact mem
  | widest mem _ _ => exact mem

theorem Chosen.width_le (grows : size ≤ larger) (chosen : Chosen size icon)
    (chosen' : Chosen larger wider) : icon.width ≤ wider.width := by
  cases chosen with
  | narrowest mem fits least =>
      cases chosen' with
      | narrowest mem' fits' _ => exact least wider mem' (UInt64.le_trans grows fits')
      | widest _ _ most => exact most icon mem
  | widest mem tooLarge _ =>
      -- What is too large once stays so.
      have tooLarge' : ∀ other ∈ icons, other.width < larger := fun other inside =>
        UInt64.lt_of_lt_of_le (tooLarge other inside) grows
      cases chosen' with
      | narrowest mem' fits' _ => exact absurd fits' (UInt64.not_le.2 (tooLarge' wider mem'))
      | widest _ _ most => exact most icon mem

theorem widths : icons.map Image.width = sizes := rfl

theorem icons_ascend : icons.Pairwise fun icon wider => icon.width < wider.width := by
  rw [← List.pairwise_map, widths]
  decide

theorem eq_of_width_eq (mem : icon ∈ icons) (mem' : other ∈ icons)
    (same : icon.width = other.width) : icon = other := by
  have distinct : (icons.map Image.width).Nodup := by
    rw [widths]
    decide
  exact List.inj_on_of_nodup_map distinct mem mem' same

theorem width_le_icon128 (mem : icon ∈ icons) : icon.width ≤ icon128.width := by
  have bounded : sizes.all (fun width => decide (width ≤ icon128.width)) = true := by decide
  have listed : icon.width ∈ sizes := by
    rw [← widths]
    exact List.mem_map_of_mem mem
  exact of_decide_eq_true (List.all_eq_true.1 bounded icon.width listed)

/-- Of ascending images the first that meets a condition is the narrowest that does. -/
theorem width_le_of_find? {images : List Image} {meets : Image → Bool}
    (ascend : images.Pairwise fun icon wider => icon.width < wider.width)
    (found : images.find? meets = some icon) (mem : other ∈ images) (also : meets other = true) :
    icon.width ≤ other.width := by
  obtain ⟨_, before, after, rfl, refused⟩ := List.find?_eq_some_iff_append.1 found
  rcases List.mem_append.1 mem with early | late
  · have refuses := refused other early
    rw [also] at refuses
    contradiction
  · rcases List.mem_cons.1 late with rfl | behind
    · exact UInt64.le_refl _
    · have rest := (List.pairwise_append.1 ascend).2.1
      exact UInt64.le_of_lt ((List.pairwise_cons.1 rest).1 other behind)

theorem chosen_iconForSize (size : UInt64) : Chosen size (iconForSize size) := by
  unfold iconForSize
  cases found : icons.find? fun image => decide (size ≤ image.width) with
  | some icon =>
      have fits := List.find?_some (p := fun image : Image => decide (size ≤ image.width)) found
      refine .narrowest (List.mem_of_find?_eq_some found) (of_decide_eq_true fits) ?_
      intro other inside fits'
      exact width_le_of_find? icons_ascend found inside (decide_eq_true fits')
  | none =>
      refine .widest ?_ ?_ fun other inside => width_le_icon128 inside
      · exact List.mem_of_getLast? rfl
      · intro other inside
        have refused := List.find?_eq_none.1 found other inside
        exact UInt64.not_le.1 fun fits => refused (decide_eq_true fits)

theorem Chosen.eq_iconForSize (chosen : Chosen size icon) : icon = iconForSize size := by
  have found := chosen_iconForSize size
  apply eq_of_width_eq chosen.mem found.mem
  exact UInt64.le_antisymm (chosen.width_le (UInt64.le_refl _) found)
    (found.width_le (UInt64.le_refl _) chosen)

end Catalog

namespace Command

open CommandLine

/-- A text for a number: decimal digits, maybe behind a plus sign. -/
def SizeText (s : String) (n : Nat) : Prop :=
  ∃ digits, Json.Digits digits ∧ (s.toList = digits ∨ s.toList = '+' :: digits) ∧
    Nat.ofDigitChars 10 digits 0 = n

variable {s : String} {n : Nat} {size : UInt64} {cs : List Char}

/-- The bound that holds at every digit is one on the whole number, as digits only enlarge it. -/
theorem readDigits_eq_ok_iff (small : n < UInt64.size) :
    readDigits n cs = .ok size ↔
      (∀ c ∈ cs, c.isDigit = true) ∧ Nat.ofDigitChars 10 cs n = size.toNat := by
  induction cs generalizing n with
  | nil =>
      rw [readDigits, Except.ok.injEq, Nat.ofDigitChars_nil]
      constructor
      · rintro rfl
        exact ⟨fun _ inside => absurd inside List.not_mem_nil,
          (UInt64.toNat_ofNat_of_lt' small).symm⟩
      · rintro ⟨_, rfl⟩
        exact UInt64.ofNat_toNat
  | cons c cs ih =>
      have next : n * 10 + (c.toNat - '0'.toNat) = 10 * n + (c.toNat - '0'.toNat) := by omega
      rw [readDigits, Nat.ofDigitChars_cons, next, List.forall_mem_cons]
      by_cases digit : c.isDigit = true
      · by_cases large : UInt64.size ≤ 10 * n + (c.toNat - '0'.toNat)
        · have grown := le_ofDigitChars (10 * n + (c.toNat - '0'.toNat)) cs
          have bound := size.toNat_lt_size
          simp only [digit, large, Bool.not_true, Bool.false_eq_true, ↓reduceIte]
          exact ⟨nofun, fun ⟨_, same⟩ => by omega⟩
        · simp only [digit, large, Bool.not_true, Bool.false_eq_true, ↓reduceIte, true_and]
          exact ih (Nat.lt_of_not_le large)
      · simp only [digit, Bool.not_false, ↓reduceIte, Bool.false_eq_true, false_and]
        exact ⟨nofun, nofun⟩

theorem sizeText_of_plus (signed : s.toList = '+' :: cs) :
    SizeText s n ↔ cs ≠ [] ∧ (∀ c ∈ cs, c.isDigit = true) ∧ Nat.ofDigitChars 10 cs 0 = n := by
  constructor
  · rintro ⟨digits, isDigits, bare | behind, value⟩
    · -- A plus sign is no digit.
      have sign := isDigits.2 '+' (by rw [← bare, signed]; exact List.mem_cons_self)
      contradiction
    · rw [signed] at behind
      obtain rfl := List.tail_eq_of_cons_eq behind
      exact ⟨isDigits.1, isDigits.2, value⟩
  · rintro ⟨filled, digits, value⟩
    exact ⟨cs, ⟨filled, digits⟩, .inr signed, value⟩

theorem sizeText_of_no_plus (unsigned : ∀ rest, s.toList ≠ '+' :: rest) :
    SizeText s n ↔ s.toList ≠ [] ∧ (∀ c ∈ s.toList, c.isDigit = true) ∧
      Nat.ofDigitChars 10 s.toList 0 = n := by
  constructor
  · rintro ⟨digits, isDigits, rfl | behind, value⟩
    · exact ⟨isDigits.1, isDigits.2, value⟩
    · exact absurd behind (unsigned digits)
  · rintro ⟨filled, digits, value⟩
    exact ⟨s.toList, ⟨filled, digits⟩, .inl rfl, value⟩

theorem parseSize_eq_ok_iff : parseSize s = .ok size ↔ SizeText s size.toNat := by
  have small : 0 < UInt64.size := by decide
  unfold parseSize
  split
  · rename_i empty
    rw [sizeText_of_no_plus (by rw [empty]; exact nofun)]
    exact ⟨nofun, fun ⟨filled, _⟩ => absurd empty filled⟩
  · rename_i cs signed
    rw [sizeText_of_plus signed]
    split
    · rename_i empty
      exact ⟨nofun, fun ⟨filled, _⟩ => absurd empty filled⟩
    · rename_i filled
      rw [readDigits_eq_ok_iff small]
      exact (and_iff_right filled).symm
  · rename_i filled unsigned
    rw [sizeText_of_no_plus unsigned, readDigits_eq_ok_iff small]
    exact (and_iff_right filled).symm

/-- Zeros in front take no room in the word. -/
example : parseSize "+000000000000000000000000040" = .ok 40 := by rfl

theorem SizeText.no_hyphen (text : SizeText s n) : s.toList.head? ≠ some '-' := by
  obtain ⟨digits, isDigits, bare | behind, _⟩ := text
  · rw [bare]
    intro first
    have sign := isDigits.2 '-' (List.mem_of_head? first)
    contradiction
  · rw [behind]
    exact fun first => absurd (Option.some.inj first) (by decide)

theorem ofArguments_pickForm (arguments : List Bytes) :
    ofArguments (Utf8.ofString "pick" :: arguments) =
      (pickForm.read arguments).bind fun size =>
        match size.map .pick with
        | some command => .ok command
        | none => .error (.help pickForm.help) :=
  rfl

theorem read_pickForm_eq_ok_iff {draft : Option UInt64} :
    pickForm.read [Utf8.ofString s] = .ok draft ↔
      ∃ size : UInt64, SizeText s size.toNat ∧ draft = some size := by
  rw [Form.read_one_eq_ok_iff rfl rfl rfl, parsedValue_ofString]
  simp only [parseSize_eq_ok_iff]
  constructor
  · rintro ⟨_, size, text, stored⟩
    exact ⟨size, text, stored.symm⟩
  · rintro ⟨size, text, stored⟩
    exact ⟨Token.of_plain (plain_ofString text.no_hyphen), size, text, stored.symm⟩

theorem ofArguments_pick_eq_ok_iff {command : Command} :
    ofArguments [Utf8.ofString "pick", Utf8.ofString s] = .ok command ↔
      ∃ size : UInt64, SizeText s size.toNat ∧ command = .pick size := by
  rw [ofArguments_pickForm]
  constructor
  · intro read
    cases whole : pickForm.read [Utf8.ofString s] with
    | error halt =>
        rw [whole] at read
        contradiction
    | ok draft =>
        obtain ⟨size, text, rfl⟩ := read_pickForm_eq_ok_iff.1 whole
        rw [whole] at read
        cases read
        exact ⟨size, text, rfl⟩
  · rintro ⟨size, text, rfl⟩
    rw [read_pickForm_eq_ok_iff.2 ⟨size, text, rfl⟩]
    rfl

/-- An argument is a size just when it writes a number of 64 bits. For a size the name of the one
right icon is printed, and for a larger size that of no narrower one. -/
theorem picks_chosen_icon :
    (∀ s command, ofArguments [Utf8.ofString "pick", Utf8.ofString s] = .ok command ↔
      ∃ n, SizeText s n ∧ n < UInt64.size ∧ command = .pick (UInt64.ofNat n)) ∧
    (∀ size, ∃! icon, Catalog.Chosen size icon) ∧
    (∀ size icon, Catalog.Chosen size icon → ∀ {ε : Type} (loader : Loader ε) session,
      (Command.pick size).run loader (.start session none) =
        .ok () { Run.start session none with printed := Utf8.ofString (icon.name ++ "\n") }) ∧
    ∀ size larger icon wider, size ≤ larger → Catalog.Chosen size icon →
      Catalog.Chosen larger wider → icon.width ≤ wider.width := by
  refine ⟨fun s command => ?reading, fun size => ?unique, fun size icon chosen => ?printing,
    fun size larger icon wider grows chosen chosen' => chosen.width_le grows chosen'⟩
  case reading =>
    rw [ofArguments_pick_eq_ok_iff]
    constructor
    · rintro ⟨size, text, rfl⟩
      exact ⟨size.toNat, text, size.toNat_lt_size, by rw [UInt64.ofNat_toNat]⟩
    · rintro ⟨n, text, small, rfl⟩
      have word : (UInt64.ofNat n).toNat = n := UInt64.toNat_ofNat_of_lt' small
      exact ⟨UInt64.ofNat n, by rwa [word], rfl⟩
  case unique =>
    exact ⟨Catalog.iconForSize size, Catalog.chosen_iconForSize size,
      fun other chosen => chosen.eq_iconForSize⟩
  case printing =>
    intro ε loader session
    rw [chosen.eq_iconForSize]
    rfl

end Command

end IconCatalog
