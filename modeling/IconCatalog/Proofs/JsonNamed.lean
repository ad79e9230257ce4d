import IconCatalog.Json.Named
import IconCatalog.Proofs.JsonText
set_option autoImplicit false

namespace IconCatalog.Json

def FittingDigits (cs : List Char) : Prop :=
  Digits cs ∧ Nat.ofDigitChars 10 cs 0 < UInt64.size

/-- What tells the place of a fault at the end of a message. -/
inductive PlaceText : List Char → Prop
  | mk {line column : List Char} (isLine : FittingDigits line) (isColumn : FittingDigits column) :
      PlaceText (" at line ".toList ++ (line ++ (" column ".toList ++ column)))

theorem beforeEnding?_eq_some_iff {ending text front : List Char} :
    beforeEnding? ending text = some front ↔ text = front ++ ending := by
  have shorter (front : List Char) :
      (front ++ ending).take ((front ++ ending).length - ending.length) = front := by
    rw [List.length_append, Nat.add_sub_cancel, List.take_left]
  unfold beforeEnding?
  constructor
  · intro found
    split at found
    · rename_i ends
      obtain ⟨start, rfl⟩ := List.isSuffixOf_iff_suffix.1 ends
      rw [shorter] at found
      cases found
      rfl
    · contradiction
  · rintro rfl
    rw [if_pos (List.isSuffixOf_iff_suffix.2 (List.suffix_append _ _)), shorter]

/-- The digits at the end of a text are all those behind the last other character. -/
theorem trailingDigits_append {front digits : List Char} (isDigits : ∀ c ∈ digits, c.isDigit = true)
    (stops : ∀ c, front.getLast? = some c → c.isDigit = false) :
    ((front ++ digits).reverse.takeWhile Char.isDigit).reverse = digits := by
  have none : front.reverse.takeWhile Char.isDigit = [] := by
    cases last : front.reverse with
    | nil => rfl
    | cons c rest =>
        have noDigit := stops c (by rw [List.getLast?_eq_head?_reverse, last]; rfl)
        rw [List.takeWhile_cons_of_neg (by rw [noDigit]; decide)]
  have reversed : ∀ c ∈ digits.reverse, c.isDigit = true := fun c inside =>
    isDigits c (List.mem_reverse.1 inside)
  rw [List.reverse_append, List.takeWhile_append_of_pos reversed, none, List.append_nil,
    List.reverse_reverse]

theorem beforeNumber?_append {front digits : List Char} (number : FittingDigits digits)
    (stops : ∀ c, front.getLast? = some c → c.isDigit = false) :
    beforeNumber? (front ++ digits) = some front := by
  have condition := And.intro number.1.1 number.2
  simp only [beforeNumber?, trailingDigits_append number.1.2 stops, if_pos condition,
    List.length_append, Nat.add_sub_cancel, List.take_left]

theorem eq_append_of_beforeNumber? {text front : List Char}
    (found : beforeNumber? text = some front) :
    ∃ digits, FittingDigits digits ∧ text = front ++ digits := by
  have whole : text = (text.reverse.dropWhile Char.isDigit).reverse ++
      (text.reverse.takeWhile Char.isDigit).reverse := by
    rw [← List.reverse_append, List.takeWhile_append_dropWhile, List.reverse_reverse]
  have isDigits : ∀ c ∈ (text.reverse.takeWhile Char.isDigit).reverse, c.isDigit = true :=
    fun c inside => List.all_eq_true.1 List.all_takeWhile c (List.mem_reverse.1 inside)
  unfold beforeNumber? at found
  generalize (text.reverse.takeWhile Char.isDigit).reverse = digits at whole isDigits found
  simp only at found
  split at found
  · rename_i condition
    refine ⟨digits, ⟨⟨condition.1, isDigits⟩, condition.2⟩, ?_⟩
    rw [whole, List.length_append, Nat.add_sub_cancel, List.take_left] at found
    rwa [Option.some.inj found] at whole
  · contradiction

theorem beforeLocation?_eq_some_iff {text front : List Char} :
    beforeLocation? text = some front ↔ ∃ place, PlaceText place ∧ text = front ++ place := by
  constructor
  · intro found
    simp only [beforeLocation?, Option.bind_eq_some_iff, beforeEnding?_eq_some_iff] at found
    obtain ⟨_, column, _, rfl, _, line, rfl⟩ := found
    obtain ⟨columnDigits, isColumn, rfl⟩ := eq_append_of_beforeNumber? column
    obtain ⟨lineDigits, isLine, split⟩ := eq_append_of_beforeNumber? line
    refine ⟨_, .mk isLine isColumn, ?_⟩
    rw [split]
    simp only [List.append_assoc]
  · rintro ⟨_, @⟨line, column, isLine, isColumn⟩, rfl⟩
    -- Both words end in a blank, so the digits behind them go no further to the front.
    have stops (front word : List Char) (blank : word.getLast? = some ' ') :
        ∀ c, (front ++ word).getLast? = some c → c.isDigit = false := by
      intro c last
      rw [List.getLast?_append, blank, Option.some_or] at last
      cases last
      rfl
    have number := beforeNumber?_append isColumn
      (stops (front ++ (" at line ".toList ++ line)) " column ".toList rfl)
    have number' := beforeNumber?_append isLine (stops front " at line ".toList rfl)
    have ending : beforeEnding? " column ".toList
        (front ++ (" at line ".toList ++ line) ++ " column ".toList) =
        some (front ++ " at line ".toList ++ line) := by
      simp only [beforeEnding?_eq_some_iff, List.append_assoc]
    have ending' : beforeEnding? " at line ".toList (front ++ " at line ".toList) = some front :=
      beforeEnding?_eq_some_iff.2 rfl
    simp only [List.append_assoc] at number number' ending ending'
    rw [beforeLocation?, number, Option.bind_some, ending, Option.bind_some, number',
      Option.bind_some, ending']

theorem withoutLocation_of_place {message : String} {front place : List Char}
    (isPlace : PlaceText place) (ends : message.toList = front ++ place) :
    withoutLocation message = String.ofList front := by
  rw [withoutLocation, beforeLocation?_eq_some_iff.2 ⟨place, isPlace, ends⟩]

theorem withoutLocation_of_no_place {message : String}
    (noPlace : ∀ front place, PlaceText place → message.toList ≠ front ++ place) :
    withoutLocation message = message := by
  have none : beforeLocation? message.toList = none := by
    refine Option.eq_none_iff_forall_ne_some.2 fun front found => ?_
    obtain ⟨place, isPlace, ends⟩ := beforeLocation?_eq_some_iff.1 found
    exact noPlace front place isPlace ends
  rw [withoutLocation, none]

theorem readWhole_named {α ε : Type} (parse : String → Except ε α) (message : ε → String)
    {s : String} {text : List Char} (literal : Literal s text) :
    readWhole (readNamed parse message) (Utf8.encode text) =
      match parse s with
      | .ok value => .ok value
      | .error e => .error (.refused (withoutLocation (message e))) := by
  have read := readString_literal "a string" literal (List.forall_mem_nil _) []
  rw [List.nil_append, List.append_nil] at read
  rw [readWhole, readNamed, read]
  cases accepted : parse s with
  | error e => simp only [accepted]
  | ok value =>
      simp only [accepted]
      rfl

end IconCatalog.Json
