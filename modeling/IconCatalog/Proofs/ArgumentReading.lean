import IconCatalog.Command.Forms
import IconCatalog.Proofs.Utf8Canonical
set_option autoImplicit false

namespace IconCatalog.CommandLine

def Plain (argument : Bytes) : Prop := argument.head? ≠ some hyphen

instance (argument : Bytes) : Decidable (Plain argument) := inferInstanceAs (Decidable (_ ≠ _))

theorem plain_ofString {s : String} (noHyphen : s.toList.head? ≠ some '-') :
    Plain (Utf8.ofString s) :=
  fun first => noHyphen (Utf8.head?_of_head?_encode (by decide) first)

theorem Token.of_plain {argument : Bytes} (plain : Plain argument) :
    Token.of argument = .word argument := by
  cases argument with
  | nil => rfl
  | cons b rest =>
      have other : b ≠ hyphen := fun same => plain (by rw [same]; rfl)
      simp only [Token.of, ne_eq, other, not_false_eq_true, ↓reduceIte]

theorem Token.eq_of_word {argument word : Bytes} (isWord : Token.of argument = .word word) :
    word = argument := by
  unfold Token.of at isWord
  split at isWord
  · cases isWord
    rfl
  split at isWord
  · cases isWord
    rfl
  split at isWord
  · rename_i hyphen _
    cases isWord
    rfl
  split at isWord
  · contradiction
  split at isWord
  · contradiction
  · unfold Token.ofLong at isWord
    split at isWord <;> contradiction

def joinedFront (name : String) : Bytes := Utf8.ofString ("--" ++ name ++ "=")

/-- An option with its value, in one argument or in two. -/
inductive Written (name : String) (value : Bytes) : List Bytes → Prop
  | joined : Written name value [joinedFront name ++ value]
  | apart (plain : Plain value) : Written name value [Utf8.ofString ("--" ++ name), value]

/-- A name that can be told from its value. -/
def Nameable (name : String) : Prop :=
  Utf8.ofString name ≠ [] ∧ equalsSign ∉ Utf8.ofString name

theorem Nameable.bytes_ne {name : String} (nameable : Nameable name) :
    ∀ b ∈ Utf8.ofString name, (b != equalsSign) = true :=
  fun _ inside => bne_iff_ne.2 fun same => nameable.2 (same ▸ inside)

theorem Token.of_bare {name : String} (nameable : Nameable name) :
    Token.of (Utf8.ofString ("--" ++ name)) = .long (Utf8.ofString name) none := by
  have split : Utf8.ofString ("--" ++ name) = hyphen :: hyphen :: Utf8.ofString name :=
    Utf8.ofString_append "--" name
  have rest : (Utf8.ofString name).dropWhile (· != equalsSign) = [] := by
    rw [← List.append_nil (Utf8.ofString name), List.dropWhile_append_of_pos nameable.bytes_ne]
    rfl
  rw [split, Token.of]
  simp only [ne_eq, not_true_eq_false, ↓reduceIte, nameable.1, Token.ofLong, rest]

theorem Token.of_joined {name : String} (nameable : Nameable name) (value : Bytes) :
    Token.of (joinedFront name ++ value) = .long (Utf8.ofString name) (some value) := by
  have split : joinedFront name ++ value =
      hyphen :: hyphen :: (Utf8.ofString name ++ equalsSign :: value) := by
    rw [joinedFront, Utf8.ofString_append, Utf8.ofString_append, List.append_assoc]
    rfl
  have front : (Utf8.ofString name ++ equalsSign :: value).takeWhile (· != equalsSign) =
      Utf8.ofString name := by
    rw [List.takeWhile_append_of_pos nameable.bytes_ne, List.takeWhile_cons_of_neg (by decide),
      List.append_nil]
  have rest : (Utf8.ofString name ++ equalsSign :: value).dropWhile (· != equalsSign) =
      equalsSign :: value := by
    rw [List.dropWhile_append_of_pos nameable.bytes_ne, List.dropWhile_cons_of_neg (by decide)]
  have filled : Utf8.ofString name ++ equalsSign :: value ≠ [] :=
    List.append_ne_nil_of_right_ne_nil _ (List.cons_ne_nil _ _)
  rw [split, Token.of]
  simp only [ne_eq, not_true_eq_false, ↓reduceIte, filled, Token.ofLong, rest, front]

variable {δ : Type} {form : Form δ} {state : State δ} {draft next : δ} {given : List String}

/-- What a reader comes to: the draft and the names of the options given for it, when what waits is
stored. In these terms a word and an option with its value are one step each. -/
def Form.Holds (form : Form δ) (state : State δ) (draft : δ) (given : List String) : Prop :=
  ∃ settled, form.settle state = .ok settled ∧ settled.draft = draft ∧ settled.given = given

theorem holds_start (form : Form δ) : form.Holds form.start form.blank [] := ⟨_, rfl, rfl, rfl⟩

structure Form.Takes (form : Form δ) (switch : Switch δ)
    (store : Bytes → δ → Except ValueFault δ) : Prop where
  found : form.switches.find? (fun other =>
    decide (Utf8.ofString other.name = Utf8.ofString switch.name)) = some switch
  noHelp : Utf8.ofString switch.name ≠ Utf8.ofString helpSwitch
  nameable : Nameable switch.name
  taking : ∃ label, switch.taking = .value label store

def Form.Repeats (form : Form δ) (operand : Operand δ) : Prop :=
  form.operand = some operand ∧ operand.repeats = true

theorem storeOperands_append (operand : Operand δ) (values more : List Bytes) (draft : δ) :
    storeOperands operand (values ++ more) draft =
      (storeOperands operand values draft).bind (storeOperands operand more) := by
  induction values generalizing draft with
  | nil => rfl
  | cons value values ih =>
      rw [List.cons_append, storeOperands, storeOperands]
      cases operand.store value draft with
      | error fault => rfl
      | ok draft => exact ih draft

theorem storeOperands_one {operand : Operand δ} {value : Bytes}
    (stored : operand.store value draft = .ok next) :
    storeOperands operand [value] draft = .ok next := by
  rw [storeOperands, stored]
  rfl

section Steps

variable {switch : Switch δ} {operand : Operand δ} {value : Bytes}
  {store : Bytes → δ → Except ValueFault δ}

theorem storeSwitch_eq_ok {label : String} (taking : switch.taking = .value label store)
    (fresh : switch.name ∉ state.given) (stored : store value state.draft = .ok next) :
    storeSwitch switch value state =
      .ok { state with draft := next, given := switch.name :: state.given, waiting := .nothing } := by
  simp only [storeSwitch, taking, storeOnce, fresh, ↓reduceIte, stored]

/-- An operand waits behind those before it, or alone when what waited before is stored. -/
theorem Form.Holds.addOperand (holds : form.Holds state draft given)
    (repeats : form.Repeats operand) (stored : operand.store value draft = .ok next) :
    ∃ after, form.addOperand state value = .ok after ∧ form.Holds after next given := by
  obtain ⟨settled, settles, rfl, rfl⟩ := holds
  obtain ⟨has, many⟩ := repeats
  have alone : form.Holds { settled with operandGiven := true, waiting := .operands [value] } next
      settled.given := by
    refine ⟨{ settled with draft := next, operandGiven := true, waiting := .nothing }, ?_, rfl, rfl⟩
    simp only [Form.settle, has, List.reverse_singleton, storeOperands_one stored, Except.map]
  cases waits : state.waiting with
  | operands reversed =>
      simp only [Form.settle, waits, has] at settles
      cases before : storeOperands operand reversed.reverse state.draft with
      | error fault =>
          rw [before] at settles
          contradiction
      | ok last =>
          rw [before] at settles
          cases settles
          refine ⟨{ state with waiting := .operands (value :: reversed) }, ?_, ?_⟩
          · simp only [Form.addOperand, has, many, waits, Bool.not_true, Bool.false_and,
              Bool.false_eq_true, ↓reduceIte]
          · refine ⟨{ state with draft := next, waiting := .nothing }, ?_, rfl, rfl⟩
            simp only [Form.settle, has, List.reverse_cons, storeOperands_append, before,
              Except.bind, storeOperands_one stored, Except.map]
  | nothing | bare _ | valued _ _ =>
      refine ⟨_, ?_, alone⟩
      simp only [Form.addOperand, has, many, waits, Bool.not_true, Bool.false_and,
        Bool.false_eq_true, ↓reduceIte, settles, Except.map]

theorem Form.Holds.addWord (holds : form.Holds state draft given)
    (repeats : form.Repeats operand) (stored : operand.store value draft = .ok next) :
    ∃ after, form.addWord state value = .ok after ∧ form.Holds after next given := by
  have asOperand : form.addWord state value = form.addOperand state value := by
    unfold Form.addWord
    split
    · -- An option that still waits for its value holds nothing.
      rename_i waits
      obtain ⟨settled, settles, _⟩ := holds
      rw [Form.settle, waits] at settles
      contradiction
    · rfl
  rw [asOperand]
  exact holds.addOperand repeats stored

theorem Form.Holds.addOperands {values : List Bytes} (holds : form.Holds state draft given)
    (repeats : form.Repeats operand) (stored : storeOperands operand values draft = .ok next) :
    ∃ after, form.addOperands state values = .ok after ∧ form.Holds after next given := by
  induction values generalizing state draft with
  | nil =>
      cases stored
      exact ⟨state, rfl, holds⟩
  | cons value values ih =>
      rw [storeOperands] at stored
      cases first : operand.store value draft with
      | error fault =>
          rw [first] at stored
          contradiction
      | ok middle =>
          rw [first] at stored
          obtain ⟨reached, added, holds⟩ := holds.addOperand repeats first
          obtain ⟨after, rest, holds⟩ := ih holds stored
          refine ⟨after, ?_, holds⟩
          rw [Form.addOperands, added]
          exact rest

theorem Form.Takes.addLong (takes : form.Takes switch store) (value : Option Bytes) :
    form.addLong state (Utf8.ofString switch.name) value =
      form.halt state (form.addSwitch state switch value) := by
  simp only [Form.addLong, takes.noHelp, ↓reduceIte, takes.found]

/-- An option with its value is stored at once when the two are one argument, and waits else. -/
theorem Form.Holds.addWritten {arguments : List Bytes} (holds : form.Holds state draft given)
    (takes : form.Takes switch store) (fresh : switch.name ∉ given)
    (stored : store value draft = .ok next) (written : Written switch.name value arguments) :
    ∃ after, (∀ rest, form.addArguments state (arguments ++ rest) =
        form.addArguments after rest) ∧
      form.Holds after next (switch.name :: given) := by
  obtain ⟨settled, settles, rfl, rfl⟩ := holds
  obtain ⟨label, taking⟩ := takes.taking
  cases written with
  | joined =>
      refine ⟨{ settled with
        draft := next, given := switch.name :: settled.given, waiting := .nothing }, ?_,
        _, rfl, rfl, rfl⟩
      intro rest
      rw [List.singleton_append, Form.addArguments, Token.of_joined takes.nameable]
      simp only [takes.addLong, Form.addSwitch, taking, settles, Except.bind,
        storeSwitch_eq_ok taking fresh stored, Form.halt]
  | apart plain =>
      refine ⟨{ settled with waiting := .valued switch value }, ?_,
        { settled with
          draft := next, given := switch.name :: settled.given, waiting := .nothing },
        storeSwitch_eq_ok taking fresh stored, rfl, rfl⟩
      intro rest
      rw [List.cons_append, List.singleton_append, Form.addArguments,
        Token.of_bare takes.nameable]
      simp only [takes.addLong, Form.addSwitch, taking, settles, Except.map, Form.halt,
        Except.bind, Form.addArguments, Token.of_plain plain, Form.addWord]

/-- An option whose value is refused ends the reading, whatever stands behind it. -/
theorem Form.Holds.refused {fault : ValueFault} (holds : form.Holds state draft given)
    (takes : form.Takes switch store) (refused : store value draft = .error fault)
    (rest : List Bytes) :
    ∃ halt, form.addArguments state ((joinedFront switch.name ++ value) :: rest) =
      .error halt := by
  obtain ⟨settled, settles, rfl, rfl⟩ := holds
  obtain ⟨label, taking⟩ := takes.taking
  have failed : ∃ fault, storeSwitch switch value settled = .error fault := by
    simp only [storeSwitch, taking, storeOnce, refused]
    split
    · exact ⟨_, rfl⟩
    · exact ⟨_, rfl⟩
  obtain ⟨fault, failed⟩ := failed
  refine ⟨.fault fault (form.advice state fault), ?_⟩
  rw [Form.addArguments, Token.of_joined takes.nameable]
  simp only [takes.addLong, Form.addSwitch, taking, settles, Except.bind, failed, Form.halt]

end Steps

section Runs

variable {operand : Operand δ} {arguments more : List Bytes} {last : δ}
  {givenNext givenLast : List String}

/-- Arguments that move every reader from one draft to another, whatever waits and whatever stands
behind them. -/
def Form.Moves (form : Form δ) (arguments : List Bytes) (draft : δ) (given : List String)
    (next : δ) (givenNext : List String) : Prop :=
  ∀ state, form.Holds state draft given → ∃ after,
    (∀ rest, form.addArguments state (arguments ++ rest) = form.addArguments after rest) ∧
    form.Holds after next givenNext

theorem Form.Moves.nil : form.Moves [] draft given draft given :=
  fun state holds => ⟨state, fun _ => rfl, holds⟩

theorem Form.Moves.append (first : form.Moves arguments draft given next givenNext)
    (second : form.Moves more next givenNext last givenLast) :
    form.Moves (arguments ++ more) draft given last givenLast := by
  intro state holds
  obtain ⟨middle, reached, holds⟩ := first state holds
  obtain ⟨after, reached', holds⟩ := second middle holds
  refine ⟨after, fun rest => ?_, holds⟩
  rw [List.append_assoc, reached, reached']

theorem Form.Moves.word {value : Bytes} (repeats : form.Repeats operand) (plain : Plain value)
    (stored : operand.store value draft = .ok next) :
    form.Moves [value] draft given next given := by
  intro state holds
  obtain ⟨after, added, holds⟩ := holds.addWord repeats stored
  refine ⟨after, fun rest => ?_, holds⟩
  rw [List.singleton_append, Form.addArguments, Token.of_plain plain]
  simp only [added, Form.halt, Except.bind]

theorem Form.Moves.written {switch : Switch δ} {store : Bytes → δ → Except ValueFault δ}
    {value : Bytes} (takes : form.Takes switch store) (fresh : switch.name ∉ given)
    (stored : store value draft = .ok next) (written : Written switch.name value arguments) :
    form.Moves arguments draft given next (switch.name :: given) :=
  fun _ holds => holds.addWritten takes fresh stored written

theorem Form.Holds.read (holds : form.Holds state draft given) (repeats : form.Repeats operand)
    (reached : form.addArguments form.start arguments = .ok state) :
    form.read arguments = .ok draft := by
  obtain ⟨settled, settles, rfl, rfl⟩ := holds
  simp only [Form.read, reached, Except.bind, settles, Form.halt, repeats.1, repeats.2,
    Bool.true_or, ↓reduceIte]

theorem Form.Moves.read (moves : form.Moves arguments form.blank [] draft given)
    (repeats : form.Repeats operand) : form.read arguments = .ok draft := by
  obtain ⟨after, reached, holds⟩ := moves form.start (holds_start form)
  have whole := reached []
  rw [List.append_nil] at whole
  exact holds.read repeats whole

/-- Behind two hyphens all arguments are operands. -/
theorem Form.Moves.read_escaped {values : List Bytes}
    (moves : form.Moves arguments form.blank [] draft given) (repeats : form.Repeats operand)
    (stored : storeOperands operand values draft = .ok next) :
    form.read (arguments ++ [hyphen, hyphen] :: values) = .ok next := by
  obtain ⟨middle, reached, holds⟩ := moves form.start (holds_start form)
  obtain ⟨after, added, holds⟩ := holds.addOperands repeats stored
  apply holds.read repeats
  have escape : Token.of [hyphen, hyphen] = .escape := rfl
  rw [reached, Form.addArguments, escape]
  simp only [added, Form.halt]

end Runs

/-- Where nothing is taken but one operand, an argument alone has to be that operand: whatever else
begins with a hyphen is unknown, or is answered with the help. -/
theorem Form.read_one_eq_ok_iff {operand : Operand δ} (noSwitches : form.switches = [])
    (has : form.operand = some operand) (single : operand.repeats = false) (argument : Bytes) :
    form.read [argument] = .ok draft ↔
      Token.of argument = .word argument ∧ operand.store argument form.blank = .ok draft := by
  have noLong : ∀ name value next, form.addLong form.start name value ≠ .ok next := by
    intro name value next
    unfold Form.addLong
    split
    · cases value <;> exact nofun
    · rw [noSwitches]
      exact nofun
  have noShort : ∀ letters next, form.addShort form.start letters ≠ .ok next := by
    intro letters next
    unfold Form.addShort
    split <;> exact nofun
  cases token : Token.of argument with
  | escape =>
      simp only [Form.read, Form.addArguments, token, Form.addOperands, Form.halt, Except.bind,
        Form.settle, Form.start, has, single]
      exact ⟨nofun, nofun⟩
  | long name value =>
      cases added : form.addLong form.start name value with
      | ok next => exact absurd added (noLong name value next)
      | error halt =>
          simp only [Form.read, Form.addArguments, token, added, Except.bind]
          exact ⟨nofun, nofun⟩
  | short letters =>
      cases added : form.addShort form.start letters with
      | ok next => exact absurd added (noShort letters next)
      | error halt =>
          simp only [Form.read, Form.addArguments, token, added, Except.bind]
          exact ⟨nofun, nofun⟩
  | word word =>
      obtain rfl := Token.eq_of_word token
      simp only [Form.read, Form.addArguments, token, Form.addWord, Form.addOperand, Form.start,
        has, single, Bool.not_false, Bool.and_false, Bool.false_eq_true, ↓reduceIte, Form.settle,
        Except.map, Form.halt, Except.bind, List.reverse_singleton, storeOperands, true_and]
      cases operand.store word form.blank with
      | error fault => exact ⟨nofun, nofun⟩
      | ok stored =>
          simp only [Bool.or_true, ↓reduceIte, Except.ok.injEq]

end IconCatalog.CommandLine

namespace IconCatalog.Command

theorem parsedValue_ofString {δ α ε : Type} {parse : String → Except ε α}
    {message : ε → String} {store : α → δ → δ} {s : String} {draft next : δ} :
    parsedValue parse message store (Utf8.ofString s) draft = .ok next ↔
      ∃ value, parse s = .ok value ∧ store value draft = next := by
  simp only [parsedValue, Utf8.toString?_ofString]
  cases parse s with
  | error fault => exact ⟨nofun, nofun⟩
  | ok value => simp only [Except.ok.injEq, exists_eq_left']

end IconCatalog.Command
