import IconCatalog.CommandLine.Form
import IconCatalog.CommandLine.Suggestion
import IconCatalog.CommandLine.Token
set_option autoImplicit false

namespace IconCatalog.CommandLine

variable {δ : Type}

/-- Values that are not stored yet. They wait until the argument behind them is known: only then are
they counted, compared with what was given before, and stored. So a fault of a value gives way to an
unknown argument behind it. -/
inductive Waiting (δ : Type)
  | nothing
  /-- An option without its value. -/
  | bare (switch : Switch δ)
  | valued (switch : Switch δ) (value : Bytes)
  /-- Operands in reverse. -/
  | operands (reversed : List Bytes)

/-- What has been read of the arguments, and the values that wait. -/
structure State (δ : Type) where
  draft : δ
  /-- The names of the options that have been stored. -/
  given : List String
  operandGiven : Bool
  waiting : Waiting δ

def Form.start (form : Form δ) : State δ := ⟨form.blank, [], false, .nothing⟩

def Waiting.isComplete : Waiting δ → Bool
  | .nothing | .bare _ => false
  | .valued _ _ | .operands _ => true

def State.stored (state : State δ) : Bool :=
  !state.given.isEmpty ||
    match state.waiting with
    | .operands _ => false
    | _ => state.operandGiven

def storeFault (label : String) (value : Bytes) : ValueFault → Fault
  | .missing => .missingValue label
  | .notText => .notText
  | .refused cause => .refusedValue label (Utf8.toStringLossy value) cause

def storeOnce (switch : Switch δ) (value : Bytes) (state : State δ)
    (store : δ → Except ValueFault δ) : Except Fault (State δ) :=
  if switch.name ∈ state.given then .error (.repeated switch.label)
  else
    match store state.draft with
    | .error fault => .error (storeFault switch.label value fault)
    | .ok draft =>
      .ok { state with draft := draft, given := switch.name :: state.given, waiting := .nothing }

def storeSwitch (switch : Switch δ) (value : Bytes) (state : State δ) : Except Fault (State δ) :=
  match switch.taking with
  | .nothing store => storeOnce switch value state fun draft => .ok (store draft)
  | .value _ store => storeOnce switch value state (store value)

def storeOperands (operand : Operand δ) : List Bytes → δ → Except Fault δ
  | [], draft => .ok draft
  | value :: rest, draft =>
    match operand.store value draft with
    | .error fault => .error (storeFault operand.shownLabel value fault)
    | .ok draft => storeOperands operand rest draft

def Form.settle (form : Form δ) (state : State δ) : Except Fault (State δ) :=
  match state.waiting with
  | .nothing => .ok state
  | .bare switch => .error (.missingValue switch.label)
  | .valued switch value => storeSwitch switch value state
  | .operands reversed =>
    match form.operand with
    | none => .ok { state with waiting := .nothing }
    | some operand =>
      (storeOperands operand reversed.reverse state.draft).map fun draft =>
        { state with draft := draft, waiting := .nothing }

def Form.addOperand (form : Form δ) (state : State δ) (value : Bytes) : Except Fault (State δ) :=
  match form.operand with
  | none => .error (.unknownArgument (Utf8.toStringLossy value))
  | some operand =>
    if !operand.repeats && state.operandGiven then
      .error (.unknownArgument (Utf8.toStringLossy value))
    else
      match state.waiting with
      | .operands reversed => .ok { state with waiting := .operands (value :: reversed) }
      | _ => (form.settle state).map fun state =>
        { state with operandGiven := true, waiting := .operands [value] }

def Form.addOperands (form : Form δ) (state : State δ) : List Bytes → Except Fault (State δ)
  | [] => .ok state
  | value :: rest => (form.addOperand state value).bind fun state => form.addOperands state rest

def helpLabel : String := "--" ++ helpSwitch

/-- What is advised for a fault, unless it is an unknown name. -/
def Form.advice (form : Form δ) (state : State δ) : Fault → Advice
  | .missingValue _ | .refusedValue _ _ _ => .readHelp
  | .unexpectedValue label _ =>
    let named := if state.stored && label ≠ helpLabel then none else some label
    .ofUsage (form.usageWith named state.stored)
  | _ => .ofUsage form.usage

def Form.halt {α : Type} (form : Form δ) (state : State δ) : Except Fault α → Except Halt α
  | .ok value => .ok value
  | .error fault => .error (.fault fault (form.advice state fault))

/-- Asks for the help, which is given when nothing is wrong before. -/
def Form.addHelp (form : Form δ) (state : State δ) : Except Halt (State δ) :=
  match form.settle state with
  | .error fault => form.halt state (.error fault)
  | .ok _ => .error (.help form.help)

def Form.operandTips (form : Form δ) (argument : String) : List Styled :=
  if form.operand.isSome then [operandTip argument] else []

/-- What is advised for an unknown name after two hyphens. What is like it counts as given, and so
do values that wait. -/
def Form.longAdvice (form : Form δ) (state : State δ) (name : String) : Advice :=
  let started := state.stored || state.waiting.isComplete
  match similarName? name (form.switches.map (·.name) ++ [helpSwitch]) with
  | none =>
    ⟨form.operandTips ("--" ++ name),
      some (if started then form.usageWith none true else form.usage), true⟩
  | some similar =>
    let isHelp := similar = helpSwitch
    ⟨[switchTip ("--" ++ similar)],
      some (form.usageWith (if isHelp then some helpLabel else none) (started || !isHelp)), true⟩

def Form.shortAdvice (form : Form δ) (argument : String) : Advice :=
  ⟨form.operandTips argument, some form.usage, true⟩

def Form.addSwitch (form : Form δ) (state : State δ) (switch : Switch δ) (value : Option Bytes) :
    Except Fault (State δ) :=
  match switch.taking, value with
  | .nothing _, some value =>
    .error (.unexpectedValue switch.label (Utf8.toStringLossy value))
  | .nothing _, none => (form.settle state).bind (storeSwitch switch [])
  | .value _ _, some value => (form.settle state).bind (storeSwitch switch value)
  | .value _ _, none => (form.settle state).map fun state => { state with waiting := .bare switch }

def Form.addLong (form : Form δ) (state : State δ) (name : Bytes) (value : Option Bytes) :
    Except Halt (State δ) :=
  if name = Utf8.ofString helpSwitch then
    match value with
    | some value =>
      form.halt state (.error (.unexpectedValue helpLabel (Utf8.toStringLossy value)))
    | none => form.addHelp state
  else
    match form.switches.find? fun switch => decide (Utf8.ofString switch.name = name) with
    | none =>
      let advice := form.longAdvice state (Utf8.toStringLossy name)
      .error (.fault (.unknownArgument (longName name)) advice)
    | some switch => form.halt state (form.addSwitch state switch value)

/-- Takes letters after one hyphen, of which only the help has one. -/
def Form.addShort (form : Form δ) (state : State δ) (letters : Bytes) : Except Halt (State δ) :=
  if firstLetter letters = some 'h' then form.addHelp state
  else
    let argument := shortName letters
    .error (.fault (.unknownArgument argument) (form.shortAdvice argument))

/-- A word is the value of the option before it, or an operand. -/
def Form.addWord (form : Form δ) (state : State δ) (value : Bytes) : Except Fault (State δ) :=
  match state.waiting with
  | .bare switch => .ok { state with waiting := .valued switch value }
  | _ => form.addOperand state value

def Form.addArguments (form : Form δ) (state : State δ) :
    List Bytes → Except Halt (State δ)
  | [] => .ok state
  | argument :: rest =>
    match Token.of argument with
    | .escape => form.halt state (form.addOperands state rest)
    | .long name value =>
      (form.addLong state name value).bind fun state => form.addArguments state rest
    | .short letters =>
      (form.addShort state letters).bind fun state => form.addArguments state rest
    | .word value =>
      (form.halt state (form.addWord state value)).bind fun state => form.addArguments state rest

def Form.read (form : Form δ) (arguments : List Bytes) : Except Halt δ :=
  (form.addArguments form.start arguments).bind fun state =>
  (form.halt state (form.settle state)).bind fun state =>
    match form.operand with
    | none => .ok state.draft
    | some operand =>
      if operand.repeats || state.operandGiven then .ok state.draft
      else form.halt state (.error (.missingOperand operand.shownLabel))

end IconCatalog.CommandLine
