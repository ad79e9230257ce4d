import IconCatalog.Command
import IconCatalog.CommandLine.Reading
set_option autoImplicit false

namespace IconCatalog.Command

open CommandLine

def textValue {δ : Type} (store : String → δ → δ) (value : Bytes) (draft : δ) :
    Except ValueFault δ :=
  match Utf8.toString? value with
  | none => .error .notText
  | some s => .ok (store s draft)

/-- A path is any byte string but the empty one. -/
def pathValue {δ : Type} (store : Path → δ → δ) (value : Bytes) (draft : δ) :
    Except ValueFault δ :=
  if value = [] then .error .missing else .ok (store ⟨value⟩ draft)

def parsedValue {δ α ε : Type} (parse : String → Except ε α) (message : ε → String)
    (store : α → δ → δ) (value : Bytes) (draft : δ) : Except ValueFault δ :=
  match Utf8.toString? value with
  | none => .error .notText
  | some s =>
    match parse s with
    | .error fault => .error (.refused (message fault))
    | .ok parsed => .ok (store parsed draft)

inductive SizeFault
  | empty
  | invalidDigit
  | tooLarge
  deriving DecidableEq, Repr

def SizeFault.message : SizeFault → String
  | .empty => "cannot parse integer from empty string"
  | .invalidDigit => "invalid digit found in string"
  | .tooLarge => "number too large to fit in target type"

/-- Reads digits behind a number, which must stay below `UInt64.size` at every digit. -/
def readDigits (n : Nat) : List Char → Except SizeFault UInt64
  | [] => .ok (UInt64.ofNat n)
  | c :: rest =>
    if !c.isDigit then .error .invalidDigit
    else
      let next := n * 10 + (c.toNat - '0'.toNat)
      if UInt64.size ≤ next then .error .tooLarge else readDigits next rest

/-- Decimal digits behind an optional plus sign. -/
def parseSize (s : String) : Except SizeFault UInt64 :=
  match s.toList with
  | [] => .error .empty
  | '+' :: rest => if rest = [] then .error .invalidDigit else readDigits 0 rest
  | cs => readDigits 0 cs

def listForm : Form Bool where
  name := "list"
  about := "List every embedded resource"
  switches := [⟨"json", "Print a JSON array instead of text", .nothing fun _ => true⟩]
  operand := none
  blank := false

def describeForm : Form (Option String) where
  name := "show"
  about := "Show the descriptor of one resource"
  switches := []
  operand := some ⟨"NAME", "", false, textValue fun name _ => some name⟩
  blank := none

def pickForm : Form (Option UInt64) where
  name := "pick"
  about := "Print the icon chosen for a requested edge length"
  switches := []
  operand :=
    some ⟨"SIZE", "", false, parsedValue parseSize SizeFault.message fun size _ => some size⟩
  blank := none

def verifyForm : Form Unit where
  name := "verify"
  about := "Check the size and format invariants of the catalog"
  switches := []
  operand := none
  blank := ()

structure ExportDraft where
  /-- The names in reverse. -/
  names : List String
  dir : Option Path
  format : Option ExportFormat

def exportForm : Form ExportDraft where
  name := "export"
  about := "Write resources to disk"
  switches := [
    ⟨"out", "", .value "OUT" (pathValue fun dir d => { d with dir := some dir })⟩,
    ⟨"format", "raw or png", .value "FORMAT" (parsedValue ExportFormat.parse
      UnknownExportFormat.message fun format d => { d with format := some format })⟩]
  operand := some ⟨"NAMES", "Resources to export, all of them when empty", true,
    textValue fun name d => { d with names := name :: d.names }⟩
  blank := ⟨[], none, none⟩

structure ConfigDraft where
  path : Option Path
  force : Bool

def configForm : Form ConfigDraft where
  name := "init-config"
  about := "Write a default settings file"
  switches := [
    ⟨"path", "Defaults to the platform config directory",
      .value "PATH" (pathValue fun path d => { d with path := some path })⟩,
    ⟨"force", "", .nothing fun d => { d with force := true }⟩]
  operand := none
  blank := ⟨none, false⟩

end IconCatalog.Command
