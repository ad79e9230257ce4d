import IconCatalog.Command.Arguments
import IconCatalog.Proofs.ArgumentReading
set_option autoImplicit false

namespace IconCatalog.Command

open CommandLine

/-- Arguments of an export, each of the two options once at most, with what they stand for: the
names, the directory and the format. -/
inductive ExportArguments : List String → Option Path → Option ExportFormat → List Bytes → Prop
  | nil : ExportArguments [] none none []
  | name {names : List String} {dir : Option Path} {format : Option ExportFormat}
      {arguments : List Bytes} {s : String} (noHyphen : s.toList.head? ≠ some '-')
      (rest : ExportArguments names dir format arguments) :
      ExportArguments (s :: names) dir format (Utf8.ofString s :: arguments)
  | out {names : List String} {format : Option ExportFormat} {option arguments : List Bytes}
      {path : Path} (filled : path.bytes ≠ []) (written : Written "out" path.bytes option)
      (rest : ExportArguments names none format arguments) :
      ExportArguments names (some path) format (option ++ arguments)
  | format {names : List String} {dir : Option Path} {option arguments : List Bytes}
      {spelling : String} {format : ExportFormat} (named : asciiLower spelling = format.tag)
      (written : Written "format" (Utf8.ofString spelling) option)
      (rest : ExportArguments names dir none arguments) :
      ExportArguments names dir (some format) (option ++ arguments)

def storeDir : Bytes → ExportDraft → Except ValueFault ExportDraft :=
  pathValue fun dir d => { d with dir := some dir }

def storeFormat : Bytes → ExportDraft → Except ValueFault ExportDraft :=
  parsedValue ExportFormat.parse UnknownExportFormat.message fun format d =>
    { d with format := some format }

def storeName : Bytes → ExportDraft → Except ValueFault ExportDraft :=
  textValue fun name d => { d with names := name :: d.names }

def outSwitch : Switch ExportDraft := ⟨"out", "", .value "OUT" storeDir⟩

def formatSwitch : Switch ExportDraft := ⟨"format", "raw or png", .value "FORMAT" storeFormat⟩

def namesOperand : Operand ExportDraft :=
  ⟨"NAMES", "Resources to export, all of them when empty", true, storeName⟩

theorem takes_out : exportForm.Takes outSwitch storeDir :=
  ⟨rfl, by decide, ⟨by decide, by decide⟩, _, rfl⟩

theorem takes_format : exportForm.Takes formatSwitch storeFormat :=
  ⟨rfl, by decide, ⟨by decide, by decide⟩, _, rfl⟩

theorem repeats_names : exportForm.Repeats namesOperand := ⟨rfl, rfl⟩

theorem storeName_ofString (s : String) (d : ExportDraft) :
    storeName (Utf8.ofString s) d = .ok { d with names := s :: d.names } := by
  simp only [storeName, textValue, Utf8.toString?_ofString]

theorem storeDir_of_filled {path : Path} (filled : path.bytes ≠ []) (d : ExportDraft) :
    storeDir path.bytes d = .ok { d with dir := some path } := by
  simp only [storeDir, pathValue, filled, ↓reduceIte]

theorem storeFormat_of_named {spelling : String} {format : ExportFormat}
    (named : asciiLower spelling = format.tag) (d : ExportDraft) :
    storeFormat (Utf8.ofString spelling) d = .ok { d with format := some format } :=
  parsedValue_ofString.2 ⟨format, ExportFormat.parse_eq_ok_iff.2 named, rfl⟩

theorem storeOperands_names (names : List String) (d : ExportDraft) :
    storeOperands namesOperand (names.map Utf8.ofString) d =
      .ok { d with names := names.reverse ++ d.names } := by
  induction names generalizing d with
  | nil => rfl
  | cons s names ih =>
      have stored : namesOperand.store (Utf8.ofString s) d = _ := storeName_ofString s d
      rw [List.map_cons, storeOperands, stored]
      simp only [ih, List.reverse_cons, List.append_assoc, List.singleton_append]

def ExportDraft.add (d : ExportDraft) (names : List String) (dir : Option Path)
    (format : Option ExportFormat) : ExportDraft :=
  ⟨names.reverse ++ d.names, dir.or d.dir, format.or d.format⟩

/-- An option that has been given has its value in the draft. -/
structure Tracks (given : List String) (d : ExportDraft) : Prop where
  dir : "out" ∈ given → d.dir ≠ none
  format : "format" ∈ given → d.format ≠ none

theorem Tracks.out {given : List String} {d : ExportDraft} (tracks : Tracks given d) (path : Path) :
    Tracks ("out" :: given) { d with dir := some path } where
  dir _ := Option.some_ne_none path
  format inside := tracks.format ((List.mem_cons.1 inside).resolve_left (by decide))

theorem Tracks.formatted {given : List String} {d : ExportDraft} (tracks : Tracks given d)
    (format : ExportFormat) : Tracks ("format" :: given) { d with format := some format } where
  dir inside := tracks.dir ((List.mem_cons.1 inside).resolve_left (by decide))
  format _ := Option.some_ne_none format

variable {names : List String} {dir : Option Path} {format : Option ExportFormat}
  {arguments : List Bytes} {given : List String} {d : ExportDraft}

/-- The arguments of an export move a draft on by what they stand for, when it has neither of their
options yet. The induction is on the arguments from the front. -/
theorem ExportArguments.moves (placed : ExportArguments names dir format arguments)
    (tracks : Tracks given d) (newDir : dir ≠ none → d.dir = none)
    (newFormat : format ≠ none → d.format = none) :
    ∃ givenNext, exportForm.Moves arguments d given (d.add names dir format) givenNext ∧
      Tracks givenNext (d.add names dir format) := by
  induction placed generalizing d given with
  | nil => exact ⟨given, .nil, tracks⟩
  | @name names dir format arguments s noHyphen rest ih =>
      have tracks' : Tracks given { d with names := s :: d.names } := ⟨tracks.dir, tracks.format⟩
      obtain ⟨givenNext, moves, after⟩ := ih tracks' newDir newFormat
      have word : exportForm.Moves [Utf8.ofString s] d given _ given :=
        .word repeats_names (plain_ofString noHyphen) (storeName_ofString s d)
      have sum : ({ d with names := s :: d.names } : ExportDraft).add names dir format =
          d.add (s :: names) dir format := by
        simp only [ExportDraft.add, List.reverse_cons, List.append_assoc, List.singleton_append]
      rw [sum] at moves after
      exact ⟨givenNext, word.append moves, after⟩
  | @out names format option arguments path filled written rest ih =>
      have fresh : "out" ∉ given := fun inside =>
        tracks.dir inside (newDir (Option.some_ne_none path))
      have moved := Form.Moves.written takes_out fresh (storeDir_of_filled filled d) written
      obtain ⟨givenNext, moves, after⟩ := ih (tracks.out path) (absurd rfl) newFormat
      exact ⟨givenNext, moved.append moves, after⟩
  | @format names dir option arguments spelling format named written rest ih =>
      have fresh : "format" ∉ given := fun inside =>
        tracks.format inside (newFormat (Option.some_ne_none format))
      have moved := Form.Moves.written takes_format fresh (storeFormat_of_named named d) written
      obtain ⟨givenNext, moves, after⟩ := ih (tracks.formatted format) newDir (absurd rfl)
      exact ⟨givenNext, moved.append moves, after⟩

theorem ExportArguments.moves_blank (placed : ExportArguments names dir format arguments) :
    ∃ given, exportForm.Moves arguments exportForm.blank [] ⟨names.reverse, dir, format⟩ given ∧
      Tracks given ⟨names.reverse, dir, format⟩ := by
  have blank : Tracks [] exportForm.blank := ⟨nofun, nofun⟩
  have sum : exportForm.blank.add names dir format = ⟨names.reverse, dir, format⟩ := by
    simp only [ExportDraft.add, exportForm, List.append_nil, Option.or_none]
  have moved := placed.moves blank (fun _ => rfl) fun _ => rfl
  rwa [sum] at moved

theorem ofArguments_exportForm (arguments : List Bytes) :
    ofArguments (Utf8.ofString "export" :: arguments) =
      (exportForm.read arguments).bind fun d => .ok (.exportIcons d.names.reverse d.dir d.format) :=
  rfl

/-- An export is read as what its arguments stand for, in whichever order names and options come.
Two hyphens behind them make names of all that follows. -/
theorem ofArguments_of_exportArguments (placed : ExportArguments names dir format arguments)
    (further : List String) :
    ofArguments (Utf8.ofString "export" :: arguments) = .ok (.exportIcons names dir format) ∧
    ofArguments (Utf8.ofString "export" ::
        (arguments ++ Utf8.ofString "--" :: further.map Utf8.ofString)) =
      .ok (.exportIcons (names ++ further) dir format) := by
  obtain ⟨given, moves, _⟩ := placed.moves_blank
  constructor
  · rw [ofArguments_exportForm, moves.read repeats_names]
    simp only [Except.bind, List.reverse_reverse]
  · have read := moves.read_escaped repeats_names (storeOperands_names further _)
    have escape : Utf8.ofString "--" = [hyphen, hyphen] := rfl
    rw [ofArguments_exportForm, escape, read]
    simp only [Except.bind, List.reverse_append, List.reverse_reverse]

/-- A name with an equals sign, an option in two arguments between two names, one in mixed case with
its value behind an equals sign, and behind two hyphens what looks like options. -/
theorem ofArguments_of_exportArguments_mixed :
    ExportArguments ["a=b", ""] (some (.ofString "--out=x")) (some .png)
      (["a=b", "--format", "pNg", "", "--out=--out=x"].map Utf8.ofString) ∧
    ofArguments (["export", "a=b", "--format", "pNg", "", "--out=--out=x", "--", "-h", "--"].map
        Utf8.ofString) =
      .ok (.exportIcons ["a=b", "", "-h", "--"] (some (.ofString "--out=x")) (some .png)) := by
  have placed : ExportArguments ["a=b", ""] (some (.ofString "--out=x")) (some .png)
      (["a=b", "--format", "pNg", "", "--out=--out=x"].map Utf8.ofString) :=
    .name (by decide) (.format rfl (.apart (by decide)) (.name (by decide)
      (.out (by decide) .joined .nil)))
  exact ⟨placed, (ofArguments_of_exportArguments placed ["-h", "--"]).2⟩

end IconCatalog.Command
