import IconCatalog.PixelFormat
import IconCatalog.Proofs.EffectiveSettings
import IconCatalog.Proofs.ExportArguments
import IconCatalog.Proofs.JsonNamed
import IconCatalog.Proofs.SettingsTexts
set_option autoImplicit false

namespace IconCatalog

open Json (Literal ObjectText PlaceText valuesOf)

variable {s : String}

namespace Settings

variable {members : List (String × List Char)} {text value : List Char} {dir : Option String}

theorem ofJson_spelled (written : ObjectText members text)
    (gives : GivesText "export_dir" members dir)
    (only : valuesOf "export_format" members = [value]) (literal : Literal s value)
    (settings : Settings) :
    ofJson (Utf8.encode text) = .ok settings ↔ ∃ format : ExportFormat,
      asciiLower s = format.tag ∧
      settings = ⟨(dir.map .ofString).getD default.exportDir, format⟩ := by
  have read := ofJson_fields written
  rw [takeOnce_dir gives, only, Json.takeOnce_one, Option.bind_some] at read
  constructor
  · intro accepted
    rw [accepted] at read
    by_cases named : ∃ format : ExportFormat, asciiLower s = format.tag
    · obtain ⟨format, named⟩ := named
      rw [readFormat?_literal literal named] at read
      exact ⟨format, named, Option.some.inj read⟩
    · rw [readFormat?_unknown literal (not_exists.1 named)] at read
      contradiction
  · rintro ⟨format, named, rfl⟩
    rw [readFormat?_literal literal named] at read
    cases result : ofJson (Utf8.encode text) with
    | error fault =>
        rw [result] at read
        contradiction
    | ok settings =>
        rw [result] at read
        exact congrArg Except.ok (Option.some.inj read)

/-- Settings are overridden by a format just when the variable names one. -/
theorem override_spelled (start : Settings) {env : Environment}
    (stands : env.text? formatVariable = some s) (filled : s ≠ "") (after : Settings) :
    start.override env = .ok () after ↔ ∃ format : ExportFormat,
      asciiLower s = format.tag ∧ after = ⟨(dirOf? env).getD start.exportDir, format⟩ := by
  have given : override? env formatVariable = some s := override?_eq_some_iff.2 ⟨stands, filled⟩
  have formatOf (format : ExportFormat) (named : asciiLower s = format.tag) :
      formatOf? env = some format := by
    rw [formatOf?, given, Option.bind_some, ExportFormat.parse_eq_ok_iff.2 named]
    rfl
  rw [override_eq_ok_iff]
  constructor
  · rintro ⟨readable, rfl⟩
    obtain ⟨format, named⟩ := (readable s stands).resolve_left filled
    exact ⟨format, named, by rw [formatOf format named, Option.getD_some]⟩
  · rintro ⟨format, named, rfl⟩
    exact ⟨formatReadable_of_named stands named, by rw [formatOf format named, Option.getD_some]⟩

end Settings

namespace Command

open CommandLine

variable {names : List String} {dir : Option Path} {arguments : List Bytes}

theorem storeFormat_of_unknown (unknown : ∀ format : ExportFormat, asciiLower s ≠ format.tag)
    (d : ExportDraft) : ∃ fault, storeFormat (Utf8.ofString s) d = .error fault := by
  cases stored : storeFormat (Utf8.ofString s) d with
  | error fault => exact ⟨fault, rfl⟩
  | ok next =>
      obtain ⟨format, parsed, _⟩ := parsedValue_ofString.1 stored
      exact absurd (ExportFormat.parse_eq_ok_iff.1 parsed) (unknown format)

/-- An export takes a format behind its other arguments just when the switch names one. -/
theorem ofArguments_spelled (placed : ExportArguments names dir none arguments)
    (command : Command) :
    ofArguments (Utf8.ofString "export" :: (arguments ++ [Utf8.ofString ("--format=" ++ s)])) =
        .ok command ↔
      ∃ format : ExportFormat, asciiLower s = format.tag ∧
        command = .exportIcons names dir (some format) := by
  obtain ⟨given, moves, tracks⟩ := placed.moves_blank
  have fresh : "format" ∉ given := fun inside => tracks.format inside rfl
  have switch : Utf8.ofString ("--format=" ++ s) =
      joinedFront formatSwitch.name ++ Utf8.ofString s := Utf8.ofString_append "--format=" s
  rw [switch, ofArguments_exportForm]
  by_cases named : ∃ format : ExportFormat, asciiLower s = format.tag
  · obtain ⟨format, named⟩ := named
    have stored := storeFormat_of_named named ⟨names.reverse, dir, none⟩
    have whole := moves.append (.written takes_format fresh stored .joined)
    rw [whole.read repeats_names]
    simp only [Except.bind, List.reverse_reverse, Except.ok.injEq]
    constructor
    · rintro rfl
      exact ⟨format, named, rfl⟩
    · rintro ⟨other, named', rfl⟩
      rw [ExportFormat.tag_injective (named.symm.trans named')]
  · obtain ⟨fault, refused⟩ := storeFormat_of_unknown (not_exists.1 named)
      ⟨names.reverse, dir, none⟩
    obtain ⟨middle, reached, holds⟩ := moves exportForm.start (holds_start exportForm)
    obtain ⟨halt, failed⟩ := holds.refused takes_format refused []
    have stopped : exportForm.read (arguments ++ [joinedFront formatSwitch.name ++
        Utf8.ofString s]) = .error halt := by
      rw [Form.read, reached, failed]
      rfl
    rw [stopped]
    constructor
    · intro accepted
      contradiction
    · rintro ⟨format, named', _⟩
      exact absurd ⟨format, named'⟩ named

end Command

namespace PixelFormat

/-- A literal names the pixel format that its text names, or is refused with the message of the
text, except that a place at the end of the message is lost. -/
theorem ofJson_literal {text : List Char} (literal : Literal s text) :
    (∀ format, ofJson (Utf8.encode text) = .ok format ↔ parse s = .ok format) ∧
    ∀ e, parse s = .error e → ∃ fault, ofJson (Utf8.encode text) = .error fault ∧
      (∀ front place, PlaceText place → e.message.toList = front ++ place →
        fault.message = String.ofList front) ∧
      ((∀ front place, PlaceText place → e.message.toList ≠ front ++ place) →
        fault.message = e.message) := by
  have read := Json.readWhole_named parse UnknownPixelFormat.message literal
  constructor
  · intro format
    rw [ofJson, reader, read]
    cases parse s with
    | error e => exact ⟨nofun, nofun⟩
    | ok other => simp only [Except.ok.injEq]
  · intro e refused
    rw [refused] at read
    exact ⟨_, read, fun _ _ => Json.withoutLocation_of_place, Json.withoutLocation_of_no_place⟩

end PixelFormat

/-- The three places for the name of an export format take the same names for the same formats: the
tags in any ASCII case. A literal that denotes a text stands for it in a settings file, and stands
for it as the name of a pixel format too; there only a place at the end of a refusal is lost. -/
theorem ExportFormat.named_alike (filled : s ≠ "") :
    (∀ members text dir value, ObjectText members text →
      Settings.GivesText "export_dir" members dir → valuesOf "export_format" members = [value] →
      Literal s value → ∀ settings,
        (Settings.ofJson (Utf8.encode text) = .ok settings ↔ ∃ format : ExportFormat,
          asciiLower s = format.tag ∧
          settings = ⟨(dir.map .ofString).getD Settings.default.exportDir, format⟩)) ∧
    (∀ (start : Settings) (env : Environment), env.text? Settings.formatVariable = some s →
      ∀ after, (start.override env = .ok () after ↔ ∃ format : ExportFormat,
        asciiLower s = format.tag ∧
        after = ⟨(Settings.dirOf? env).getD start.exportDir, format⟩)) ∧
    (∀ names dir arguments, Command.ExportArguments names dir none arguments →
      ∀ command, (Command.ofArguments (Utf8.ofString "export" ::
          (arguments ++ [Utf8.ofString ("--format=" ++ s)])) = .ok command ↔
        ∃ format : ExportFormat, asciiLower s = format.tag ∧
          command = .exportIcons names dir (some format))) ∧
    ∀ text, Literal s text →
      (∀ format, PixelFormat.ofJson (Utf8.encode text) = .ok format ↔
        PixelFormat.parse s = .ok format) ∧
      ∀ e, PixelFormat.parse s = .error e →
        ∃ fault, PixelFormat.ofJson (Utf8.encode text) = .error fault ∧
          (∀ front place, PlaceText place → e.message.toList = front ++ place →
            fault.message = String.ofList front) ∧
          ((∀ front place, PlaceText place → e.message.toList ≠ front ++ place) →
            fault.message = e.message) := by
  refine ⟨?file, ?environment, ?argument, fun _ literal => PixelFormat.ofJson_literal literal⟩
  case file =>
    intro members text dir value written gives only literal
    exact Settings.ofJson_spelled written gives only literal
  case environment =>
    intro start env stands
    exact Settings.override_spelled start stands filled
  case argument =>
    intro names dir arguments placed
    exact Command.ofArguments_spelled placed

/-- A name in mixed case, in a settings file with other members, over another format in the
environment, and behind another option. -/
theorem ExportFormat.named_alike_mixed :
    Settings.ofJson (Utf8.ofString Settings.mixedText) = .ok ⟨.ofString "out", .png⟩ ∧
    Settings.default.override ⟨[(Settings.formatVariable, Utf8.ofString "PnG")]⟩ =
      .ok () ⟨.ofString "icons", .png⟩ ∧
    Command.ofArguments (["export", "--out=x", "--format=PnG"].map Utf8.ofString) =
      .ok (.exportIcons [] (some (.ofString "x")) (some .png)) ∧
    PixelFormat.ofJson (Utf8.ofString (Json.quote "PnG")) ≠ .ok .nrgba := by
  have filled : "PnG" ≠ "" := by decide
  have literal := Json.literal_quote "PnG"
  have out : Command.ExportArguments [] (some (.ofString "x")) none [Utf8.ofString "--out=x"] :=
    .out (by decide) .joined .nil
  obtain ⟨file, overrides, argument, pixels⟩ := named_alike filled
  refine ⟨?_, ?_, ?_, ?_⟩
  · exact (file _ _ (some "out") _ Settings.objectText_mixedText
      (.once rfl (Json.literal_quote "out")) rfl literal _).2 ⟨.png, by decide, rfl⟩
  · exact (overrides _ _ (by decide) _).2 ⟨.png, by decide, rfl⟩
  · exact (argument _ _ _ out _).2 ⟨.png, by decide, rfl⟩
  · intro accepted
    exact absurd (((pixels _ literal).1 _).1 accepted) (by decide)

/-- A name that ends like the place of a fault. -/
def placedName : String := "x at line 0 column 0"

/-- The end of such a name is taken for a place, and the refusal has it no more. -/
theorem PixelFormat.ofJson_placedName :
    ¬ ∀ text, Literal placedName text → ∀ e, parse placedName = .error e →
      ∃ fault, ofJson (Utf8.encode text) = .error fault ∧ fault.message = e.message := by
  intro same
  obtain ⟨fault, refused, message⟩ :=
    same _ (Json.literal_quote placedName) ⟨placedName⟩ (by decide)
  have read : ofJson (Utf8.encode (Json.quote placedName).toList) =
      .error (.refused "unknown pixel format: x") := by
    decide +kernel
  rw [read] at refused
  cases refused
  exact absurd message (by decide)

end IconCatalog
