import IconCatalog.Proofs.FileOperations
import IconCatalog.Proofs.JsonWriting
import IconCatalog.Proofs.SettingsTexts
import IconCatalog.Settings.File
set_option autoImplicit false

namespace IconCatalog.Settings

open FileTree (Changed nothing)

variable {files left saved : Files} {path : Path} {s : Settings} {dir json : String}

/-- Whatever the layout, the text of some settings reads as these settings. -/
theorem ofJson_toJson? {layout : Json.Layout} (written : s.toJson? layout = some json) :
    ofJson (Utf8.ofString json) = .ok s := by
  simp only [toJson?, Option.map_eq_some_iff] at written
  obtain ⟨dir, text, rfl⟩ := written
  have path := Path.text?_eq_some_iff.1 text
  have object := layout.objectText_object 0
    [("export_dir", .text dir), ("export_format", .text s.exportFormat.tag)]
  simp only [List.map_cons, List.map_nil, Json.spelled, Json.Scalar.write] at object
  have named : (some s.exportFormat.tag).map asciiLower =
      (some s.exportFormat).map ExportFormat.tag :=
    congrArg some (ExportFormat.parse_eq_ok_iff.1 (ExportFormat.parse_tag s.exportFormat))
  have onlyDir (dir format : List Char) :
      Json.valuesOf "export_dir" [("export_dir", dir), ("export_format", format)] = [dir] := rfl
  have onlyFormat (dir format : List Char) :
      Json.valuesOf "export_format" [("export_dir", dir), ("export_format", format)] = [format] :=
    rfl
  have read := ofJson_fields object
  rw [takeOnce_dir (.once (onlyDir _ _) (Json.literal_quote dir)),
    takeOnce_format (.once (onlyFormat _ _) (Json.literal_quote s.exportFormat.tag)) named] at read
  rw [Utf8.ofString, Json.eq_ok_of_toOption read, Option.map_some, ← path]
  rfl

theorem toJson?_eq_none_iff {layout : Json.Layout} :
    s.toJson? layout = none ↔ ∀ dir, s.exportDir ≠ .ofString dir := by
  rw [toJson?, Option.map_eq_none_iff, Option.eq_none_iff_forall_ne_some]
  simp only [ne_eq, Path.text?_eq_some_iff]

/-- The directories that a save may have made: those on the way to the directory of the file. -/
def OnWayToParent (files : Files) (path : Path) (loc : Location) : Prop :=
  ∃ parent, path.parent? = some parent ∧ files.OnWay parent loc

theorem createParent_changed (path : Path) (files : Files) :
    (stateAfter (createParent path files)).cwd = files.cwd ∧
      Changed (OnWayToParent files path) nothing files.tree
        (stateAfter (createParent path files)).tree := by
  unfold createParent
  cases above : path.parent? with
  | none => exact ⟨rfl, Changed.refl _ _ _⟩
  | some parent =>
      obtain ⟨same, changed⟩ := Files.createDirectories_changed files parent
      have allowed : Changed (OnWayToParent files path) nothing files.tree
          (stateAfter (files.createDirectories parent)).tree :=
        changed.mono (fun loc onWay => ⟨parent, above, onWay⟩) (fun _ _ none => none)
      simp only
      cases made : files.createDirectories parent with
      | ok value after =>
          rw [made] at same allowed
          exact ⟨same, allowed⟩
      | error fault after =>
          rw [made] at same allowed
          exact ⟨same, allowed⟩

/-- What a successful save has done: the directories first, then the whole file. -/
theorem saveTo_eq_ok (done : s.saveTo path files = .ok () saved) :
    ∃ made json, createParent path files = .ok () made ∧ s.toJson? .pretty = some json ∧
      made.write path (.plain (Utf8.ofString json)) = .ok saved := by
  unfold saveTo at done
  split at done
  · contradiction
  · rename_i made around
    split at done
    · contradiction
    · rename_i json text
      split at done
      · contradiction
      · rename_i after written
        cases done
        exact ⟨made, json, around, text, written⟩

/-- However a save fails, it got no further than the directories. -/
theorem saveTo_eq_error {fault : SaveFault} (failed : s.saveTo path files = .error fault left) :
    left = stateAfter (createParent path files) := by
  unfold saveTo at failed
  split at failed
  · rename_i around
    cases failed
    rw [around]
    rfl
  · rename_i made around
    rw [around]
    split at failed
    · cases failed
      rfl
    · split at failed
      · cases failed
        rfl
      · contradiction

/-- Whether or not a save succeeds, a file that it wrote holds the whole text of the settings. -/
theorem saveTo_changed (s : Settings) (path : Path) (files : Files) :
    Changed (OnWayToParent files path)
      (fun _ new => ∃ json, s.toJson? .pretty = some json ∧ new = .plain (Utf8.ofString json))
      files.tree (stateAfter (s.saveTo path files)).tree := by
  have around : Changed (OnWayToParent files path)
      (fun _ new => ∃ json, s.toJson? .pretty = some json ∧ new = .plain (Utf8.ofString json))
      files.tree (stateAfter (createParent path files)).tree :=
    (createParent_changed path files).2.mono (fun _ onWay => onWay) (fun _ _ none => none.elim)
  cases done : s.saveTo path files with
  | error fault left =>
      rw [← saveTo_eq_error done] at around
      exact around
  | ok value saved =>
      obtain ⟨made, json, above, text, written⟩ := saveTo_eq_ok done
      rw [above] at around
      exact around.trans ((Files.write_changed written).2.mono (fun _ none => none.elim)
        (fun _ new here => ⟨json, text, here.2⟩))

/-- Settings whose directory is text come back from the file that they were saved to. Others are
not saved. A save that fails, whatever the reason, leaves each file with the content it had, and at
most directories on the way to that of the file are new. -/
theorem saveTo_persists (s : Settings) (path : Path) (files : Files) :
    (∀ dir saved, s.exportDir = .ofString dir → s.saveTo path files = .ok () saved →
      loadFrom path saved = .ok s) ∧
    ((∀ dir, s.exportDir ≠ .ofString dir) → ¬ succeeds (s.saveTo path files)) ∧
    ∀ fault left, s.saveTo path files = .error fault left →
      (∀ loc content, left.tree.node? loc = some (.file content) ↔
        files.tree.node? loc = some (.file content)) ∧
      (∀ loc, files.tree.node? loc = some .directory → left.tree.node? loc = some .directory) ∧
      (∀ loc, left.tree.node? loc = some .directory →
        files.tree.node? loc = some .directory ∨ OnWayToParent files path loc) := by
  refine ⟨?_, ?_, ?_⟩
  · intro dir saved _ done
    obtain ⟨made, json, _, text, written⟩ := saveTo_eq_ok done
    have read := Files.read_of_write written
    simp only [loadFrom, Files.found_of_read read, ↓reduceIte, read, Content.bytes,
      ofJson_toJson? text]
  · intro noText success
    cases done : s.saveTo path files with
    | error fault left =>
        rw [done] at success
        exact success
    | ok value saved =>
        obtain ⟨_, json, _, text, _⟩ := saveTo_eq_ok done
        rw [toJson?_eq_none_iff.2 noText] at text
        contradiction
  · intro fault left failed
    obtain ⟨_, changed⟩ := createParent_changed path files
    rw [saveTo_eq_error failed]
    exact ⟨fun _ => changed.file_iff fun _ none => none, changed.directory, changed.new_directory⟩

theorem saveTo_persists_escaped : ∃ saved,
    (Settings.mk (.ofString "q\"\\\n😀") .png).saveTo (.ofString "nested/settings.json")
      ⟨.empty, .inTree []⟩ = .ok () saved ∧
    loadFrom (.ofString "nested/settings.json") saved =
      .ok (Settings.mk (.ofString "q\"\\\n😀") .png) := by
  obtain ⟨_, saved, done⟩ := exists_of_succeeds (show succeeds ((Settings.mk
    (.ofString "q\"\\\n😀") .png).saveTo (.ofString "nested/settings.json")
      ⟨.empty, .inTree []⟩) from trivial)
  exact ⟨saved, done, (saveTo_persists _ _ _).1 _ _ rfl done⟩

end IconCatalog.Settings
