import IconCatalog.Proofs.ExportedFiles
import IconCatalog.Proofs.StandingDirectories
set_option autoImplicit false

namespace IconCatalog

open FileTree (Changed nowhere)

namespace Files

variable {files after : Files} {dir : Path}

/-- Files are as they were but for those at some locations, and new directories are on the way to
the given one. -/
structure KeptBut (touched : Location → Prop) (dir : Path) (before after : Files) : Prop where
  files : ∀ loc, ¬ touched loc → ∀ content,
    after.tree.node? loc = some (.file content) ↔ before.tree.node? loc = some (.file content)
  directories : ∀ loc, before.tree.node? loc = some .directory →
    after.tree.node? loc = some .directory
  new_directories : ∀ loc, after.tree.node? loc = some .directory →
    before.tree.node? loc = some .directory ∨ before.OnWay dir loc

abbrev Kept (dir : Path) (before after : Files) : Prop := KeptBut nowhere dir before after

theorem keptBut_of_changed {touched : Location → Prop} {written : Location → Content → Prop}
    (changed : Changed (files.OnWay dir) written files.tree after.tree)
    (only : ∀ loc content, written loc content → touched loc) :
    KeptBut touched dir files after where
  files _ untouched := changed.file_iff fun content new => untouched (only _ content new)
  directories := changed.directory
  new_directories := changed.new_directory

end Files

/-- A fault that comes up before the file of an export is opened. -/
def ExportFault.BeforeFile : ExportFault → Prop
  | .directory _ _ => True
  | .tooWide => True
  | .tooTall => True
  | .write _ _ => False
  | .encode _ _ => False

namespace Image

variable {image : Image} {dir target : Path} {format : ExportFormat} {files made left : Files}
  {fault : ExportFault}

theorem maxSide_lt_iff {side : UInt64} : maxSide < side ↔ 2 ^ 32 - 1 < side.toNat := by
  rw [UInt64.lt_iff_toNat_lt]
  rfl

theorem isSome_encodeFault?_iff :
    image.encodeFault?.isSome = true ↔ image.width = 0 ∨ image.height = 0 := by
  unfold encodeFault?
  by_cases narrow : image.width = 0
  · simp only [narrow, if_true, Option.isSome_some, true_or]
  · by_cases flat : image.height = 0
    · simp only [narrow, flat, if_true, if_false, Option.isSome_some, or_true]
    · simp only [narrow, flat, if_false, Option.isSome_none, Bool.false_eq_true, or_self]

/-- The file of an export can be created: the directory is there or can be made, and then a file can
be written at the target. -/
def Creatable (image : Image) (dir : Path) (format : ExportFormat) (files : Files) : Prop :=
  ∃ made, files.createDirectories dir = .ok () made ∧ made.Writable (image.target dir format)

/-- An export of a picture that has no pixels, although its sides are not too long, to a file that
can be created. -/
structure Hollow (image : Image) (dir : Path) (format : ExportFormat) (files : Files) : Prop where
  png : format = .png
  width : image.width.toNat ≤ 2 ^ 32 - 1
  height : image.height.toNat ≤ 2 ^ 32 - 1
  empty : image.width = 0 ∨ image.height = 0
  creatable : image.Creatable dir format files

/-- What a refusing encoder leaves. The target is a new file or has lost what it held, and all other
files are as they were. -/
structure LeftOpen (image : Image) (dir : Path) (format : ExportFormat) (before after : Files) :
    Prop where
  file : ∃ loc, after.LeadsTo (image.target dir format) loc ∧
    (before.tree.node? loc = none ∨ ∃ old, before.tree.node? loc = some (.file old)) ∧
    after.tree.node? loc = some (.file (.plain Png.ending))
  others : Files.KeptBut (after.LeadsTo (image.target dir format)) dir before after

theorem writeTo_eq_error (failed : image.writeTo target format files = .error fault left) :
    left = files ∨ format = .png ∧ ¬ maxSide < image.width ∧ ¬ maxSide < image.height ∧
      image.encodeFault?.isSome = true ∧ files.write target (.plain Png.ending) = .ok left := by
  unfold writeTo at failed
  cases format with
  | raw =>
      simp only at failed
      split at failed
      · cases failed
        exact Or.inl rfl
      · contradiction
  | png =>
      simp only at failed
      split at failed
      · cases failed
        exact Or.inl rfl
      rename_i narrow
      split at failed
      · cases failed
        exact Or.inl rfl
      rename_i low
      unfold encodeTo at failed
      split at failed
      · split at failed
        · cases failed
          exact Or.inl rfl
        · contradiction
      · rename_i refusal refused
        split at failed
        · cases failed
          exact Or.inl rfl
        · rename_i written
          cases failed
          exact Or.inr ⟨rfl, narrow, low, by rw [refused]; rfl, written⟩

/-- However an export fails, it got no further than the directories or to the end of a picture. -/
theorem exportTo_eq_error (failed : image.exportTo dir format files = .error fault left) :
    left = stateAfter (files.createDirectories dir) ∨ image.Hollow dir format files := by
  unfold exportTo at failed
  cases around : files.createDirectories dir with
  | error reason made =>
      rw [around] at failed
      cases failed
      exact Or.inl rfl
  | ok value made =>
      rw [around] at failed
      cases stored : image.writeTo (image.target dir format) format made with
      | ok value after =>
          simp only [stored, reduceCtorEq] at failed
      | error reason after =>
          simp only [stored] at failed
          cases failed
          rcases writeTo_eq_error stored with same | ⟨png, narrow, low, refused, written⟩
          · exact Or.inl same
          · rw [maxSide_lt_iff, Nat.not_lt] at narrow low
            exact Or.inr ⟨png, narrow, low, isSome_encodeFault?_iff.1 refused, made, around,
              (Files.exists_write_iff _).1 ⟨_, written⟩⟩

theorem exportTo_of_hollow (hollow : image.Hollow dir format files) :
    ∃ refusal made left, files.createDirectories dir = .ok () made ∧
      made.write (image.target dir format) (.plain Png.ending) = .ok left ∧
      image.exportTo dir format files =
        .error (.encode (image.target dir format) refusal) left := by
  obtain ⟨rfl, width, height, empty, made, around, writable⟩ := hollow
  obtain ⟨refusal, refused⟩ := Option.isSome_iff_exists.1 (isSome_encodeFault?_iff.2 empty)
  obtain ⟨left, written⟩ := (Files.exists_write_iff (.plain Png.ending)).2 writable
  have narrow : ¬ maxSide < image.width := by rw [maxSide_lt_iff]; omega
  have low : ¬ maxSide < image.height := by rw [maxSide_lt_iff]; omega
  refine ⟨refusal, made, left, around, written, ?_⟩
  simp only [exportTo, around, writeTo, if_neg narrow, if_neg low, encodeTo, refused, written]

theorem leftOpen_of_write (around : files.createDirectories dir = .ok () made)
    (written : made.write (image.target dir format) (.plain Png.ending) = .ok left) :
    image.LeftOpen dir format files left := by
  obtain ⟨_, directories⟩ := Files.createDirectories_eq_ok around
  obtain ⟨kept, file⟩ := Files.write_changed written
  obtain ⟨_, _, loc, leads, stands⟩ := Files.read_eq_ok_iff.1 (Files.read_of_write written)
  have whole : Changed (files.OnWay dir) (fun loc new =>
      left.LeadsTo (image.target dir format) loc ∧ new = .plain Png.ending) files.tree left.tree :=
    (directories.mono (fun _ onWay => onWay) (fun _ _ none => none.elim)).trans
      (file.mono (fun _ none => none.elim) (fun _ _ here => ⟨here.1.of_changed kept file, here.2⟩))
  refine ⟨⟨loc, leads, ?_, stands⟩, Files.keptBut_of_changed whole fun _ _ here => here.1⟩
  cases before : files.tree.node? loc with
  | none => exact Or.inl rfl
  | some node =>
      cases node with
      | file old => exact Or.inr ⟨old, rfl⟩
      | directory =>
          rw [whole.directory loc before] at stands
          contradiction

/-- A side that no picture can have is found before the file is opened. -/
theorem exportTo_of_long (png : format = .png)
    (long : 2 ^ 32 - 1 < image.width.toNat ∨ 2 ^ 32 - 1 < image.height.toNat) :
    ∃ fault, image.exportTo dir format files =
      .error fault (stateAfter (files.createDirectories dir)) ∧ fault.BeforeFile := by
  subst png
  rw [← maxSide_lt_iff, ← maxSide_lt_iff] at long
  cases around : files.createDirectories dir with
  | error reason made =>
      refine ⟨.directory dir reason, ?_, trivial⟩
      simp only [exportTo, around, stateAfter]
  | ok value made =>
      by_cases wide : maxSide < image.width
      · refine ⟨.tooWide, ?_, trivial⟩
        simp only [exportTo, around, writeTo, if_pos wide, stateAfter]
      · have tall := long.resolve_left wide
        refine ⟨.tooTall, ?_, trivial⟩
        simp only [exportTo, around, writeTo, if_neg wide, if_pos tall, stateAfter]

/-- An export that fails leaves all files as they were, at most with new directories on the way to
the given one. The only exception are pictures without pixels, whose file is opened before they are
refused. A picture with a side that is too long is refused before. -/
theorem exportTo_fails (image : Image) (dir : Path) (format : ExportFormat) (files : Files) :
    (∀ fault left, image.exportTo dir format files = .error fault left →
      ¬ image.Hollow dir format files → files.Kept dir left) ∧
    (image.Hollow dir format files → ∃ fault left,
      image.exportTo dir format files = .error fault left ∧
        image.LeftOpen dir format files left) ∧
    (format = .png → 2 ^ 32 - 1 < image.width.toNat ∨ 2 ^ 32 - 1 < image.height.toNat →
      ∃ fault left, image.exportTo dir format files = .error fault left ∧ fault.BeforeFile ∧
        files.Kept dir left) := by
  have kept : files.Kept dir (stateAfter (files.createDirectories dir)) :=
    Files.keptBut_of_changed (Files.createDirectories_changed files dir).2 fun _ _ none => none
  refine ⟨?_, ?_, ?_⟩
  · intro fault left failed solid
    rw [(exportTo_eq_error failed).resolve_right solid]
    exact kept
  · intro hollow
    obtain ⟨refusal, made, left, around, written, failed⟩ := exportTo_of_hollow hollow
    exact ⟨_, left, failed, leftOpen_of_write around written⟩
  · intro png long
    obtain ⟨fault, failed, early⟩ := exportTo_of_long png long
    exact ⟨fault, _, failed, early, kept⟩

/-- An image without width. -/
def slit : Image where
  name := "slit"
  format := .nrgba
  width := 0
  height := 3
  bytes := []
  addressable := by decide
  length_bytes := rfl

/-- A directory with a file in it that has the name of the picture. -/
def slitFiles : Files :=
  (Files.blank.put (Utf8.ofString "a") [] .directory).put (Utf8.ofString "slit.png")
    [Utf8.ofString "a"] (.file (.plain [1, 2, 3]))

theorem exportTo_fails_slit : slit.Hollow (.ofString "a") .png slitFiles ∧
    ∃ fault left, slit.exportTo (.ofString "a") .png slitFiles = .error fault left ∧
      slit.LeftOpen (.ofString "a") .png slitFiles left := by
  have made : slitFiles.createDirectories (.ofString "a") = .ok () slitFiles := rfl
  have writable : slitFiles.Writable (slit.target (.ofString "a") .png) :=
    (Files.exists_write_iff (.plain [])).1 ⟨_, rfl⟩
  have hollow : slit.Hollow (.ofString "a") .png slitFiles :=
    ⟨rfl, by decide, by decide, Or.inl rfl, slitFiles, made, writable⟩
  exact ⟨hollow, (exportTo_fails _ _ _ _).2.1 hollow⟩

end Image

end IconCatalog
