import IconCatalog.Proofs.DividedText
import IconCatalog.Proofs.ExportedFiles
set_option autoImplicit false

namespace IconCatalog

open FileTree (Changed)

structure ExportCall where
  image : Image
  format : ExportFormat

namespace ExportCall

def label (call : ExportCall) : String × String :=
  (call.image.name, call.format.extension call.image.format)

def target (call : ExportCall) (dir : Path) : Path := call.image.target dir call.format

end ExportCall

/-- Makes all exports in turn and tells the paths of their files. -/
def exportAll (dir : Path) :
    List ExportCall → Files → EStateM.Result ExportFault Files (List Path)
  | [], files => .ok [] files
  | call :: calls, files =>
    match call.image.exportTo dir call.format files with
    | .error fault files => .error fault files
    | .ok path files =>
      match exportAll dir calls files with
      | .error fault files => .error fault files
      | .ok paths files => .ok (path :: paths) files

theorem point_not_mem_extension (format : ExportFormat) (pixels : PixelFormat) :
    '.' ∉ (format.extension pixels).toList := by
  cases format <;> cases pixels <;> decide

namespace ExportCall

variable {call other : ExportCall} {dir : Path} {files : Files} {loc : Location}

/-- Files of one name have one label. -/
theorem label_eq_of_fileName_eq
    (same : call.image.fileName call.format = other.image.fileName other.format) :
    call.label = other.label := by
  obtain ⟨name, extension⟩ := eq_of_append_mark (by decide : '.' ∈ ".".toList)
    (point_not_mem_extension _ _) (point_not_mem_extension _ _) same
  exact Prod.ext name extension

/-- Exports with other labels have their files elsewhere. -/
theorem label_eq_of_leadsTo (plain : '/' ∉ call.image.name.toList)
    (plain' : '/' ∉ other.image.name.toList) (here : files.LeadsTo (call.target dir) loc)
    (there : files.LeadsTo (other.target dir) loc) : call.label = other.label :=
  label_eq_of_fileName_eq (Image.fileName_eq_of_leadsTo plain plain' here there)

end ExportCall

section Sequence

variable {calls : List ExportCall} {call : ExportCall} {dir : Path} {paths : List Path}
  {files after : Files}

theorem exportAll_cons_eq_ok :
    exportAll dir (call :: calls) files = .ok paths after ↔
      ∃ path middle rest, call.image.exportTo dir call.format files = .ok path middle ∧
        exportAll dir calls middle = .ok rest after ∧ paths = path :: rest := by
  rw [exportAll]
  constructor
  · intro done
    split at done
    · contradiction
    · rename_i path middle stored
      split at done
      · contradiction
      · rename_i rest left later
        cases done
        exact ⟨path, middle, rest, stored, later, rfl⟩
  · rintro ⟨path, middle, rest, stored, later, rfl⟩
    simp only [stored, later]

theorem exportAll_changed (done : exportAll dir calls files = .ok paths after) :
    after.cwd = files.cwd ∧ Changed (files.OnWay dir)
      (fun loc new => ∃ call ∈ calls, after.LeadsTo (call.target dir) loc ∧
        new = call.image.content call.format) files.tree after.tree := by
  induction calls generalizing files paths with
  | nil =>
      cases done
      exact ⟨rfl, Changed.refl _ _ _⟩
  | cons call calls ih =>
      obtain ⟨path, middle, rest, stored, later, _⟩ := exportAll_cons_eq_ok.1 done
      obtain ⟨same, first⟩ := Image.exportTo_ok_changed stored
      obtain ⟨kept, second⟩ := ih later
      refine ⟨kept.trans same, ?_⟩
      have early : Changed (files.OnWay dir) (fun loc new => ∃ other ∈ call :: calls,
          after.LeadsTo (other.target dir) loc ∧ new = other.image.content other.format)
          files.tree middle.tree := by
        apply first.mono (fun _ onWay => onWay)
        rintro loc new ⟨leads, whole⟩
        exact ⟨call, List.mem_cons_self, leads.of_changed kept second, whole⟩
      apply early.trans
      apply second.mono
      · intro loc onWay
        rwa [Files.OnWay, Files.start_congr same] at onWay
      · rintro loc new ⟨other, inside, here⟩
        exact ⟨other, List.mem_cons_of_mem _ inside, here⟩

/-- When all exports are over, each path still reads as the image that was exported to it, unless an
export behind it had the same label. -/
theorem exportAll_keeps_last (plain : ∀ call ∈ calls, '/' ∉ call.image.name.toList)
    (done : exportAll dir calls files = .ok paths after) :
    ∀ (i : Nat) (call : ExportCall), calls[i]? = some call →
      call.label ∉ (calls.drop (i + 1)).map ExportCall.label →
      ∃ path content, paths[i]? = some path ∧ after.read path = .ok content ∧
        call.image.FileHolds dir path call.format content := by
  induction calls generalizing files paths with
  | nil =>
      intro i call at_i
      contradiction
  | cons first calls ih =>
      obtain ⟨path, middle, rest, stored, later, rfl⟩ := exportAll_cons_eq_ok.1 done
      intro i call at_i last
      cases i with
      -- The exports behind the first one have other labels, so none of them writes its file.
      | zero =>
          cases at_i
          obtain ⟨kept, changed⟩ := exportAll_changed later
          refine ⟨path, _, rfl, ?_, Image.fileHolds_content stored⟩
          rw [(Image.exportTo_eq_ok stored).1]
          apply Files.read_of_changed (Image.read_of_exportTo stored) kept changed
          rintro loc leads new ⟨other, inside, there, rfl⟩
          have label := ExportCall.label_eq_of_leadsTo
            (plain other (List.mem_cons_of_mem _ inside)) (plain _ List.mem_cons_self) there
            (leads.of_changed kept changed)
          exact absurd (label ▸ List.mem_map_of_mem inside) last
      | succ i =>
          exact ih (fun other inside => plain other (List.mem_cons_of_mem _ inside)) later i call
            at_i last

end Sequence

namespace Image

/-- An image whose name is that of the raw file of another one. -/
def glassFile : Image := { glass with name := "glass.prgba" }

/-- A pixel of full alpha under a name that is in use. -/
def otherGlass : Image where
  name := "glass"
  format := .prgba
  width := 1
  height := 1
  bytes := [1, 2, 3, 255]
  addressable := rooted.addressable
  length_bytes := rfl

end Image

/-- Four exports, of which the first and the third are to the same file. -/
def glassCalls : List ExportCall :=
  [⟨.glass, .raw⟩, ⟨.glassFile, .png⟩, ⟨.otherGlass, .raw⟩, ⟨.otherGlass, .png⟩]

/-- The later of two exports with the same label is read, and others are not disturbed. -/
theorem exportAll_keeps_last_glass : ∃ paths after,
    (∀ call ∈ glassCalls, '/' ∉ call.image.name.toList) ∧
    exportAll (.ofString "a/b") glassCalls Files.blank = .ok paths after ∧
    (∃ path content, paths[1]? = some path ∧ after.read path = .ok content ∧
      Image.glassFile.FileHolds (.ofString "a/b") path .png content) ∧
    ∃ path content, paths[2]? = some path ∧ after.read path = .ok content ∧
      Image.otherGlass.FileHolds (.ofString "a/b") path .raw content := by
  have plain : ∀ call ∈ glassCalls, '/' ∉ call.image.name.toList := by
    intro call inside
    simp only [glassCalls, List.mem_cons, List.not_mem_nil, or_false] at inside
    rcases inside with rfl | rfl | rfl | rfl <;> decide
  obtain ⟨paths, after, done⟩ := exists_of_succeeds
    (show succeeds (exportAll (.ofString "a/b") glassCalls Files.blank) from trivial)
  have last := exportAll_keeps_last plain done
  exact ⟨paths, after, plain, done, last 1 _ rfl (by decide), last 2 _ rfl (by decide)⟩

end IconCatalog
