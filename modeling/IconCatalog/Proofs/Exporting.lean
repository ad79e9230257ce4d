import IconCatalog.Export
import IconCatalog.Proofs.FileOperations
import IconCatalog.Proofs.Utf8Canonical
set_option autoImplicit false

namespace IconCatalog.Image

open FileTree (Changed nowhere nothing)

variable {image other : Image} {dir : Path} {format : ExportFormat} {files exported : Files}
  {loc : Location}

def content (image : Image) : ExportFormat → Content
  | .raw => .plain image.bytes
  | .png => .picture image.picture

/-- What an encoder leaves behind that refuses the image after its file was opened. -/
def Refused (image : Image) (format : ExportFormat) (content : Content) : Prop :=
  format = .png ∧ image.encodeFault?.isSome = true ∧ content = .plain Png.ending

/-- The content is that of the image, or what an encoder leaves that refuses it. -/
def Leaves (image : Image) (format : ExportFormat) (content : Content) : Prop :=
  content = image.content format ∨ image.Refused format content

private theorem write_leaves {target : Path} {content : Content}
    (done : files.write target content = .ok exported) (leaves : image.Leaves format content) :
    exported.cwd = files.cwd ∧ Changed nowhere
      (fun loc new => files.LeadsTo target loc ∧ image.Leaves format new) files.tree
      exported.tree := by
  obtain ⟨same, changed⟩ := Files.write_changed done
  refine ⟨same, changed.mono (fun _ none => none) ?_⟩
  rintro loc new ⟨leads, rfl⟩
  exact ⟨leads, leaves⟩

theorem encodeTo_changed (image : Image) (target : Path) (files : Files) :
    (stateAfter (image.encodeTo target files)).cwd = files.cwd ∧ Changed nowhere
      (fun loc new => files.LeadsTo target loc ∧ image.Leaves .png new) files.tree
      (stateAfter (image.encodeTo target files)).tree := by
  unfold encodeTo
  cases refusal : image.encodeFault? with
  | none =>
      simp only
      cases done : files.write target (.picture image.picture) with
      | error fault => exact ⟨rfl, Changed.refl _ _ _⟩
      | ok written => exact write_leaves done (Or.inl rfl)
  | some fault =>
      have refused : image.Refused .png (.plain Png.ending) := ⟨rfl, by rw [refusal]; rfl, rfl⟩
      simp only
      cases done : files.write target (.plain Png.ending) with
      | error fault => exact ⟨rfl, Changed.refl _ _ _⟩
      | ok written => exact write_leaves done (Or.inr refused)

theorem writeTo_changed (image : Image) (target : Path) (format : ExportFormat) (files : Files) :
    (stateAfter (image.writeTo target format files)).cwd = files.cwd ∧ Changed nowhere
      (fun loc new => files.LeadsTo target loc ∧ image.Leaves format new) files.tree
      (stateAfter (image.writeTo target format files)).tree := by
  unfold writeTo
  cases format with
  | raw =>
      simp only
      cases done : files.write target (.plain image.bytes) with
      | error fault => exact ⟨rfl, Changed.refl _ _ _⟩
      | ok written => exact write_leaves done (Or.inl rfl)
  | png =>
      simp only
      split
      · exact ⟨rfl, Changed.refl _ _ _⟩
      split
      · exact ⟨rfl, Changed.refl _ _ _⟩
      · exact encodeTo_changed image target files

/-- Whether or not an export succeeds, new directories lie on the way of the given one, and only
the file that the target leads to can have been written. -/
theorem exportTo_changed (image : Image) (dir : Path) (format : ExportFormat) (files : Files) :
    (stateAfter (image.exportTo dir format files)).cwd = files.cwd ∧
      Changed (files.OnWay dir)
        (fun loc new => (stateAfter (image.exportTo dir format files)).LeadsTo
          (image.target dir format) loc ∧ image.Leaves format new)
        files.tree (stateAfter (image.exportTo dir format files)).tree := by
  obtain ⟨same, changed⟩ := Files.createDirectories_changed files dir
  unfold exportTo
  cases around : files.createDirectories dir with
  | error fault made =>
      rw [around] at same changed
      exact ⟨same, changed.mono (fun _ onWay => onWay) (fun _ _ none => none.elim)⟩
  | ok value made =>
      rw [around] at same changed
      obtain ⟨kept, written⟩ := writeTo_changed image (image.target dir format) format made
      have made_only : Changed (files.OnWay dir) (fun loc new =>
          (stateAfter (image.writeTo (image.target dir format) format made)).LeadsTo
            (image.target dir format) loc ∧ image.Leaves format new) files.tree made.tree :=
        changed.mono (fun _ onWay => onWay) (fun _ _ none => none.elim)
      have last := made_only.trans (written.mono (fun _ none => none.elim)
        (fun _ _ here => ⟨here.1.of_changed kept written, here.2⟩))
      simp only
      cases done : image.writeTo (image.target dir format) format made with
      | error fault after =>
          rw [done] at kept last
          exact ⟨kept.trans same, last⟩
      | ok value after =>
          rw [done] at kept last
          exact ⟨kept.trans same, last⟩

/-- What a successful export has done: the directories first, then the whole file. -/
theorem exportTo_eq_ok {path : Path} (done : image.exportTo dir format files = .ok path exported) :
    path = image.target dir format ∧ ∃ made, files.createDirectories dir = .ok () made ∧
      made.write (image.target dir format) (image.content format) = .ok exported := by
  unfold exportTo at done
  split at done
  · contradiction
  · rename_i made around
    split at done
    · contradiction
    · rename_i after written
      cases done
      refine ⟨rfl, made, around, ?_⟩
      unfold writeTo at written
      cases format with
      | raw =>
          simp only at written
          split at written
          · contradiction
          · rename_i stored
            cases written
            exact stored
      | png =>
          simp only at written
          split at written
          · contradiction
          split at written
          · contradiction
          unfold encodeTo at written
          split at written
          · split at written
            · contradiction
            · rename_i stored
              cases written
              exact stored
          · split at written <;> contradiction

theorem read_of_exportTo {path : Path}
    (done : image.exportTo dir format files = .ok path exported) :
    exported.read (image.target dir format) = .ok (image.content format) := by
  obtain ⟨_, made, _, written⟩ := exportTo_eq_ok done
  exact Files.read_of_write written

theorem exportTo_ok_changed {path : Path}
    (done : image.exportTo dir format files = .ok path exported) :
    exported.cwd = files.cwd ∧ Changed (files.OnWay dir)
      (fun loc new => exported.LeadsTo (image.target dir format) loc ∧
        new = image.content format) files.tree exported.tree := by
  obtain ⟨_, made, around, written⟩ := exportTo_eq_ok done
  obtain ⟨same, directories⟩ := Files.createDirectories_eq_ok around
  obtain ⟨kept, file⟩ := Files.write_changed written
  refine ⟨kept.trans same, ?_⟩
  have first : Changed (files.OnWay dir) (fun loc new =>
      exported.LeadsTo (image.target dir format) loc ∧ new = image.content format)
      files.tree made.tree :=
    directories.mono (fun _ onWay => onWay) (fun _ _ none => none.elim)
  exact first.trans (file.mono (fun _ none => none.elim)
    (fun _ _ here => ⟨here.1.of_changed kept file, here.2⟩))

theorem ofString_fileName (image : Image) (format : ExportFormat) :
    Utf8.ofString (image.fileName format) =
      Utf8.ofString image.name ++ (0x2E :: Utf8.ofString (format.extension image.format)) := by
  have point : Utf8.ofString "." = [0x2E] := by decide
  rw [fileName, Utf8.ofString_append, Utf8.ofString_append, point, List.append_assoc]
  rfl

/-- The extension is short of a slash and long enough that no file is named like a directory of its
own. -/
private theorem extension_bytes (format : ExportFormat) (pixels : PixelFormat) :
    Path.slash ∉ Utf8.ofString (format.extension pixels) ∧
      2 ≤ (Utf8.ofString (format.extension pixels)).length := by
  cases format <;> cases pixels <;> decide

theorem slash_not_mem_fileName (plain : '/' ∉ image.name.toList) (format : ExportFormat) :
    Path.slash ∉ Utf8.ofString (image.fileName format) := by
  rw [ofString_fileName]
  intro member
  rcases List.mem_append.1 member with inside | behind
  · exact plain (Utf8.mem_of_mem_encode (by decide) inside)
  · rcases List.mem_cons.1 behind with point | extension
    · contradiction
    · exact (extension_bytes format image.format).1 extension

theorem two_lt_length_fileName (image : Image) (format : ExportFormat) :
    2 < (Utf8.ofString (image.fileName format)).length := by
  have long := (extension_bytes format image.format).2
  rw [ofString_fileName, List.length_append, List.length_cons]
  omega

theorem isAbsolute_fileName (relative : image.name.toList.head? ≠ some '/')
    (format : ExportFormat) : (Path.ofString (image.fileName format)).isAbsolute = false := by
  rw [Path.isAbsolute, decide_eq_false_iff_not, Path.ofString, ofString_fileName]
  intro first
  cases bytes : Utf8.ofString image.name with
  | nil =>
      rw [bytes] at first
      exact absurd (Option.some.inj first) (by decide)
  | cons b rest =>
      rw [bytes, List.cons_append, List.head?_cons] at first
      have slash : (Utf8.ofString image.name).head? = some Path.slash := by
        rw [bytes, List.head?_cons, first]
      exact relative (Utf8.head?_of_head?_encode (by decide) slash)

private theorem relative_of_plain (plain : '/' ∉ image.name.toList) :
    image.name.toList.head? ≠ some '/' :=
  fun first => plain (List.mem_of_mem_head? first)

theorem names_target (plain : '/' ∉ image.name.toList) (dir : Path) (format : ExportFormat) :
    (image.target dir format).names = dir.names ++ [Utf8.ofString (image.fileName format)] := by
  have long := two_lt_length_fileName image format
  rw [target, Path.names_join _ _ (isAbsolute_fileName (relative_of_plain plain) format)]
  congr 1
  apply Path.names_of_not_mem (slash_not_mem_fileName plain format)
  intro empty
  rw [empty] at long
  contradiction

theorem leadsTo_target (plain : '/' ∉ image.name.toList)
    (leads : files.LeadsTo (image.target dir format) loc) :
    ∃ around, files.LeadsTo dir around ∧
      loc = Utf8.ofString (image.fileName format) :: around := by
  have long := two_lt_length_fileName image format
  have from_start : files.start (image.target dir format) = files.start dir := by
    rw [Files.start, target,
      Path.isAbsolute_join _ _ (isAbsolute_fileName (relative_of_plain plain) format)]
    rfl
  rw [Files.LeadsTo, from_start, names_target plain, FileTree.walk_append] at leads
  cases walked : files.tree.walk (files.start dir) dir.names with
  | error fault =>
      rw [walked] at leads
      contradiction
  | ok place =>
      rw [walked] at leads
      obtain ⟨_, next, stepped, last⟩ := FileTree.walk_cons_eq_ok_iff.1 leads
      cases last
      rw [Place.child.eq_def, if_neg (fun same => by rw [same] at long; contradiction),
        if_neg (fun same => by rw [same] at long; contradiction)] at stepped
      cases place with
      | lost depth outer => contradiction
      | inTree around =>
          simp only at stepped
          split at stepped
          · contradiction
          · cases stepped
            exact ⟨around, walked, rfl⟩

/-- Where two images have their files in one place, the files have one name. -/
theorem fileName_eq_of_leadsTo {format' : ExportFormat} (plain : '/' ∉ image.name.toList)
    (plain' : '/' ∉ other.name.toList) (here : files.LeadsTo (image.target dir format) loc)
    (there : files.LeadsTo (other.target dir format') loc) :
    image.fileName format = other.fileName format' := by
  obtain ⟨around, _, rfl⟩ := leadsTo_target plain here
  obtain ⟨around', _, same⟩ := leadsTo_target plain' there
  exact Utf8.ofString_injective (List.cons.inj same).1

end IconCatalog.Image
