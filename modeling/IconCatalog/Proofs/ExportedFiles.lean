import IconCatalog.Proofs.Exporting
import IconCatalog.Proofs.PixelGrid
set_option autoImplicit false

namespace IconCatalog

/-- The pixel of a picture in a column and a row, from the top left. -/
def Picture.pixel? (p : Picture) (x y : Nat) : Option Pixel :=
  if x < p.width.toNat ∧ y < p.height.toNat then
    Pixel.ofBytes? ((p.pixels.drop (4 * (y * p.width.toNat + x))).take 4)
  else none

/-- A picture shows an image when it has the same sides, and each pixel of the image with straight
alpha. -/
structure Picture.Shows (p : Picture) (image : Image) : Prop where
  width : p.width.toNat = image.width.toNat
  height : p.height.toNat = image.height.toNat
  length : p.pixels.length = 4 * (image.width.toNat * image.height.toNat)
  pixel : ∀ x y, x < image.width → y < image.height → ∃ pixel, image.pixel? x y = some pixel ∧
    p.pixel? x.toNat y.toNat = some (image.format.straighten pixel)

def Files.blank : Files := ⟨.empty, .inTree []⟩

namespace Image

variable {image : Image} {dir path : Path} {format : ExportFormat} {files exported : Files}

/-- A side that a picture can have is not cut to 32 bits. -/
theorem toNat_side {side : UInt64} (fits : ¬ maxSide < side) :
    side.toUInt32.toNat = side.toNat := by
  have bound : side.toNat ≤ 0xFFFFFFFF := by
    rw [UInt64.lt_iff_toNat_lt] at fits
    exact Nat.le_of_not_lt fits
  rw [UInt64.toNat_toUInt32]
  omega

theorem picture_shows (narrow : ¬ maxSide < image.width) (low : ¬ maxSide < image.height) :
    image.picture.Shows image := by
  have width : image.picture.width.toNat = image.width.toNat := toNat_side narrow
  have height : image.picture.height.toNat = image.height.toNat := toNat_side low
  refine ⟨width, height, image.length_straight, ?_⟩
  intro x y column row
  obtain ⟨pixel, looked, there⟩ := exists_pixel? column row
  refine ⟨pixel, looked, ?_⟩
  have inside : x.toNat < image.picture.width.toNat ∧ y.toNat < image.picture.height.toNat := by
    rw [width, height]
    exact ⟨UInt64.lt_iff_toNat_lt.1 column, UInt64.lt_iff_toNat_lt.1 row⟩
  rw [Picture.pixel?, if_pos inside, width]
  exact Pixel.ofBytes?_eq_some_iff.2 (slice_straight there)

theorem sides_of_exportTo (done : image.exportTo dir .png files = .ok path exported) :
    ¬ maxSide < image.width ∧ ¬ maxSide < image.height := by
  unfold exportTo at done
  split at done
  · contradiction
  · rename_i made _
    constructor
    · intro wide
      have failed : image.writeTo (image.target dir .png) .png made = .error .tooWide made :=
        if_pos wide
      rw [failed] at done
      contradiction
    · intro tall
      by_cases wide : maxSide < image.width
      · have failed : image.writeTo (image.target dir .png) .png made = .error .tooWide made :=
          if_pos wide
        rw [failed] at done
        contradiction
      · have failed : image.writeTo (image.target dir .png) .png made = .error .tooTall made := by
          rw [writeTo, if_neg wide, if_pos tall]
        rw [failed] at done
        contradiction

/-- What the file of an exported image is called and holds. -/
def FileHolds (image : Image) (dir path : Path) : ExportFormat → Content → Prop
  | .raw, content =>
    path = dir.join (.ofString (image.name ++ "." ++ image.format.tag)) ∧
      content = .plain image.bytes
  | .png, content =>
    path = dir.join (.ofString (image.name ++ "." ++ "png")) ∧
      ∃ p, content = .picture p ∧ p.Shows image ∧ (image.format = .nrgba → p.pixels = image.bytes)

theorem fileHolds_content (done : image.exportTo dir format files = .ok path exported) :
    image.FileHolds dir path format (image.content format) := by
  have target := (exportTo_eq_ok done).1
  cases format with
  | raw => exact ⟨target, rfl⟩
  | png =>
      obtain ⟨narrow, low⟩ := sides_of_exportTo done
      refine ⟨target, image.picture, rfl, picture_shows narrow low, ?_⟩
      intro straight
      rw [picture, Image.straight, straight]

/-- What an export leaves that has told its path: the image is in the file there, other files hold
what they held, and new directories are on the way to the given one. -/
structure Stored (image : Image) (dir : Path) (format : ExportFormat) (before : Files)
    (path : Path) (after : Files) : Prop where
  file : ∃ content, after.read path = .ok content ∧ image.FileHolds dir path format content
  others : ∀ loc, ¬ after.LeadsTo path loc → ∀ content,
    after.tree.node? loc = some (.file content) ↔ before.tree.node? loc = some (.file content)
  directories : ∀ loc, before.tree.node? loc = some .directory →
    after.tree.node? loc = some .directory
  new_directories : ∀ loc, after.tree.node? loc = some .directory →
    before.tree.node? loc = some .directory ∨ before.OnWay dir loc
  /-- Unless the name of the image is an absolute path, the way to the directory is the beginning of
  the way to the file. -/
  on_way : image.name.toList.head? ≠ some '/' → ∀ loc, before.OnWay dir loc → before.OnWay path loc

theorem onWay_target {loc : Location} (relative : image.name.toList.head? ≠ some '/')
    (onWay : files.OnWay dir loc) : files.OnWay (image.target dir format) loc := by
  have entry := isAbsolute_fileName relative format
  have from_start : files.start (image.target dir format) = files.start dir := by
    rw [Files.start, target, Path.isAbsolute_join _ _ entry]
    rfl
  rw [Files.OnWay, from_start, target, Path.names_join _ _ entry]
  exact FileTree.trail_append _ _ _ onWay

/-- An export that tells a path has stored the whole image there and touched no other file. -/
theorem exportTo_stores (done : image.exportTo dir format files = .ok path exported) :
    image.Stored dir format files path exported := by
  have target := (exportTo_eq_ok done).1
  obtain ⟨_, changed⟩ := exportTo_ok_changed done
  refine ⟨⟨_, ?_, fileHolds_content done⟩, ?_, changed.directory, changed.new_directory, ?_⟩
  · rw [target]
    exact read_of_exportTo done
  · intro loc elsewhere content
    apply changed.file_iff
    rintro new ⟨leads, _⟩
    rw [target] at elsewhere
    exact elsewhere leads
  · intro relative loc onWay
    rw [target]
    exact onWay_target relative onWay

/-- A pixel of half alpha next to one without alpha. -/
def glass : Image where
  name := "glass"
  format := .prgba
  width := 2
  height := 1
  bytes := [64, 32, 0, 128, 10, 10, 10, 0]
  addressable := by decide
  length_bytes := rfl

theorem exportTo_stores_glass : ∃ path exported,
    glass.exportTo (.ofString "a/b") .png Files.blank = .ok path exported ∧
      glass.Stored (.ofString "a/b") .png Files.blank path exported := by
  obtain ⟨path, exported, done⟩ := exists_of_succeeds
    (show succeeds (glass.exportTo (.ofString "a/b") .png Files.blank) from trivial)
  exact ⟨path, exported, done, exportTo_stores done⟩

/-- An image whose name is an absolute path. -/
def rooted : Image where
  name := "/x"
  format := .nrgba
  width := 1
  height := 1
  bytes := [0, 0, 0, 0]
  addressable := by decide
  length_bytes := rfl

/-- The directory is made although the file goes elsewhere. -/
theorem exportTo_rooted : ∃ exported,
    rooted.exportTo (.ofString "out") .raw Files.blank = .ok (.ofString "/x.nrgba") exported ∧
      ¬ ∀ loc, exported.tree.node? loc = some .directory →
        Files.blank.tree.node? loc = some .directory ∨
          Files.blank.OnWay (.ofString "/x.nrgba") loc := by
  refine ⟨(Files.blank.put (Utf8.ofString "out") [] .directory).put (Utf8.ofString "x.nrgba") []
    (.file (.plain rooted.bytes)), rfl, ?_⟩
  intro on_way
  rcases on_way [Utf8.ofString "out"] rfl with old | passed
  · contradiction
  · revert passed
    rw [Files.OnWay]
    decide

/-- The one file of an image whose name has no slash is an entry of the given directory, and all
other files are as they were. -/
theorem exportTo_inside (plain : '/' ∉ image.name.toList)
    (done : image.exportTo dir format files = .ok path exported) :
    ∃ around, exported.LeadsTo dir around ∧
      exported.tree.node? around = some .directory ∧
      exported.tree.node? (Utf8.ofString (image.fileName format) :: around) =
        some (.file (image.content format)) ∧
      ∀ loc, loc ≠ Utf8.ofString (image.fileName format) :: around → ∀ content,
        exported.tree.node? loc = some (.file content) ↔
          files.tree.node? loc = some (.file content) := by
  obtain ⟨_, changed⟩ := exportTo_ok_changed done
  obtain ⟨_, _, loc, leads, stands⟩ := Files.read_eq_ok_iff.1 (read_of_exportTo done)
  obtain ⟨around, outer, rfl⟩ := leadsTo_target plain leads
  refine ⟨around, outer, exported.tree.closed _ _ _ stands, stands, ?_⟩
  intro loc elsewhere content
  apply changed.file_iff
  rintro new ⟨there, _⟩
  exact elsewhere (there.unique leads)

theorem exportTo_inside_glass : ∃ path exported, '/' ∉ glass.name.toList ∧
    glass.exportTo (.ofString "a/b") .raw Files.blank = .ok path exported ∧
    ∃ around, exported.LeadsTo (.ofString "a/b") around ∧
      exported.tree.node? around = some .directory ∧
      exported.tree.node? (Utf8.ofString (glass.fileName .raw) :: around) =
        some (.file (glass.content .raw)) ∧
      ∀ loc, loc ≠ Utf8.ofString (glass.fileName .raw) :: around → ∀ content,
        exported.tree.node? loc = some (.file content) ↔
          Files.blank.tree.node? loc = some (.file content) := by
  have plain : '/' ∉ glass.name.toList := by decide
  obtain ⟨path, exported, done⟩ := exists_of_succeeds
    (show succeeds (glass.exportTo (.ofString "a/b") .raw Files.blank) from trivial)
  exact ⟨path, exported, plain, done, exportTo_inside plain done⟩

/-- An image whose name leads out of a directory. -/
def climbing : Image := { rooted with name := "../x" }

/-- The file of such an image is made beside the directory and not in it. -/
theorem exportTo_climbing : ∃ exported,
    climbing.exportTo (.ofString "out") .raw Files.blank =
        .ok (.ofString "out/../x.nrgba") exported ∧
      ¬ ∀ loc content, exported.tree.node? loc = some (.file content) →
        Files.blank.tree.node? loc = some (.file content) ∨
          ∃ name around, loc = name :: around ∧ exported.LeadsTo (.ofString "out") around := by
  refine ⟨(Files.blank.put (Utf8.ofString "out") [] .directory).put (Utf8.ofString "x.nrgba") []
    (.file (.plain climbing.bytes)), rfl, ?_⟩
  intro entry
  rcases entry [Utf8.ofString "x.nrgba"] (.plain climbing.bytes) rfl with old | inside
  · contradiction
  · obtain ⟨name, around, same, leads⟩ := inside
    have outer : around = [Utf8.ofString "out"] := leads.unique rfl
    have root : [] = around := (List.cons.inj same).2
    rw [outer] at root
    contradiction

end Image

end IconCatalog
