import IconCatalog.Proofs.Outcome
import IconCatalog.Run
set_option autoImplicit false

namespace IconCatalog

/-- The product of the sides and the bytes of a pixel is a word, and so is the product before it. -/
structure Image.LengthFits (image : Image) : Prop where
  pixels : image.width.toNat * image.height.toNat < UInt64.size
  bytes : (image.width * image.height).toNat * image.format.bytesPerPixel.toNat < UInt64.size

theorem Image.lengthFits (image : Image) : image.LengthFits := by
  have bound := image.addressable
  have pixels : image.width.toNat * image.height.toNat < UInt64.size := by omega
  refine ⟨pixels, ?_⟩
  rw [toNat_mul_of_lt pixels, PixelFormat.toNat_bytesPerPixel]
  exact bound

theorem Image.toNat_expectedLength (image : Image) :
    (image.width * image.height * image.format.bytesPerPixel).toNat = image.bytes.length := by
  have fits := image.lengthFits
  rw [toNat_mul_of_lt fits.bytes, toNat_mul_of_lt fits.pixels, PixelFormat.toNat_bytesPerPixel,
    image.length_bytes]

namespace Audit

variable {seen : Seen} {earlier images : List Image} {image : Image}

section Values

variable {α : Type} [BEq α] [Hashable α] {value : Image → α} {set : Std.HashSet α}

/-- A set holds the values of some images, and nothing else. -/
def Holds (set : Std.HashSet α) (value : Image → α) (earlier : List Image) : Prop :=
  ∀ a, set.contains a = true ↔ ∃ other ∈ earlier, value other = a

theorem holds_empty (value : Image → α) : Holds ∅ value [] := by
  intro a
  simp only [Std.HashSet.contains_empty, Bool.false_eq_true, List.not_mem_nil, false_and,
    exists_false]

theorem Holds.insert [LawfulBEq α] (held : Holds set value earlier) (image : Image) :
    Holds (set.insert (value image)) value (earlier ++ [image]) := by
  intro a
  have before := held a
  simp only [Std.HashSet.contains_insert, Bool.or_eq_true, beq_iff_eq, before, List.mem_append,
    List.mem_singleton, or_and_right, exists_or, exists_eq_left]
  exact or_comm

end Values

structure Seen.Of (seen : Seen) (earlier : List Image) : Prop where
  names : Holds seen.names Image.name earlier
  widths : Holds seen.widths Image.width earlier

theorem Seen.of_none : Seen.none.Of [] := ⟨holds_empty _, holds_empty _⟩

theorem Seen.Of.add (of : seen.Of earlier) (image : Image) :
    (seen.add image).Of (earlier ++ [image]) :=
  ⟨of.names.insert image, of.widths.insert image⟩

/-- What is wrong with an image behind those in `earlier`. -/
def faults (earlier : List Image) (image : Image) : List Problem :=
  (if image.format = .nrgba then [] else [.format image.name image.format]) ++
  (if image.width = image.height then []
    else [.notSquare image.name image.width image.height]) ++
  (if ∃ other ∈ earlier, other.name = image.name then [.duplicateName image.name] else []) ++
  (if ∃ other ∈ earlier, other.width = image.width then
    [.duplicateSize image.name image.width] else [])

theorem ofImage_eq (of : seen.Of earlier) (image : Image) :
    ofImage seen image = faults earlier image := by
  have length := image.toNat_expectedLength
  have name := of.names image.name
  have width := of.widths image.width
  simp only [ofImage, report, faults, length, ne_eq, not_true_eq_false, decide_false,
    Bool.false_eq_true, if_false, List.nil_append, decide_eq_true_eq, ite_not, name, width]

theorem problemsAfter_eq (of : seen.Of earlier) (images : List Image) :
    problemsAfter seen images =
      images.zipIdx.flatMap fun entry => faults (earlier ++ images.take entry.2) entry.1 := by
  induction images generalizing seen earlier with
  | nil => rfl
  | cons image images ih =>
      rw [problemsAfter, ofImage_eq of, ih (of.add image), List.zipIdx_cons', List.flatMap_cons,
        List.flatMap_map]
      simp only [List.take_zero, List.append_nil, List.take_succ_cons, Prod.map, id_eq,
        List.append_assoc, List.singleton_append]

theorem problems_eq (images : List Image) :
    problems images = images.zipIdx.flatMap fun entry => faults (images.take entry.2) entry.1 :=
  problemsAfter_eq Seen.of_none images

theorem faults_eq_nil_iff : faults earlier image = [] ↔
    (image.format = .nrgba ∧ image.width = image.height) ∧
      (∀ other ∈ earlier, other.name ≠ image.name) ∧
      ∀ other ∈ earlier, other.width ≠ image.width := by
  simp only [faults, List.append_eq_nil_iff, ite_eq_left_iff, ite_eq_right_iff,
    List.cons_ne_nil, imp_false, Decidable.not_not, not_exists, not_and, ne_eq, and_assoc]

/-- Values are distinct when none occurs before its own place. -/
theorem nodup_map_iff_of_earlier {α : Type} {f : Image → α} : (images.map f).Nodup ↔
    ∀ image i, images[i]? = some image → ∀ other ∈ images.take i, f other ≠ f image := by
  rw [List.Nodup, List.pairwise_map, List.pairwise_iff_getElem]
  constructor
  · intro distinct image i here other before
    obtain ⟨inside, rfl⟩ := List.getElem?_eq_some_iff.1 here
    obtain ⟨j, below, rfl⟩ := List.mem_take_iff_getElem.1 before
    exact distinct j i _ inside (by omega)
  · intro distinct j i first second below
    apply distinct images[i] i (List.getElem?_eq_getElem second)
    exact List.mem_take_iff_getElem.2 ⟨j, by omega, rfl⟩

/-- Nothing is reported for just those lists that are a set of icons. -/
theorem problems_eq_nil_iff : problems images = [] ↔
    (∀ image ∈ images, image.format = .nrgba ∧ image.width = image.height) ∧
      (images.map Image.name).Nodup ∧ (images.map Image.width).Nodup := by
  have faultless : problems images = [] ↔
      ∀ image i, images[i]? = some image → faults (images.take i) image = [] := by
    simp only [problems_eq, List.flatMap_eq_nil_iff, Prod.forall, List.mem_zipIdx_iff_getElem?]
  rw [faultless, nodup_map_iff_of_earlier, nodup_map_iff_of_earlier]
  simp only [faults_eq_nil_iff]
  constructor
  · intro sound
    refine ⟨?_, fun image i here => (sound image i here).2.1,
      fun image i here => (sound image i here).2.2⟩
    intro image inside
    obtain ⟨i, here⟩ := List.mem_iff_getElem?.1 inside
    exact (sound image i here).1
  · rintro ⟨shaped, names, widths⟩ image i here
    exact ⟨shaped image (List.mem_of_getElem? here), names image i here, widths image i here⟩

theorem length_not_mem_problems (name : String) (actual : Nat) (expected : UInt64) :
    .length name actual expected ∉ problems images := by
  simp only [problems_eq, faults, List.mem_flatMap, List.mem_append, List.mem_ite_nil_left,
    List.mem_ite_nil_right, List.mem_singleton, reduceCtorEq, and_false, or_self, exists_false,
    not_false_eq_true]

end Audit

namespace Run

variable {ε : Type}

theorem records_apply (problems : List Problem) (run : Run) :
    (problems.forM fun problem => record (.problem problem) :
      EStateM (RunFault ε) Run Unit) run =
        .ok () { run with log := run.log ++ problems.map Record.problem } := by
  induction problems generalizing run with
  | nil => rw [List.map_nil, List.append_nil]; rfl
  | cons problem problems ih =>
      have later := ih { run with log := run.log ++ [.problem problem] }
      rw [List.append_assoc] at later
      exact later

theorem audit_apply (images : List Image) (run : Run) :
    (audit images : EStateM (RunFault ε) Run (List Problem)) run =
      .ok (Audit.problems images)
        { run with log := run.log ++ (Audit.problems images).map Record.problem } := by
  rw [audit, bind_apply, records_apply]
  rfl

/-- An audit tells what is wrong with each image behind those before it, and the log gets that as
warnings. No length is ever wrong, and the product that it is compared with does not overflow. So
nothing is told just about sets of icons. -/
theorem audit_reports (images : List Image) (run : Run) :
    (∃ warnings : List Record,
      (audit images : EStateM (RunFault ε) Run (List Problem)) run =
        .ok (Audit.problems images) { run with log := run.log ++ warnings } ∧
      warnings.map (fun record => (record.level, record.message)) =
        (Audit.problems images).map fun problem => ("WARN", problem.message)) ∧
    Audit.problems images =
      images.zipIdx.flatMap (fun (image, i) => Audit.faults (images.take i) image) ∧
    (∀ name actual expected, .length name actual expected ∉ Audit.problems images) ∧
    (∀ image ∈ images, image.LengthFits) ∧
    (Audit.problems images = [] ↔
      (∀ image ∈ images, image.format = .nrgba ∧ image.width = image.height) ∧
        (images.map Image.name).Nodup ∧ (images.map Image.width).Nodup) := by
  refine ⟨⟨_, audit_apply images run, ?_⟩, Audit.problems_eq images,
    Audit.length_not_mem_problems, fun image _ => image.lengthFits, Audit.problems_eq_nil_iff⟩
  rw [List.map_map]
  rfl

end Run

end IconCatalog
