import IconCatalog.Catalog
import IconCatalog.Proofs.Exporting
set_option autoImplicit false

namespace IconCatalog.Catalog

variable {icon other : Image}

private theorem of_mem_icons {P : Image → Prop} (mem : icon ∈ icons) (p₁₆ : P icon16)
    (p₂₄ : P icon24) (p₃₂ : P icon32) (p₄₈ : P icon48) (p₆₄ : P icon64) (p₁₂₈ : P icon128) :
    P icon := by
  simp only [icons, List.mem_cons, List.not_mem_nil, or_false] at mem
  rcases mem with rfl | rfl | rfl | rfl | rfl | rfl <;> assumption

theorem find?_of_mem (mem : icon ∈ icons) : find? icon.name = some icon :=
  of_mem_icons (P := fun icon => find? icon.name = some icon) mem rfl rfl rfl rfl rfl rfl

theorem mem_of_find? {name : String} (found : find? name = some icon) :
    icon ∈ icons ∧ icon.name = name := by
  have named := List.find?_some (p := fun image : Image => decide (image.name = name)) found
  exact ⟨List.mem_of_find?_eq_some found, of_decide_eq_true named⟩

theorem eq_of_name_eq (mem : icon ∈ icons) (mem' : other ∈ icons) (same : icon.name = other.name) :
    icon = other := by
  have found := find?_of_mem mem
  rw [same, find?_of_mem mem'] at found
  exact (Option.some.inj found).symm

theorem format_of_mem (mem : icon ∈ icons) : icon.format = .nrgba :=
  of_mem_icons (P := fun icon => icon.format = .nrgba) mem rfl rfl rfl rfl rfl rfl

theorem encodeFault?_of_mem (mem : icon ∈ icons) : icon.encodeFault? = none :=
  of_mem_icons (P := fun icon => icon.encodeFault? = none) mem rfl rfl rfl rfl rfl rfl

theorem slash_not_mem_name (mem : icon ∈ icons) : '/' ∉ icon.name.toList :=
  of_mem_icons (P := fun icon => '/' ∉ icon.name.toList) mem (by decide) (by decide) (by decide)
    (by decide) (by decide) (by decide)

/-- The sides of an icon keep their values in the 32 bits of a picture. -/
theorem toNat_sides_of_mem (mem : icon ∈ icons) :
    icon.width.toUInt32.toNat = icon.width.toNat ∧
      icon.height.toUInt32.toNat = icon.height.toNat :=
  of_mem_icons (P := fun icon => icon.width.toUInt32.toNat = icon.width.toNat ∧
    icon.height.toUInt32.toNat = icon.height.toNat) mem ⟨rfl, rfl⟩ ⟨rfl, rfl⟩ ⟨rfl, rfl⟩ ⟨rfl, rfl⟩
    ⟨rfl, rfl⟩ ⟨rfl, rfl⟩

/-- In one format, icons with one file name are the same icon. -/
theorem eq_of_fileName_eq (mem : icon ∈ icons) (mem' : other ∈ icons) {format : ExportFormat}
    (same : icon.fileName format = other.fileName format) : icon = other := by
  apply eq_of_name_eq mem mem'
  rw [Image.fileName, Image.fileName, format_of_mem mem, format_of_mem mem', String.append_assoc,
    String.append_assoc] at same
  exact (String.append_left_inj _).1 same

/-- Nothing but the icon itself is written for it. -/
theorem leaves_of_mem (mem : icon ∈ icons) {format : ExportFormat} {content : Content}
    (leaves : icon.Leaves format content) : content = icon.content format := by
  rcases leaves with whole | ⟨_, refused, _⟩
  · exact whole
  · rw [encodeFault?_of_mem mem] at refused
    contradiction

/-- The icons that some names stand for: all of them where there are no names. -/
def requested? (names : List String) : Option (List Image) :=
  if names.isEmpty then some icons else names.mapM find?

theorem mapM_find?_names {images : List Image} (known : ∀ image ∈ images, image ∈ icons) :
    (images.map Image.name).mapM find? = some images := by
  induction images with
  | nil => rfl
  | cons image images ih =>
      have first := find?_of_mem (known image List.mem_cons_self)
      have rest := ih fun other inside => known other (List.mem_cons_of_mem _ inside)
      rw [List.map_cons, List.mapM_cons, first, rest]
      rfl

theorem mapM_find?_eq_some_iff {names : List String} {images : List Image} :
    names.mapM find? = some images ↔
      images.map Image.name = names ∧ ∀ image ∈ images, image ∈ icons := by
  constructor
  · intro known
    induction names generalizing images with
    | nil =>
        cases known
        exact ⟨rfl, List.forall_mem_nil _⟩
    | cons name names ih =>
        simp only [List.mapM_cons, Option.bind_eq_bind, Option.bind_eq_some_iff] at known
        obtain ⟨first, found, rest, later, whole⟩ := known
        cases whole
        obtain ⟨mem, named⟩ := mem_of_find? found
        obtain ⟨laterNamed, laterMem⟩ := ih later
        rw [List.map_cons, named, laterNamed]
        exact ⟨rfl, List.forall_mem_cons.2 ⟨mem, laterMem⟩⟩
  · rintro ⟨rfl, known⟩
    exact mapM_find?_names known

theorem exists_mapM_find? {names : List String}
    (known : ∀ name ∈ names, name ∈ icons.map Image.name) :
    ∃ images, names.mapM find? = some images := by
  induction names with
  | nil => exact ⟨[], rfl⟩
  | cons name names ih =>
      obtain ⟨icon, mem, named⟩ := List.mem_map.1 (known name List.mem_cons_self)
      obtain ⟨images, rest⟩ := ih fun other inside => known other (List.mem_cons_of_mem _ inside)
      rw [List.mapM_cons, ← named, find?_of_mem mem, rest]
      exact ⟨icon :: images, rfl⟩

theorem requested?_of_ne_nil {names : List String} (filled : names ≠ []) :
    requested? names = names.mapM find? := by
  rw [requested?, if_neg (by rwa [List.isEmpty_iff])]

theorem mem_icons_of_requested? {names : List String} {images : List Image}
    (known : requested? names = some images) : ∀ image ∈ images, image ∈ icons := by
  unfold requested? at known
  split at known
  · cases known
    exact fun image inside => inside
  · exact (mapM_find?_eq_some_iff.1 known).2

theorem mem_of_name_mem {images : List Image} (known : ∀ image ∈ images, image ∈ icons)
    (mem : icon ∈ icons) (named : icon.name ∈ images.map Image.name) : icon ∈ images := by
  obtain ⟨image, inside, same⟩ := List.mem_map.1 named
  rwa [← eq_of_name_eq (known image inside) mem same]

/-- Names in any order, and however often each of them is given, stand for the same icons. -/
theorem requested?_of_same {names more : List String} {images : List Image}
    (same : ∀ name, name ∈ names ↔ name ∈ more) (known : requested? names = some images) :
    ∃ images', requested? more = some images' ∧ ∀ image, image ∈ images ↔ image ∈ images' := by
  by_cases empty : names = []
  · subst empty
    have empty' : more = [] := List.eq_nil_iff_forall_not_mem.2 fun name inside =>
      absurd ((same name).2 inside) List.not_mem_nil
    subst empty'
    exact ⟨images, known, fun _ => Iff.rfl⟩
  · have filled' : more ≠ [] := by
      rintro rfl
      exact empty (List.eq_nil_iff_forall_not_mem.2 fun name inside =>
        absurd ((same name).1 inside) List.not_mem_nil)
    rw [requested?_of_ne_nil empty] at known
    rw [requested?_of_ne_nil filled']
    obtain ⟨rfl, icons⟩ := mapM_find?_eq_some_iff.1 known
    have named : ∀ name ∈ more, name ∈ Catalog.icons.map Image.name := by
      intro name inside
      obtain ⟨image, mem, rfl⟩ := List.mem_map.1 ((same name).2 inside)
      exact List.mem_map_of_mem (icons image mem)
    obtain ⟨images', known'⟩ := exists_mapM_find? named
    obtain ⟨rfl, icons'⟩ := mapM_find?_eq_some_iff.1 known'
    refine ⟨images', known', fun image => ⟨?_, ?_⟩⟩
    · intro inside
      apply mem_of_name_mem icons' (icons image inside)
      exact (same image.name).1 (List.mem_map_of_mem inside)
    · intro inside
      apply mem_of_name_mem icons (icons' image inside)
      exact (same image.name).2 (List.mem_map_of_mem inside)

theorem requested?_ne_nil {names : List String} {images : List Image}
    (known : requested? names = some images) : images ≠ [] := by
  unfold requested? at known
  rintro rfl
  split at known
  · exact absurd (Option.some.inj known) (List.cons_ne_nil _ _)
  · rename_i filled
    exact filled (List.isEmpty_iff.2 (mapM_find?_eq_some_iff.1 known).1.symm)

end IconCatalog.Catalog
