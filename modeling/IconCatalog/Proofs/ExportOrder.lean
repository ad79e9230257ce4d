import IconCatalog.Proofs.ExportBatches
import IconCatalog.Proofs.StandingDirectories
set_option autoImplicit false

namespace IconCatalog

open FileTree (Changed nowhere)

variable {ε : Type} {dir : Path} {format : ExportFormat} {image : Image}
  {images images' : List Image}

namespace Image

variable {files made written : Files}

theorem writeTo_eq_ok_iff (known : image ∈ Catalog.icons) {target : Path} :
    image.writeTo target format files = .ok () written ↔
      files.write target (image.content format) = .ok written := by
  cases format with
  | raw =>
      simp only [writeTo, content]
      cases files.write target (.plain image.bytes) <;> simp
  | png =>
      obtain ⟨width, height⟩ := Catalog.toNat_sides_of_mem known
      have narrow : ¬ maxSide < image.width := by
        rw [UInt64.lt_iff_toNat_lt, ← width]
        exact Nat.not_lt.2 (Nat.le_of_lt_succ image.width.toUInt32.toNat_lt)
      have low : ¬ maxSide < image.height := by
        rw [UInt64.lt_iff_toNat_lt, ← height]
        exact Nat.not_lt.2 (Nat.le_of_lt_succ image.height.toUInt32.toNat_lt)
      simp only [writeTo, if_neg narrow, if_neg low, encodeTo, Catalog.encodeFault?_of_mem known,
        content]
      cases files.write target (.picture image.picture) <;> simp

/-- An export goes on from the directories that it made as if they had been there. -/
theorem exportTo_of_createDirectories (around : files.createDirectories dir = .ok () made) :
    image.exportTo dir format files = image.exportTo dir format made := by
  have stands := Files.standing_of_createDirectories around
  rw [exportTo, exportTo, around, Files.createDirectories_of_standing stands]

theorem exportTo_eq_ok_iff (known : image ∈ Catalog.icons) (stands : files.Standing dir) :
    image.exportTo dir format files = .ok (image.target dir format) written ↔
      files.write (image.target dir format) (image.content format) = .ok written := by
  rw [exportTo, Files.createDirectories_of_standing stands, ← writeTo_eq_ok_iff known]
  cases stored : image.writeTo (image.target dir format) format files <;>
    simp only [stored] <;> simp

end Image

namespace Run

variable {before middle after : Run} {files made : Files}

/-- A run without a limit, in which the directory for exports stands. -/
structure Ready (dir : Path) (run : Run) : Prop where
  free : run.room = none
  stands : run.session.files.Standing dir

/-- From one run to a later one no directory was made, and the working directory is the same. -/
structure Unmade (before after : Run) : Prop where
  cwd : after.session.files.cwd = before.session.files.cwd
  changed : Changed nowhere (fun _ _ => True) before.session.files.tree after.session.files.tree

theorem Unmade.refl (run : Run) : Unmade run run := ⟨rfl, Changed.refl _ _ _⟩

theorem Unmade.trans (first : Unmade before middle) (second : Unmade middle after) :
    Unmade before after :=
  ⟨second.cwd.trans first.cwd, first.changed.trans second.changed⟩

theorem Unmade.writable_iff (unmade : Unmade before after) {p : Path} :
    after.session.files.Writable p ↔ before.session.files.Writable p :=
  Files.writable_iff_of_changed unmade.cwd unmade.changed

theorem exportIcon_eq_ok_iff (known : image ∈ Catalog.icons) (ready : Ready dir before) :
    (exportIcon dir format image : EStateM (RunFault ε) Run Unit) before = .ok () after ↔
      ∃ files, before.session.files.write (image.target dir format) (image.content format) =
          .ok files ∧ after = before.withExported dir format image files := by
  constructor
  · intro done
    obtain ⟨files, stored, same⟩ := exportIcon_eq_ok ready.free done
    exact ⟨files, (Image.exportTo_eq_ok_iff known ready.stands).1 stored, same⟩
  · rintro ⟨files, written, rfl⟩
    have stored := (Image.exportTo_eq_ok_iff known ready.stands).2 written
    have free : (before.recorded format image files).room = none := ready.free
    rw [exportIcon_apply stored, printLine, print_of_free free]
    rfl

theorem exportIcon_ready (known : image ∈ Catalog.icons) (ready : Ready dir before)
    (done : (exportIcon dir format image : EStateM (RunFault ε) Run Unit) before = .ok () after) :
    Ready dir after ∧ Unmade before after := by
  obtain ⟨files, written, rfl⟩ := (exportIcon_eq_ok_iff known ready).1 done
  obtain ⟨same, changed⟩ := Files.write_changed written
  have unmade : Unmade before (before.withExported dir format image files) :=
    ⟨same, changed.mono (fun _ none => none) (fun _ _ _ => trivial)⟩
  exact ⟨⟨ready.free, (Files.standing_iff_of_changed unmade.cwd unmade.changed).2 ready.stands⟩,
    unmade⟩

theorem exportIcons_ready (known : ∀ image ∈ images, image ∈ Catalog.icons)
    (ready : Ready dir before)
    (done : (exportIcons dir format images : EStateM (RunFault ε) Run Unit) before = .ok () after) :
    Ready dir after ∧ Unmade before after := by
  induction images generalizing before with
  | nil =>
      cases done
      exact ⟨ready, Unmade.refl _⟩
  | cons image images ih =>
      obtain ⟨middle, first, rest⟩ := exportIcons_cons_eq_ok.1 done
      obtain ⟨still, unmade⟩ := exportIcon_ready (known image List.mem_cons_self) ready first
      obtain ⟨last, later⟩ := ih (fun other inside => known other (List.mem_cons_of_mem _ inside))
        still rest
      exact ⟨last, unmade.trans later⟩

/-- Once the directory stands, icons are exported when the file of each can be written. -/
theorem exists_exportIcons_iff_writable (known : ∀ image ∈ images, image ∈ Catalog.icons)
    (ready : Ready dir before) :
    (∃ after, (exportIcons dir format images : EStateM (RunFault ε) Run Unit) before =
        .ok () after) ↔
      ∀ image ∈ images, before.session.files.Writable (image.target dir format) := by
  induction images generalizing before with
  | nil => exact ⟨fun _ _ inside => absurd inside List.not_mem_nil, fun _ => ⟨before, rfl⟩⟩
  | cons image images ih =>
      -- The first export makes no directory, so it decides nothing for the files of the others.
      have mem := known image List.mem_cons_self
      have known' : ∀ other ∈ images, other ∈ Catalog.icons :=
        fun other inside => known other (List.mem_cons_of_mem _ inside)
      rw [List.forall_mem_cons, ← Files.exists_write_iff (image.content format)]
      constructor
      · rintro ⟨after, done⟩
        obtain ⟨middle, first, rest⟩ := exportIcons_cons_eq_ok.1 done
        obtain ⟨still, unmade⟩ := exportIcon_ready mem ready first
        obtain ⟨files, written, _⟩ := (exportIcon_eq_ok_iff mem ready).1 first
        refine ⟨⟨files, written⟩, fun other inside => ?_⟩
        exact unmade.writable_iff.1 ((ih known' still).1 ⟨after, rest⟩ other inside)
      · rintro ⟨⟨files, written⟩, later⟩
        have first := (exportIcon_eq_ok_iff (ε := ε) mem ready).2 ⟨files, written, rfl⟩
        obtain ⟨still, unmade⟩ := exportIcon_ready mem ready first
        obtain ⟨after, rest⟩ := (ih known' still).2 fun other inside =>
          unmade.writable_iff.2 (later other inside)
        exact ⟨after, exportIcons_cons_eq_ok.2 ⟨_, first, rest⟩⟩

def withFiles (run : Run) (files : Files) : Run :=
  { run with session := { run.session with files := files } }

theorem exportIcons_of_createDirectories (filled : images ≠ [])
    (around : before.session.files.createDirectories dir = .ok () made) :
    (exportIcons dir format images : EStateM (RunFault ε) Run Unit) before =
      exportIcons dir format images (before.withFiles made) := by
  obtain ⟨image, images, rfl⟩ := List.exists_cons_of_ne_nil filled
  have first : (exportIcon dir format image : EStateM (RunFault ε) Run Unit) before =
      exportIcon dir format image (before.withFiles made) := by
    rw [exportIcon, bind_apply, bind_apply, onFiles, onFiles,
      Image.exportTo_of_createDirectories around]
    rfl
  rw [exportIcons, bind_apply, bind_apply, first]

theorem exists_createDirectories (filled : images ≠ [])
    (done : (exportIcons dir format images : EStateM (RunFault ε) Run Unit) before = .ok () after) :
    ∃ made, before.session.files.createDirectories dir = .ok () made := by
  obtain ⟨image, images, rfl⟩ := List.exists_cons_of_ne_nil filled
  obtain ⟨middle, first, _⟩ := exportIcons_cons_eq_ok.1 done
  cases stored : image.exportTo dir format before.session.files with
  | error fault files =>
      rw [exportIcon, bind_apply, onFiles, stored] at first
      contradiction
  | ok path files =>
      obtain ⟨_, made, around, _⟩ := Image.exportTo_eq_ok stored
      exact ⟨made, around⟩

theorem ready_withFiles (free : before.room = none)
    (around : before.session.files.createDirectories dir = .ok () made) :
    Ready dir (before.withFiles made) :=
  ⟨free, Files.standing_of_createDirectories around⟩

/-- Exports that succeed go on from a directory that stands, where each file can be written. -/
theorem exportIcons_ready_made (filled : images ≠ [])
    (known : ∀ image ∈ images, image ∈ Catalog.icons) (free : before.room = none)
    (done : (exportIcons dir format images : EStateM (RunFault ε) Run Unit) before = .ok () after) :
    ∃ made, before.session.files.createDirectories dir = .ok () made ∧
      Ready dir (before.withFiles made) ∧
      (∀ image ∈ images, made.Writable (image.target dir format)) ∧
      (exportIcons dir format images : EStateM (RunFault ε) Run Unit) (before.withFiles made) =
        .ok () after := by
  obtain ⟨made, around⟩ := exists_createDirectories filled done
  have ready := ready_withFiles free around
  rw [exportIcons_of_createDirectories filled around] at done
  exact ⟨made, around, ready, (exists_exportIcons_iff_writable known ready).1 ⟨after, done⟩, done⟩

/-- Icons are exported when the directory can be made and then the file of each can be written. -/
theorem exists_exportIcons_iff (filled : images ≠ [])
    (known : ∀ image ∈ images, image ∈ Catalog.icons) (free : before.room = none) :
    (∃ after, (exportIcons dir format images : EStateM (RunFault ε) Run Unit) before =
        .ok () after) ↔
      ∃ made, before.session.files.createDirectories dir = .ok () made ∧
        ∀ image ∈ images, made.Writable (image.target dir format) := by
  constructor
  · rintro ⟨after, done⟩
    obtain ⟨made, around, _, writable, _⟩ := exportIcons_ready_made filled known free done
    exact ⟨made, around, writable⟩
  · rintro ⟨made, around, writable⟩
    rw [exportIcons_of_createDirectories filled around]
    exact (exists_exportIcons_iff_writable known (ready_withFiles free around)).2 writable

/-- From some files to later ones, images were written in directories that stood. -/
structure Filled (dir : Path) (format : ExportFormat) (images : List Image)
    (before after : Files) : Prop where
  cwd : after.cwd = before.cwd
  changed : Changed nowhere (BelongsTo dir format images after) before.tree after.tree
  read : ∀ image ∈ images, after.read (image.target dir format) = .ok (image.content format)

section Filled

variable {before after after' : Files} {loc : Location}

theorem Filled.node?_of_leadsTo (filled : Filled dir format images before after)
    (inside : image ∈ images) (leads : before.LeadsTo (image.target dir format) loc) :
    after.tree.node? loc = some (.file (image.content format)) := by
  obtain ⟨_, _, loc', leads', stands⟩ := Files.read_eq_ok_iff.1 (filled.read image inside)
  rwa [(leads.of_changed filled.cwd filled.changed).unique leads']

theorem Filled.node?_elsewhere (filled : Filled dir format images before after)
    (elsewhere : ∀ image ∈ images, ¬ before.LeadsTo (image.target dir format) loc) :
    after.tree.node? loc = before.tree.node? loc := by
  apply filled.changed.node?_eq (fun _ none => none)
  rintro content ⟨image, inside, leads, _⟩
  exact elsewhere image inside ((Files.leadsTo_iff_of_changed filled.cwd filled.changed).1 leads)

/-- What is in the files of the images is known, and all else is as before. -/
theorem Filled.unique (first : Filled dir format images before after)
    (second : Filled dir format images' before after')
    (same : ∀ image, image ∈ images ↔ image ∈ images') : after = after' := by
  have tree : after.tree = after'.tree := by
    apply FileTree.ext_node?
    intro loc
    -- At a target stands the image of the target, by whichever export it came there last.
    by_cases here : ∃ image ∈ images, before.LeadsTo (image.target dir format) loc
    · obtain ⟨image, inside, leads⟩ := here
      rw [first.node?_of_leadsTo inside leads,
        second.node?_of_leadsTo ((same image).1 inside) leads]
    · rw [first.node?_elsewhere fun image inside leads => here ⟨image, inside, leads⟩,
        second.node?_elsewhere fun image inside leads =>
          here ⟨image, (same image).2 inside, leads⟩]
  have cwd : after.cwd = after'.cwd := first.cwd.trans second.cwd.symm
  cases after
  cases after'
  rw [Files.mk.injEq]
  exact ⟨tree, cwd⟩

/-- Where the images are in their files, it is as if they had just been written. -/
theorem Filled.again (filled : Filled dir format images before after)
    (same : ∀ image, image ∈ images ↔ image ∈ images') : Filled dir format images' after after :=
  ⟨rfl, Changed.refl _ _ _, fun image inside => filled.read image ((same image).2 inside)⟩

end Filled

/-- In a directory that stands, exports do nothing but write the files of their icons. -/
theorem exportIcons_filled (known : ∀ image ∈ images, image ∈ Catalog.icons)
    (ready : Ready dir before)
    (done : (exportIcons dir format images : EStateM (RunFault ε) Run Unit) before = .ok () after) :
    Filled dir format images before.session.files after.session.files := by
  have exported := exportIcons_exported known ready.free done
  have unmade := (exportIcons_ready known ready done).2
  refine ⟨exported.cwd, ⟨exported.changed.directory, exported.changed.file, ?_,
    exported.changed.new_content⟩, exported.read⟩
  exact unmade.changed.new_directory

section Same

variable (filled : images ≠ []) (known : ∀ image ∈ images, image ∈ Catalog.icons)
  (free : before.room = none) (same : ∀ image, image ∈ images ↔ image ∈ images')
  (done : (exportIcons dir format images : EStateM (RunFault ε) Run Unit) before = .ok () after)

include filled known free same done

/-- Where some icons are exported, the same icons are in any other order and number, and the files
are the same. -/
theorem exportIcons_of_same (filled' : images' ≠ []) :
    ∃ after', (exportIcons dir format images' : EStateM (RunFault ε) Run Unit) before =
      .ok () after' ∧ after'.session.files = after.session.files := by
  have known' : ∀ image ∈ images', image ∈ Catalog.icons :=
    fun image inside => known image ((same image).2 inside)
  obtain ⟨made, around, ready, writable, madeDone⟩ :=
    exportIcons_ready_made filled known free done
  obtain ⟨after', done'⟩ := (exists_exportIcons_iff (ε := ε) filled' known' free).2
    ⟨made, around, fun image inside => writable image ((same image).2 inside)⟩
  have madeDone' := done'
  rw [exportIcons_of_createDirectories filled' around] at madeDone'
  exact ⟨after', done', (exportIcons_filled known' ready madeDone').unique
    (exportIcons_filled known ready madeDone) fun image => (same image).symm⟩

/-- Icons that are exported again into the same files change nothing. -/
theorem exportIcons_again {later : Run} (free' : later.room = none)
    (files : later.session.files = after.session.files) :
    ∃ again, (exportIcons dir format images' : EStateM (RunFault ε) Run Unit) later =
      .ok () again ∧ again.session.files = after.session.files := by
  have known' : ∀ image ∈ images', image ∈ Catalog.icons :=
    fun image inside => known image ((same image).2 inside)
  obtain ⟨made, _, ready, writable, madeDone⟩ := exportIcons_ready_made filled known free done
  obtain ⟨still, unmade⟩ := exportIcons_ready known ready madeDone
  have ready' : Ready dir later := ⟨free', files ▸ still.stands⟩
  obtain ⟨again, done'⟩ := (exists_exportIcons_iff_writable (ε := ε) known' ready').2
    fun image inside => files ▸ unmade.writable_iff.2 (writable image ((same image).2 inside))
  have stored := exportIcons_filled known' ready' done'
  rw [files] at stored
  exact ⟨again, done', stored.unique ((exportIcons_filled known ready madeDone).again same)
    fun _ => Iff.rfl⟩

end Same

end Run

namespace Session

variable {settings : Settings} {change : Session → Environment} {dir? : Option Path}
  {format? : Option ExportFormat} {names more : List String} {session : Session} {after : Run}

theorem requested_of_exporting
    (done : session.exporting (ε := ε) settings change dir? format? names = .ok () after) :
    ∃ images, Catalog.requested? names = some images := by
  obtain ⟨_, _, images, _, known⟩ := Command.run_exportIcons_eq_ok done
  exact ⟨images, known⟩

theorem exporting_of_same (same : ∀ name, name ∈ names ↔ name ∈ more)
    (done : session.exporting (ε := ε) settings change dir? format? names = .ok () after) :
    (∃ after', session.exporting (ε := ε) settings change dir? format? more = .ok () after' ∧
      after'.session.files = after.session.files) ∧
    ∃ again, after.session.exporting (ε := ε) settings change dir? format? more = .ok () again ∧
      again.session.files = after.session.files := by
  obtain ⟨images, known⟩ := requested_of_exporting done
  obtain ⟨images', known', same'⟩ := Catalog.requested?_of_same same known
  have filled := Catalog.requested?_ne_nil known
  have icons := Catalog.mem_icons_of_requested? known
  rw [exporting_of_requested known] at done
  rw [exporting_of_requested known', exporting_of_requested known']
  exact ⟨Run.exportIcons_of_same filled icons rfl same' done (Catalog.requested?_ne_nil known'),
    Run.exportIcons_again filled icons rfl same' done rfl rfl⟩

/-- Two exports of the same icons, in any order and number, both succeed or both fail, and those
that succeed leave the same files. To export icons again that were exported changes nothing. -/
theorem exporting_in_any_order (settings : Settings) (change : Session → Environment)
    (dir? : Option Path) (format? : Option ExportFormat) (session : Session)
    (same : ∀ name, name ∈ names ↔ name ∈ more) :
    ((∃ after, session.exporting (ε := ε) settings change dir? format? names = .ok () after) ↔
      ∃ after, session.exporting (ε := ε) settings change dir? format? more = .ok () after) ∧
    (∀ after after', session.exporting (ε := ε) settings change dir? format? names = .ok () after →
      session.exporting (ε := ε) settings change dir? format? more = .ok () after' →
      after.session.files = after'.session.files) ∧
    ∀ after, session.exporting (ε := ε) settings change dir? format? names = .ok () after →
      ∃ again, after.session.exporting (ε := ε) settings change dir? format? more = .ok () again ∧
        again.session.files = after.session.files := by
  refine ⟨⟨?_, ?_⟩, ?_, ?_⟩
  · rintro ⟨after, done⟩
    obtain ⟨after', done', _⟩ := (exporting_of_same same done).1
    exact ⟨after', done'⟩
  · rintro ⟨after', done'⟩
    obtain ⟨after, done, _⟩ := (exporting_of_same (fun name => (same name).symm) done').1
    exact ⟨after, done⟩
  · intro after after' done done'
    obtain ⟨other, again, files⟩ := (exporting_of_same same done).1
    rw [done'] at again
    cases again
    exact files.symm
  · intro after done
    exact (exporting_of_same same done).2

/-- Two icons, one of them named twice, are exported into a directory that is not there yet. -/
theorem exporting_in_any_order_twice :
    (∀ name, name ∈ ["app_icon_16", "app_icon_24", "app_icon_16"] ↔
      name ∈ ["app_icon_24", "app_icon_16"]) ∧
    ∃ after after',
      obstructed.exporting (ε := LoadFault) .default env (some (.ofString "new/icons")) none
        ["app_icon_16", "app_icon_24", "app_icon_16"] = .ok () after ∧
      obstructed.exporting (ε := LoadFault) .default env (some (.ofString "new/icons")) none
        ["app_icon_24", "app_icon_16"] = .ok () after' ∧
      after.session.files = after'.session.files ∧
      ∃ again, after.session.exporting (ε := LoadFault) .default env
          (some (.ofString "new/icons")) none ["app_icon_24", "app_icon_16"] = .ok () again ∧
        again.session.files = after.session.files := by
  have same : ∀ name, name ∈ ["app_icon_16", "app_icon_24", "app_icon_16"] ↔
      name ∈ ["app_icon_24", "app_icon_16"] := by
    intro name
    simp only [List.mem_cons, List.not_mem_nil, or_false]
    grind
  have icons : ∀ image ∈ [Catalog.icon16, Catalog.icon24, Catalog.icon16],
      image ∈ Catalog.icons := by
    have first : Catalog.icon16 ∈ Catalog.icons := List.mem_cons_self
    have second : Catalog.icon24 ∈ Catalog.icons := List.mem_cons_of_mem _ List.mem_cons_self
    intro image inside
    simp only [List.mem_cons, List.not_mem_nil, or_false] at inside
    rcases inside with rfl | rfl | rfl <;> assumption
  have known : Catalog.requested? ["app_icon_16", "app_icon_24", "app_icon_16"] =
      some [Catalog.icon16, Catalog.icon24, Catalog.icon16] :=
    Catalog.mapM_find?_eq_some_iff.2 ⟨rfl, icons⟩
  have first : ∃ after, obstructed.exporting (ε := LoadFault) .default env
      (some (.ofString "new/icons")) none ["app_icon_16", "app_icon_24", "app_icon_16"] =
      .ok () after := by
    rw [exporting_of_requested known]
    refine (Run.exists_exportIcons_iff (List.cons_ne_nil _ _) icons rfl).2 ⟨_, rfl, ?_⟩
    intro image inside
    simp only [List.mem_cons, List.not_mem_nil, or_false] at inside
    rcases inside with rfl | rfl | rfl <;> exact ⟨rfl, _, _, rfl, by decide, by decide⟩
  obtain ⟨after, done⟩ := first
  obtain ⟨both, files, repeated⟩ := exporting_in_any_order (ε := LoadFault) .default env
    (some (.ofString "new/icons")) none obstructed same
  obtain ⟨after', done'⟩ := both.1 ⟨after, done⟩
  exact ⟨same, after, after', done, done', files after after' done done', repeated after done⟩

end Session

end IconCatalog
