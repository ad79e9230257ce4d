import IconCatalog.Proofs.RunSteps
set_option autoImplicit false

namespace IconCatalog

open FileTree (Changed)

variable {ε : Type} {dir : Path} {format : ExportFormat} {image : Image} {images : List Image}

def Image.line (dir : Path) (format : ExportFormat) (image : Image) : Bytes :=
  Utf8.ofString ((image.target dir format).display ++ "\n")

namespace Run

variable {before middle after : Run}

def recorded (run : Run) (format : ExportFormat) (image : Image) (files : Files) : Run :=
  { run with
    session := { run.session with files := files }
    log := run.log ++ [.exported image.name format] }

def withExported (run : Run) (dir : Path) (format : ExportFormat) (image : Image) (files : Files) :
    Run :=
  { run.recorded format image files with printed := run.printed ++ image.line dir format }

theorem print_of_free (free : before.room = none) (text : String) :
    (print text : EStateM (RunFault ε) Run Unit) before =
      .ok () { before with printed := before.printed ++ Utf8.ofString text } := by
  rw [print, free]

theorem exportIcon_apply {files : Files}
    (stored : image.exportTo dir format before.session.files =
      .ok (image.target dir format) files) :
    (exportIcon dir format image : EStateM (RunFault ε) Run Unit) before =
      printLine (image.target dir format).display (before.recorded format image files) := by
  rw [exportIcon, bind_apply, onFiles, stored]
  rfl

theorem exportIcon_eq_ok (free : before.room = none)
    (done : (exportIcon dir format image : EStateM (RunFault ε) Run Unit) before = .ok () after) :
    ∃ files, image.exportTo dir format before.session.files = .ok (image.target dir format) files ∧
      after = before.withExported dir format image files := by
  cases stored : image.exportTo dir format before.session.files with
  | error fault files =>
      rw [exportIcon, bind_apply, onFiles, stored] at done
      contradiction
  | ok path files =>
      have same := (Image.exportTo_eq_ok stored).1
      subst same
      have open_ : (before.recorded format image files).room = none := free
      rw [exportIcon_apply stored, printLine, print_of_free open_] at done
      cases done
      exact ⟨files, rfl, rfl⟩

theorem exportIcons_cons_eq_ok :
    (exportIcons dir format (image :: images) : EStateM (RunFault ε) Run Unit) before =
      .ok () after ↔
    ∃ middle, (exportIcon dir format image : EStateM (RunFault ε) Run Unit) before = .ok () middle ∧
      (exportIcons dir format images : EStateM (RunFault ε) Run Unit) middle = .ok () after := by
  rw [exportIcons, bind_apply]
  constructor
  · intro done
    cases first : (exportIcon dir format image : EStateM (RunFault ε) Run Unit) before with
    | error fault stopped =>
        rw [first] at done
        contradiction
    | ok value middle =>
        rw [first] at done
        exact ⟨middle, rfl, done⟩
  · rintro ⟨middle, first, rest⟩
    rw [first]
    exact rest

/-- The content is that of one of the images, at the place of its file. -/
def BelongsTo (dir : Path) (format : ExportFormat) (images : List Image) (files : Files)
    (loc : Location) (content : Content) : Prop :=
  ∃ image ∈ images, files.LeadsTo (image.target dir format) loc ∧ content = image.content format

/-- From one run to a later one some images were exported: they are recorded in turn and each is in
its file. New directories are on the way of the given one, and no other file was written. -/
structure Exported (dir : Path) (format : ExportFormat) (images : List Image)
    (before after : Run) : Prop where
  log : after.log = before.log ++ images.map fun image => .exported image.name format
  cwd : after.session.files.cwd = before.session.files.cwd
  changed : Changed (before.session.files.OnWay dir)
    (BelongsTo dir format images after.session.files)
    before.session.files.tree after.session.files.tree
  read : ∀ image ∈ images,
    after.session.files.read (image.target dir format) = .ok (image.content format)

theorem Exported.nil (dir : Path) (format : ExportFormat) (run : Run) :
    Exported dir format [] run run where
  log := by rw [List.map_nil, List.append_nil]
  cwd := rfl
  changed := Changed.refl _ _ _
  read _ inside := absurd inside List.not_mem_nil

theorem Exported.single {files : Files}
    (stored : image.exportTo dir format before.session.files =
      .ok (image.target dir format) files) :
    Exported dir format [image] before (before.withExported dir format image files) := by
  obtain ⟨same, changed⟩ := Image.exportTo_ok_changed stored
  refine ⟨rfl, same, changed.mono (fun _ onWay => onWay) ?_, ?_⟩
  · intro loc new here
    exact ⟨image, List.mem_singleton_self _, here⟩
  · intro other inside
    rw [List.mem_singleton.1 inside]
    exact Image.read_of_exportTo stored

/-- Later exports of icons leave the files of the earlier ones as they were, since only exports of
the same icon have the same file. -/
theorem Exported.append {more : List Image} (first : Exported dir format images before middle)
    (second : Exported dir format more middle after)
    (known : ∀ image ∈ images ++ more, image ∈ Catalog.icons) :
    Exported dir format (images ++ more) before after := by
  refine ⟨?_, second.cwd.trans first.cwd, ?_, ?_⟩
  · rw [second.log, first.log, List.map_append, List.append_assoc]
  · have early : Changed (before.session.files.OnWay dir)
        (BelongsTo dir format (images ++ more) after.session.files)
        before.session.files.tree middle.session.files.tree := by
      apply first.changed.mono (fun _ onWay => onWay)
      rintro loc new ⟨image, inside, leads, same⟩
      exact ⟨image, List.mem_append_left _ inside,
        leads.of_changed second.cwd second.changed, same⟩
    apply early.trans
    apply second.changed.mono
    · intro loc onWay
      rwa [Files.OnWay, Files.start_congr first.cwd] at onWay
    · rintro loc new ⟨image, inside, here⟩
      exact ⟨image, List.mem_append_right _ inside, here⟩
  · intro image inside
    rcases List.mem_append.1 inside with early | late
    · apply Files.read_of_changed (first.read image early) second.cwd second.changed
      rintro loc leads new ⟨other, among, there, rfl⟩
      have mem := known image inside
      have mem' := known other (List.mem_append_right _ among)
      have same := Image.fileName_eq_of_leadsTo (Catalog.slash_not_mem_name mem)
        (Catalog.slash_not_mem_name mem') (leads.of_changed second.cwd second.changed) there
      rw [Catalog.eq_of_fileName_eq mem mem' same]
    · exact second.read image late

/-- Where an icon is stored only later, everything is still as it was. -/
theorem Exported.untouched {more : List Image} (first : Exported dir format images before middle)
    (second : Exported dir format more middle after)
    (known : ∀ image ∈ images ++ more, image ∈ Catalog.icons) (later : image ∈ more)
    (fresh : image ∉ images) {loc : Location}
    (leads : middle.session.files.LeadsTo (image.target dir format) loc) :
    middle.session.files.tree.node? loc = before.session.files.tree.node? loc := by
  apply first.changed.node?_eq
  · -- A new directory here would keep the icon from being stored.
    intro directory
    obtain ⟨_, _, loc', leads', stands⟩ := Files.read_eq_ok_iff.1 (second.read image later)
    have same := (leads.of_changed second.cwd second.changed).unique leads'
    subst same
    rw [second.changed.directory loc directory] at stands
    cases stands
  · rintro content ⟨other, among, there, rfl⟩
    have mem := known image (List.mem_append_right _ later)
    have mem' := known other (List.mem_append_left _ among)
    have same := Image.fileName_eq_of_leadsTo (Catalog.slash_not_mem_name mem)
      (Catalog.slash_not_mem_name mem') leads there
    rw [Catalog.eq_of_fileName_eq mem mem' same] at fresh
    exact fresh among

theorem exportIcons_exported (known : ∀ image ∈ images, image ∈ Catalog.icons)
    (free : before.room = none)
    (done : (exportIcons dir format images : EStateM (RunFault ε) Run Unit) before = .ok () after) :
    Exported dir format images before after := by
  induction images generalizing before with
  | nil =>
      cases done
      exact Exported.nil dir format _
  | cons image images ih =>
      obtain ⟨middle, first, rest⟩ := exportIcons_cons_eq_ok.1 done
      obtain ⟨files, stored, rfl⟩ := exportIcon_eq_ok free first
      have still : (before.withExported dir format image files).room = none := free
      have later := ih (fun other inside => known other (List.mem_cons_of_mem _ inside)) still rest
      exact (Exported.single stored).append later known

theorem exportIcons_printed (free : before.room = none)
    (done : (exportIcons dir format images : EStateM (RunFault ε) Run Unit) before = .ok () after) :
    after.room = none ∧
      after.printed = before.printed ++ images.flatMap (Image.line dir format) := by
  induction images generalizing before with
  | nil =>
      cases done
      exact ⟨free, by rw [List.flatMap_nil, List.append_nil]⟩
  | cons image images ih =>
      obtain ⟨middle, first, rest⟩ := exportIcons_cons_eq_ok.1 done
      obtain ⟨files, _, rfl⟩ := exportIcon_eq_ok free first
      have still : (before.withExported dir format image files).room = none := free
      obtain ⟨open_, printed⟩ := ih still rest
      refine ⟨open_, ?_⟩
      rw [printed, List.flatMap_cons, ← List.append_assoc]
      rfl

end Run

end IconCatalog
