import IconCatalog.Proofs.RunSteps
import IconCatalog.Proofs.SettingsPersistence
set_option autoImplicit false

namespace IconCatalog

open FileTree (Changed)

/-- What runs write to files: the pixels of an icon, a picture of an icon, or the default
settings. -/
inductive Complete : Content → Prop
  | pixels {icon : Image} (known : icon ∈ Catalog.icons) : Complete (.plain icon.bytes)
  | picture {icon : Image} {p : Picture} (known : icon ∈ Catalog.icons)
      (width : p.width.toNat = icon.width.toNat) (height : p.height.toNat = icon.height.toNat)
      (pixels : p.pixels = icon.bytes) : Complete (.picture p)
  | settings {json : String} (text : Settings.default.toJson? .pretty = some json) :
      Complete (.plain (Utf8.ofString json))

theorem Complete.content {icon : Image} (known : icon ∈ Catalog.icons) (format : ExportFormat) :
    Complete (icon.content format) := by
  cases format with
  | raw => exact .pixels known
  | png =>
      obtain ⟨width, height⟩ := Catalog.toNat_sides_of_mem known
      refine .picture known width height ?_
      rw [Image.picture, Image.straight, Catalog.format_of_mem known]

variable {ε : Type}

namespace Run

/-- A step that keeps what is in the tree, and writes nothing that is not complete. -/
def Keeps (α : Type) (act : EStateM (RunFault ε) Run α) : Prop :=
  ∀ run, Changed (fun _ => True) (fun _ => Complete) run.session.files.tree
    (stateAfter (act run)).session.files.tree

theorem Keeps.of_files_eq {α : Type} {act : EStateM (RunFault ε) Run α}
    (same : ∀ run, (stateAfter (act run)).session.files = run.session.files) : Keeps α act := by
  intro run
  rw [same run]
  exact Changed.refl _ _ _

theorem Keeps.bind {α β : Type} {act : EStateM (RunFault ε) Run α}
    {next : α → EStateM (RunFault ε) Run β} (first : Keeps α act)
    (later : ∀ value, Keeps β (next value)) : Keeps β (act >>= next) := by
  intro run
  have changed := first run
  rw [bind_apply]
  cases done : act run with
  | error fault after =>
      rw [done] at changed
      exact changed
  | ok value after =>
      rw [done] at changed
      exact changed.trans (later value after)

theorem Keeps.onFiles {φ α : Type} (wrap : φ → RunFault ε) {act : Files → EStateM.Result φ Files α}
    (changes : ∀ files, Changed (fun _ => True) (fun _ => Complete) files.tree
      (stateAfter (act files)).tree) : Keeps α (onFiles wrap act) := by
  intro run
  have changed := changes run.session.files
  unfold Run.onFiles
  split <;> rename_i done <;> rw [done] at changed <;> exact changed

theorem files_print (text : String) (run : Run) :
    (stateAfter (print (ε := ε) text run)).session.files = run.session.files := by
  simp only [print]
  split
  · rfl
  · split <;> rfl

theorem files_load (loader : Loader ε) (run : Run) :
    (stateAfter (load loader run)).session.files = run.session.files := by
  unfold load
  split <;> rfl

theorem inherited_keeps (loader : Loader ε) : Inherited loader (Keeps (ε := ε)) where
  pure _ := Keeps.of_files_eq fun _ => rfl
  throw _ := Keeps.of_files_eq fun _ => rfl
  bind := Keeps.bind
  withSession each run := each run.session run
  print text := Keeps.of_files_eq (files_print text)
  record _ := Keeps.of_files_eq fun _ => rfl
  load := Keeps.of_files_eq (files_load loader)
  exportTo {icon} dir format known := by
    apply Keeps.onFiles
    intro files
    apply (Image.exportTo_changed icon dir format files).2.mono (fun _ _ => trivial)
    intro loc new written
    rw [Catalog.leaves_of_mem known written.2]
    exact Complete.content known format
  saveTo path := by
    apply Keeps.onFiles
    intro files
    apply (Settings.saveTo_changed Settings.default path files).mono (fun _ _ => trivial)
    rintro loc new ⟨json, text, rfl⟩
    exact .settings text

end Run

/-- A command and all that it is run with, apart from what is in the files. -/
structure Invocation (ε : Type) where
  command : Command
  loader : Loader ε
  cwd : Place
  env : Environment
  accountHome : Option Path
  /-- How many bytes can be printed, where there is a limit. -/
  room : Option Nat

def Invocation.start (tree : FileTree) (invocation : Invocation ε) : Run :=
  .start ⟨⟨tree, invocation.cwd⟩, invocation.env, invocation.accountHome⟩ invocation.room

/-- The tree that an invocation leaves, whether or not it succeeds. -/
def Invocation.treeAfter (tree : FileTree) (invocation : Invocation ε) : FileTree :=
  (stateAfter (invocation.command.run invocation.loader (invocation.start tree))).session.files.tree

theorem Invocation.changed (invocation : Invocation ε) (tree : FileTree) :
    Changed (fun _ => True) (fun _ => Complete) tree (invocation.treeAfter tree) :=
  (Run.inherited_keeps invocation.loader).command invocation.command (invocation.start tree)

theorem Invocation.history_changed (history : List (Invocation ε)) (tree : FileTree) :
    Changed (fun _ => True) (fun _ => Complete) tree (history.foldl treeAfter tree) := by
  induction history generalizing tree with
  | nil => exact Changed.refl _ _ _
  | cons invocation history ih =>
      exact (invocation.changed tree).trans (ih (invocation.treeAfter tree))

/-- After any invocations in any order, whether they succeeded or failed, directories are still
directories, files are still files, and a file that is new or has other content holds complete
content. -/
theorem Invocation.history_leaves_complete (history : List (Invocation ε)) (tree : FileTree) :
    (∀ loc, tree.node? loc = some .directory →
      (history.foldl treeAfter tree).node? loc = some .directory) ∧
    (∀ loc content, tree.node? loc = some (.file content) →
      ∃ now, (history.foldl treeAfter tree).node? loc = some (.file now)) ∧
    ∀ loc content, (history.foldl treeAfter tree).node? loc = some (.file content) →
      tree.node? loc = some (.file content) ∨ Complete content := by
  have changed := history_changed history tree
  exact ⟨changed.directory, changed.file, changed.new_content⟩

end IconCatalog
