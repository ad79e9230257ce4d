import IconCatalog.Proofs.ExportBatches
import IconCatalog.Proofs.LoaderCalls
set_option autoImplicit false

namespace IconCatalog

variable {ε : Type}

namespace Catalog

theorem find?_eq_none_iff {name : String} : find? name = none ↔ name ∉ icons.map Image.name := by
  constructor
  · intro missing inside
    obtain ⟨icon, mem, rfl⟩ := List.mem_map.1 inside
    rw [find?_of_mem mem] at missing
    contradiction
  · intro unknown
    cases found : find? name with
    | none => rfl
    | some icon =>
        obtain ⟨mem, rfl⟩ := mem_of_find? found
        exact absurd (List.mem_map_of_mem mem) unknown

theorem exists_first_unknown {names : List String}
    (unknown : ∃ name ∈ names, name ∉ icons.map Image.name) :
    ∃ before name after, names = before ++ name :: after ∧
      (∀ other ∈ before, other ∈ icons.map Image.name) ∧ name ∉ icons.map Image.name := by
  have some_found : (names.find? fun name => decide (name ∉ icons.map Image.name)).isSome = true :=
    List.find?_isSome.2 (unknown.imp fun _ => And.imp_right decide_eq_true)
  obtain ⟨name, found⟩ := Option.isSome_iff_exists.1 some_found
  obtain ⟨missing, before, after, split, known⟩ := List.find?_eq_some_iff_append.1 found
  refine ⟨before, name, after, split, ?_, of_decide_eq_true missing⟩
  intro other early
  simpa only [decide_not, Bool.not_not, decide_eq_true_eq] using known other early

end Catalog

namespace Run

/-- The look-up stops at the first unknown name, whatever stands behind it. -/
theorem icons_of_unknown {before after : List String} {name : String}
    (known : ∀ other ∈ before, other ∈ Catalog.icons.map Image.name)
    (unknown : name ∉ Catalog.icons.map Image.name) :
    (icons (before ++ name :: after) : EStateM (RunFault ε) Run (List Image)) =
      throw (.unknownIcon name) := by
  induction before with
  | nil =>
      rw [List.nil_append, icons, icon_of_unknown (Catalog.find?_eq_none_iff.2 unknown)]
      rfl
  | cons first before ih =>
      obtain ⟨icon, mem, rfl⟩ := List.mem_map.1 (known first List.mem_cons_self)
      have later := ih fun other inside => known other (List.mem_cons_of_mem _ inside)
      rw [List.cons_append, icons, icon_of_find? (Catalog.find?_of_mem mem), pure_bind, later]
      rfl

/-- Nothing has been written, printed or recorded from one run to a later one. -/
structure Untouched (before after : Run) : Prop where
  files : after.session.files = before.session.files
  printed : after.printed = before.printed
  log : after.log = before.log

theorem untouched_asked (run : Run) (env : Environment) : run.Untouched (run.asked env) :=
  ⟨rfl, rfl, rfl⟩

end Run

namespace Command

/-- An export whose settings load and one of whose names is unknown fails with the first such name.
One whose settings do not load fails with the fault of the loader, whatever its names are. Neither
writes, prints or records anything, nor makes the directory for the exports. -/
theorem run_exportIcons_refused (loader : Loader ε) (names : List String) (dir? : Option Path)
    (format? : Option ExportFormat) (run : Run) :
    (∀ settings env, loader run.session = .ok settings env →
      (∃ name ∈ names, name ∉ Catalog.icons.map Image.name) →
      ∃ before name after left, names = before ++ name :: after ∧
        (∀ other ∈ before, other ∈ Catalog.icons.map Image.name) ∧
        name ∉ Catalog.icons.map Image.name ∧
        (exportIcons names dir? format?).run loader run = .error (.unknownIcon name) left ∧
        run.Untouched left) ∧
    ∀ fault env, loader run.session = .error fault env →
      ∃ left, (exportIcons names dir? format?).run loader run = .error (.load fault) left ∧
        run.Untouched left := by
  constructor
  · intro settings env loaded unknown
    obtain ⟨before, name, after, rfl, known, missing⟩ := Catalog.exists_first_unknown unknown
    refine ⟨before, name, after, run.asked env, rfl, known, missing, ?_, run.untouched_asked env⟩
    have filled : before ++ name :: after ≠ [] :=
      List.append_ne_nil_of_right_ne_nil _ (List.cons_ne_nil _ _)
    rw [run_exportIcons_of_ok loaded, Run.requested_of_ne_nil filled,
      Run.icons_of_unknown known missing]
    rfl
  · intro fault env failed
    exact ⟨run.asked env, run_exportIcons_of_error failed, run.untouched_asked env⟩

/-- Two of the names are unknown, and icons stand before and between them. -/
theorem run_exportIcons_refused_between : ∃ before name after left,
    ["app_icon_16", "app_icon_17", "app_icon_24", "app_icon_25"] = before ++ name :: after ∧
      (∀ other ∈ before, other ∈ Catalog.icons.map Image.name) ∧
      name ∉ Catalog.icons.map Image.name ∧
      (exportIcons ["app_icon_16", "app_icon_17", "app_icon_24", "app_icon_25"] none none).run
          (.giving (ε := LoadFault) .default Session.env) (.start Session.obstructed none) =
        .error (.unknownIcon name) left ∧
      (Run.start Session.obstructed none).Untouched left := by
  apply (run_exportIcons_refused _ _ none none _).1 .default Session.obstructed.env rfl
  exact ⟨"app_icon_17", by decide, by decide⟩

end Command

end IconCatalog
