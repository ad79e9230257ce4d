import IconCatalog.Proofs.EffectiveSettings
import Mathlib.Data.List.Induction
set_option autoImplicit false

namespace IconCatalog.Settings

variable {env : Environment} {met : List Environment}

/-- The settings after some environments in turn. What a refused step has changed stays. -/
def afterOverrides (s : Settings) (envs : List Environment) : Settings :=
  envs.foldl (fun s env => stateAfter (s.override env)) s

def GivesDir (env : Environment) (dir : Path) : Prop :=
  ∃ text, env.text? dirVariable = some text ∧ text ≠ "" ∧ dir = .ofString text

def GivesFormat (env : Environment) (format : ExportFormat) : Prop :=
  ∃ text, env.text? formatVariable = some text ∧ text ≠ "" ∧ asciiLower text = format.tag

/-- What the last environment gives of those that give something, and what there was at first where
none does. -/
inductive Last {α : Type} (gives : Environment → α → Prop) (first : α) :
    List Environment → α → Prop
  | kept {envs : List Environment} (nothing : ∀ env ∈ envs, ∀ value, ¬ gives env value) :
      Last gives first envs first
  | given {before after : List Environment} {env : Environment} {value : α}
      (here : gives env value) (nothing : ∀ env ∈ after, ∀ value, ¬ gives env value) :
      Last gives first (before ++ env :: after) value

theorem dirOf?_eq_some_iff {dir : Path} : dirOf? env = some dir ↔ GivesDir env dir := by
  simp only [dirOf?, Option.map_eq_some_iff, override?_eq_some_iff, GivesDir, and_assoc]
  simp only [eq_comm]

theorem formatOf?_eq_some_iff {format : ExportFormat} :
    formatOf? env = some format ↔ GivesFormat env format := by
  have parsed : ∀ text, (ExportFormat.parse text).toOption = some format ↔
      asciiLower text = format.tag := by
    intro text
    rw [← ExportFormat.parse_eq_ok_iff]
    cases ExportFormat.parse text <;> simp [Except.toOption]
  simp only [formatOf?, Option.bind_eq_some_iff, override?_eq_some_iff, GivesFormat, parsed,
    and_assoc]

section Last

variable {α : Type} {gives : Environment → α → Prop} {first value : α}

theorem Last.pass (last : Last gives first met value) (nothing : ∀ value, ¬ gives env value) :
    Last gives first (met ++ [env]) value := by
  cases last with
  | kept before =>
      refine .kept fun env' inside => ?_
      rcases List.mem_append.1 inside with earlier | here
      · exact before env' earlier
      · rwa [List.mem_singleton.1 here]
  | given here after =>
      rw [List.append_assoc, List.cons_append]
      refine .given here fun env' inside => ?_
      rcases List.mem_append.1 inside with earlier | last
      · exact after env' earlier
      · rwa [List.mem_singleton.1 last]

theorem Last.next {value? : Option α} (last : Last gives first met value)
    (known : ∀ next, value? = some next ↔ gives env next) :
    Last gives first (met ++ [env]) (value?.getD value) := by
  cases value? with
  | none => exact last.pass fun next given => absurd ((known next).2 given) nofun
  | some next => exact .given ((known next).1 rfl) fun _ inside => absurd inside List.not_mem_nil

end Last

theorem stateAfter_override (s : Settings) (env : Environment) :
    stateAfter (s.override env) =
      ⟨(dirOf? env).getD s.exportDir, (formatOf? env).getD s.exportFormat⟩ := by
  unfold override formatOf?
  rw [overrideDir_eq]
  cases override? env formatVariable with
  | none => rfl
  | some text =>
      simp only [Option.bind_some]
      cases ExportFormat.parse text <;> rfl

theorem succeeds_override_iff (s : Settings) (env : Environment) :
    succeeds (s.override env) ↔ FormatReadable env := by
  constructor
  · intro done
    exact (override_eq_ok_iff.1 (eq_ok_of_succeeds done)).1
  · intro readable
    rw [override_eq_ok_iff.2 ⟨readable, rfl⟩]
    trivial

theorem formatOf?_of_unreadable (unreadable : ¬ FormatReadable env) : formatOf? env = none := by
  refine Option.eq_none_iff_forall_ne_some.2 fun format given => unreadable ?_
  obtain ⟨text, stands, _, named⟩ := formatOf?_eq_some_iff.1 given
  exact formatReadable_of_named stands named

theorem afterOverrides_append (s : Settings) (met : List Environment) (env : Environment) :
    s.afterOverrides (met ++ [env]) = stateAfter ((s.afterOverrides met).override env) := by
  rw [afterOverrides, List.foldl_append]
  rfl

/-- The induction is on the environments from the last one back, as the settings are reached. -/
theorem last_afterOverrides (s : Settings) (envs : List Environment) :
    Last GivesDir s.exportDir envs (s.afterOverrides envs).exportDir ∧
      Last GivesFormat s.exportFormat envs (s.afterOverrides envs).exportFormat := by
  induction envs using List.reverseRecOn with
  | nil => exact ⟨.kept (List.forall_mem_nil _), .kept (List.forall_mem_nil _)⟩
  | append_singleton met env ih =>
      rw [afterOverrides_append, stateAfter_override]
      exact ⟨ih.1.next fun _ => dirOf?_eq_some_iff, ih.2.next fun _ => formatOf?_eq_some_iff⟩

/-- After every step each field is what the last environment gave for it, whatever became of the
steps before. A step fails just when its format is given and unknown, and leaves the format. -/
theorem overriding_keeps_last (s : Settings) (met : List Environment) (env : Environment) :
    let step := (s.afterOverrides met).override env
    stateAfter step = s.afterOverrides (met ++ [env]) ∧
    Last GivesDir s.exportDir (met ++ [env]) (stateAfter step).exportDir ∧
    Last GivesFormat s.exportFormat (met ++ [env]) (stateAfter step).exportFormat ∧
    (succeeds step ↔ FormatReadable env) ∧
    (¬ succeeds step → (stateAfter step).exportFormat = (s.afterOverrides met).exportFormat) := by
  intro step
  have reached : stateAfter step = s.afterOverrides (met ++ [env]) :=
    (afterOverrides_append s met env).symm
  have last := last_afterOverrides s (met ++ [env])
  rw [← reached] at last
  refine ⟨reached, last.1, last.2, succeeds_override_iff _ env, fun failed => ?_⟩
  have unreadable : ¬ FormatReadable env := fun readable =>
    failed ((succeeds_override_iff _ env).2 readable)
  change (stateAfter ((s.afterOverrides met).override env)).exportFormat = _
  rw [stateAfter_override, formatOf?_of_unreadable unreadable]
  rfl

/-- The second step is refused for its format, and its directory counts. -/
example : default.afterOverrides [
    ⟨[(dirVariable, Utf8.ofString "first"), (formatVariable, Utf8.ofString "PNG")]⟩,
    ⟨[(dirVariable, Utf8.ofString "second"), (formatVariable, Utf8.ofString "tiff")]⟩,
    ⟨[(dirVariable, []), (formatVariable, [])]⟩] = ⟨.ofString "second", .png⟩ := by
  decide

end IconCatalog.Settings
