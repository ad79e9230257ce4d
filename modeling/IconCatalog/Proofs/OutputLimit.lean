import IconCatalog.Proofs.ExportRuns
set_option autoImplicit false

namespace IconCatalog

open FileTree (Changed)

variable {ε : Type}

namespace Run

/-- The same run where so many bytes can be printed in all. -/
def limited (n : Nat) (run : Run) : Run :=
  { run with room := some (n - run.printed.length) }

/-- The run that is left where printing reached the limit. -/
def cut (n : Nat) (run : Run) : Run :=
  { run with printed := run.printed.take n, room := some 0 }

def limitedOutcome {α : Type} (n : Nat) :
    EStateM.Result (RunFault ε) Run α → EStateM.Result (RunFault ε) Run α
  | .ok value after => .ok value (after.limited n)
  | .error fault after => .error fault (after.limited n)

/-- How a step behaves in a run without a limit and in the same run with one: it prints behind what
was printed, its outcome is the same while all fits, and otherwise the output is full and holds what
fits. -/
structure BoundedIn {α : Type} (act : EStateM (RunFault ε) Run α) (run : Run) : Prop where
  free : (stateAfter (act run)).room = none
  grows : run.printed <+: (stateAfter (act run)).printed
  within : ∀ n, (stateAfter (act run)).printed.length ≤ n →
    act (run.limited n) = limitedOutcome n (act run)
  beyond : ∀ n, run.printed.length ≤ n → n < (stateAfter (act run)).printed.length →
    ∃ stopped, act (run.limited n) = .error .outputFull stopped ∧
      stopped.printed = (stateAfter (act run)).printed.take n

def Bounded (α : Type) (act : EStateM (RunFault ε) Run α) : Prop :=
  ∀ run, run.room = none → BoundedIn act run

section Steps

variable {α β : Type} {act : EStateM (RunFault ε) Run α} {next : α → EStateM (RunFault ε) Run β}

/-- A step that prints nothing and does not look at the limit. -/
theorem Bounded.silent (room : ∀ run, (stateAfter (act run)).room = run.room)
    (printed : ∀ run, (stateAfter (act run)).printed = run.printed)
    (same : ∀ n run, act (run.limited n) = limitedOutcome n (act run)) : Bounded α act := by
  intro run free
  refine ⟨?_, ⟨[], ?_⟩, ?_, ?_⟩
  · rw [room, free]
  · rw [List.append_nil, printed run]
  · intro n _
    exact same n run
  · intro n fits exceeds
    rw [printed run] at exceeds
    omega

/-- The part before the limit is printed by the first step that exceeds it. -/
theorem Bounded.bind (first : Bounded α act) (later : ∀ value, Bounded β (next value)) :
    Bounded β (act >>= next) := by
  intro run free
  obtain ⟨still, grown, same, full⟩ := first run free
  cases done : act run with
  | error fault after =>
      have whole : (act >>= next) run = .error fault after := by rw [bind_apply, done]
      rw [done] at still grown same full
      refine ⟨?_, ?_, ?_, ?_⟩ <;> rw [whole]
      · exact still
      · exact grown
      · intro n fits
        rw [bind_apply, same n fits]
        rfl
      · intro n fits exceeds
        obtain ⟨stopped, result, kept⟩ := full n fits exceeds
        rw [bind_apply, result]
        exact ⟨stopped, rfl, kept⟩
  | ok value after =>
      have whole : (act >>= next) run = next value after := by rw [bind_apply, done]
      rw [done] at still grown same full
      obtain ⟨still', grown', same', full'⟩ := later value after still
      refine ⟨?_, ?_, ?_, ?_⟩ <;> rw [whole]
      · exact still'
      · exact grown.trans grown'
      · intro n fits
        rw [bind_apply, same n (Nat.le_trans grown'.length_le fits)]
        exact same' n fits
      · intro n fits exceeds
        rw [bind_apply]
        -- The limit is reached in the first step, or else only behind it.
        by_cases here : n < after.printed.length
        · obtain ⟨stopped, result, kept⟩ := full n fits here
          obtain ⟨behind, grows⟩ := grown'
          rw [result, ← grows, List.take_append_of_le_length (Nat.le_of_lt here)]
          exact ⟨stopped, rfl, kept⟩
        · have fit : after.printed.length ≤ n := Nat.le_of_not_lt here
          rw [same n fit]
          exact full' n fit exceeds

end Steps

theorem print_within {n : Nat} {run : Run} {text : String}
    (fits : (run.printed ++ Utf8.ofString text).length ≤ n) :
    (print text : EStateM (RunFault ε) Run Unit) (run.limited n) =
      .ok () (limited n { run with printed := run.printed ++ Utf8.ofString text }) := by
  rw [List.length_append] at fits
  have room : (Utf8.ofString text).length ≤ n - run.printed.length := by omega
  have left : n - run.printed.length - (Utf8.ofString text).length =
      n - (run.printed ++ Utf8.ofString text).length := by
    rw [List.length_append]
    omega
  simp only [print, limited, if_pos room, left]

theorem print_beyond {n : Nat} {run : Run} {text : String} (before : run.printed.length ≤ n)
    (exceeds : n < (run.printed ++ Utf8.ofString text).length) :
    (print text : EStateM (RunFault ε) Run Unit) (run.limited n) =
      .error .outputFull (cut n { run with printed := run.printed ++ Utf8.ofString text }) := by
  rw [List.length_append] at exceeds
  have full : ¬ (Utf8.ofString text).length ≤ n - run.printed.length := by omega
  have whole : run.printed.take n = run.printed := List.take_of_length_le before
  simp only [print, limited, cut, if_neg full, List.take_append, whole]

theorem bounded_print (text : String) :
    Bounded Unit (print text : EStateM (RunFault ε) Run Unit) := by
  intro run free
  have printed := print_of_free (ε := ε) free text
  refine ⟨?_, ?_, ?_, ?_⟩ <;> rw [printed]
  · exact free
  · exact List.prefix_append _ _
  · intro n fits
    exact print_within fits
  · intro n before exceeds
    exact ⟨_, print_beyond before exceeds, rfl⟩

theorem bounded_onFiles {φ α : Type} (wrap : φ → RunFault ε)
    (act : Files → EStateM.Result φ Files α) : Bounded α (onFiles wrap act) := by
  apply Bounded.silent
  · intro run
    rw [onFiles]
    split <;> rfl
  · intro run
    rw [onFiles]
    split <;> rfl
  · intro n run
    simp only [onFiles, limited]
    split <;> rfl

theorem bounded_load (loader : Loader ε) : Bounded Settings (load loader) := by
  apply Bounded.silent
  · intro run
    rw [load]
    split <;> rfl
  · intro run
    rw [load]
    split <;> rfl
  · intro n run
    simp only [load, limited]
    split <;> rfl

theorem inherited_bounded (loader : Loader ε) : Inherited loader (Bounded (ε := ε)) where
  pure _ := Bounded.silent (fun _ => rfl) (fun _ => rfl) (fun _ _ => rfl)
  throw _ := Bounded.silent (fun _ => rfl) (fun _ => rfl) (fun _ _ => rfl)
  bind := Bounded.bind
  withSession each run free :=
    have inside := each run.session run free
    ⟨inside.free, inside.grows, inside.within, inside.beyond⟩
  print := bounded_print
  record _ := Bounded.silent (fun _ => rfl) (fun _ => rfl) (fun _ _ => rfl)
  load := bounded_load loader
  exportTo _ _ _ := bounded_onFiles _ _
  saveTo _ := bounded_onFiles _ _

theorem succeeds_limitedOutcome {α : Type} {n : Nat} {result : EStateM.Result (RunFault ε) Run α} :
    succeeds (limitedOutcome n result) ↔ succeeds result := by
  cases result <;> exact Iff.rfl

theorem printed_limitedOutcome {α : Type} {n : Nat} {result : EStateM.Result (RunFault ε) Run α} :
    (stateAfter (limitedOutcome n result)).printed = (stateAfter result).printed := by
  cases result <;> rfl

section Outcome

variable {α : Type} {act : EStateM (RunFault ε) Run α} {run : Run} {n : Nat}

theorem Bounded.printed_limited (bounded : Bounded α act) (free : run.room = none)
    (fits : run.printed.length ≤ n) :
    (stateAfter (act (run.limited n))).printed = (stateAfter (act run)).printed.take n := by
  by_cases exceeds : n < (stateAfter (act run)).printed.length
  · obtain ⟨stopped, result, kept⟩ := (bounded run free).beyond n fits exceeds
    rw [result]
    exact kept
  · have whole : (stateAfter (act run)).printed.length ≤ n := Nat.le_of_not_lt exceeds
    rw [(bounded run free).within n whole, printed_limitedOutcome, List.take_of_length_le whole]

theorem Bounded.succeeds_limited_iff (bounded : Bounded α act) (free : run.room = none)
    (fits : run.printed.length ≤ n) :
    succeeds (act (run.limited n)) ↔
      succeeds (act run) ∧ (stateAfter (act run)).printed.length ≤ n := by
  by_cases exceeds : n < (stateAfter (act run)).printed.length
  · obtain ⟨stopped, result, _⟩ := (bounded run free).beyond n fits exceeds
    rw [result]
    exact ⟨fun done => absurd done id, fun both => absurd both.2 (Nat.not_le.2 exceeds)⟩
  · have whole : (stateAfter (act run)).printed.length ≤ n := Nat.le_of_not_lt exceeds
    rw [(bounded run free).within n whole, succeeds_limitedOutcome]
    exact ⟨fun done => ⟨done, whole⟩, And.left⟩

end Outcome

variable {dir : Path} {format : ExportFormat} {image : Image} {images : List Image}
  {before after : Run} {files : Files} {n : Nat}

/-- Whatever the limit, the icon is stored and recorded before its line is printed. -/
theorem exportIcon_limited
    (stored : image.exportTo dir format before.session.files =
      .ok (image.target dir format) files) :
    (exportIcon dir format image : EStateM (RunFault ε) Run Unit) (before.limited n) =
      printLine (image.target dir format).display
        ((before.recorded format image files).limited n) := by
  have there : image.exportTo dir format (before.limited n).session.files =
      .ok (image.target dir format) files := stored
  rw [exportIcon_apply there]
  rfl

theorem exportIcon_within
    (stored : image.exportTo dir format before.session.files =
      .ok (image.target dir format) files)
    (fits : (before.withExported dir format image files).printed.length ≤ n) :
    (exportIcon dir format image : EStateM (RunFault ε) Run Unit) (before.limited n) =
      .ok () ((before.withExported dir format image files).limited n) := by
  rw [exportIcon_limited stored]
  exact print_within fits

theorem exportIcon_beyond
    (stored : image.exportTo dir format before.session.files =
      .ok (image.target dir format) files)
    (fits : before.printed.length ≤ n)
    (exceeds : n < (before.withExported dir format image files).printed.length) :
    (exportIcon dir format image : EStateM (RunFault ε) Run Unit) (before.limited n) =
      .error .outputFull ((before.withExported dir format image files).cut n) := by
  rw [exportIcon_limited stored]
  exact print_beyond fits exceeds

/-- When so many lines fit and the next does not, the export stops as it would be after that next
icon, apart from what was printed. -/
theorem exportIcons_stopped {j : Nat} (free : before.room = none)
    (done : (exportIcons dir format images : EStateM (RunFault ε) Run Unit) before = .ok () after)
    (more : j < images.length)
    (fits : before.printed.length +
      ((images.take j).flatMap (Image.line dir format)).length ≤ n)
    (exceeds : n < before.printed.length +
      ((images.take (j + 1)).flatMap (Image.line dir format)).length) :
    ∃ stopped,
      (exportIcons dir format (images.take (j + 1)) : EStateM (RunFault ε) Run Unit) before =
        .ok () stopped ∧
      (exportIcons dir format (images.drop (j + 1)) : EStateM (RunFault ε) Run Unit) stopped =
        .ok () after ∧
      (exportIcons dir format images : EStateM (RunFault ε) Run Unit) (before.limited n) =
        .error .outputFull (stopped.cut n) := by
  induction images generalizing before j with
  | nil => exact absurd more (Nat.not_lt_zero j)
  | cons image images ih =>
      obtain ⟨middle, first, rest⟩ := exportIcons_cons_eq_ok.1 done
      obtain ⟨files, stored, rfl⟩ := exportIcon_eq_ok free first
      have still : (before.withExported dir format image files).room = none := free
      have line : (before.withExported dir format image files).printed.length =
          before.printed.length + (image.line dir format).length := List.length_append
      cases j with
      | zero =>
          refine ⟨_, exportIcons_cons_eq_ok.2 ⟨_, first, rfl⟩, rest, ?_⟩
          rw [List.take_zero, List.flatMap_nil, List.length_nil] at fits
          rw [List.take_succ_cons, List.take_zero, List.flatMap_cons, List.flatMap_nil,
            List.append_nil, ← line] at exceeds
          rw [exportIcons, bind_apply, exportIcon_beyond stored (by omega) exceeds]
      | succ j =>
          rw [List.take_succ_cons, List.flatMap_cons, List.length_append] at fits exceeds
          obtain ⟨stopped, upTo, behind, stops⟩ := ih still rest (Nat.lt_of_succ_lt_succ more)
            (by omega) (by omega)
          refine ⟨stopped, exportIcons_cons_eq_ok.2 ⟨_, first, upTo⟩, behind, ?_⟩
          rw [exportIcons, bind_apply, exportIcon_within stored (by omega)]
          exact stops

/-- An export that is stopped in the line of an icon has stored and recorded this icon and those
before it. The files of the icons behind it are as they were. -/
theorem exportIcons_limited {j : Nat} (known : ∀ image ∈ images, image ∈ Catalog.icons)
    (free : before.room = none)
    (done : (exportIcons dir format images : EStateM (RunFault ε) Run Unit) before = .ok () after)
    (more : j < images.length)
    (fits : before.printed.length +
      ((images.take j).flatMap (Image.line dir format)).length ≤ n)
    (exceeds : n < before.printed.length +
      ((images.take (j + 1)).flatMap (Image.line dir format)).length) :
    ∃ left, (exportIcons dir format images : EStateM (RunFault ε) Run Unit) (before.limited n) =
        .error .outputFull left ∧
      Exported dir format (images.take (j + 1)) before left ∧
      ∀ image ∈ images.drop (j + 1), image ∉ images.take (j + 1) →
        ∀ loc, left.session.files.LeadsTo (image.target dir format) loc →
          left.session.files.tree.node? loc = before.session.files.tree.node? loc := by
  obtain ⟨stopped, upTo, behind, stops⟩ := exportIcons_stopped free done more fits exceeds
  have both : ∀ image ∈ images.take (j + 1) ++ images.drop (j + 1), image ∈ Catalog.icons := by
    rwa [List.take_append_drop]
  have first := exportIcons_exported
    (fun image inside => both image (List.mem_append_left _ inside)) free upTo
  have second := exportIcons_exported
    (fun image inside => both image (List.mem_append_right _ inside))
    (exportIcons_printed free upTo).1 behind
  refine ⟨_, stops, ⟨first.log, first.cwd, first.changed, first.read⟩, ?_⟩
  intro image later fresh loc leads
  exact first.untouched second both later fresh leads

end Run

/-- An output that takes so many bytes receives the first of those that would be printed without a
limit, and the run succeeds when it would and all fits. Where the lines of an export fit for some
icons only, these icons and the one after them are recorded and stored, and the files of the others
are not touched. -/
theorem Command.run_limited (loader : Loader ε) (command : Command) (session : Session) (n : Nat) :
    (stateAfter (command.run loader (.start session (some n)))).printed =
      (stateAfter (command.run loader (.start session none))).printed.take n ∧
    (succeeds (command.run loader (.start session (some n))) ↔
      succeeds (command.run loader (.start session none)) ∧
        (stateAfter (command.run loader (.start session none))).printed.length ≤ n) ∧
    ∀ names dir? format? after, command = .exportIcons names dir? format? →
      command.run loader (.start session none) = .ok () after →
      ∃ settings env dir format images, loader session = .ok settings env ∧
        dir = dir?.getD settings.exportDir ∧ format = format?.getD settings.exportFormat ∧
        Catalog.requested? names = some images ∧
        after.printed = images.flatMap (Image.line dir format) ∧
        ∀ j left, j < images.length →
          ((images.take j).flatMap (Image.line dir format)).length ≤ n →
          n < ((images.take (j + 1)).flatMap (Image.line dir format)).length →
          left = stateAfter (command.run loader (.start session (some n))) →
          Run.Exported dir format (images.take (j + 1)) (.start session (some n)) left ∧
          ∀ image ∈ images.drop (j + 1), image ∉ images.take (j + 1) →
            ∀ loc, left.session.files.LeadsTo (image.target dir format) loc →
              left.session.files.tree.node? loc = session.files.tree.node? loc := by
  have bounded := (Run.inherited_bounded loader).command command
  have fits : (Run.start session none).printed.length ≤ n := Nat.zero_le n
  refine ⟨bounded.printed_limited rfl fits, bounded.succeeds_limited_iff rfl fits, ?_⟩
  rintro names dir? format? after rfl done
  obtain ⟨settings, env, images, loaded, known⟩ := Command.run_exportIcons_eq_ok done
  have icons := Catalog.mem_icons_of_requested? known
  rw [Command.run_exportIcons_of_known loaded known] at done
  have printed := (Run.exportIcons_printed rfl done).2
  refine ⟨settings, env, _, _, images, loaded, rfl, rfl, known, printed, ?_⟩
  rintro j left more fit exceeds rfl
  have empty : ((Run.start session none).asked env).printed.length = 0 := rfl
  obtain ⟨left, stops, exported, untouched⟩ := Run.exportIcons_limited (n := n) icons rfl done more
    (by omega) (by omega)
  have limited : (Command.exportIcons names dir? format?).run loader (.start session (some n)) =
      .error .outputFull left := by
    have asked : loader (Run.start session (some n)).session = .ok settings env := loaded
    rw [Command.run_exportIcons_of_known asked known]
    exact stops
  rw [limited]
  exact ⟨⟨exported.log, exported.cwd, exported.changed, exported.read⟩, untouched⟩

end IconCatalog
