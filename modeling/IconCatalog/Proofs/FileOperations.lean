import IconCatalog.Proofs.Outcome
import IconCatalog.Proofs.TreeChanges
set_option autoImplicit false

namespace IconCatalog.Files

open FileTree (Changed nowhere nothing)

/-- A location that the names of a path pass, the last one included. -/
def OnWay (files : Files) (p : Path) (loc : Location) : Prop :=
  Place.inTree loc ∈ FileTree.trail (files.start p) p.names

/-- A path leads to a location, where something may be missing. -/
def LeadsTo (files : Files) (p : Path) (loc : Location) : Prop :=
  files.tree.walk (files.start p) p.names = .ok (.inTree loc)

variable {files made written : Files} {p dir : Path} {loc : Location} {content : Content}

theorem start_congr (same : made.cwd = files.cwd) (p : Path) : made.start p = files.start p := by
  simp only [start, same]

theorem LeadsTo.unique {loc' : Location} (here : files.LeadsTo p loc)
    (there : files.LeadsTo p loc') : loc = loc' := by
  have same := here.symm.trans there
  cases same
  rfl

theorem LeadsTo.onWay (leads : files.LeadsTo p loc) : files.OnWay p loc :=
  FileTree.mem_trail_of_walk leads

theorem LeadsTo.of_changed {new : Location → Prop} {put : Location → Content → Prop}
    (leads : files.LeadsTo p loc) (same : made.cwd = files.cwd)
    (changed : Changed new put files.tree made.tree) : made.LeadsTo p loc := by
  rw [LeadsTo, start_congr same]
  exact changed.walk leads

/-- The directory of an entry lies on the walk, and so does the entry once it fits. -/
theorem leadsTo_of_entry {dir : Location} {name : Name}
    (found : files.entry p = .ok (.inside dir name)) (short : name.length ≤ maxName) :
    files.LeadsTo p (name :: dir) := by
  obtain ⟨_, noDot, noDots, directory, outer, names, walked⟩ := entry_eq_inside found
  have stepped : (Place.inTree dir).child name = .ok (.inTree (name :: dir)) := by
    rw [Place.child, if_neg noDot, if_neg noDots]
    exact if_neg (Nat.not_lt.2 short)
  rw [LeadsTo, names, FileTree.walk_append, walked]
  exact FileTree.walk_cons_eq_ok_iff.2 ⟨directory, _, stepped, rfl⟩

theorem createDirectory_eq_ok (done : files.createDirectory p = .ok made) :
    ∃ dir name, files.entry p = .ok (.inside dir name) ∧ name.length ≤ maxName ∧
      files.tree.node? (name :: dir) = none ∧ made = files.put name dir .directory := by
  unfold createDirectory at done
  split at done
  · contradiction
  · contradiction
  · contradiction
  · rename_i dir name found
    split at done
    · contradiction
    · rename_i short
      split at done
      · contradiction
      · rename_i free
        exact ⟨dir, name, found, Nat.le_of_not_lt short, free, (Except.ok.inj done).symm⟩

theorem createDirectory_changed (done : files.createDirectory p = .ok made) :
    made.cwd = files.cwd ∧ Changed (files.OnWay p) nothing files.tree made.tree := by
  obtain ⟨dir, name, found, short, free, rfl⟩ := createDirectory_eq_ok done
  have around := (entry_eq_inside found).2.2.2.1
  refine ⟨rfl, (FileTree.changed_put_directory around free).mono ?_ (fun _ _ none => none)⟩
  rintro loc rfl
  exact (leadsTo_of_entry found short).onWay

/-- Whether or not all directories could be made, those that were made lie on the way of one of the
paths, and nothing else has changed. -/
theorem createNested_changed {paths : List Path} {new : Location → Prop}
    (allowed : ∀ q ∈ paths, q.bytes ≠ [] → ∀ loc, files.OnWay q loc → new loc) :
    (stateAfter (files.createNested paths)).cwd = files.cwd ∧
      Changed new nothing files.tree (stateAfter (files.createNested paths)).tree := by
  induction paths generalizing files with
  | nil => exact ⟨rfl, Changed.refl _ _ _⟩
  | cons dir outer ih =>
      have stay : files.cwd = files.cwd ∧ Changed new nothing files.tree files.tree :=
        ⟨rfl, Changed.refl _ _ _⟩
      rw [createNested]
      split
      · exact stay
      rename_i filled
      have own (before after : Files) (same : before.cwd = files.cwd)
          (done : before.createDirectory dir = .ok after) :
          after.cwd = files.cwd ∧ Changed new nothing before.tree after.tree := by
        obtain ⟨kept, changed⟩ := createDirectory_changed done
        refine ⟨kept.trans same, changed.mono ?_ (fun _ _ none => none)⟩
        intro loc onWay
        apply allowed dir List.mem_cons_self filled loc
        rwa [OnWay, start_congr same] at onWay
      cases done : files.createDirectory dir with
      | ok after => exact own files after rfl done
      | error fault =>
          cases fault with
          | notFound =>
              -- The directories around come first, then the same directory is tried again.
              have inner := ih (fun q member => allowed q (List.mem_cons_of_mem _ member))
              cases around : files.createNested outer with
              | error fault after =>
                  rw [around] at inner
                  exact inner
              | ok value after =>
                  rw [around] at inner
                  obtain ⟨same, changed⟩ := inner
                  simp only
                  cases again : after.createDirectory dir with
                  | ok last =>
                      obtain ⟨kept, added⟩ := own after last same again
                      exact ⟨kept, changed.trans added⟩
                  | error fault =>
                      simp only
                      split <;> exact ⟨same, changed⟩
          | _ =>
              simp only
              split <;> exact stay

/-- Making a directory with those around it adds directories on its way, and nothing else. -/
theorem createDirectories_changed (files : Files) (dir : Path) :
    (stateAfter (files.createDirectories dir)).cwd = files.cwd ∧
      Changed (files.OnWay dir) nothing files.tree
        (stateAfter (files.createDirectories dir)).tree := by
  apply createNested_changed
  intro q member filled loc onWay
  rcases List.mem_cons.1 member with rfl | above
  · exact onWay
  · obtain ⟨absolute, more, names⟩ := Path.names_of_mem_parents above filled
    rw [OnWay, start, ← absolute, ← names]
    exact FileTree.trail_append _ _ _ onWay

theorem createDirectories_eq_ok (done : files.createDirectories dir = .ok () made) :
    made.cwd = files.cwd ∧ Changed (files.OnWay dir) nothing files.tree made.tree := by
  have changed := createDirectories_changed files dir
  rwa [done] at changed

/-- A write changes the file that its path leads to, and no directory. -/
theorem write_changed (done : files.write p content = .ok written) :
    written.cwd = files.cwd ∧ Changed nowhere
      (fun loc new => files.LeadsTo p loc ∧ new = content) files.tree written.tree := by
  obtain ⟨dir, name, found, _, short, accepted, rfl⟩ := write_eq_ok done
  refine ⟨rfl, (FileTree.changed_put_file accepted).mono (fun _ none => none) ?_⟩
  rintro loc new ⟨rfl, same⟩
  exact ⟨leadsTo_of_entry found short, same⟩

/-- A file is read where a path that is not at fault leads to it without a slash at the end. -/
theorem read_eq_ok_iff : files.read p = .ok content ↔
    pathFault? p = none ∧ p.endsWithSlash = false ∧
      ∃ loc, files.LeadsTo p loc ∧ files.tree.node? loc = some (.file content) := by
  unfold read node? locate
  simp only [FileTree.lead_eq_walk, LeadsTo]
  cases faulty : pathFault? p with
  | some fault => simp only [reduceCtorEq, false_and]
  | none =>
      cases walked : files.tree.walk (files.start p) p.names with
      | error fault => simp only [reduceCtorEq, false_and, exists_false, and_false]
      | ok place =>
          cases place with
          | lost depth outer =>
              simp only [FileTree.nodeAt?, reduceCtorEq, Except.ok.injEq, false_and, exists_false,
                and_false]
          | inTree loc =>
              simp only [FileTree.nodeAt?, Except.ok.injEq, Place.inTree.injEq, exists_eq_left',
                true_and]
              cases stands : files.tree.node? loc with
              | none => simp only [reduceCtorEq, and_false]
              | some node =>
                  cases node with
                  | directory => simp only [reduceCtorEq, Option.some.injEq, and_false]
                  | file other =>
                      simp only [Option.some.injEq, Node.file.injEq]
                      cases p.endsWithSlash with
                      | true => simp only [↓reduceIte, reduceCtorEq, false_and]
                      | false =>
                          simp only [Bool.false_eq_true, ↓reduceIte, Except.ok.injEq, true_and]

/-- A file still reads the same when nothing else was allowed where its path leads. -/
theorem read_of_changed {new : Location → Prop} {put : Location → Content → Prop}
    (known : files.read p = .ok content) (same : made.cwd = files.cwd)
    (changed : Changed new put files.tree made.tree)
    (kept : ∀ loc, files.LeadsTo p loc → ∀ other, put loc other → other = content) :
    made.read p = .ok content := by
  obtain ⟨sound, open_, loc, leads, stands⟩ := read_eq_ok_iff.1 known
  refine read_eq_ok_iff.2 ⟨sound, open_, loc, leads.of_changed same changed, ?_⟩
  obtain ⟨now, after⟩ := changed.file loc content stands
  rcases changed.new_content loc now after with before | allowed
  · rw [stands] at before
    cases before
    exact after
  · rw [kept loc leads now allowed] at after
    exact after

theorem found_of_read (known : files.read p = .ok content) : files.found p = true := by
  unfold read at known
  rw [found]
  cases stands : files.node? p with
  | error fault =>
      rw [stands] at known
      contradiction
  | ok node => rfl

end IconCatalog.Files
