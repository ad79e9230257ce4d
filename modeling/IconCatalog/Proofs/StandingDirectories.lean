import IconCatalog.Proofs.FileOperations
set_option autoImplicit false

namespace IconCatalog.Files

open FileTree (Changed nowhere)

variable {files made : Files} {p dir : Path}

theorem isDirectory_iff : files.isDirectory p = true ↔ pathFault? p = none ∧
    ∃ place, files.tree.walk (files.start p) p.names = .ok place ∧
      files.tree.nodeAt? place = some .directory := by
  unfold isDirectory node? locate
  simp only [FileTree.lead_eq_walk]
  cases pathFault? p with
  | some fault => simp only [Bool.false_eq_true, reduceCtorEq, false_and]
  | none =>
      cases files.tree.walk (files.start p) p.names with
      | error fault =>
          simp only [Bool.false_eq_true, reduceCtorEq, false_and, exists_false, and_false]
      | ok place =>
          simp only [Except.ok.injEq, exists_eq_left', true_and]
          cases files.tree.nodeAt? place with
          | none => simp only [Bool.false_eq_true, reduceCtorEq]
          | some node =>
              cases node with
              | directory => simp only
              | file content => cases p.endsWithSlash <;> simp

/-- What the last name of a path stands for, once the names before it led to a directory. -/
theorem entry_eq_of_walk {outer : List Name} {name : Name} {inner : Place}
    (sound : pathFault? p = none) (split : p.names = outer ++ [name])
    (walked : files.tree.walk (files.start p) outer = .ok inner)
    (directory : files.tree.nodeAt? inner = some .directory) :
    files.entry p =
      if name = Path.dot ∨ name = Path.dotDot then .ok .standing
      else
        match inner with
        | .inTree loc => .ok (.inside loc name)
        | .lost _ _ => .ok .nowhere := by
  have entered : files.tree.enter inner = .ok inner :=
    FileTree.enter_eq_ok_iff.2 ⟨directory, rfl⟩
  have reversed : p.names.reverse = name :: outer.reverse := by
    rw [split, List.reverse_append, List.reverse_singleton, List.singleton_append]
  simp only [entry, sound, reversed, FileTree.lead_eq_walk, List.reverse_reverse, walked,
    Except.bind, entered]
  cases inner <;> rfl

theorem entry_eq_inside_iff {loc : Location} {name : Name} :
    files.entry p = .ok (.inside loc name) ↔
      pathFault? p = none ∧ name ≠ Path.dot ∧ name ≠ Path.dotDot ∧
        files.tree.nodeAt? (.inTree loc) = some .directory ∧
        ∃ outer, p.names = outer ++ [name] ∧
          files.tree.walk (files.start p) outer = .ok (.inTree loc) := by
  constructor
  · exact entry_eq_inside
  · rintro ⟨sound, noDot, noDots, directory, outer, split, walked⟩
    rw [entry_eq_of_walk sound split walked directory, if_neg (not_or.2 ⟨noDot, noDots⟩)]

theorem createDirectory_of_isDirectory (stands : files.isDirectory p = true) :
    files.createDirectory p = .error .alreadyExists := by
  obtain ⟨sound, place, walked, directory⟩ := isDirectory_iff.1 stands
  rcases List.eq_nil_or_concat p.names with empty | ⟨outer, name, split⟩
  · have here : files.entry p = .ok .standing := by
      simp only [entry, sound, empty, List.reverse_nil]
    rw [createDirectory, here]
  · rw [List.concat_eq_append] at split
    rw [split, FileTree.walk_append] at walked
    cases passed : files.tree.walk (files.start p) outer with
    | error fault =>
        rw [passed] at walked
        contradiction
    | ok inner =>
        rw [passed] at walked
        obtain ⟨around, next, stepped, last⟩ := FileTree.walk_cons_eq_ok_iff.1 walked
        cases last
        have here := entry_eq_of_walk sound split passed around
        by_cases own : name = Path.dot ∨ name = Path.dotDot
        · rw [if_pos own] at here
          rw [createDirectory, here]
        · -- A name of an entry cannot be walked through in a directory that was taken away.
          obtain ⟨noDot, noDots⟩ := not_or.1 own
          rw [if_neg own] at here
          rw [Place.child.eq_def, if_neg noDot, if_neg noDots] at stepped
          cases inner with
          | lost depth outside => contradiction
          | inTree loc =>
              simp only at stepped here
              split at stepped
              · contradiction
              · rename_i short
                cases stepped
                have there : files.tree.node? (name :: loc) = some .directory := directory
                simp only [createDirectory, here, if_neg short, there]

theorem isDirectory_of_createDirectory (done : files.createDirectory p = .ok made) :
    made.isDirectory p = true := by
  obtain ⟨kept, changed⟩ := createDirectory_changed done
  obtain ⟨dir, name, found, short, free, rfl⟩ := createDirectory_eq_ok done
  obtain ⟨sound, _, _, around, _⟩ := entry_eq_inside found
  have accepted : files.tree.Accepts name dir .directory := ⟨around, fun _ => rfl⟩
  refine isDirectory_iff.2
    ⟨sound, _, (leadsTo_of_entry found short).of_changed kept changed, ?_⟩
  rw [FileTree.nodeAt?, put, FileTree.node?_put accepted, if_pos rfl]

/-- A path that leads to a directory, as the empty one does where entries are named without any. -/
def Standing (files : Files) (dir : Path) : Prop :=
  dir.bytes = [] ∨ files.isDirectory dir = true

theorem standing_of_createDirectories (done : files.createDirectories dir = .ok () made) :
    made.Standing dir := by
  rw [createDirectories, createNested] at done
  split at done
  · rename_i empty
    exact Or.inl empty
  · split at done
    · rename_i first
      cases done
      exact Or.inr (isDirectory_of_createDirectory first)
    · split at done
      · contradiction
      · split at done
        · rename_i again
          cases done
          exact Or.inr (isDirectory_of_createDirectory again)
        · split at done
          · rename_i stands
            cases done
            exact Or.inr stands
          · contradiction
    · split at done
      · rename_i stands
        cases done
        exact Or.inr stands
      · contradiction

/-- Where a directory stands, there is nothing to be made. -/
theorem createDirectories_of_standing (stands : files.Standing dir) :
    files.createDirectories dir = .ok () files := by
  rw [createDirectories, createNested]
  rcases stands with empty | directory
  · rw [if_pos empty]
  · by_cases empty : dir.bytes = []
    · rw [if_pos empty]
    · rw [if_neg empty, createDirectory_of_isDirectory directory]
      exact if_pos directory

/-- A file can be written at a path, in the place of another one or of nothing. -/
def Writable (files : Files) (p : Path) : Prop :=
  p.endsWithSlash = false ∧ ∃ dir name, files.entry p = .ok (.inside dir name) ∧
    name.length ≤ maxName ∧ files.tree.nodeAt? (.inTree (name :: dir)) ≠ some .directory

theorem exists_write_iff (content : Content) :
    (∃ written, files.write p content = .ok written) ↔ files.Writable p := by
  constructor
  · rintro ⟨written, done⟩
    obtain ⟨dir, name, found, open_, short, accepted, _⟩ := write_eq_ok done
    exact ⟨open_, dir, name, found, short, fun directory => Node.noConfusion (accepted.2 directory)⟩
  · rintro ⟨open_, dir, name, found, short, free⟩
    refine ⟨files.put name dir (.file content), ?_⟩
    simp only [write, found, open_, Bool.false_eq_true, if_false, if_neg (Nat.not_lt.2 short)]
    split
    · rename_i directory
      exact absurd directory free
    · rfl

section Unmade

variable {written : Location → Content → Prop}

/-- Where no directory is new, a path leads where it led before. -/
theorem leadsTo_iff_of_changed (same : made.cwd = files.cwd)
    (changed : Changed nowhere written files.tree made.tree) {loc : Location} :
    made.LeadsTo p loc ↔ files.LeadsTo p loc := by
  rw [LeadsTo, LeadsTo, start_congr same, changed.walk_iff]

theorem standing_iff_of_changed (same : made.cwd = files.cwd)
    (changed : Changed nowhere written files.tree made.tree) :
    made.Standing dir ↔ files.Standing dir := by
  simp only [Standing, isDirectory_iff, start_congr same, changed.walk_iff, changed.directory_iff]

theorem entry_inside_iff_of_changed (same : made.cwd = files.cwd)
    (changed : Changed nowhere written files.tree made.tree) {loc : Location} {name : Name} :
    made.entry p = .ok (.inside loc name) ↔ files.entry p = .ok (.inside loc name) := by
  simp only [entry_eq_inside_iff, start_congr same, changed.walk_iff, changed.directory_iff]

/-- Where no directory is new, the same files can be written. -/
theorem writable_iff_of_changed (same : made.cwd = files.cwd)
    (changed : Changed nowhere written files.tree made.tree) :
    made.Writable p ↔ files.Writable p := by
  simp only [Writable, entry_inside_iff_of_changed same changed, changed.directory_iff, ne_eq]

end Unmade

end IconCatalog.Files
