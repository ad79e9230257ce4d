import IconCatalog.Files
set_option autoImplicit false

namespace IconCatalog

namespace FileTree

theorem enter_eq_ok_iff {tree : FileTree} {place dir : Place} :
    tree.enter place = .ok dir ↔ tree.nodeAt? place = some .directory ∧ dir = place := by
  unfold enter
  split
  · next missing => simp only [missing, reduceCtorEq, false_and]
  · next file => simp only [file, reduceCtorEq, Option.some.injEq, false_and]
  · next directory =>
    simp only [directory, Except.ok.injEq, true_and]
    exact eq_comm

theorem walk_cons_eq_ok_iff {tree : FileTree} {place last : Place} {name : Name}
    {names : List Name} :
    tree.walk place (name :: names) = .ok last ↔
      tree.nodeAt? place = some .directory ∧
        ∃ next, place.child name = .ok next ∧ tree.walk next names = .ok last := by
  rw [walk]
  cases entered : tree.enter place with
  | error fault =>
    have outside : tree.nodeAt? place ≠ some .directory := fun directory => by
      rw [enter_eq_ok_iff.2 ⟨directory, rfl⟩] at entered
      contradiction
    simp only [reduceCtorEq, outside, false_and]
  | ok dir =>
    obtain ⟨directory, rfl⟩ := enter_eq_ok_iff.1 entered
    simp only [directory, true_and]
    cases dir.child name with
    | error fault => simp only [reduceCtorEq, false_and, exists_false]
    | ok next => simp only [Except.ok.injEq, exists_eq_left']

theorem walk_append {tree : FileTree} (place : Place) (names more : List Name) :
    tree.walk place (names ++ more) =
      (tree.walk place names).bind fun next => tree.walk next more := by
  induction names generalizing place with
  | nil => rfl
  | cons name names ih =>
    simp only [List.cons_append, walk]
    split
    · rfl
    · split
      · rfl
      · exact ih _

theorem nodeAt?_mono {s t : FileTree}
    (kept : ∀ loc, s.node? loc = some .directory → t.node? loc = some .directory) {place : Place}
    (directory : s.nodeAt? place = some .directory) : t.nodeAt? place = some .directory := by
  cases place with
  | inTree loc => exact kept loc directory
  | lost depth outer => rfl

theorem walk_mono {s t : FileTree}
    (kept : ∀ loc, s.node? loc = some .directory → t.node? loc = some .directory)
    {place last : Place} {names : List Name} (walked : s.walk place names = .ok last) :
    t.walk place names = .ok last := by
  induction names generalizing place with
  | nil => exact walked
  | cons name names ih =>
    obtain ⟨directory, next, stepped, rest⟩ := walk_cons_eq_ok_iff.1 walked
    exact walk_cons_eq_ok_iff.2 ⟨nodeAt?_mono kept directory, next, stepped, ih rest⟩

/-- A node that is put somewhere takes no directory away. -/
theorem directory_of_put {tree : FileTree} {name : Name} {dir : Location} {node : Node}
    (accepted : tree.Accepts name dir node) {loc : Location}
    (directory : tree.node? loc = some .directory) :
    (tree.put name dir node).node? loc = some .directory := by
  rw [node?_put accepted]
  split
  · next here => rw [accepted.2 (here ▸ directory)]
  · exact directory

end FileTree

namespace Files

/-- What `entry` finds: the walk to a directory and a last name that is not one of its own. -/
theorem entry_eq_inside {files : Files} {p : Path} {dir : Location} {name : Name}
    (found : files.entry p = .ok (.inside dir name)) :
    pathFault? p = none ∧ name ≠ Path.dot ∧ name ≠ Path.dotDot ∧
      files.tree.node? dir = some .directory ∧
      ∃ outer, p.names = outer ++ [name] ∧
        files.tree.walk (files.start p) outer = .ok (.inTree dir) := by
  unfold entry at found
  simp only [FileTree.lead_eq_walk] at found
  split at found
  · contradiction
  next sound =>
  split at found
  · exact Entry.noConfusion (Except.ok.inj found)
  next last outer reversed =>
  split at found
  · contradiction
  next inner walked =>
  split at found
  · exact Entry.noConfusion (Except.ok.inj found)
  next plain =>
  split at found
  next loc =>
    simp only [Except.ok.injEq, Entry.inside.injEq] at found
    obtain ⟨rfl, rfl⟩ := found
    cases passed : files.tree.walk (files.start p) outer.reverse with
    | error fault => simp only [passed, Except.bind, reduceCtorEq] at walked
    | ok reached =>
      simp only [passed, Except.bind] at walked
      obtain ⟨directory, rfl⟩ := FileTree.enter_eq_ok_iff.1 walked
      refine ⟨sound, fun h => plain (.inl h), fun h => plain (.inr h), directory, outer.reverse,
        ?_, passed⟩
      have whole := congrArg List.reverse reversed
      rwa [List.reverse_reverse, List.reverse_cons] at whole
  · exact Entry.noConfusion (Except.ok.inj found)

theorem write_eq_ok {files written : Files} {p : Path} {content : Content}
    (done : files.write p content = .ok written) :
    ∃ dir name, files.entry p = .ok (.inside dir name) ∧ p.endsWithSlash = false ∧
      name.length ≤ maxName ∧ files.tree.Accepts name dir (.file content) ∧
      written = files.put name dir (.file content) := by
  unfold write at done
  split at done
  · contradiction
  · contradiction
  · contradiction
  next dir name found =>
  split at done
  · contradiction
  next open_ =>
  split at done
  · contradiction
  next short =>
  split at done
  · contradiction
  next free =>
  refine ⟨dir, name, found, Bool.not_eq_true _ ▸ open_, Nat.le_of_not_lt short,
    ⟨(entry_eq_inside found).2.2.2.1, fun directory => absurd directory free⟩, ?_⟩
  exact (Except.ok.inj done).symm

theorem read_of_write {files written : Files} {p : Path} {content : Content}
    (done : files.write p content = .ok written) : written.read p = .ok content := by
  obtain ⟨dir, name, found, open_, short, accepted, rfl⟩ := write_eq_ok done
  obtain ⟨sound, noDot, noDots, directory, outer, names, walked⟩ := entry_eq_inside found
  have stepped : (Place.inTree dir).child name = .ok (.inTree (name :: dir)) := by
    rw [Place.child, if_neg noDot, if_neg noDots]
    exact if_neg (Nat.not_lt.2 short)
  have arrived : (files.put name dir (.file content)).tree.walk
      ((files.put name dir (.file content)).start p) p.names = .ok (.inTree (name :: dir)) := by
    rw [names, FileTree.walk_append]
    have again : (files.put name dir (.file content)).tree.walk (files.start p) outer =
        .ok (.inTree dir) :=
      FileTree.walk_mono (fun _ => FileTree.directory_of_put accepted) walked
    change ((files.put name dir (.file content)).tree.walk (files.start p) outer).bind _ = _
    rw [again]
    exact FileTree.walk_cons_eq_ok_iff.2
      ⟨FileTree.directory_of_put accepted directory, _, stepped, rfl⟩
  have here : (files.put name dir (.file content)).tree.node? (name :: dir) =
      some (.file content) := by
    rw [put, FileTree.node?_put accepted, if_pos rfl]
  simp only [read, node?, locate, sound, FileTree.lead_eq_walk, arrived, FileTree.nodeAt?, here,
    open_, Bool.false_eq_true, if_false]

end Files

end IconCatalog
