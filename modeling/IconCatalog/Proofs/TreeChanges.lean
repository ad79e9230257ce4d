import IconCatalog.FileTree.Walk
import IconCatalog.Files.Lemmas
import IconCatalog.Proofs.PathNames
set_option autoImplicit false

namespace IconCatalog.FileTree

/-- Directories stay directories and files stay files. A directory is new only where `made` allows
it, and a file has content that it had not before only where `written` allows that content. The
frame conditions of all operations are stated with it. -/
structure Changed (made : Location → Prop) (written : Location → Content → Prop)
    (before after : FileTree) : Prop where
  directory : ∀ loc, before.node? loc = some .directory → after.node? loc = some .directory
  file : ∀ loc content, before.node? loc = some (.file content) →
    ∃ now, after.node? loc = some (.file now)
  new_directory : ∀ loc, after.node? loc = some .directory →
    before.node? loc = some .directory ∨ made loc
  new_content : ∀ loc content, after.node? loc = some (.file content) →
    before.node? loc = some (.file content) ∨ written loc content

abbrev nowhere : Location → Prop := fun _ => False

abbrev nothing : Location → Content → Prop := fun _ _ => False

variable {made made' : Location → Prop} {written written' : Location → Content → Prop}
  {s t u : FileTree}

theorem Changed.refl (made : Location → Prop) (written : Location → Content → Prop)
    (tree : FileTree) : Changed made written tree tree where
  directory _ found := found
  file _ content found := ⟨content, found⟩
  new_directory _ found := Or.inl found
  new_content _ _ found := Or.inl found

theorem Changed.trans (first : Changed made written s t) (second : Changed made written t u) :
    Changed made written s u where
  directory loc found := second.directory loc (first.directory loc found)
  file loc content found := by
    obtain ⟨now, kept⟩ := first.file loc content found
    exact second.file loc now kept
  new_directory loc found := by
    rcases second.new_directory loc found with earlier | new
    · exact first.new_directory loc earlier
    · exact Or.inr new
  new_content loc content found := by
    rcases second.new_content loc content found with earlier | new
    · exact first.new_content loc content earlier
    · exact Or.inr new

theorem Changed.mono (changed : Changed made written s t)
    (directories : ∀ loc, made loc → made' loc)
    (contents : ∀ loc content, written loc content → written' loc content) :
    Changed made' written' s t where
  directory := changed.directory
  file := changed.file
  new_directory loc found := (changed.new_directory loc found).imp_right (directories loc)
  new_content loc content found :=
    (changed.new_content loc content found).imp_right (contents loc content)

/-- Where nothing was allowed, the same stands as before. -/
theorem Changed.node?_eq (changed : Changed made written s t) {loc : Location}
    (unmade : t.node? loc = some .directory → ¬ made loc)
    (unwritten : ∀ content, ¬ written loc content) : t.node? loc = s.node? loc := by
  cases after : t.node? loc with
  | none =>
      cases before : s.node? loc with
      | none => rfl
      | some node =>
          cases node with
          | directory =>
              rw [changed.directory loc before] at after
              contradiction
          | file content =>
              obtain ⟨now, kept⟩ := changed.file loc content before
              rw [kept] at after
              contradiction
  | some node =>
      cases node with
      | directory =>
          rcases changed.new_directory loc after with earlier | new
          · exact earlier.symm
          · exact absurd new (unmade after)
      | file content =>
          rcases changed.new_content loc content after with earlier | new
          · exact earlier.symm
          · exact absurd new (unwritten content)

/-- Where no content was allowed, each file is the one before. -/
theorem Changed.file_iff (changed : Changed made written s t) {loc : Location}
    (unwritten : ∀ content, ¬ written loc content) (content : Content) :
    t.node? loc = some (.file content) ↔ s.node? loc = some (.file content) := by
  constructor
  · intro found
    exact (changed.new_content loc content found).resolve_right (unwritten content)
  · intro found
    obtain ⟨now, kept⟩ := changed.file loc content found
    have same := (changed.new_content loc now kept).resolve_right (unwritten now)
    rw [found] at same
    cases same
    exact kept

theorem changed_put_file {tree : FileTree} {name : Name} {dir : Location} {content : Content}
    (accepted : tree.Accepts name dir (.file content)) :
    Changed nowhere (fun loc new => loc = name :: dir ∧ new = content) tree
      (tree.put name dir (.file content)) where
  directory loc found := directory_of_put accepted found
  file loc old found := by
    rw [node?_put accepted]
    split
    · exact ⟨content, rfl⟩
    · exact ⟨old, found⟩
  new_directory loc found := by
    rw [node?_put accepted] at found
    split at found
    · cases found
    · exact Or.inl found
  new_content loc new found := by
    rw [node?_put accepted] at found
    split at found
    · rename_i here
      cases found
      exact Or.inr ⟨here, rfl⟩
    · exact Or.inl found

theorem changed_put_directory {tree : FileTree} {name : Name} {dir : Location}
    (around : tree.node? dir = some .directory) (free : tree.node? (name :: dir) = none) :
    Changed (fun loc => loc = name :: dir) nothing tree (tree.put name dir .directory) := by
  have accepted : tree.Accepts name dir .directory := ⟨around, fun _ => rfl⟩
  refine ⟨fun loc found => directory_of_put accepted found, ?_, ?_, ?_⟩
  · intro loc content found
    have elsewhere : loc ≠ name :: dir := by
      rintro rfl
      rw [free] at found
      cases found
    exact ⟨content, by rw [node?_put accepted, if_neg elsewhere, found]⟩
  · intro loc found
    rw [node?_put accepted] at found
    split at found
    · rename_i here
      exact Or.inr here
    · exact Or.inl found
  · intro loc content found
    rw [node?_put accepted] at found
    split at found
    · cases found
    · exact Or.inl found

theorem Changed.walk (changed : Changed made written s t) {place last : Place} {names : List Name}
    (walked : s.walk place names = .ok last) : t.walk place names = .ok last :=
  walk_mono changed.directory walked

/-- Where no directory is new, the same walks succeed. -/
theorem Changed.walk_iff (changed : Changed nowhere written s t) {place last : Place}
    {names : List Name} : t.walk place names = .ok last ↔ s.walk place names = .ok last :=
  ⟨walk_mono fun loc found => (changed.new_directory loc found).resolve_right id, changed.walk⟩

theorem Changed.directory_iff (changed : Changed nowhere written s t) {place : Place} :
    t.nodeAt? place = some .directory ↔ s.nodeAt? place = some .directory :=
  ⟨nodeAt?_mono fun loc found => (changed.new_directory loc found).resolve_right id,
    nodeAt?_mono changed.directory⟩

/-- A walk ends on its trail. -/
theorem mem_trail_of_walk {tree : FileTree} {place last : Place} {names : List Name}
    (walked : tree.walk place names = .ok last) : last ∈ trail place names := by
  induction names generalizing place with
  | nil =>
      cases walked
      exact List.mem_singleton_self _
  | cons name names ih =>
      obtain ⟨_, next, stepped, rest⟩ := walk_cons_eq_ok_iff.1 walked
      rw [trail, stepped]
      exact List.mem_cons_of_mem _ (ih rest)

theorem trail_append (place : Place) (names more : List Name) {passed : Place}
    (member : passed ∈ trail place names) : passed ∈ trail place (names ++ more) := by
  induction names generalizing place with
  | nil =>
      rw [trail, List.mem_singleton] at member
      subst member
      cases more <;> exact List.mem_cons_self
  | cons name names ih =>
      rw [List.cons_append]
      rw [trail] at member ⊢
      rcases List.mem_cons.1 member with rfl | inside
      · exact List.mem_cons_self
      · apply List.mem_cons_of_mem
        cases stepped : place.child name with
        | error fault =>
            rw [stepped] at inside
            contradiction
        | ok next =>
            rw [stepped] at inside
            exact ih next inside

end IconCatalog.FileTree
