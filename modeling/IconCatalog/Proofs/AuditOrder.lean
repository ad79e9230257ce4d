import IconCatalog.Proofs.AuditReport
set_option autoImplicit false

namespace IconCatalog

section Repeats

variable {α : Type} [DecidableEq α] {xs ys : List α}

/-- The values that occur before their own place, or in `seen`. -/
def repeatsAfter (seen : List α) : List α → List α
  | [] => []
  | x :: rest => (if x ∈ seen then [x] else []) ++ repeatsAfter (seen ++ [x]) rest

/-- Of the occurrences of a value, only the first one repeats none. -/
theorem count_repeatsAfter (seen xs : List α) (a : α) :
    (repeatsAfter seen xs).count a = if a ∈ seen then xs.count a else xs.count a - 1 := by
  induction xs generalizing seen with
  | nil => simp only [repeatsAfter, List.count_nil, Nat.zero_sub, ite_self]
  | cons x xs ih =>
      rw [repeatsAfter, List.count_append, ih, List.count_cons]
      by_cases same : x = a
      · subst same
        by_cases before : x ∈ seen
        · simp only [before, List.mem_append, true_or, if_true, List.count_singleton_self,
            beq_self_eq_true]
          exact Nat.add_comm _ _
        · simp only [before, List.mem_append, List.mem_singleton, or_true, if_true, if_false,
            List.count_nil, beq_self_eq_true, Nat.zero_add, Nat.add_sub_cancel]
      · have absent : (if x ∈ seen then [x] else []).count a = 0 := by
          apply List.count_eq_zero_of_not_mem
          intro inside
          rw [List.mem_ite_nil_right, List.mem_singleton] at inside
          exact same inside.2.symm
        simp only [absent, List.mem_append, List.mem_singleton, Ne.symm same, or_false,
          beq_eq_false_iff_ne.2 same, Bool.false_eq_true, if_false, Nat.zero_add, Nat.add_zero]

theorem repeatsAfter_perm (seen : List α) (same : xs.Perm ys) :
    (repeatsAfter seen xs).Perm (repeatsAfter seen ys) := by
  rw [List.perm_iff_count]
  intro a
  rw [count_repeatsAfter, count_repeatsAfter, same.count_eq]

end Repeats

inductive Problem.Kind
  | length
  | format
  | notSquare
  | duplicateName
  | duplicateSize
  deriving DecidableEq

namespace Problem

def kind : Problem → Kind
  | .length _ _ _ => .length
  | .format _ _ => .format
  | .notSquare _ _ _ => .notSquare
  | .duplicateName _ => .duplicateName
  | .duplicateSize _ _ => .duplicateSize

def repeatedWidth? : Problem → Option UInt64
  | .duplicateSize _ width => some width
  | _ => none

end Problem

namespace Audit

def ofKind (kind : Problem.Kind) (found : List Problem) : List Problem :=
  found.filter fun problem => problem.kind = kind

theorem length_eq_ofKind (found : List Problem) : found.length =
    (ofKind .length found).length + (ofKind .format found).length +
      (ofKind .notSquare found).length + (ofKind .duplicateName found).length +
      (ofKind .duplicateSize found).length := by
  induction found with
  | nil => rfl
  | cons problem found ih =>
      cases problem <;>
        simp only [ofKind, List.filter_cons, Problem.kind, reduceCtorEq, decide_true, decide_false,
          Bool.false_eq_true, if_true, if_false, List.length_cons] at ih ⊢ <;>
        omega

theorem length_ofKind_duplicateSize (found : List Problem) :
    (ofKind .duplicateSize found).length = (found.filterMap Problem.repeatedWidth?).length := by
  induction found with
  | nil => rfl
  | cons problem found ih =>
      cases problem <;>
        simp only [ofKind, List.filter_cons, List.filterMap_cons, Problem.kind,
          Problem.repeatedWidth?, reduceCtorEq, decide_true, decide_false, Bool.false_eq_true,
          if_true, if_false, List.length_cons] at ih ⊢ <;>
        omega

variable {seen : Seen} {earlier images images' : List Image}

section Parts

variable {α : Type} {part : List Problem → List α}

/-- What is taken from a report is taken from each of its problems alone. -/
structure Splits (part : List Problem → List α) : Prop where
  nil : part [] = []
  append : ∀ first second, part (first ++ second) = part first ++ part second

theorem splits_ofKind (kind : Problem.Kind) : Splits (ofKind kind) :=
  ⟨rfl, fun _ _ => List.filter_append _ _⟩

theorem splits_repeatedWidth? : Splits (List.filterMap Problem.repeatedWidth?) :=
  ⟨rfl, fun _ _ => List.filterMap_append⟩

theorem ofKind_singleton (kind : Problem.Kind) (problem : Problem) :
    ofKind kind [problem] = if problem.kind = kind then [problem] else [] := by
  simp only [ofKind, List.filter_cons, List.filter_nil, decide_eq_true_eq]

theorem part_faults (splits : Splits part) (earlier : List Image) (image : Image) :
    part (faults earlier image) =
      (if image.format = .nrgba then [] else part [.format image.name image.format]) ++
      (if image.width = image.height then []
        else part [.notSquare image.name image.width image.height]) ++
      (if ∃ other ∈ earlier, other.name = image.name then part [.duplicateName image.name]
        else []) ++
      (if ∃ other ∈ earlier, other.width = image.width then
        part [.duplicateSize image.name image.width] else []) := by
  simp only [faults, splits.append, apply_ite part, splits.nil]

/-- Where an image is blamed for itself, its place does not matter. -/
theorem part_eq_flatMap (splits : Splits part) {own : Image → List α}
    (each : ∀ earlier image, part (faults earlier image) = own image) (of : seen.Of earlier)
    (images : List Image) : part (problemsAfter seen images) = images.flatMap own := by
  induction images generalizing seen earlier with
  | nil => exact splits.nil
  | cons image images ih =>
      rw [problemsAfter, ofImage_eq of, splits.append, each, ih (of.add image), List.flatMap_cons]

/-- Where an image is blamed for a value of an image before it, the values that repeat others are
reported. -/
theorem part_eq_repeatsAfter [DecidableEq α] (splits : Splits part) {value : Image → α}
    (each : ∀ earlier image, part (faults earlier image) =
      if value image ∈ earlier.map value then [value image] else []) (of : seen.Of earlier)
    (images : List Image) :
    part (problemsAfter seen images) = repeatsAfter (earlier.map value) (images.map value) := by
  induction images generalizing seen earlier with
  | nil => exact splits.nil
  | cons image images ih =>
      rw [problemsAfter, ofImage_eq of, splits.append, each, ih (of.add image), List.map_append,
        List.map_singleton, List.map_cons, repeatsAfter]

theorem part_perm_of_own (splits : Splits part) (own : Image → List α)
    (each : ∀ earlier image, part (faults earlier image) = own image)
    (same : images.Perm images') : (part (problems images)).Perm (part (problems images')) := by
  rw [problems, problems, part_eq_flatMap splits each Seen.of_none,
    part_eq_flatMap splits each Seen.of_none]
  exact same.flatMap_right own

theorem part_perm_of_shared [DecidableEq α] (splits : Splits part) (value : Image → α)
    (each : ∀ earlier image, part (faults earlier image) =
      if value image ∈ earlier.map value then [value image] else [])
    (same : images.Perm images') : (part (problems images)).Perm (part (problems images')) := by
  rw [problems, problems, part_eq_repeatsAfter splits each Seen.of_none,
    part_eq_repeatsAfter splits each Seen.of_none]
  exact repeatsAfter_perm _ (same.map value)

end Parts

theorem repeatedWidths_perm (same : images.Perm images') :
    ((problems images).filterMap Problem.repeatedWidth?).Perm
      ((problems images').filterMap Problem.repeatedWidth?) := by
  apply part_perm_of_shared splits_repeatedWidth? Image.width _ same
  intro earlier image
  simp only [part_faults splits_repeatedWidth?, Problem.repeatedWidth?, List.filterMap_cons,
    List.filterMap_nil, ite_self, List.nil_append, List.mem_map]

theorem ofKind_perm {kind : Problem.Kind} (other : kind ≠ .duplicateSize)
    (same : images.Perm images') :
    (ofKind kind (problems images)).Perm (ofKind kind (problems images')) := by
  have splits := splits_ofKind kind
  cases kind with
  | length =>
      apply part_perm_of_own splits (fun _ => []) _ same
      intro earlier image
      simp only [part_faults splits, ofKind_singleton, Problem.kind, reduceCtorEq, if_false,
        ite_self, List.append_nil]
  | format =>
      apply part_perm_of_own splits (fun image =>
        if image.format = .nrgba then [] else [.format image.name image.format]) _ same
      intro earlier image
      simp only [part_faults splits, ofKind_singleton, Problem.kind, reduceCtorEq, if_true,
        if_false, ite_self, List.append_nil]
  | notSquare =>
      apply part_perm_of_own splits (fun image => if image.width = image.height then []
        else [.notSquare image.name image.width image.height]) _ same
      intro earlier image
      simp only [part_faults splits, ofKind_singleton, Problem.kind, reduceCtorEq, if_true,
        if_false, ite_self, List.append_nil, List.nil_append]
  | duplicateName =>
      apply part_perm_of_shared splits (fun image => .duplicateName image.name) _ same
      intro earlier image
      simp only [part_faults splits, ofKind_singleton, Problem.kind, reduceCtorEq, if_true,
        if_false, ite_self, List.append_nil, List.nil_append, List.mem_map,
        Problem.duplicateName.injEq]
  | duplicateSize => contradiction

/-- Two reports are the same in number, in the messages of each kind but one, and in the widths that
are repeated. Which images are blamed for these widths is left open. -/
structure Agrees (found found' : List Problem) : Prop where
  number : found.length = found'.length
  messages : ∀ kind, kind ≠ .duplicateSize →
    ((ofKind kind found).map Problem.message).Perm ((ofKind kind found').map Problem.message)
  widths : (found.filterMap Problem.repeatedWidth?).Perm (found'.filterMap Problem.repeatedWidth?)

/-- The order of the images decides no more than who is blamed for a width. A name or a width is
reported once for each image that has it, less the first one, so the order decides which images are
the later ones and not how many there are. -/
theorem problems_of_perm (same : images.Perm images') :
    Agrees (problems images) (problems images') := by
  have widths := repeatedWidths_perm same
  have number {kind : Problem.Kind} (other : kind ≠ .duplicateSize) :
      (ofKind kind (problems images)).length = (ofKind kind (problems images')).length :=
    (ofKind_perm other same).length_eq
  refine ⟨?_, fun kind other => (ofKind_perm other same).map Problem.message, widths⟩
  rw [length_eq_ofKind, length_eq_ofKind (problems images'), length_ofKind_duplicateSize,
    length_ofKind_duplicateSize, widths.length_eq, number (by decide), number (by decide),
    number (by decide), number (by decide)]

/-- An icon twice, behind itself under another name. -/
def renamed : List Image :=
  [{ Catalog.icon16 with name := "first" }, Catalog.icon16, Catalog.icon16]

/-- An image that is the first of its width is the one to blame when it comes last. -/
theorem problems_of_perm_renamed : renamed.Perm renamed.reverse ∧
    Agrees (problems renamed) (problems renamed.reverse) ∧
    .duplicateSize "first" 16 ∉ problems renamed ∧
    .duplicateSize "first" 16 ∈ problems renamed.reverse := by
  have same : renamed.Perm renamed.reverse := renamed.reverse_perm.symm
  refine ⟨same, problems_of_perm same, ?_, ?_⟩
  · rw [problems_eq]
    decide
  · rw [problems_eq]
    decide

end Audit

end IconCatalog
