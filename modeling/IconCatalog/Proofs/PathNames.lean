import IconCatalog.Path
set_option autoImplicit false

namespace IconCatalog.Path

theorem segments_eq_splitOn (bytes : Bytes) : segments bytes = bytes.splitOn slash := by
  induction bytes with
  | nil => rfl
  | cons b rest ih =>
      rw [segments, List.splitOn_cons_eq_if_modifyHead, ih]
      by_cases separator : b = slash
      · rw [if_pos separator, if_pos (beq_iff_eq.2 separator)]
      · rw [if_neg separator, if_neg (fun same => separator (beq_iff_eq.1 same))]
        cases found : rest.splitOn slash with
        | nil => exact absurd found (List.splitOn_ne_nil slash rest)
        | cons first more => rfl

theorem segments_append_slash (front back : Bytes) :
    segments (front ++ slash :: back) = segments front ++ segments back := by
  simp only [segments_eq_splitOn, List.splitOn_append_cons_self]

theorem segments_of_not_mem {bytes : Bytes} (plain : slash ∉ bytes) : segments bytes = [bytes] := by
  rw [segments_eq_splitOn, List.splitOn_eq_singleton plain]

theorem intercalate_segments (bytes : Bytes) :
    List.intercalate [slash] (segments bytes) = bytes := by
  rw [segments_eq_splitOn, List.intercalate_splitOn]

theorem names_append_slash (front back : Bytes) :
    names ⟨front ++ slash :: back⟩ = names ⟨front⟩ ++ names ⟨back⟩ := by
  simp only [names, segments_append_slash, List.filter_append]

theorem names_of_not_mem {name : Name} (plain : slash ∉ name) (filled : name ≠ []) :
    names ⟨name⟩ = [name] := by
  simp only [names, segments_of_not_mem plain]
  rw [List.filter_cons_of_pos (by simpa using filled), List.filter_nil]

theorem names_join (dir entry : Path) (relative : entry.isAbsolute = false) :
    (dir.join entry).names = dir.names ++ entry.names := by
  rw [join, if_neg (by rw [relative]; exact Bool.false_ne_true)]
  by_cases empty : dir.bytes = []
  · rw [if_pos (by simp only [empty, decide_true, Bool.true_or])]
    simp only [empty, List.nil_append, names, segments, List.filter_cons, List.isEmpty_nil,
      Bool.not_true, Bool.false_eq_true, ↓reduceIte, List.filter_nil]
  · by_cases closed : dir.endsWithSlash = true
    · rw [if_pos (by simp only [closed, Bool.or_true])]
      obtain ⟨front, split⟩ := List.getLast?_eq_some_iff.1 (of_decide_eq_true closed)
      have whole : dir = ⟨front ++ slash :: []⟩ := congrArg Path.mk split
      rw [whole, List.append_assoc]
      change names ⟨front ++ slash :: entry.bytes⟩ = _
      rw [names_append_slash, names_append_slash]
      simp only [names, segments, List.filter_cons, List.isEmpty_nil, Bool.not_true,
        Bool.false_eq_true, ↓reduceIte, List.filter_nil, List.append_nil]
    · rw [if_neg (by simpa only [empty, decide_false, Bool.false_or] using closed)]
      exact names_append_slash dir.bytes entry.bytes

theorem isAbsolute_join (dir entry : Path) (relative : entry.isAbsolute = false) :
    (dir.join entry).isAbsolute = dir.isAbsolute := by
  rw [join, if_neg (by rw [relative]; exact Bool.false_ne_true)]
  cases bytes : dir.bytes with
  | nil =>
      have here : dir.isAbsolute = false := by
        rw [isAbsolute, bytes]
        rfl
      simpa only [decide_true, Bool.true_or, ↓reduceIte, List.nil_append, here] using relative
  | cons b rest =>
      simp only [isAbsolute, bytes]
      split <;> rfl

private theorem intercalate_append {front back : List Name} (left : front ≠ [])
    (right : back ≠ []) :
    List.intercalate [slash] (front ++ back) =
      List.intercalate [slash] front ++ slash :: List.intercalate [slash] back := by
  induction front with
  | nil => exact absurd rfl left
  | cons first more ih =>
      cases more with
      | nil =>
          rw [List.singleton_append, List.intercalate_cons_of_ne_nil right,
            List.intercalate_singleton, List.append_assoc, List.singleton_append]
      | cons second more =>
          simp only [List.cons_append, List.intercalate_cons_cons, List.append_assoc] at ih ⊢
          rw [ih (List.cons_ne_nil _ _)]

/-- A path above keeps some of the segments and loses one at least that is not idle. -/
private theorem mem_parentsOf {lead : Bytes} {reversed : List Name} {above : Path}
    (member : above ∈ parentsOf lead reversed) :
    above.bytes = [] ∨ ∃ front back segment, reversed.reverse = front ++ back ∧ segment ∈ back ∧
      isIdle segment = false ∧ above.bytes = lead ++ List.intercalate [slash] front := by
  induction reversed with
  | nil =>
      rw [parentsOf] at member
      split at member
      · exact Or.inl (congrArg Path.bytes (List.mem_singleton.1 member))
      · contradiction
  | cons segment outer ih =>
      have deeper (inside : above ∈ parentsOf lead outer) : above.bytes = [] ∨
          ∃ front back segment', (segment :: outer).reverse = front ++ back ∧ segment' ∈ back ∧
            isIdle segment' = false ∧ above.bytes = lead ++ List.intercalate [slash] front := by
        rcases ih inside with empty | ⟨front, back, lost, split, mem, busy, bytes⟩
        · exact Or.inl empty
        · have inside := List.mem_append_left [segment] mem
          refine Or.inr ⟨front, back ++ [segment], lost, ?_, inside, busy, bytes⟩
          rw [List.reverse_cons, split, List.append_assoc]
      rw [parentsOf] at member
      split at member
      · exact deeper member
      · rename_i busy
        rcases List.mem_cons.1 member with rfl | inside
        · refine Or.inr ⟨(outer.dropWhile isIdle).reverse,
            (outer.takeWhile isIdle).reverse ++ [segment], segment, ?_, ?_,
            Bool.not_eq_true _ ▸ busy, rfl⟩
          · rw [← List.append_assoc, ← List.reverse_append, List.takeWhile_append_dropWhile,
              List.reverse_cons]
          · exact List.mem_append_right _ (List.mem_singleton_self _)
        · exact deeper inside

private theorem lead_cases (p : Path) :
    p.lead = [] ∨ (p.lead = [slash] ∧ ∃ rest, p.bytes = slash :: rest) ∨
      (p.lead = dot ∧ (p.bytes = dot ∨ ∃ rest, p.bytes = dot ++ slash :: rest)) := by
  unfold lead
  split
  · exact Or.inl rfl
  · rename_i b rest whole
    split
    · rename_i separator
      subst separator
      exact Or.inr (Or.inl ⟨rfl, rest, whole⟩)
    · split
      · rename_i alone
        obtain ⟨rfl, _⟩ := List.cons.inj alone.1
        refine Or.inr (Or.inr ⟨rfl, ?_⟩)
        rcases alone.2 with rfl | next
        · exact Or.inl whole
        · cases rest with
          | nil => contradiction
          | cons c rest =>
              obtain rfl := Option.some.inj next
              exact Or.inr ⟨rest, whole⟩
      · exact Or.inl rfl

/-- What stands before a path above: nothing, the slash of the root, or all up to some slash. -/
private theorem bytes_of_mem_parents {p above : Path} (member : above ∈ p.parents) :
    above.bytes = [] ∨ (above.bytes = [slash] ∧ p.isAbsolute = true) ∨
      ∃ rest, p.bytes = above.bytes ++ slash :: rest := by
  rcases mem_parentsOf member with empty | ⟨front, back, lost, split, mem, busy, bytes⟩
  · exact Or.inl empty
  rw [List.reverse_reverse] at split
  have some_back : back ≠ [] := List.ne_nil_of_mem mem
  have whole : p.bytes = p.lead ++ List.intercalate [slash] (front ++ back) := by
    rw [← split, intercalate_segments]
    rcases lead_cases p with none | ⟨root, rest, here⟩ | ⟨local_, here⟩
    · rw [none, List.length_nil, List.drop_zero, List.nil_append]
    · rw [root, here]
      rfl
    · rcases here with alone | ⟨rest, here⟩
      · rw [local_, alone]
        rfl
      · rw [local_, here]
        rfl
  cases front with
  | cons first more =>
      refine Or.inr (Or.inr ⟨List.intercalate [slash] back, ?_⟩)
      rw [whole, bytes, intercalate_append (List.cons_ne_nil _ _) some_back, List.append_assoc]
  | nil =>
      rw [List.intercalate_nil, List.append_nil] at bytes
      rcases lead_cases p with none | ⟨root, rest, here⟩ | ⟨local_, here⟩
      · exact Or.inl (bytes.trans none)
      · refine Or.inr (Or.inl ⟨bytes.trans root, ?_⟩)
        simp only [isAbsolute, here, List.head?_cons, decide_true]
      · rcases here with alone | ⟨rest, here⟩
        · -- The only segment behind a lone dot is empty, and an idle one cannot be lost.
          rw [local_, alone] at split
          have only : back = [[]] := split.symm
          rw [only] at mem
          rw [List.mem_singleton.1 mem] at busy
          contradiction
        · exact Or.inr (Or.inr ⟨rest, by rw [bytes, local_, here]⟩)

/-- A path above passes the first of the names, from the same start. -/
theorem names_of_mem_parents {p above : Path} (member : above ∈ p.parents)
    (filled : above.bytes ≠ []) :
    above.isAbsolute = p.isAbsolute ∧ above.names <+: p.names := by
  rcases bytes_of_mem_parents member with empty | ⟨root, absolute⟩ | ⟨rest, whole⟩
  · exact absurd empty filled
  · rw [absolute, names, root]
    exact ⟨by simp only [isAbsolute, root, List.head?_cons, decide_true], List.nil_prefix⟩
  · have named : p.names = above.names ++ names ⟨rest⟩ := by
      rw [names, whole]
      exact names_append_slash above.bytes rest
    rw [named]
    refine ⟨?_, List.prefix_append _ _⟩
    obtain ⟨b, more, bytes⟩ := List.exists_cons_of_ne_nil filled
    simp only [isAbsolute, whole, bytes, List.cons_append, List.head?_cons]

end IconCatalog.Path
