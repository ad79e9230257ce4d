import IconCatalog.Proofs.JsonNumber
set_option autoImplicit false

namespace IconCatalog.Json

theorem Scalar.isValue (written : Scalar) : Value written.write.toList := by
  cases written with
  | text s => exact (literal_quote s).isValue
  | size n => exact .number (numberText_decimal n)

/-- A member as it is written: its name, and the text of its value. -/
def spelled (member : String × Scalar) : String × List Char := (member.1, member.2.write.toList)

namespace Layout

def valueGap : Layout → List Char
  | .compact => []
  | .pretty => [' ']

theorem spaces_valueGap (layout : Layout) : Spaces layout.valueGap := by
  cases layout with
  | compact => exact List.forall_mem_nil _
  | pretty => exact List.forall_mem_singleton.2 (by decide)

theorem spaces_indent (depth : Nat) : Spaces (indent depth).toList := by
  intro c inside
  rw [indent, String.toList_ofList] at inside
  rw [List.eq_of_mem_replicate inside]
  decide

theorem toList_member (layout : Layout) (name : String) (value : Scalar) :
    (layout.member name value).toList =
      (quote name).toList ++ ':' :: (layout.valueGap ++ value.write.toList) := by
  have colon : ":".toList = [':'] := rfl
  have colonSpace : ": ".toList = [':', ' '] := rfl
  cases layout with
  | compact =>
      simp only [member, String.toList_append, colon, valueGap, List.append_assoc,
        List.singleton_append, List.nil_append]
  | pretty =>
      simp only [member, String.toList_append, colonSpace, valueGap, List.append_assoc,
        List.cons_append, List.nil_append]

theorem memberText_member (layout : Layout) (member : String × Scalar) {front gap : List Char}
    (isFront : Spaces front) (isGap : Spaces gap) :
    MemberText (spelled member)
      (front ++ ((layout.member member.1 member.2).toList ++ gap)) := by
  refine ⟨front, _, [], layout.valueGap, gap, isFront, literal_quote member.1,
    List.forall_mem_nil _, layout.spaces_valueGap, member.2.isValue, isGap, ?_⟩
  rw [toList_member]
  simp only [spelled, List.append_assoc, List.cons_append, List.nil_append]

/-- Members that are joined with commas, each on a line of its own or not. -/
theorem memberTexts_joined {separator : String} {write : String × Scalar → String}
    {line back : List Char} (separated : separator.toList = ',' :: line)
    (wrote : ∀ member gap, Spaces gap →
      MemberText (spelled member) (line ++ ((write member).toList ++ gap)))
    (isBack : Spaces back) (member : String × Scalar) (more : List (String × Scalar)) :
    MemberTexts ((member :: more).map spelled)
      (line ++ ((joined separator ((member :: more).map write)).toList ++ back)) := by
  induction more generalizing member with
  | nil => exact .last (wrote member back isBack)
  | cons next more ih =>
      have split :
          line ++ ((joined separator ((member :: next :: more).map write)).toList ++ back) =
          (line ++ ((write member).toList ++ [])) ++ ',' ::
            (line ++ ((joined separator ((next :: more).map write)).toList ++ back)) := by
        simp only [List.map_cons, joined, String.toList_append, separated, List.append_assoc,
          List.cons_append, List.append_nil]
      rw [split]
      exact .more (wrote member [] (List.forall_mem_nil _)) (ih next)

private theorem memberTexts_compact (member : String × Scalar) (more : List (String × Scalar)) :
    MemberTexts ((member :: more).map spelled)
      (joined "," ((member :: more).map fun m => Layout.compact.member m.1 m.2)).toList := by
  have none : Spaces [] := List.forall_mem_nil _
  have wrote (member : String × Scalar) (gap : List Char) (isGap : Spaces gap) :
      MemberText (spelled member)
        ([] ++ ((Layout.compact.member member.1 member.2).toList ++ gap)) :=
    memberText_member .compact member none isGap
  have texts := memberTexts_joined (rfl : ",".toList = ',' :: []) wrote none member more
  rwa [List.nil_append, List.append_nil] at texts

private theorem memberTexts_pretty (depth : Nat) (member : String × Scalar)
    (more : List (String × Scalar)) :
    MemberTexts ((member :: more).map spelled)
      ('\n' :: ((joined ",\n" ((member :: more).map fun m =>
        indent (depth + 1) ++ Layout.pretty.member m.1 m.2)).toList ++
          '\n' :: (indent depth).toList)) := by
  have indented (depth : Nat) : Spaces ('\n' :: (indent depth).toList) :=
    List.forall_mem_cons.2 ⟨by decide, spaces_indent depth⟩
  have wrote (member : String × Scalar) (gap : List Char) (isGap : Spaces gap) :
      MemberText (spelled member) (['\n'] ++
        ((indent (depth + 1) ++ Layout.pretty.member member.1 member.2).toList ++ gap)) := by
    have text := memberText_member .pretty member (indented (depth + 1)) isGap
    rw [String.toList_append, List.append_assoc]
    exact text
  exact memberTexts_joined (rfl : ",\n".toList = ',' :: ['\n']) wrote (indented depth) member more

/-- In either layout, what is written for some members is the text of an object that has them. -/
theorem objectText_object (layout : Layout) (depth : Nat) (members : List (String × Scalar)) :
    ObjectText (members.map spelled) (layout.object depth members).toList := by
  have none : Spaces [] := List.forall_mem_nil _
  have opening : "\x7b".toList = ['\x7b'] := rfl
  have closing : "\x7d".toList = ['\x7d'] := rfl
  have line : "\n".toList = ['\n'] := rfl
  cases members with
  | nil =>
      have written : (layout.object depth []).toList = ['\x7b', '\x7d'] := by
        cases layout <;>
          simp only [object, enclose, List.map_nil, String.toList_append, opening, closing,
            List.singleton_append]
      rw [written]
      exact .empty none none none
  | cons member more =>
      have text {body : List Char} (isBody : MemberTexts ((member :: more).map spelled) body)
          (written : (layout.object depth (member :: more)).toList =
            '\x7b' :: (body ++ ['\x7d'])) :
          ObjectText ((member :: more).map spelled)
            (layout.object depth (member :: more)).toList := by
        rw [written]
        exact .members none isBody none
      cases layout with
      | compact =>
          refine text (memberTexts_compact member more) ?_
          simp only [object, enclose, List.map_cons, String.toList_append, opening, closing,
            List.cons_append, List.nil_append]
      | pretty =>
          refine text (memberTexts_pretty depth member more) ?_
          simp only [object, enclose, List.map_cons, List.map_map, String.toList_append, opening,
            closing, line, List.append_assoc, List.cons_append]
          rfl

end Layout

end IconCatalog.Json
