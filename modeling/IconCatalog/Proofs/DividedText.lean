import IconCatalog.Word
import Mathlib.Data.List.Basic
set_option autoImplicit false

namespace IconCatalog

section LastMark

variable {c : Char} {mark last last' : List Char} (marked : c ∈ mark) (short : c ∉ last)
  (short' : c ∉ last')

include marked short short'

private theorem eq_nil_of_mark_eq_append {more : List Char}
    (same : mark ++ last = more ++ (mark ++ last')) : more = [] := by
  -- Both sides hold the character equally often, so none of it is left for `more`. Both hold it
  -- first at the same place, so `more` takes no room.
  have counts := congrArg (List.count c) same
  simp only [List.count_append, List.count_eq_zero_of_not_mem short,
    List.count_eq_zero_of_not_mem short'] at counts
  have absent : c ∉ more := List.count_eq_zero.1 (by omega)
  have places := congrArg (List.idxOf c) same
  rw [List.idxOf_append_of_mem marked, List.idxOf_append_of_notMem absent,
    List.idxOf_append_of_mem marked] at places
  exact List.length_eq_zero_iff.1 (by omega)

private theorem eq_of_chars_append_mark {front front' : List Char}
    (same : front ++ (mark ++ last) = front' ++ (mark ++ last')) :
    front = front' ∧ last = last' := by
  rcases List.append_eq_append_iff.1 same with ⟨more, rfl, rest⟩ | ⟨more, rfl, rest⟩
  · obtain rfl := eq_nil_of_mark_eq_append marked short short' rest
    exact ⟨(List.append_nil _).symm, List.append_cancel_left rest⟩
  · obtain rfl := eq_nil_of_mark_eq_append marked short' short rest
    exact ⟨List.append_nil _, (List.append_cancel_left rest).symm⟩

end LastMark

variable {c : Char} {mark front front' last last' : String}

/-- Where some character of the mark stands nowhere in the part behind it, the mark is the last one
of the text, and both parts come back from the text. The part in front may hold anything, more such
marks among it. -/
theorem eq_of_append_mark (marked : c ∈ mark.toList) (short : c ∉ last.toList)
    (short' : c ∉ last'.toList) (same : front ++ mark ++ last = front' ++ mark ++ last') :
    front = front' ∧ last = last' := by
  have chars := congrArg String.toList same
  simp only [String.toList_append, List.append_assoc] at chars
  obtain ⟨fronts, lasts⟩ := eq_of_chars_append_mark marked short short' chars
  exact ⟨String.toList_inj.1 fronts, String.toList_inj.1 lasts⟩

/-- A mark that is not of digits alone is never taken for a part of the number behind it. -/
theorem eq_of_append_decimal {m n : UInt64} (marked : c ∈ mark.toList) (noDigit : c.isDigit = false)
    (same : front ++ mark ++ decimal m = front' ++ mark ++ decimal n) : front = front' ∧ m = n := by
  have absent (size : UInt64) : c ∉ (decimal size).toList := by
    intro inside
    rw [isDigit_of_mem_decimal inside] at noDigit
    contradiction
  obtain ⟨fronts, sizes⟩ := eq_of_append_mark marked (absent m) (absent n) same
  exact ⟨fronts, decimal_injective sizes⟩

end IconCatalog
