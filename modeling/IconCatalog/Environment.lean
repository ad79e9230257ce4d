import IconCatalog.Text.Utf8
set_option autoImplicit false

namespace IconCatalog

/-- The variables of a process. A value is any byte string, and only one that is UTF-8 can be looked
up as text. -/
structure Environment where
  entries : List (String × Bytes)
  deriving DecidableEq, Repr

namespace Environment

def get? (env : Environment) (name : String) : Option Bytes := env.entries.lookup name

def text? (env : Environment) (name : String) : Option String :=
  (env.get? name).bind Utf8.toString?

def unset (env : Environment) (name : String) : Environment :=
  ⟨env.entries.filter fun entry => entry.1 != name⟩

def set (env : Environment) (name : String) (value : Bytes) : Environment :=
  ⟨(name, value) :: (env.unset name).entries⟩

/-- What stands behind a text and an equals sign where a variable is written as its name, an equals
sign and its value. -/
def behind? (env : Environment) (text : String) : Option Bytes :=
  if '=' ∈ text.toList then
    let name := text.toList.takeWhile (· != '=')
    let start := Utf8.encode ((text.toList.drop (name.length + 1)) ++ ['='])
    (env.get? (String.ofList name)).bind fun value =>
      if start.isPrefixOf value then some (value.drop start.length) else none
  else env.get? text

theorem behind?_of_not_mem (env : Environment) {name : String} (plain : '=' ∉ name.toList) :
    env.behind? name = env.get? name :=
  if_neg plain

theorem get?_unset_of_ne (env : Environment) {name other : String} (ne : other ≠ name) :
    (env.unset name).get? other = env.get? other := by
  simp only [get?, unset]
  induction env.entries with
  | nil => rfl
  | cons entry rest ih =>
    by_cases drop : entry.1 = name
    · rw [List.filter_cons_of_neg (by simpa using drop), ih, List.lookup_cons,
        show (other == entry.1) = false by simpa [drop] using ne]
    · rw [List.filter_cons_of_pos (by simpa using drop), List.lookup_cons, List.lookup_cons, ih]

theorem get?_set (env : Environment) (name other : String) (value : Bytes) :
    (env.set name value).get? other = if other = name then some value else env.get? other := by
  split
  · next same => simp only [get?, set, same, List.lookup_cons, beq_self_eq_true]
  · next ne =>
    rw [← get?_unset_of_ne env ne]
    simp only [get?, set, List.lookup_cons, beq_eq_false_iff_ne.2 ne]

end Environment

end IconCatalog
