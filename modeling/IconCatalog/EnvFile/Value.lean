import IconCatalog.Text.Alphanumeric
set_option autoImplicit false

namespace IconCatalog.EnvFile

inductive Phase
  | plain
  | escaped
  | strong
  /-- After a dollar, with the name so far in reverse. -/
  | name (reversed : List Char)
  /-- After a dollar and an opening brace. -/
  | braced (reversed : List Char)
  /-- After a blank, where nothing but a comment may follow. -/
  | ended
  deriving DecidableEq, Repr

structure ValueState where
  /-- The value so far, in reverse. -/
  reversed : List Char
  /-- Inside double quotes. -/
  weak : Bool
  phase : Phase
  deriving DecidableEq, Repr

namespace ValueState

def start : ValueState := ⟨[], false, .plain⟩

def push (s : ValueState) (c : Char) : ValueState := { s with reversed := c :: s.reversed }

def substitute (lookup : String → String) (name : List Char) (s : ValueState) : ValueState :=
  { s with reversed := (lookup (String.ofList name.reverse)).toList.reverse ++ s.reversed }

def within (phase : Phase) (s : ValueState) : ValueState := { s with phase := phase }

def escape? (c : Char) : Option Char :=
  if c = 'n' then some '\n'
  else if c = '\\' || c = '\x27' || c = '"' || c = '$' || c = ' ' then some c
  else none

def nextPlain (s : ValueState) (c : Char) : ValueState :=
  if c = '$' then s.within (.name [])
  else if c = '\\' then s.within .escaped
  else if s.weak then if c = '"' then { s with weak := false } else s.push c
  else if c = '\x27' then s.within .strong
  else if c = '"' then { s with weak := true }
  else if c = ' ' || c = '\t' then s.within .ended
  else s.push c

/-- A character after a dollar. The one that ends a name stands for itself, quotes too, unless it
begins another name. -/
def nextName (lookup : String → String) (name : List Char) (s : ValueState) (c : Char) :
    ValueState :=
  if isAlphanumeric c then s.within (.name (c :: name))
  else if c = '\x7b' ∧ name = [] then s.within (.braced [])
  else
    let s := s.substitute lookup name
    if c = '$' then s.within (.name []) else (s.within .plain).push c

def next? (lookup : String → String) (s : ValueState) (c : Char) : Option ValueState :=
  match s.phase with
  | .ended => if c = ' ' || c = '\t' then some s else none
  | .escaped => (escape? c).map (s.within .plain).push
  | .strong => some (if c = '\x27' then s.within .plain else s.push c)
  | .name name => some (s.nextName lookup name c)
  | .braced name =>
    if c = '\x7d' then some ((s.substitute lookup name).within .plain)
    else some (s.within (.braced (c :: name)))
  | .plain => some (s.nextPlain c)

/-- The value, unless a quote or a brace is still open. A backslash at the end stands for
nothing. -/
def value? (lookup : String → String) (s : ValueState) : Option String :=
  if s.weak then none
  else
    match s.phase with
    | .strong => none
    | .braced _ => none
    | .name name => some (String.ofList (s.substitute lookup name).reversed.reverse)
    | _ => some (String.ofList s.reversed.reverse)

end ValueState

/-- Reads a value. Single quotes keep everything; double quotes and no quotes leave a meaning to
backslashes and to names of variables after a dollar. A comment after a blank ends it. -/
def readValue (lookup : String → String) (s : ValueState) : List Char → Option String
  | [] => s.value? lookup
  | c :: rest =>
    if s.phase = .ended ∧ c = '#' then s.value? lookup
    else (s.next? lookup c).bind fun s => readValue lookup s rest

end IconCatalog.EnvFile
