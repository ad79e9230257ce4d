import IconCatalog.Text.Utf8
set_option autoImplicit false

namespace IconCatalog

/-- A path as it is written, which may be any byte string. Which place it leads to is for the file
tree to say. -/
structure Path where
  bytes : Bytes
  deriving DecidableEq, Repr

abbrev Name := Bytes

namespace Path

abbrev slash : UInt8 := 0x2F

abbrev dot : Name := [0x2E]

abbrev dotDot : Name := [0x2E, 0x2E]

def ofString (s : String) : Path := ⟨Utf8.ofString s⟩

def text? (p : Path) : Option String := Utf8.toString? p.bytes

/-- The path as it is shown, with replacement characters for what is no text. -/
def display (p : Path) : String := Utf8.toStringLossy p.bytes

def isAbsolute (p : Path) : Bool := p.bytes.head? = some slash

def endsWithSlash (p : Path) : Bool := p.bytes.getLast? = some slash

/-- The path of `entry` seen from `dir`. -/
def join (dir entry : Path) : Path :=
  if entry.isAbsolute then entry
  else if dir.bytes = [] || dir.endsWithSlash then ⟨dir.bytes ++ entry.bytes⟩
  else ⟨dir.bytes ++ slash :: entry.bytes⟩

def segments : Bytes → List Name
  | [] => [[]]
  | b :: rest =>
    if b = slash then [] :: segments rest
    else
      match segments rest with
      | [] => [[b]]
      | first :: more => (b :: first) :: more

def names (p : Path) : List Name := (segments p.bytes).filter fun s => !s.isEmpty

/-- A segment that leads nowhere. -/
def isIdle (segment : Name) : Bool := segment = [] || segment = dot

/-- What stands before the first segment: the slash of an absolute path, or a dot that is a
segment of its own. -/
def lead (p : Path) : Bytes :=
  match p.bytes with
  | [] => []
  | b :: rest =>
    if b = slash then [b]
    else if [b] = dot ∧ (rest = [] ∨ rest.head? = some slash) then [b]
    else []

/-- The paths that remain when segments are taken off the end. Idle segments go with the one
before them. -/
def parentsOf (lead : Bytes) : List Name → List Path
  | [] => if lead = dot then [⟨[]⟩] else []
  | segment :: outer =>
    if isIdle segment then parentsOf lead outer
    else
      ⟨lead ++ List.intercalate [slash] (outer.dropWhile isIdle).reverse⟩ :: parentsOf lead outer

/-- The paths of the directories above, from the innermost. -/
def parents (p : Path) : List Path :=
  parentsOf p.lead (segments (p.bytes.drop p.lead.length)).reverse

def parent? (p : Path) : Option Path := p.parents.head?

/-- Two paths are written alike when only idle segments and repeated slashes tell them apart. -/
def alike (p q : Path) : Bool :=
  p.lead = q.lead &&
    (segments (p.bytes.drop p.lead.length)).filter (fun s => !isIdle s) =
      (segments (q.bytes.drop q.lead.length)).filter (fun s => !isIdle s)

end Path

end IconCatalog
