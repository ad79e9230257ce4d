import IconCatalog.Text.Basic
import IconCatalog.Word
set_option autoImplicit false

namespace IconCatalog.Json

/-- Quotes, backslashes and control characters are escaped; all else stands for itself. -/
def escapeChar (c : Char) : List Char :=
  if c = '"' then ['\\', '"']
  else if c = '\\' then ['\\', '\\']
  else if c = '\x08' then ['\\', 'b']
  else if c = '\t' then ['\\', 't']
  else if c = '\n' then ['\\', 'n']
  else if c = '\x0c' then ['\\', 'f']
  else if c = '\r' then ['\\', 'r']
  else if c.toNat < 0x20 then
    ['\\', 'u', '0', '0', Nat.digitChar (c.toNat / 16), Nat.digitChar (c.toNat % 16)]
  else [c]

def quote (s : String) : String := String.ofList ('"' :: s.toList.flatMap escapeChar ++ ['"'])

inductive Scalar
  | text (s : String)
  | size (n : UInt64)
  deriving DecidableEq, Repr

def Scalar.write : Scalar → String
  | .text s => quote s
  | .size n => decimal n

inductive Layout
  | compact
  | pretty
  deriving DecidableEq, Repr

namespace Layout

def indent (depth : Nat) : String := String.ofList (List.replicate (2 * depth) ' ')

def enclose (layout : Layout) (depth : Nat) (opening closing : String) (items : List String) :
    String :=
  match layout, items with
  | _, [] => opening ++ closing
  | .compact, items => opening ++ joined "," items ++ closing
  | .pretty, items =>
    opening ++ "\n" ++ joined ",\n" (items.map fun item => indent (depth + 1) ++ item) ++
      "\n" ++ indent depth ++ closing

def member (layout : Layout) (name : String) (value : Scalar) : String :=
  match layout with
  | .compact => quote name ++ ":" ++ value.write
  | .pretty => quote name ++ ": " ++ value.write

def object (layout : Layout) (depth : Nat) (members : List (String × Scalar)) : String :=
  layout.enclose depth "\x7b" "\x7d" (members.map fun m => layout.member m.1 m.2)

def array (layout : Layout) (depth : Nat) (items : List String) : String :=
  layout.enclose depth "[" "]" items

end Layout

end IconCatalog.Json
