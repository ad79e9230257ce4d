import IconCatalog.Text.Combining
import IconCatalog.Text.Printable
set_option autoImplicit false

namespace IconCatalog.Quoted

def escapeCode (c : Char) : List Char :=
  ['\\', 'u', '\x7b'] ++ Nat.toDigits 16 c.toNat ++ ['\x7d']

def escapeChar (c : Char) : List Char :=
  if c = '\x00' then ['\\', '0']
  else if c = '\t' then ['\\', 't']
  else if c = '\r' then ['\\', 'r']
  else if c = '\n' then ['\\', 'n']
  else if c = '\\' || c = '"' then ['\\', c]
  else if isCombining c || !isPrintable c then escapeCode c
  else [c]

/-- Text in double quotes for a message. What a reader could not tell from the picture of the text
is written as an escape. -/
def text (s : String) : String :=
  String.ofList ('"' :: s.toList.flatMap escapeChar ++ ['"'])

end IconCatalog.Quoted
