import IconCatalog.Text.Utf8
set_option autoImplicit false

namespace IconCatalog.Terminal

/-- Where in an escape sequence the next character is read. -/
inductive Mode
  | text
  | escape
  /-- After an escape and a character that announces another. -/
  | announced
  | control
  /-- At the start of a string for a device, before its first parameter. -/
  | device
  | deviceParameters
  /-- Where a string for a device has announced the character that begins it. -/
  | deviceAnnounced
  | string
  /-- A string that a bell ends. -/
  | command
  deriving DecidableEq, Repr

/-- The controls that stay, because they only place the text. -/
def isLayout (c : Char) : Bool := c = '\t' || c = '\n' || c = '\x0c' || c = '\r'

def isControl (c : Char) : Bool := c.toNat < 0x20 || c = '\x7f'

def isAscii (c : Char) : Bool := c.toNat < 0x80

def stringEnd : UInt8 := 0x9C

def afterEscape (c : Char) : Mode :=
  if c = '[' then .control
  else if c = ']' then .command
  else if c = 'P' then .device
  else if c = 'X' || c = '^' || c = '_' then .string
  else if c.toNat < 0x30 then .announced
  else .text

def Mode.after (mode : Mode) (c : Char) : Mode :=
  match mode with
  | .text => .text
  | .escape => afterEscape c
  | .announced => if c.toNat < 0x30 then .announced else .text
  | .control => if c.toNat < 0x40 then .control else .text
  | .device =>
    if c.toNat < 0x30 then .deviceAnnounced
    else if c.toNat < 0x40 then .deviceParameters
    else .string
  | .deviceParameters =>
    if c.toNat < 0x30 then .deviceAnnounced
    else if c.toNat < 0x3C then .deviceParameters
    else .string
  | .deviceAnnounced => if c.toNat < 0x30 then .deviceAnnounced else .string
  | .string => .string
  | .command => .command

def Mode.next (mode : Mode) (c : Char) : Mode :=
  if !isAscii c then
    if mode = .string ∧ stringEnd ∈ Utf8.encodeChar c then .text else mode
  else if c = '\x1b' then .escape
  else if c = '\x18' || c = '\x1a' then .text
  else if isControl c then
    if mode = .command ∧ c = '\x07' then .text else mode
  else mode.after c

def Mode.shows (mode : Mode) (c : Char) : Bool :=
  match mode with
  | .text => isLayout c || !isControl c
  | .escape | .announced | .control => isLayout c
  | .device | .deviceParameters | .deviceAnnounced | .string | .command => false

/-- What a layout control does to the sequence that it stands in. -/
inductive Interruption
  | ends
  /-- The text behind is shown, and the next control that is not shown takes the sequence up again.
  A character that is not ASCII ends it. -/
  | pauses
  deriving DecidableEq, Repr

def Interruption.after (interruption : Interruption) (mode : Mode) (c : Char) : Mode :=
  match interruption with
  | .ends => .text
  | .pauses => if isAscii c then mode else .text

/-- What is shown of the characters behind a place. Behind a character that is shown, all text is
shown up to the next control. -/
def shownAfter (interruption : Interruption) (mode : Mode) (showing : Bool) :
    List Char → List Char
  | [] => []
  | c :: rest =>
    if (if showing then Mode.text else mode).shows c then
      c :: shownAfter interruption (interruption.after mode c) true rest
    else shownAfter interruption (mode.next c) false rest

/-- A text without what a terminal acts on: control characters and escape sequences. A sequence is
made of ASCII characters and passes over all others, but the byte that ends a string does so inside
any character. -/
def shown (interruption : Interruption) (s : String) : String :=
  String.ofList (shownAfter interruption .text false s.toList)

end IconCatalog.Terminal
