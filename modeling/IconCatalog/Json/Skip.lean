import IconCatalog.Json.Number
import IconCatalog.Json.Text
set_option autoImplicit false

namespace IconCatalog.Json

inductive Frame
  | list
  | object
  deriving DecidableEq, Repr

def Frame.closer : Frame → UInt8
  | .list => Byte.closeList
  | .object => Byte.closeObject

def expectColon (input : Bytes) : Except Fault Bytes :=
  match skipBlank input with
  | [] => .error .unfinished
  | b :: rest => if b = Byte.colon then .ok rest else .error .malformed

/-- What stands before the next value: nothing in a list, a name and a colon in an object. -/
def skipName : Frame → Bytes → Except Fault Bytes
  | .list, input => .ok input
  | .object, input =>
    match skipBlank input with
    | [] => .error .unfinished
    | b :: rest =>
      if b = Byte.quote then (skipText rest).bind expectColon else .error .malformed

/-- Goes on after a value. The brackets that stay open are left with the rest: none, and the
value is over; some, and another value is due. -/
def closeFrames : List Frame → Bytes → Except Fault (List Frame × Bytes)
  | [], input => .ok ([], input)
  | frame :: outer, input =>
    match skipBlank input with
    | [] => .error .unfinished
    | b :: rest =>
      if b = Byte.comma then (skipName frame rest).map fun rest => (frame :: outer, rest)
      else if b = frame.closer then closeFrames outer rest
      else .error .malformed

def openFrame (frame : Frame) (outer : List Frame) (input : Bytes) :
    Except Fault (List Frame × Bytes) :=
  match skipBlank input with
  | [] => .error .unfinished
  | b :: rest =>
    if b = frame.closer then closeFrames outer rest
    else (skipName frame (b :: rest)).map fun rest => (frame :: outer, rest)

def skipOne (outer : List Frame) (input : Bytes) : Except Fault (List Frame × Bytes) :=
  match skipBlank input with
  | [] => .error .unfinished
  | b :: rest =>
    if b = Byte.openList then openFrame .list outer rest
    else if b = Byte.openObject then openFrame .object outer rest
    else if b = Byte.quote then (skipText rest).bind (closeFrames outer)
    else if b = Byte.minus || Byte.isDigit b then
      (skipNumber (b :: rest)).bind (closeFrames outer)
    else if b = Byte.letterN then (expectWord [0x75, 0x6C, 0x6C] rest).bind (closeFrames outer)
    else if b = Byte.letterT then (expectWord [0x72, 0x75, 0x65] rest).bind (closeFrames outer)
    else if b = Byte.letterF then
      (expectWord [0x61, 0x6C, 0x73, 0x65] rest).bind (closeFrames outer)
    else .error .malformed

/-- Passes values until no bracket is open. Each round passes a byte, so a round for every byte
suffices. -/
def skipRounds : Nat → List Frame → Bytes → Except Fault Bytes
  | 0, _, _ => .error .malformed
  | rounds + 1, outer, input =>
    match skipOne outer input with
    | .error fault => .error fault
    | .ok ([], rest) => .ok rest
    | .ok (frame :: outer, rest) => skipRounds rounds (frame :: outer) rest

/-- Passes a value of any kind. The brackets that are open are kept in a list, so that any depth is
one pass over the bytes. -/
def skipValue (input : Bytes) : Except Fault Bytes := skipRounds (input.length + 1) [] input

end IconCatalog.Json
