import IconCatalog.Json.Scalar
import IconCatalog.Json.Skip
set_option autoImplicit false

namespace IconCatalog.Json

structure Field (δ : Type) where
  name : String
  isSet : δ → Bool
  read : δ → Reader δ

/-- A record is an object, whose unknown members are passed over, or a list of the values in field
order. The fields read so far are kept in a draft of type `δ`. -/
structure RecordForm (δ α : Type) where
  typeName : String
  fields : List (Field δ)
  blank : δ
  /-- The record of an object, or the fault of a field that it lacks. -/
  finish : δ → Except Fault α
  /-- The record of a list that ends after some of its fields. -/
  finishShort : Nat → δ → Except Fault α

/-- The first byte of an item, when `b :: rest` follows the item before it. Only the first item
has no comma before it. -/
def nextItem (first : Bool) (b : UInt8) (rest : Bytes) : Except Fault (UInt8 × Bytes) :=
  if first then .ok (b, rest)
  else if b = Byte.comma then
    match skipBlank rest with
    | [] => .error .unfinished
    | b :: rest => .ok (b, rest)
  else .error .malformed

namespace RecordForm

variable {δ α : Type}

def readName (form : RecordForm δ α) (draft : δ) (input : Bytes) :
    Except Fault (Option (Field δ) × Bytes) :=
  match readText input with
  | .error fault => .error fault
  | .ok (name, rest) =>
    match form.fields.find? (fun field => decide (field.name = name)) with
    | none => (expectColon rest).map fun rest => (none, rest)
    | some field =>
      if field.isSet draft then .error (.duplicateField name)
      else (expectColon rest).map fun rest => (some field, rest)

def readMember (form : RecordForm δ α) (draft : δ) (input : Bytes) : Except Fault (δ × Bytes) :=
  match form.readName draft input with
  | .error fault => .error fault
  | .ok (some field, rest) => field.read draft rest
  | .ok (none, rest) => (skipValue rest).map fun rest => (draft, rest)

/-- The members after the opening bracket, `first` while none has been read. Each round passes a
member, so a round for every byte suffices. -/
def readMembers (form : RecordForm δ α) : Nat → Bool → δ → Bytes → Except Fault (α × Bytes)
  | 0, _, _, _ => .error .malformed
  | rounds + 1, first, draft, input =>
    match skipBlank input with
    | [] => .error .unfinished
    | b :: rest =>
      if b = Byte.closeObject then (form.finish draft).map fun value => (value, rest)
      else
        match nextItem first b rest with
        | .error fault => .error fault
        | .ok (q, rest) =>
          if q = Byte.quote then
            match form.readMember draft rest with
            | .error fault => .error fault
            | .ok (draft, rest) => form.readMembers rounds false draft rest
          else .error .malformed

def closeList (input : Bytes) : Except Fault Bytes :=
  match skipBlank input with
  | [] => .error .unfinished
  | b :: rest => if b = Byte.closeList then .ok rest else .error .malformed

def readValues (form : RecordForm δ α) : List (Field δ) → Nat → δ → Bytes → Except Fault (α × Bytes)
  | [], _, draft, input =>
    match form.finish draft with
    | .error fault => .error fault
    | .ok value => (closeList input).map fun rest => (value, rest)
  | field :: fields, count, draft, input =>
    match skipBlank input with
    | [] => .error .unfinished
    | b :: rest =>
      if b = Byte.closeList then (form.finishShort count draft).map fun value => (value, rest)
      else
        match nextItem (count == 0) b rest with
        | .error fault => .error fault
        | .ok (v, rest) =>
          if v = Byte.closeList then .error .malformed
          else
            match field.read draft (v :: rest) with
            | .error fault => .error fault
            | .ok (draft, rest) => form.readValues fields (count + 1) draft rest

def read (form : RecordForm δ α) (input : Bytes) : Except Fault (α × Bytes) :=
  match skipBlank input with
  | [] => .error .unfinished
  | b :: rest =>
    if b = Byte.openList then form.readValues form.fields 0 form.blank rest
    else if b = Byte.openObject then
      form.readMembers (rest.length + 1) true form.blank rest
    else .error (mismatch form.typeName (b :: rest))

end RecordForm

end IconCatalog.Json
