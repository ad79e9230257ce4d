import IconCatalog.Json.Record
import IconCatalog.PixelFormat
import IconCatalog.Summary
set_option autoImplicit false

namespace IconCatalog.Summary

structure Draft where
  name : Option String
  format : Option PixelFormat
  width : Option UInt64
  height : Option UInt64
  byteLength : Option UInt64

def field {α : Type} (name : String) (isSet : Draft → Bool) (reader : Json.Reader α)
    (store : Draft → α → Draft) : Json.Field Draft where
  name := name
  isSet := isSet
  read draft input := (reader input).map fun (value, rest) => (store draft value, rest)

def fields : List (Json.Field Draft) := [
  field "name" (·.name.isSome) (Json.readString "a string") fun d v => { d with name := some v },
  field "format" (·.format.isSome) PixelFormat.reader fun d v => { d with format := some v },
  field "width" (·.width.isSome) Json.readSize fun d v => { d with width := some v },
  field "height" (·.height.isSome) Json.readSize fun d v => { d with height := some v },
  field "byte_len" (·.byteLength.isSome) Json.readSize fun d v => { d with byteLength := some v }]

def typeName : String := "struct ImageSummary"

/-- The first field that is missing is the one reported. -/
def finish (draft : Draft) : Except Json.Fault Summary :=
  match draft.name, draft.format, draft.width, draft.height, draft.byteLength with
  | none, _, _, _, _ => .error (.missingField "name")
  | _, none, _, _, _ => .error (.missingField "format")
  | _, _, none, _, _ => .error (.missingField "width")
  | _, _, _, none, _ => .error (.missingField "height")
  | _, _, _, _, none => .error (.missingField "byte_len")
  | some name, some format, some width, some height, some byteLength =>
    .ok ⟨name, format, width, height, byteLength⟩

def form : Json.RecordForm Draft Summary where
  typeName := typeName
  fields := fields
  blank := ⟨none, none, none, none, none⟩
  finish := finish
  finishShort count _ := .error (.shortSequence count (typeName ++ " with 5 elements"))

def ofJson (text : Bytes) : Except Json.Fault Summary := Json.readWhole form.read text

end IconCatalog.Summary
