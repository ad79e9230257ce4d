import IconCatalog.Json.Byte
set_option autoImplicit false

namespace IconCatalog.Json

def shortEscape? (b : UInt8) : Option UInt8 :=
  if b = Byte.quote || b = Byte.backslash || b = 0x2F then some b
  else if b = 0x62 then some 0x08
  else if b = Byte.letterF then some 0x0C
  else if b = Byte.letterN then some 0x0A
  else if b = 0x72 then some 0x0D
  else if b = Byte.letterT then some 0x09
  else none

def hexUnit? (a b c d : UInt8) : Option Nat :=
  match Byte.hexValue? a, Byte.hexValue? b, Byte.hexValue? c, Byte.hexValue? d with
  | some a, some b, some c, some d => some (a * 4096 + b * 256 + c * 16 + d)
  | _, _, _, _ => none

def isLeadingSurrogate (unit : Nat) : Bool := 0xD800 ≤ unit && unit ≤ 0xDBFF

def isTrailingSurrogate (unit : Nat) : Bool := 0xDC00 ≤ unit && unit ≤ 0xDFFF

def pairCode (leading trailing : Nat) : Nat :=
  (leading - 0xD800) * 1024 + (trailing - 0xDC00) + 0x10000

def denoting (decoded : Bytes) : Except Fault (Bytes × Bytes) → Except Fault (Bytes × Bytes)
  | .ok (more, rest) => .ok (decoded ++ more, rest)
  | .error fault => .error fault

/-- The bytes that a literal denotes, in UTF-8. -/
def textBytes : Bytes → Except Fault (Bytes × Bytes)
  | [] => .error .unfinished
  | b :: rest =>
    if b = Byte.quote then .ok ([], rest)
    else if b = Byte.backslash then
      match rest with
      | [] => .error .unfinished
      | kind :: rest =>
        if kind = Byte.letterU then
          match rest with
          | d1 :: d2 :: d3 :: d4 :: rest =>
            match hexUnit? d1 d2 d3 d4 with
            | none => .error .malformed
            | some unit =>
              if isTrailingSurrogate unit then .error .malformed
              else if isLeadingSurrogate unit then
                match rest with
                | [] => .error .unfinished
                | s :: rest =>
                  if s ≠ Byte.backslash then .error .malformed
                  else
                    match rest with
                    | [] => .error .unfinished
                    | u :: rest =>
                      if u ≠ Byte.letterU then .error .malformed
                      else
                        match rest with
                        | e1 :: e2 :: e3 :: e4 :: rest =>
                          match hexUnit? e1 e2 e3 e4 with
                          | none => .error .malformed
                          | some low =>
                            if isTrailingSurrogate low then
                              denoting (Utf8.encodeChar (Char.ofNat (pairCode unit low)))
                                (textBytes rest)
                            else .error .malformed
                        | _ => .error .unfinished
              else denoting (Utf8.encodeChar (Char.ofNat unit)) (textBytes rest)
          | _ => .error .unfinished
        else
          match shortEscape? kind with
          | some plain => denoting [plain] (textBytes rest)
          | none => .error .malformed
    else if b < 0x20 then .error .malformed
    else denoting [b] (textBytes rest)

/-- A literal whose bytes are no text is malformed, which shows only at its end. -/
def readText (input : Bytes) : Except Fault (String × Bytes) :=
  match textBytes input with
  | .error fault => .error fault
  | .ok (bytes, rest) =>
    match Utf8.toString? bytes with
    | some s => .ok (s, rest)
    | none => .error .malformed

/-- The rest of a literal, which may hold bytes that are no text and halves of surrogate pairs. -/
def skipText : Bytes → Except Fault Bytes
  | [] => .error .unfinished
  | b :: rest =>
    if b = Byte.quote then .ok rest
    else if b = Byte.backslash then
      match rest with
      | [] => .error .unfinished
      | kind :: rest =>
        if kind = Byte.letterU then
          match rest with
          | d1 :: d2 :: d3 :: d4 :: rest =>
            match hexUnit? d1 d2 d3 d4 with
            | none => .error .malformed
            | some _ => skipText rest
          | _ => .error .unfinished
        else if (shortEscape? kind).isSome then skipText rest
        else .error .malformed
    else if b < 0x20 then .error .malformed
    else skipText rest

end IconCatalog.Json
