import DeviceHttp.Text.Ascii

/-!
# Strings in JSON

A string stands between double quotes. Control characters below the space do not occur in it; a
backslash starts an escape. `\u` and four hexadecimal digits name a character of the basic plane; a
character beyond it is named by a high and a low surrogate, and a surrogate alone names nothing.
-/

namespace DeviceHttp.Json

/-- The number that four hexadecimal digits stand for. -/
def hex4? (a b c d : Char) : Option Nat := do
  let a ← Text.hexDigit? a
  let b ← Text.hexDigit? b
  let c ← Text.hexDigit? c
  let d ← Text.hexDigit? d
  return ((a * 16 + b) * 16 + c) * 16 + d

/-- The character that a letter stands for after a backslash. -/
def simpleEscape? (c : Char) : Option Char :=
  match c with
  | '"' => some '"'
  | '\\' => some '\\'
  | '/' => some '/'
  | 'b' => some '\x08'
  | 'f' => some '\x0c'
  | 'n' => some '\n'
  | 'r' => some '\r'
  | 't' => some '\t'
  | _ => none

/-- The character that a number of 16 bits names by itself. -/
def basicChar? (n : Nat) : Option Char :=
  if 0xD800 ≤ n ∧ n ≤ 0xDFFF then none else some (Char.ofNat n)

/-- The character that a high and a low surrogate name. -/
def surrogatePair? (high low : Nat) : Option Char :=
  if 0xD800 ≤ high ∧ high ≤ 0xDBFF ∧ 0xDC00 ≤ low ∧ low ≤ 0xDFFF then
    some (Char.ofNat (0x10000 + (high - 0xD800) * 0x400 + (low - 0xDC00)))
  else none

/-- Reads the rest of a string after its opening quote, up to the closing one. -/
def readString? : List Char → Option (List Char × List Char)
  | [] => none
  | '"' :: rest => some ([], rest)
  | '\\' :: 'u' :: a :: b :: c :: d :: rest =>
    match hex4? a b c d with
    | none => none
    | some n =>
      match basicChar? n with
      | some x => (readString? rest).map fun (cs, rest) => (x :: cs, rest)
      | none =>
        match rest with
        | '\\' :: 'u' :: e :: f :: g :: h :: rest =>
          match (hex4? e f g h).bind (surrogatePair? n) with
          | none => none
          | some x => (readString? rest).map fun (cs, rest) => (x :: cs, rest)
        | _ => none
  | '\\' :: c :: rest =>
    match simpleEscape? c with
    | none => none
    | some x => (readString? rest).map fun (cs, rest) => (x :: cs, rest)
  | c :: rest =>
    if c < ' ' ∨ c = '\\' then none else (readString? rest).map fun (cs, rest) => (c :: cs, rest)

end DeviceHttp.Json
