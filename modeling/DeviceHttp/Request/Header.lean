import DeviceHttp.Bytes
import DeviceHttp.Error
import DeviceHttp.Text.Utf8

/-!
# Header blocks

A header block is the lines after the request line, up to and including the empty line that ends
them. There are two ways to read one.

* `Header.find?` looks for one name, forgives malformed lines and takes the first line that fits.
* `Header.readBlock` reads every line strictly, as a token, a colon and a value on the same line, and
  refuses the block at the first fault.
-/

namespace DeviceHttp

/-- The largest length that is told apart, that of a 64-bit machine. -/
def maxLength : Nat := UInt64.size - 1

/-- One header line. -/
structure Header where
  name : String
  value : Bytes
deriving DecidableEq, Repr

namespace Header

/-- The end of the first empty line, where a header block ends. -/
def blockEnd? (b : Bytes) : Option Nat := (Bytes.indexOf? [13, 10, 13, 10] b).map (· + 4)

/-- The value on a line whose name agrees with the given one up to case and is directly followed by
a colon. Leading spaces and tabs do not belong to the value. -/
def valueOn? (name : String) (line : Bytes) : Option Bytes := do
  let rest ← Bytes.dropStartIgnoreCase? (Utf8.encode name) line
  let value ← dropStart? [58] rest
  return Bytes.dropBlanks value

/-- The value of the first line of a block with the given name. -/
def find? (block : Bytes) (name : String) : Option Bytes :=
  (Bytes.lines block).findSome? (valueOn? name)

/-- Appends a decimal digit to a length and stops at the largest one. -/
def pushDigit (n : Nat) (digit : UInt8) : Nat :=
  min (min (n * 10) maxLength + (digit.toNat - 48)) maxLength

/-- Reads the decimal digits that start a value, after spaces and tabs. Without any the length is
zero, and one that is too large becomes the largest. -/
def contentLength (value : Bytes) : Nat :=
  ((Bytes.dropBlanks value).takeWhile Bytes.isDigit).foldl pushDigit 0

/-! ## Strict reading -/

/-- The text of a name, which is ASCII. -/
def nameText (name : Bytes) : String := String.ofList (name.map fun b => Char.ofNat b.toNat)

/-- The octets of a token: letters, digits and fifteen marks. -/
def isTokenByte (b : UInt8) : Bool :=
  Bytes.isDigit b || (65 ≤ b && b ≤ 90) || (97 ≤ b && b ≤ 122) ||
    (Utf8.encode "!#$%&'*+-.^_\x60|~").contains b

/-- The octets of a value: tab, the visible ones, space, and everything above ASCII. -/
def isValueByte (b : UInt8) : Bool := b = 9 || (32 ≤ b && b ≠ 127)

/-- What stands at the start of a line. -/
inductive LineStart where
  /-- The empty line that ends the block. -/
  | blank
  /-- A header line, and what follows it. -/
  | header (line : Header) (rest : Bytes)
  /-- A line against the grammar. -/
  | malformed (fault : HeaderFault)
  /-- The bytes end within the line. -/
  | unfinished
deriving DecidableEq, Repr

/-- What follows a line ending, CRLF or a bare line feed: `none` if the bytes end before that is
known, `some none` if something else stands there. -/
def afterLineEnd : Bytes → Option (Option Bytes)
  | [] => none
  | [13] => none
  | 13 :: 10 :: rest => some (some rest)
  | 10 :: rest => some (some rest)
  | _ => some none

/-- Reads the line at the start of the bytes. -/
def scanLine (b : Bytes) : LineStart :=
  match b with
  | [] => .unfinished
  | first :: _ =>
    if first = 13 ∨ first = 10 then
      match afterLineEnd b with
      | none => .unfinished
      | some none => .malformed .badNewLine
      | some (some _) => .blank
    else
      let name := b.takeWhile isTokenByte
      match b.drop name.length with
      | [] => .unfinished
      | colon :: rest =>
        if name.isEmpty || colon ≠ 58 then .malformed .badName
        else
          let rest := Bytes.dropBlanks rest
          let value := rest.takeWhile isValueByte
          match afterLineEnd (rest.drop value.length) with
          | none => .unfinished
          | some none => .malformed .badValue
          | some (some next) =>
            .header ⟨nameText name, dropEndWhile Bytes.isBlank value⟩ next

/-- Reads every line of a block that has at most `slots` header lines. What follows the empty line
is not read. -/
def readBlock : (slots : Nat) → Bytes → Except Error (List Header)
  | slots, b =>
    match scanLine b with
    | .blank => .ok []
    | .malformed fault => .error (.badHeader fault)
    | .unfinished => .error .incomplete
    | .header line rest =>
      match slots with
      | 0 => .error (.badHeader .tooMany)
      | slots + 1 => (readBlock slots rest).map (line :: ·)

end Header

end DeviceHttp
