import DeviceHttp.Json.Number
import DeviceHttp.Json.StringLiteral
import DeviceHttp.Text.Utf8

/-!
# JSON texts

Reading of JSON. A text is UTF-8 without a byte order mark and holds one value between optional
blanks. Containers are nested at most `maxDepth` deep. An object may name a key more than once; what
counts is the last one.
-/

namespace DeviceHttp.Json

/-- A value. The members of an object are in the order of the text. -/
inductive Value where
  | null
  | bool (b : Bool)
  | number (n : Number)
  | string (s : String)
  | array (items : List Value)
  | object (members : List (String × Value))

/-- The most containers that may be nested in each other. -/
def maxDepth : Nat := 127

/-- Space, tab, line feed and carriage return. -/
def isBlank (c : Char) : Bool := c = ' ' || c = '\t' || c = '\n' || c = '\r'

/-- The text without leading blanks. -/
def skipBlanks (cs : List Char) : List Char := cs.dropWhile isBlank

section Items

variable {α : Type}

/-- Reads at least one item, and commas between the items, up to a closing character. Every item
takes at least one character, so `fuel` need not be larger than the text is long. -/
def readItems? (item : List Char → Option (α × List Char)) (close : Char) :
    (fuel : Nat) → List Char → Option (List α × List Char)
  | 0, _ => none
  | fuel + 1, cs =>
    match item cs with
    | none => none
    | some (a, rest) =>
      match skipBlanks rest with
      | [] => none
      | c :: rest =>
        if c = close then some ([a], rest)
        else if c = ',' then
          (readItems? item close fuel rest).map fun (items, rest) => (a :: items, rest)
        else none

/-- Reads items after an opening character, possibly none. -/
def readContainer? (item : List Char → Option (α × List Char)) (close : Char) (cs : List Char) :
    Option (List α × List Char) :=
  match skipBlanks cs with
  | [] => none
  | c :: rest => if c = close then some ([], rest) else readItems? item close cs.length cs

end Items

/-- Reads a member of an object, given how its value is read. -/
def readMember? (value : List Char → Option (Value × List Char)) (cs : List Char) :
    Option ((String × Value) × List Char) :=
  match skipBlanks cs with
  | '"' :: rest => do
    let (key, rest) ← readString? rest
    match skipBlanks rest with
    | ':' :: rest =>
      let (v, rest) ← value rest
      return ((String.ofList key, v), rest)
    | _ => none
  | _ => none

/-- Reads a value that is no container. -/
def readScalar? (cs : List Char) : Option (Value × List Char) :=
  match cs with
  | 'n' :: 'u' :: 'l' :: 'l' :: rest => some (.null, rest)
  | 't' :: 'r' :: 'u' :: 'e' :: rest => some (.bool true, rest)
  | 'f' :: 'a' :: 'l' :: 's' :: 'e' :: rest => some (.bool false, rest)
  | '"' :: rest => (readString? rest).map fun (s, rest) => (.string (String.ofList s), rest)
  | cs => (Number.read? cs).map fun (n, rest) => (.number n, rest)

/-- Reads the value at the start of a text, with containers nested at most `depth` deep. -/
def readValue? : (depth : Nat) → List Char → Option (Value × List Char)
  | depth, cs =>
    match skipBlanks cs, depth with
    | '[' :: rest, depth + 1 =>
      (readContainer? (readValue? depth) ']' rest).map fun (items, rest) => (.array items, rest)
    | '\x7b' :: rest, depth + 1 =>
      (readContainer? (readMember? (readValue? depth)) '\x7d' rest).map fun (members, rest) =>
        (.object members, rest)
    | rest, _ => readScalar? rest

namespace Value

/-- Reads a whole text. -/
def parse? (b : Bytes) : Option Value := do
  let text ← Utf8.decode? b
  let (value, rest) ← readValue? maxDepth text.toList
  if (skipBlanks rest).isEmpty then some value else none

/-- The value under a key at the top level of an object. -/
def field? (value : Value) (key : String) : Option Value :=
  match value with
  | object members => (members.reverse.find? fun (k, _) => k == key).map Prod.snd
  | _ => none

end Value

end DeviceHttp.Json
