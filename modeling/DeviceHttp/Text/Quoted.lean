import DeviceHttp.Text.GraphemeExtend
import DeviceHttp.Text.Unprintable

/-!
# Quoted texts and records

A text is shown between double quotes so that every character can be told: quotes and backslashes
are escaped, the usual control characters have letters, and a character that cannot be told by its
looks is written as `\u` with its hexadecimal code point in braces: one that has no visible form,
one that is shown as nothing by default, and a mark on the character before it.

A record is shown as its name and its fields in order, for instance `Point { x: 1, y: 2 }`.
-/

namespace DeviceHttp.Text

/-- Whether a character cannot be told by its looks. Letters that extend the character before them
can. -/
def isIndistinct (c : Char) : Bool :=
  isUnprintable c || isDefaultIgnorable c || (isGraphemeExtend c && !isExtendingLetter c)

/-- How one character is shown between the quotes. -/
def quoteChar (c : Char) : List Char :=
  if c = '"' then ['\\', '"']
  else if c = '\\' then ['\\', '\\']
  else if c = '\n' then ['\\', 'n']
  else if c = '\r' then ['\\', 'r']
  else if c = '\t' then ['\\', 't']
  else if c = '\x00' then ['\\', '0']
  else if isIndistinct c then
    ['\\', 'u', '\x7b'] ++ Nat.toDigits 16 c.toNat ++ ['\x7d']
  else [c]

/-- The text between double quotes, with escapes. -/
def quoted (s : String) : String :=
  String.ofList (['"'] ++ s.toList.flatMap quoteChar ++ ['"'])

/-- The name of a record and its fields, each with the text of its value. -/
def record (name : String) (fields : List (String × String)) : String :=
  name ++ " \x7b " ++ ", ".intercalate (fields.map fun (field, value) => field ++ ": " ++ value)
    ++ " \x7d"

end DeviceHttp.Text
