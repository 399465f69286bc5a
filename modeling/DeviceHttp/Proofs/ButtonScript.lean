import DeviceHttp.Json.StringLiteral
import DeviceHttp.Proofs.Markup

/-!
# The script of a button

A button leads to another page by a script in its attribute `onclick`, which assigns the target to
`location.href` as a literal in single quotes. A browser decodes this text twice. It replaces the
entities of the attribute, which gives the script, and it reads the literal in the script by the
rules of JavaScript. The target is escaped for the first decoding alone.

So the quotes, the backslashes and the line ends of a target arrive in the script as they are. **The
button leads to its target exactly if the target has none of them** (`Widget.button_script`). The
first of them decides what happens otherwise. A quote closes the literal, and everything behind it
is script. The end of a line leaves the literal open. A backslash takes what follows for something
else.

## Main definitions

* `Script.readLiteral?` — a literal in single quotes, with the escapes of a script that is not
  strict
* `Script.Assigns` — the value that a script assigns, and what the script has behind it
* `Html.HasAttribute` — the value of an attribute, still with its entities

## How

Texts are measured in code units of UTF-16, which is what strings of scripts consist of. A character
that is no escape stands for as many units as it has, and an escape stands for fewer than it takes
(`Script.readPiece?_cases`). A literal that stands for all the units between its quotes has
therefore no escapes (`Script.plain_of_readLiteral?`).
-/

namespace DeviceHttp

/-! ## Literals -/

namespace Script

open Text

/-- The code units that a code point is written as in UTF-16. -/
def unitsOf (n : Nat) : List UInt16 :=
  if n < 0x10000 then [UInt16.ofNat n]
  else [UInt16.ofNat (0xD800 + (n - 0x10000) / 0x400),
    UInt16.ofNat (0xDC00 + (n - 0x10000) % 0x400)]

/-- A text as a string of a script. -/
def units (cs : List Char) : List UInt16 := cs.flatMap fun c => unitsOf c.toNat

/-- Line feed, carriage return, and the separators of lines and of paragraphs. -/
def isLineEnd (c : Char) : Bool := c = '\n' || c = '\r' || c = '\u2028' || c = '\u2029'

def isOctalDigit (c : Char) : Bool := '0' ≤ c && c ≤ '7'

/-- What a character stands for behind a backslash if it does not start a number: some letters stand
for control characters, everything else for itself. -/
def escapedChar (c : Char) : Char :=
  match c with
  | 'b' => '\x08'
  | 't' => '\t'
  | 'n' => '\n'
  | 'v' => '\x0b'
  | 'f' => '\x0c'
  | 'r' => '\r'
  | c => c

/-- Reads at most `more` octal digits, behind digits that stand for `n`. -/
def readOctal : (more n : Nat) → List Char → Nat × List Char
  | more + 1, n, c :: rest =>
    if isOctalDigit c then readOctal more (8 * n + digitValue c) rest else (n, c :: rest)
  | _, n, rest => (n, rest)

/-- Reads hexadecimal digits up to a closing brace, behind digits that stand for `n`. -/
def readCodePoint? (n : Nat) : List Char → Option (Nat × List Char)
  | [] => none
  | '\x7d' :: rest => if n ≤ 0x10FFFF then some (n, rest) else none
  | c :: rest => do
    let digit ← hexDigit? c
    readCodePoint? (16 * n + digit) rest

/-- Reads a number behind `\x`. -/
def readByte? : List Char → Option (List UInt16 × List Char)
  | high :: low :: rest => do
    let high ← hexDigit? high
    let low ← hexDigit? low
    return ([UInt16.ofNat (16 * high + low)], rest)
  | _ => none

/-- Reads a number behind `\u`, a code point in braces or a code unit. -/
def readUnicode? : List Char → Option (List UInt16 × List Char)
  | '\x7b' :: c :: rest => do
    let digit ← hexDigit? c
    let (n, rest) ← readCodePoint? digit rest
    return (unitsOf n, rest)
  | a :: b :: c :: d :: rest => (Json.hex4? a b c d).map fun n => ([UInt16.ofNat n], rest)
  | _ => none

/-- Reads an escape behind its backslash. The end of a line stands for nothing. -/
def readEscape? : List Char → Option (List UInt16 × List Char)
  | [] => none
  | '\r' :: '\n' :: rest => some ([], rest)
  | 'x' :: rest => readByte? rest
  | 'u' :: rest => readUnicode? rest
  | c :: rest =>
    if isLineEnd c then some ([], rest)
    else if isOctalDigit c then
      let (n, rest) := readOctal (if c ≤ '3' then 2 else 1) (digitValue c) rest
      some ([UInt16.ofNat n], rest)
    else some (unitsOf (escapedChar c).toNat, rest)

/-- Reads an escape or a character that is none. -/
def readPiece? : List Char → Option (List UInt16 × List Char)
  | [] => none
  | '\\' :: rest => readEscape? rest
  | c :: rest => if c = '\n' ∨ c = '\r' then none else some (unitsOf c.toNat, rest)

/-- The characters that stand for themselves in a literal. -/
def isPlain (c : Char) : Bool := !(c = '\x27' || c = '\\' || c = '\n' || c = '\r')

/-! ### Lengths -/

theorem units_cons (c : Char) (cs : List Char) : units (c :: cs) = unitsOf c.toNat ++ units cs :=
  List.flatMap_cons

theorem length_unitsOf_pos (n : Nat) : 1 ≤ (unitsOf n).length := by
  unfold unitsOf
  split <;> exact Nat.le_add_left 1 _

theorem length_unitsOf_le (n : Nat) : (unitsOf n).length ≤ 2 := by
  unfold unitsOf
  split
  · exact Nat.le_succ 1
  · exact Nat.le_refl 2

theorem length_units_cons (c : Char) (cs : List Char) :
    (units (c :: cs)).length = (unitsOf c.toNat).length + (units cs).length := by
  rw [units_cons, List.length_append]

/-- A character has a unit at least. -/
theorem lt_length_units_cons (c : Char) (cs : List Char) :
    (units cs).length < (units (c :: cs)).length := by
  have := length_unitsOf_pos c.toNat
  rw [length_units_cons]
  omega

variable {cs rest : List Char} {value : List UInt16}

theorem length_readOctal_le (more n : Nat) (cs : List Char) :
    (units (readOctal more n cs).2).length ≤ (units cs).length := by
  induction more generalizing n cs with
  | zero => exact Nat.le_refl _
  | succ more ih =>
    cases cs with
    | nil => exact Nat.le_refl _
    | cons c rest =>
      rw [readOctal]
      split
      · exact Nat.le_trans (ih _ rest) (Nat.le_of_lt (lt_length_units_cons c rest))
      · exact Nat.le_refl _

theorem length_readCodePoint?_lt {n m : Nat} (read : readCodePoint? n cs = some (m, rest)) :
    (units rest).length < (units cs).length := by
  induction cs generalizing n with
  | nil => cases read
  | cons c cs ih =>
    have shorter := lt_length_units_cons c cs
    by_cases closes : c = '\x7d'
    · subst closes
      rw [readCodePoint?, Option.ite_none_right_eq_some] at read
      cases read.2
      exact shorter
    · rw [readCodePoint?] at read
      · obtain ⟨digit, -, more⟩ := Option.bind_eq_some_iff.1 read
        exact Nat.lt_trans (ih more) shorter
      · exact closes

/-- A number behind `\x` takes two digits at least and stands for one unit. -/
theorem length_le_of_readByte? (read : readByte? cs = some (value, rest)) :
    value.length + (units rest).length < (units cs).length := by
  unfold readByte? at read
  split at read
  · next high low rest' =>
    obtain ⟨h, -, read⟩ := Option.bind_eq_some_iff.1 read
    obtain ⟨l, -, read⟩ := Option.bind_eq_some_iff.1 read
    cases read
    have first := lt_length_units_cons high (low :: rest)
    have second := lt_length_units_cons low rest
    rw [List.length_singleton]
    omega
  · cases read

theorem length_le_of_readUnicode? (read : readUnicode? cs = some (value, rest)) :
    value.length + (units rest).length < (units cs).length := by
  unfold readUnicode? at read
  split at read
  · next c rest' =>
    obtain ⟨digit, -, read⟩ := Option.bind_eq_some_iff.1 read
    obtain ⟨⟨n, rest''⟩, digits, read⟩ := Option.bind_eq_some_iff.1 read
    cases read
    -- a code point has two units at most, and stands in braces behind a digit at least
    have units := length_unitsOf_le n
    have brace := lt_length_units_cons '\x7b' (c :: rest')
    have first := lt_length_units_cons c rest'
    have closed := length_readCodePoint?_lt digits
    omega
  · next a b c d rest' _ =>
    obtain ⟨n, -, eq⟩ := Option.map_eq_some_iff.1 read
    cases eq
    have first := lt_length_units_cons a (b :: c :: d :: rest)
    have second := lt_length_units_cons b (c :: d :: rest)
    have third := lt_length_units_cons c (d :: rest)
    have fourth := lt_length_units_cons d rest
    rw [List.length_singleton]
    omega
  · cases read

theorem length_escapedChar_le (c : Char) :
    (unitsOf (escapedChar c).toNat).length ≤ (unitsOf c.toNat).length := by
  unfold escapedChar
  split <;> exact Nat.le_refl _

/-- An escape stands for no more units than there are behind its backslash. -/
theorem length_le_of_readEscape? (read : readEscape? cs = some (value, rest)) :
    value.length + (units rest).length ≤ (units cs).length := by
  unfold readEscape? at read
  split at read
  · cases read
  · cases read
    have first := lt_length_units_cons '\r' ('\n' :: rest)
    have second := lt_length_units_cons '\n' rest
    rw [List.length_nil]
    omega
  · have shorter := length_le_of_readByte? read
    have first := lt_length_units_cons 'x' ‹_›
    omega
  · have shorter := length_le_of_readUnicode? read
    have first := lt_length_units_cons 'u' ‹_›
    omega
  · next c rest' _ _ _ =>
    have first := lt_length_units_cons c rest'
    split at read
    · cases read
      rw [List.length_nil]
      omega
    split at read
    · cases read
      have digits := length_readOctal_le (if c ≤ '3' then 2 else 1) (digitValue c) rest'
      rw [List.length_singleton]
      omega
    · cases read
      have named := length_escapedChar_le c
      rw [length_units_cons]
      omega

/-- **A piece of a literal is a character that stands for itself, or it stands for fewer units than
it takes.** -/
theorem readPiece?_cases (read : readPiece? cs = some (value, rest)) :
    (∃ c, cs = c :: rest ∧ value = unitsOf c.toNat ∧ c ≠ '\\' ∧ c ≠ '\n' ∧ c ≠ '\r') ∨
      value.length + (units rest).length < (units cs).length := by
  unfold readPiece? at read
  split at read
  · cases read
  · have behind := length_le_of_readEscape? read
    have backslash := lt_length_units_cons '\\' ‹_›
    exact .inr (by omega)
  · next c rest' differs =>
    split at read
    · cases read
    · next inLine =>
      cases read
      rw [not_or] at inLine
      exact .inl ⟨c, rfl, rfl, differs, inLine⟩

theorem length_lt_of_readPiece? (read : readPiece? cs = some (value, rest)) :
    (units rest).length < (units cs).length := by
  rcases readPiece?_cases read with ⟨c, rfl, -⟩ | shorter
  · exact lt_length_units_cons c rest
  · omega

/-- What was read of a literal, with the value of a piece in front. -/
def prepend (value : List UInt16) (read : List UInt16 × List Char) : List UInt16 × List Char :=
  (value ++ read.1, read.2)

/-- Reads the rest of a literal after its opening quote, up to the closing one. -/
def readLiteral? (cs : List Char) : Option (List UInt16 × List Char) :=
  match cs with
  | [] => none
  | c :: cs =>
    if c = '\x27' then some ([], cs)
    else
      match _ : readPiece? (c :: cs) with
      | none => none
      | some (value, rest) => (readLiteral? rest).map (prepend value)
termination_by (units cs).length
decreasing_by exact length_lt_of_readPiece? ‹_›

theorem readLiteral?_quote (rest : List Char) :
    readLiteral? ('\x27' :: rest) = some ([], rest) := by
  rw [readLiteral?, if_pos rfl]

theorem readLiteral?_piece {c : Char} (differs : c ≠ '\x27')
    (read : readPiece? (c :: cs) = some (value, rest)) :
    readLiteral? (c :: cs) = (readLiteral? rest).map (prepend value) := by
  rw [readLiteral?, if_neg differs]
  split
  · next eq =>
    rw [read] at eq
    cases eq
  · next eq =>
    rw [read] at eq
    cases eq
    rfl

theorem readLiteral?_unread {c : Char} (differs : c ≠ '\x27')
    (unread : readPiece? (c :: cs) = none) : readLiteral? (c :: cs) = none := by
  rw [readLiteral?, if_neg differs]
  split
  · rfl
  · next eq =>
    rw [unread] at eq
    cases eq

/-- What a literal stands for behind its first piece. -/
theorem exists_readLiteral?_of_piece {c : Char} {behind : List Char} {first : List UInt16}
    (differs : c ≠ '\x27') (piece : readPiece? (c :: cs) = some (first, behind))
    (read : readLiteral? (c :: cs) = some (value, rest)) :
    ∃ more, readLiteral? behind = some (more, rest) ∧ value = first ++ more := by
  rw [readLiteral?_piece differs piece] at read
  obtain ⟨⟨more, rest'⟩, inner, eq⟩ := Option.map_eq_some_iff.1 read
  obtain ⟨joined, same⟩ := Prod.mk.inj eq
  exact ⟨more, same ▸ inner, joined.symm⟩

theorem isPlain_iff {c : Char} :
    isPlain c = true ↔ c ≠ '\x27' ∧ c ≠ '\\' ∧ c ≠ '\n' ∧ c ≠ '\r' := by
  simp only [isPlain, Bool.not_eq_true', Bool.or_eq_false_iff, decide_eq_false_iff_not, and_assoc,
    ne_eq]

theorem readPiece?_of_plain {c : Char} (plain : isPlain c = true) (cs : List Char) :
    readPiece? (c :: cs) = some (unitsOf c.toNat, cs) := by
  obtain ⟨-, backslash, inLine⟩ := isPlain_iff.1 plain
  rw [readPiece?, if_neg (not_or.2 inLine)]
  exact backslash

/-- Plain characters stand for themselves, whatever follows them. -/
theorem readLiteral?_append {plain : List Char} (free : ∀ c ∈ plain, isPlain c = true)
    (cs : List Char) :
    readLiteral? (plain ++ cs) = (readLiteral? cs).map (prepend (units plain)) := by
  induction plain with
  | nil => exact (congrFun Option.map_id (readLiteral? cs)).symm
  | cons c plain ih =>
    obtain ⟨here, behind⟩ := List.forall_mem_cons.1 free
    have joined : prepend (unitsOf c.toNat) ∘ prepend (units plain) =
        prepend (units (c :: plain)) := by
      funext read
      rw [Function.comp_apply, prepend, prepend, prepend, units_cons, List.append_assoc]
    rw [List.cons_append, readLiteral?_piece (isPlain_iff.1 here).1 (readPiece?_of_plain here _),
      ih behind, Option.map_map, joined]

/-- The end of a line leaves a literal open. -/
theorem readLiteral?_lineEnd {c : Char} (ends : c = '\n' ∨ c = '\r') (cs : List Char) :
    readLiteral? (c :: cs) = none := by
  have unread : readPiece? (c :: cs) = none := by
    rcases ends with rfl | rfl <;> rfl
  have differs : c ≠ '\x27' := by
    rcases ends with rfl | rfl <;> decide
  exact readLiteral?_unread differs unread

/-- The quotes of a literal are no part of what it stands for. -/
theorem length_lt_of_readLiteral? (read : readLiteral? cs = some (value, rest)) :
    value.length + (units rest).length < (units cs).length := by
  induction cs using readLiteral?.induct generalizing value with
  | case1 =>
    rw [readLiteral?] at read
    cases read
  | case2 =>
    rw [readLiteral?_quote] at read
    cases read
    have quote := lt_length_units_cons '\x27' rest
    rw [List.length_nil]
    omega
  | case3 c cs differs unread =>
    rw [readLiteral?_unread differs unread] at read
    cases read
  | case4 c cs differs first behind piece ih =>
    obtain ⟨more, inner, rfl⟩ := exists_readLiteral?_of_piece differs piece read
    have shorter := ih inner
    rw [List.length_append]
    rcases readPiece?_cases piece with ⟨d, eq, rfl, -⟩ | covered
    · rw [eq, length_units_cons]
      omega
    · omega

/-- **A literal that stands for all the units that it takes has no escapes.** -/
theorem plain_of_readLiteral? (read : readLiteral? cs = some (value, rest))
    (whole : (units cs).length ≤ value.length + (units rest).length + 1) :
    ∃ plain, cs = plain ++ '\x27' :: rest ∧ ∀ c ∈ plain, isPlain c = true := by
  induction cs using readLiteral?.induct generalizing value with
  | case1 =>
    rw [readLiteral?] at read
    cases read
  | case2 cs =>
    rw [readLiteral?_quote] at read
    cases read
    exact ⟨[], rfl, List.forall_mem_nil _⟩
  | case3 c cs differs unread =>
    rw [readLiteral?_unread differs unread] at read
    cases read
  | case4 c cs differs first behind piece ih =>
    obtain ⟨more, inner, rfl⟩ := exists_readLiteral?_of_piece differs piece read
    have shorter := length_lt_of_readLiteral? inner
    rw [List.length_append] at whole
    rcases readPiece?_cases piece with ⟨d, eq, rfl, inLine⟩ | covered
    · obtain ⟨rfl, rfl⟩ := List.cons.inj eq
      rw [length_units_cons] at whole
      obtain ⟨plain, split, free⟩ := ih inner (by omega)
      refine ⟨c :: plain, by rw [split, List.cons_append], List.forall_mem_cons.2 ⟨?_, free⟩⟩
      exact isPlain_iff.2 ⟨differs, inLine⟩
    · -- an escape takes more than it stands for, and the closing quote is taken as well
      omega

/-- **A text between quotes is a literal for itself exactly if its characters are plain.** -/
theorem readLiteral?_eq_iff : readLiteral? (cs ++ ['\x27']) = some (units cs, []) ↔
    ∀ c ∈ cs, isPlain c = true := by
  constructor
  · intro read
    have length : (units (cs ++ ['\x27'])).length = (units cs).length + 1 := by
      rw [units, List.flatMap_append, List.length_append]
      rfl
    obtain ⟨plain, split, free⟩ := plain_of_readLiteral? read (Nat.le_of_eq length)
    rwa [List.append_cancel_right split]
  · intro free
    rw [readLiteral?_append free, readLiteral?_quote, Option.map_some, prepend, List.append_nil]

/-- What a script assigns to the location, and what it has behind the literal. -/
def Assigns (script : String) (value : List UInt16) (behind : List Char) : Prop :=
  ∃ literal, script.toList = "location.href='".toList ++ literal ∧
    readLiteral? literal = some (value, behind)

/-- The script that takes a text between quotes as it is. -/
def assignment (target : String) : String := "location.href='" ++ target ++ "'"

theorem assigns_assignment_iff {target : String} {behind : List Char} :
    Assigns (assignment target) value behind ↔
      readLiteral? (target.toList ++ ['\x27']) = some (value, behind) := by
  have closing : "'".toList = ['\x27'] := rfl
  have split : (assignment target).toList =
      "location.href='".toList ++ (target.toList ++ ['\x27']) := by
    unfold assignment
    simp only [String.toList_append, List.append_assoc, closing]
  rw [Assigns, split]
  constructor
  · rintro ⟨literal, eq, read⟩
    rwa [List.append_cancel_left eq]
  · exact fun read => ⟨_, rfl, read⟩

end Script

/-! ## The attribute -/

namespace Html

/-- The first value in double quotes in a text is that of an attribute with a given name. -/
def HasAttribute (text name value : String) : Prop :=
  ∃ front behind, text = front ++ name ++ "=\"" ++ value ++ "\"" ++ behind ∧
    '"' ∉ front.toList ∧ '"' ∉ value.toList

theorem unescapeChars_escape_append (cs rest : List Char) :
    unescapeChars (cs.flatMap escapeChar ++ rest) = cs ++ unescapeChars rest := by
  induction cs with
  | nil => rfl
  | cons c cs ih =>
    rw [List.flatMap_cons, List.append_assoc, unescapeChars_escapeChar_append, ih, List.cons_append]

/-- Characters other than the ampersand in front of a text stay as they are. -/
theorem unescapeChars_append {plain : List Char} (free : '&' ∉ plain) (rest : List Char) :
    unescapeChars (plain ++ rest) = plain ++ unescapeChars rest := by
  induction plain with
  | nil => rfl
  | cons c plain ih =>
    obtain ⟨differs, free⟩ := not_or.1 (mt List.mem_cons.2 free)
    rw [List.cons_append, unescapeChars_cons (Ne.symm differs), ih free, List.cons_append]

/-- The script that a browser finds in the attribute. -/
theorem unescape_assignment (target : String) :
    unescape (Script.assignment (escape target)) = Script.assignment target := by
  have free : '&' ∉ "location.href='".toList := by decide
  have closing : unescapeChars "'".toList = "'".toList := rfl
  unfold Script.assignment unescape escape
  simp only [String.toList_append, String.toList_ofList, List.append_assoc,
    unescapeChars_append free, unescapeChars_escape_append, closing]
  simp only [String.ofList_append, String.ofList_toList, String.append_assoc]

/-- The quotes around the literal are the only ones in the attribute. -/
theorem notMem_assignment_escape (target : String) :
    '"' ∉ (Script.assignment (escape target)).toList := by
  have front : '"' ∉ "location.href='".toList := by decide
  have closing : '"' ∉ "'".toList := by decide
  have middle : '"' ∉ (escape target).toList := by
    intro mem
    exact absurd (isMarkup_of_mem_escape mem) (by decide)
  unfold Script.assignment
  simp only [String.toList_append, List.mem_append, not_or]
  exact ⟨⟨front, middle⟩, closing⟩

end Html

namespace Widget

open Html Script

theorem render_button (href label : String) : (button href label).render =
    "<p><button " ++ "onclick" ++ "=\"" ++ assignment (escape href) ++ "\"" ++
      (">" ++ escape label ++ "</button></p>") := by
  have opening : "<p><button onclick=\"location.href='" =
      "<p><button " ++ "onclick" ++ "=\"" ++ "location.href='" := by decide
  have closing : "'\">" = "'" ++ "\"" ++ ">" := by decide
  unfold render assignment
  simp only [opening, closing, String.append_assoc]

/-- What the script of a button does with its target. -/
structure ButtonScript (href label : String) : Prop where
  /-- A page that has room for the button gets its markup. -/
  added : ∀ page : Page, (page.add (button href label)).truncated = false →
    (page.add (button href label)).html = page.html ++ (button href label).render
  /-- Decoded, the attribute holds the target as it is. -/
  script : ∃ value, HasAttribute (button href label).render "onclick" value ∧
    unescape value = assignment href
  /-- The literal goes to the end and stands for the target exactly if the target is plain. -/
  navigates_iff : Assigns (assignment href) (units href.toList) [] ↔
    ∀ c ∈ href.toList, isPlain c = true
  /-- The first quote closes the literal, and what is behind it is script. -/
  closed : ∀ {plain behind : List Char}, href.toList = plain ++ '\x27' :: behind →
    (∀ c ∈ plain, isPlain c = true) →
      Assigns (assignment href) (units plain) (behind ++ ['\x27'])
  /-- At the first line end there is no literal at all. -/
  unclosed : ∀ {plain behind : List Char} {c : Char}, href.toList = plain ++ c :: behind →
    (∀ c ∈ plain, isPlain c = true) → c = '\n' ∨ c = '\r' →
      ∀ value rest, ¬ Assigns (assignment href) value rest

/-- **A button leads to its target exactly if the target has no single quotes, backslashes and line
ends.** -/
theorem button_script (href label : String) : ButtonScript href label where
  added _ complete := (Page.html_append complete).2
  script := by
    refine ⟨assignment (escape href), ⟨_, _, render_button href label, by decide, ?_⟩, ?_⟩
    · exact notMem_assignment_escape href
    · exact unescape_assignment href
  navigates_iff := assigns_assignment_iff.trans readLiteral?_eq_iff
  closed := by
    intro plain behind split free
    rw [assigns_assignment_iff, split, List.append_assoc, List.cons_append,
      readLiteral?_append free, readLiteral?_quote, Option.map_some, prepend, List.append_nil]
  unclosed := by
    intro plain behind c split free ends value rest
    rw [assigns_assignment_iff, split, List.append_assoc, List.cons_append,
      readLiteral?_append free, readLiteral?_lineEnd ends, Option.map_none]
    exact (Option.some_ne_none _).symm

/-- A target that closes the literal at once and calls a function of the browser. -/
theorem button_calls_function :
    let href := "';alert(1);//"
    let page := Page.ofWidgets "" [button href "x"]
    let value := "location.href='&apos;;alert(1);//'"
    page.truncated = false ∧
      page.html = Page.opening "" ++ (button href "x").render ∧
        HasAttribute (button href "x").render "onclick" value ∧
          unescape value = "location.href='';alert(1);//'" ∧
            Assigns (unescape value) [] ";alert(1);//'".toList ∧
              ¬ Assigns (unescape value) (units href.toList) [] := by
  intro href page value
  have decoded : unescape value = assignment href := by decide +kernel
  have opening : href.toList = '\x27' :: ";alert(1);//".toList := by decide +kernel
  have behind : ";alert(1);//".toList ++ ['\x27'] = ";alert(1);//'".toList := by decide +kernel
  refine ⟨by decide +kernel, by decide +kernel, ⟨"<p><button ", ">x</button></p>", ?_⟩, ?_, ?_, ?_⟩
  · decide +kernel
  · decide +kernel
  · rw [decoded, assigns_assignment_iff, opening, List.cons_append, readLiteral?_quote, behind]
  · rw [decoded, assigns_assignment_iff, readLiteral?_eq_iff, opening, List.forall_mem_cons]
    exact fun free => absurd free.1 (by decide)

end Widget

end DeviceHttp
