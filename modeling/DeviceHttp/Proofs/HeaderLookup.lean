import DeviceHttp.Proofs.Octets
import DeviceHttp.Proofs.Pieces
import DeviceHttp.Proofs.Searching
import DeviceHttp.Request.Header

/-!
# Looking up a header that was written

A header field is a name and a value, and is written as a line `name: value`. In a block of such
lines, `Header.find?` returns the value of the first field with the given name, up to ASCII case and
without the blanks in front (`Header.find?_writtenBlock`).

The lookup compares the given name with the beginning of a line and then expects a colon. A field
whose name continues the given one is told apart by that colon, and a value is never taken for a
name because a name holds no colon itself.

In any other block, a value is found exactly if some line begins with the name and a colon
(`Header.exists_find?_iff`).
-/

namespace DeviceHttp

/-- A header field as it may be written on a line of its own. -/
structure HeaderField where
  name : Bytes
  value : Bytes
  name_ne_nil : name ≠ [] := by decide
  /-- A name holds no colon, carriage return or line feed. -/
  name_plain : Avoids [58, 13, 10] name := by decide
  /-- A value holds no carriage return or line feed. -/
  value_plain : Avoids [13, 10] value := by decide

namespace HeaderField

/-- The line of a field: the name, a colon, a space and the value. -/
def line (f : HeaderField) : Bytes := f.name ++ 58 :: 32 :: f.value

/-- Whether a field has the given name, up to ASCII case. -/
def isNamed (f : HeaderField) (name : String) : Bool :=
  f.name.map Bytes.lowerAscii == (Utf8.encode name).map Bytes.lowerAscii

theorem line_ne_nil (f : HeaderField) : f.line ≠ [] := by
  intro eq
  exact f.name_ne_nil (List.append_eq_nil_iff.1 eq).1

theorem notMem_line (f : HeaderField) : 13 ∉ f.line := by
  intro mem
  simp only [line, List.mem_append, List.mem_cons] at mem
  rcases mem with inName | colon | space | inValue
  · exact f.name_plain.notMem (by simp) inName
  · cases colon
  · cases space
  · exact f.value_plain.notMem (by simp) inValue

end HeaderField

namespace Bytes

/-- A beginning in another case is dropped. -/
theorem dropStartIgnoreCase?_append {start written : Bytes}
    (same : start.map lowerAscii = written.map lowerAscii) (rest : Bytes) :
    dropStartIgnoreCase? start (written ++ rest) = some rest := by
  induction start generalizing written with
  | nil => rw [List.map_eq_nil_iff.1 same.symm]; rfl
  | cons s start ih =>
    cases written with
    | nil => cases same
    | cons x written =>
      obtain ⟨first, others⟩ := List.cons.inj same
      rw [List.cons_append, dropStartIgnoreCase?, if_pos first, ih others]

theorem dropStartIgnoreCase?_eq_some_iff {start b rest : Bytes} :
    dropStartIgnoreCase? start b = some rest ↔
      ∃ written, b = written ++ rest ∧ start.map lowerAscii = written.map lowerAscii := by
  constructor
  · intro h
    fun_induction dropStartIgnoreCase? start b with
    | case1 b => exact ⟨[], Option.some.inj h, rfl⟩
    | case2 => cases h
    | case3 s start x b same ih =>
      obtain ⟨written, rfl, others⟩ := ih h
      exact ⟨x :: written, rfl, List.cons_eq_cons.2 ⟨same, others⟩⟩
    | case4 => cases h
  · rintro ⟨written, rfl, same⟩
    exact dropStartIgnoreCase?_append same rest

/-- Only a colon is written as a colon. -/
theorem eq_of_lowerAscii_eq_colon {b : UInt8} (h : lowerAscii b = lowerAscii 58) : b = 58 := by
  have colon : lowerAscii 58 = 58 := rfl
  rw [colon, lowerAscii] at h
  split at h
  next capital =>
    -- a capital letter becomes a small one
    obtain ⟨from65, to90⟩ := capital
    have value := congrArg UInt8.toNat h
    rw [UInt8.le_iff_toNat_le] at from65 to90
    simp only [UInt8.toNat_add, UInt8.reduceToNat] at value from65 to90
    omega
  next => exact h

/-- A beginning without a colon, followed by a colon, agrees with a line exactly if it is the
line's name. -/
theorem dropStartIgnoreCase?_colon {start name : Bytes} (plain : 58 ∉ start) (plain' : 58 ∉ name)
    (rest : Bytes) :
    (dropStartIgnoreCase? start (name ++ 58 :: rest)).bind (dropStart? [58]) =
      if name.map lowerAscii == start.map lowerAscii then some rest else none := by
  induction start generalizing name with
  | nil =>
    cases name with
    | nil => rfl
    | cons x name =>
      have differs : (58 : UInt8) ≠ x := fun eq => plain' (List.mem_cons.2 (.inl eq))
      show dropStart? [58] (x :: (name ++ 58 :: rest)) = none
      rw [dropStart?, if_neg differs]
  | cons s start ih =>
    obtain ⟨first, later⟩ := not_or.1 fun mem => plain (List.mem_cons.2 mem)
    cases name with
    | nil =>
      -- the line's name has ended, and the next character of the given one is not a colon
      have differs : lowerAscii s ≠ lowerAscii 58 := fun eq =>
        first (eq_of_lowerAscii_eq_colon eq).symm
      rw [List.nil_append, dropStartIgnoreCase?, if_neg differs]
      rfl
    | cons x name =>
      have later' : 58 ∉ name := fun mem => plain' (List.mem_cons_of_mem x mem)
      rw [List.cons_append, dropStartIgnoreCase?, List.map_cons, List.map_cons, List.cons_beq_cons]
      by_cases same : lowerAscii s = lowerAscii x
      · rw [if_pos same, ih later later', same, beq_self_eq_true, Bool.true_and]
      · rw [if_neg same, beq_eq_false_iff_ne.2 (Ne.symm same), Bool.false_and]
        rfl

theorem dropBlanks_dropBlanks (b : Bytes) : dropBlanks (dropBlanks b) = dropBlanks b :=
  dropWhile_eq_self_of_head (head?_dropWhile_unmarked b)

end Bytes

namespace Header

/-- The line carries a value for a name: it begins with the name, in letters of any case, and a
colon. -/
def IsNamed (name : String) (line : Bytes) : Prop :=
  ∃ written value, line = written ++ 58 :: value ∧
    (Utf8.encode name).map Bytes.lowerAscii = written.map Bytes.lowerAscii

theorem exists_valueOn?_iff {name : String} {line : Bytes} :
    (∃ value, valueOn? name line = some value) ↔ IsNamed name line := by
  constructor
  · rintro ⟨value, h⟩
    obtain ⟨rest, begins, h⟩ := Option.bind_eq_some_iff.1 h
    obtain ⟨value, colon, -⟩ := Option.bind_eq_some_iff.1 h
    obtain ⟨written, rfl, same⟩ := Bytes.dropStartIgnoreCase?_eq_some_iff.1 begins
    exact ⟨written, value, by rw [dropStart?_eq_some_iff.1 colon]; rfl, same⟩
  · rintro ⟨written, value, rfl, same⟩
    refine ⟨Bytes.dropBlanks value, ?_⟩
    rw [valueOn?, Bytes.dropStartIgnoreCase?_append same]
    rfl

/-- **A lookup finds a value exactly if some line of the block carries one.** -/
theorem exists_find?_iff {block : Bytes} {name : String} :
    (∃ value, find? block name = some value) ↔ ∃ line ∈ Bytes.lines block, IsNamed name line := by
  rw [← Option.isSome_iff_exists, find?, List.findSome?_isSome_iff]
  simp only [Option.isSome_iff_exists, exists_valueOn?_iff]

/-- What stands behind a name and a colon is found under that name and no other. -/
theorem valueOn?_colon {name : String} {written : Bytes} (plain : 58 ∉ Utf8.encode name)
    (plain' : 58 ∉ written) (rest : Bytes) : valueOn? name (written ++ 58 :: rest) =
      if written.map Bytes.lowerAscii == (Utf8.encode name).map Bytes.lowerAscii then
        some (Bytes.dropBlanks rest)
      else none := by
  show (Bytes.dropStartIgnoreCase? (Utf8.encode name) (written ++ 58 :: rest)).bind
    (fun rest => (dropStart? [58] rest).bind fun value => some (Bytes.dropBlanks value)) = _
  rw [← Option.bind_assoc, Bytes.dropStartIgnoreCase?_colon plain plain']
  split <;> rfl

/-- The value of a field is found under its name and no other. -/
theorem valueOn?_line {name : String} (plain : 58 ∉ Utf8.encode name) (f : HeaderField) :
    valueOn? name f.line = if f.isNamed name then some (Bytes.dropBlanks f.value) else none :=
  -- the space behind the colon is dropped with the other blanks
  valueOn?_colon plain (f.name_plain.notMem List.mem_cons_self) (32 :: f.value)

/-- **The header block ends at the empty line behind the lines**, whatever follows. -/
theorem blockEnd?_unlines_append {l : Bytes} {ls : List Bytes}
    (plain : ∀ k ∈ l :: ls, k ≠ [] ∧ 13 ∉ k) (rest : Bytes) :
    blockEnd? (Bytes.unlines (l :: ls) ++ Bytes.crlf ++ rest) =
      some (Bytes.unlines (l :: ls) ++ Bytes.crlf).length := by
  have found := Bytes.indexOf?_intercalate_append plain rest
  rw [Bytes.unlines_eq_intercalate_append, List.append_assoc, List.append_assoc, blockEnd?]
  show (Bytes.indexOf? (Bytes.crlf ++ Bytes.crlf) _).map _ = _
  rw [found, Option.map_some, List.length_append, List.length_append]
  rfl

/-- An empty line has no value. -/
theorem valueOn?_nil (name : String) : valueOn? name [] = none := by
  rw [valueOn?]
  cases Utf8.encode name <;> rfl

/-- The block of some fields: their lines and an empty line. -/
def writtenBlock (fields : List HeaderField) : Bytes :=
  Bytes.unlines (fields.map HeaderField.line) ++ Bytes.crlf

theorem lines_writtenBlock (fields : List HeaderField) :
    Bytes.lines (writtenBlock fields) = fields.map HeaderField.line ++ [[], []] := by
  have plain : ∀ l ∈ fields.map HeaderField.line, 13 ∉ l := by
    intro l mem
    obtain ⟨f, -, rfl⟩ := List.mem_map.1 mem
    exact f.notMem_line
  exact Bytes.lines_unlines_append plain Bytes.crlf

/-- **The first field with a name is found**, whatever the case of the letters in it. -/
theorem find?_writtenBlock (fields : List HeaderField) {name : String}
    (plain : ':' ∉ name.toList) :
    find? (writtenBlock fields) name =
      (fields.find? (·.isNamed name)).map fun f => Bytes.dropBlanks f.value := by
  have absent : 58 ∉ Utf8.encode name := Utf8.notMem_encodeChars plain
  rw [find?, lines_writtenBlock]
  induction fields with
  | nil =>
    show List.findSome? (valueOn? name) [[], []] = none
    rw [List.findSome?_cons, List.findSome?_cons, valueOn?_nil]
    rfl
  | cons f fields ih =>
    rw [List.map_cons, List.cons_append, List.findSome?_cons, valueOn?_line absent, List.find?_cons]
    cases f.isNamed name with
    | true => rfl
    | false => exact ih

end Header

end DeviceHttp
