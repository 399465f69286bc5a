import DeviceHttp.Bytes

/-!
# Searching byte sequences

`Bytes.indexOf?` and `Bytes.lines` are defined by recursion on the bytes that are searched. Their
users put those bytes together from pieces, so this module says what a search finds in `p ++ b`.

* **What is found stays found.** More bytes behind an occurrence do not move it
  (`indexOf?_append`), and bytes that it does not reach are not needed to find it
  (`indexOf?_of_append`). A buffer may therefore be searched again whenever it has grown.
* **The first occurrence is found** (`startsWith_drop_of_lt`). `EndsAtFirst` says so of the bytes up
  to the end of the occurrence, without an index (`indexOf?_of_endsAtFirst`).
* **Bytes without the first byte of the needle are skipped** (`indexOf?_append_of_notMem`).
* **A needle that does not overlap itself is found where it was put** (`indexOf?_append_needle`).
  The condition is that its first byte is not repeated, which holds of a delimiter that starts with
  a carriage return. It does not hold of the end of a header block, two line endings in a row. That
  needle is found behind the last of the lines (`indexOf?_intercalate_append`).

## Lines

`unlines` puts an ending behind every line, and `crlf.intercalate` between any two lines. Both are
undone by `lines`, for lines without a carriage return.
-/

namespace DeviceHttp

namespace Bytes

variable {needle b : Bytes}

theorem indexOf?_cons_of_startsWith {x : UInt8} (ne_nil : needle ≠ [])
    (starts : startsWith needle (x :: b) = true) : indexOf? needle (x :: b) = some 0 := by
  have nonempty : needle.isEmpty = false := List.isEmpty_eq_false_iff.2 ne_nil
  rw [indexOf?, nonempty, starts]
  rfl

theorem indexOf?_cons_of_not_startsWith {x : UInt8}
    (starts : startsWith needle (x :: b) = false) :
    indexOf? needle (x :: b) = (indexOf? needle b).map (· + 1) := by
  rw [indexOf?, starts, Bool.and_false]
  rfl

theorem startsWith_append {start b : Bytes} (h : startsWith start b = true) (c : Bytes) :
    startsWith start (b ++ c) = true := by
  obtain ⟨rest, rfl⟩ := startsWith_iff.1 h
  exact startsWith_iff.2 ⟨rest ++ c, List.append_assoc _ _ _⟩

/-- A beginning that does not run over the first piece is a beginning of that piece. -/
theorem startsWith_of_append {start b c : Bytes} (h : startsWith start (b ++ c) = true)
    (short : start.length ≤ b.length) : startsWith start b = true := by
  obtain ⟨rest, eq⟩ := startsWith_iff.1 h
  obtain ⟨more, rfl, -⟩ | ⟨more, rfl, -⟩ := List.append_eq_append_iff.1 eq
  · -- the beginning would be longer by `more`, so `more` is empty
    have : more = [] := by
      rw [List.length_append] at short
      exact List.eq_nil_of_length_eq_zero (by omega)
    rw [this, List.append_nil]
    exact startsWith_iff.2 ⟨[], (List.append_nil _).symm⟩
  · exact startsWith_iff.2 ⟨more, rfl⟩

/-- **What is found stays found** when more bytes follow. -/
theorem indexOf?_append {i : Nat} (h : indexOf? needle b = some i) (c : Bytes) :
    indexOf? needle (b ++ c) = some i := by
  induction b generalizing i with
  | nil => cases h
  | cons x b ih =>
    have ne_nil := (drop_of_indexOf? h).1
    rw [List.cons_append]
    cases starts : startsWith needle (x :: b) with
    | true =>
      rw [indexOf?_cons_of_startsWith ne_nil starts] at h
      rw [← List.cons_append, List.cons_append, ← h]
      exact indexOf?_cons_of_startsWith ne_nil (startsWith_append starts c)
    | false =>
      rw [indexOf?_cons_of_not_startsWith starts] at h
      obtain ⟨j, found, rfl⟩ := Option.map_eq_some_iff.1 h
      -- an occurrence at the front would have to reach into `c`, but one within `b` fits
      have later : startsWith needle (x :: (b ++ c)) = false := by
        have fits := add_length_le_of_indexOf? found
        refine Bool.eq_false_iff.2 fun front => ?_
        rw [← List.cons_append] at front
        have := startsWith_of_append front (by rw [List.length_cons]; omega)
        rw [starts] at this
        cases this
      rw [indexOf?_cons_of_not_startsWith later, ih found]
      rfl

/-- An occurrence that ends within the first piece is found in that piece alone. -/
theorem indexOf?_of_append {c : Bytes} {i : Nat} (h : indexOf? needle (b ++ c) = some i)
    (within : i + needle.length ≤ b.length) : indexOf? needle b = some i := by
  have ne_nil := (drop_of_indexOf? h).1
  induction b generalizing i with
  | nil =>
    have := List.length_pos_iff.2 ne_nil
    rw [List.length_nil] at within
    omega
  | cons x b ih =>
    rw [List.cons_append] at h
    cases starts : startsWith needle (x :: (b ++ c)) with
    | true =>
      rw [indexOf?_cons_of_startsWith ne_nil starts] at h
      cases h
      rw [Nat.zero_add] at within
      exact indexOf?_cons_of_startsWith ne_nil (startsWith_of_append starts within)
    | false =>
      have before : startsWith needle (x :: b) = false :=
        Bool.eq_false_iff.2 fun front => by
          have := startsWith_append front c
          rw [List.cons_append, starts] at this
          cases this
      rw [indexOf?_cons_of_not_startsWith starts] at h
      obtain ⟨j, found, rfl⟩ := Option.map_eq_some_iff.1 h
      rw [List.length_cons] at within
      rw [indexOf?_cons_of_not_startsWith before, ih found (by omega)]
      rfl

/-- Bytes without the first byte of the needle are skipped. -/
theorem indexOf?_append_of_notMem {x : UInt8} {p : Bytes} (h : x ∉ p) (b : Bytes) :
    indexOf? (x :: needle) (p ++ b) = (indexOf? (x :: needle) b).map (· + p.length) := by
  induction p with
  | nil => simp
  | cons y p ih =>
    obtain ⟨differs, absent⟩ := not_or.1 (fun mem => h (List.mem_cons.2 mem))
    have starts : startsWith (x :: needle) (y :: (p ++ b)) = false := by
      simp [startsWith, dropStart?, differs]
    rw [List.cons_append, indexOf?_cons_of_not_startsWith starts, ih absent, Option.map_map]
    rfl

/-- A needle that does not occur in the first piece and whose first byte is not repeated is found
where it was put. It cannot begin in the first piece and end behind it. -/
theorem indexOf?_append_needle {x : UInt8} {data : Bytes} (once : x ∉ needle)
    (absent : ¬ (x :: needle) <:+: data) (rest : Bytes) :
    indexOf? (x :: needle) (data ++ (x :: needle ++ rest)) = some data.length := by
  induction data with
  | nil =>
    exact indexOf?_cons_of_startsWith (List.cons_ne_nil x needle) (startsWith_iff.2 ⟨rest, rfl⟩)
  | cons y data ih =>
    have later : ¬ (x :: needle) <:+: data := fun inside => absent (inside.trans
      (List.infix_cons (List.infix_refl data)))
    have starts : startsWith (x :: needle) (y :: (data ++ (x :: needle ++ rest))) = false := by
      refine Bool.eq_false_iff.2 fun front => ?_
      obtain ⟨after, eq⟩ := startsWith_iff.1 front
      obtain ⟨rfl, eq⟩ := List.cons.inj eq
      obtain ⟨more, rfl, eq⟩ | ⟨more, rfl, -⟩ := List.append_eq_append_iff.1 eq
      · -- the needle reaches over the end of the data, where its own first byte stands
        cases more with
        | nil => exact absent (by simp)
        | cons z more =>
          obtain ⟨rfl, -⟩ := List.cons.inj eq
          exact once (List.mem_append_right data List.mem_cons_self)
      · -- the needle ends within the data
        exact absent ⟨[], more, rfl⟩
    rw [List.cons_append, indexOf?_cons_of_not_startsWith starts, ih later]
    rfl

/-- Nothing is found before the first occurrence. -/
theorem startsWith_drop_of_lt {i j : Nat} (found : indexOf? needle b = some i) (before : j < i) :
    startsWith needle (b.drop j) = false := by
  induction b generalizing i j with
  | nil => cases found
  | cons x b ih =>
    have ne_nil := (drop_of_indexOf? found).1
    cases starts : startsWith needle (x :: b) with
    | true =>
      rw [indexOf?_cons_of_startsWith ne_nil starts] at found
      cases found
      exact absurd before (Nat.not_lt_zero j)
    | false =>
      rw [indexOf?_cons_of_not_startsWith starts] at found
      obtain ⟨i', found', rfl⟩ := Option.map_eq_some_iff.1 found
      cases j with
      | zero => exact starts
      | succ j => exact ih found' (Nat.lt_of_succ_lt_succ before)

/-- A needle does not stand in bytes that end before its first occurrence does. -/
theorem not_infix_take_of_lt {i n : Nat} (found : indexOf? needle b = some i)
    (short : n < i + needle.length) : ¬ needle <:+: b.take n := by
  rintro ⟨front, back, eq⟩
  have inside := congrArg List.length eq
  simp only [List.length_append, List.length_take] at inside
  have standing := startsWith_drop_of_lt found (show front.length < i by omega)
  have here : b.drop front.length = needle ++ (back ++ b.drop n) := by
    calc b.drop front.length
        = (b.take n ++ b.drop n).drop front.length := by rw [List.take_append_drop]
      _ = (front ++ (needle ++ (back ++ b.drop n))).drop front.length := by
          rw [← eq, List.append_assoc, List.append_assoc]
      _ = needle ++ (back ++ b.drop n) := List.drop_left
  rw [startsWith_iff.2 ⟨_, here⟩] at standing
  cases standing

/-- In front of its first occurrence a needle does not stand. -/
theorem not_infix_take_of_indexOf? {i : Nat} (found : indexOf? needle b = some i) :
    ¬ needle <:+: b.take i := by
  have pos := List.length_pos_iff.2 (drop_of_indexOf? found).1
  exact not_infix_take_of_lt found (by omega)

/-- A needle is found in bytes in which it stands. -/
theorem exists_indexOf?_of_infix (ne_nil : needle ≠ []) (inside : needle <:+: b) :
    ∃ i, indexOf? needle b = some i := by
  obtain ⟨front, back, rfl⟩ := inside
  induction front with
  | nil =>
    obtain ⟨x, needle, rfl⟩ := List.exists_cons_of_ne_nil ne_nil
    exact ⟨0, indexOf?_cons_of_startsWith ne_nil (startsWith_iff.2 ⟨back, rfl⟩)⟩
  | cons x front ih =>
    obtain ⟨i, found⟩ := ih
    cases starts : startsWith needle (x :: (front ++ needle ++ back)) with
    | true => exact ⟨0, indexOf?_cons_of_startsWith ne_nil starts⟩
    | false =>
      refine ⟨i + 1, ?_⟩
      show indexOf? needle (x :: (front ++ needle ++ back)) = _
      rw [indexOf?_cons_of_not_startsWith starts, found]
      rfl

/-- A needle that is not found stands nowhere. -/
theorem indexOf?_eq_none_iff (ne_nil : needle ≠ []) :
    indexOf? needle b = none ↔ ¬ needle <:+: b := by
  constructor
  · intro missed inside
    obtain ⟨i, found⟩ := exists_indexOf?_of_infix ne_nil inside
    rw [missed] at found
    cases found
  · intro absent
    apply Option.eq_none_iff_forall_ne_some.2
    intro i found
    obtain ⟨-, rest, standing⟩ := drop_of_indexOf? found
    exact absent ⟨b.take i, rest, by rw [List.append_assoc, ← standing, List.take_append_drop]⟩

/-- The bytes end with the needle and hold it nowhere else. -/
structure EndsAtFirst (needle b : Bytes) : Prop where
  ends : needle <:+ b
  first : ¬ needle <:+: b.dropLast

/-- Up to the end of an occurrence, bytes end with the needle. -/
theorem take_add_of_indexOf? {i : Nat} (found : indexOf? needle b = some i) :
    b.take (i + needle.length) = b.take i ++ needle := by
  obtain ⟨-, rest, standing⟩ := drop_of_indexOf? found
  rw [List.take_add, standing, List.take_left]

/-- Up to the end of the first occurrence, bytes hold the needle at their end only. -/
theorem endsAtFirst_take_of_indexOf? {i : Nat} (found : indexOf? needle b = some i) :
    EndsAtFirst needle (b.take (i + needle.length)) := by
  have pos := List.length_pos_iff.2 (drop_of_indexOf? found).1
  have fits := add_length_le_of_indexOf? found
  constructor
  · rw [take_add_of_indexOf? found]
    exact List.suffix_append _ _
  · rw [List.dropLast_eq_take, List.take_take, List.length_take]
    exact not_infix_take_of_lt found (by omega)

/-- **What ends with the needle and holds it nowhere else is everything up to the end of the first
occurrence**, in front of any other bytes. -/
theorem indexOf?_of_endsAtFirst {front : Bytes} (ne_nil : needle ≠ [])
    (ends : EndsAtFirst needle (front ++ needle)) (rest : Bytes) :
    indexOf? needle (front ++ needle ++ rest) = some front.length := by
  have pos := List.length_pos_iff.2 ne_nil
  obtain ⟨i, found⟩ : ∃ i, indexOf? needle (front ++ needle) = some i :=
    exists_indexOf?_of_infix ne_nil (List.suffix_append front needle).isInfix
  have fits := add_length_le_of_indexOf? found
  have last : i = front.length := by
    rw [List.length_append] at fits
    apply Nat.le_antisymm (by omega)
    -- an earlier occurrence would end before the last byte
    apply Nat.le_of_not_lt
    intro early
    refine ends.first ⟨(front ++ needle).take i,
      ((front ++ needle).take (front.length + needle.length - 1)).drop (i + needle.length), ?_⟩
    rw [← take_add_of_indexOf? found, List.dropLast_eq_take, List.length_append]
    have within : i + needle.length ≤ front.length + needle.length - 1 := by omega
    rw [← Nat.min_eq_left within, ← List.take_take, Nat.min_eq_left within,
      List.take_append_drop]
  rw [← last]
  exact indexOf?_append found rest

/-- A longer needle that stands where its beginning is found is found there. -/
theorem indexOf?_extend {more : Bytes} {i : Nat} (found : indexOf? needle b = some i)
    (stands : startsWith (needle ++ more) (b.drop i) = true) :
    indexOf? (needle ++ more) b = some i := by
  have ne_nil : needle ++ more ≠ [] :=
    List.append_ne_nil_of_left_ne_nil (drop_of_indexOf? found).1 more
  induction b generalizing i with
  | nil => cases found
  | cons x b ih =>
    cases starts : startsWith needle (x :: b) with
    | true =>
      rw [indexOf?_cons_of_startsWith (drop_of_indexOf? found).1 starts] at found
      cases found
      exact indexOf?_cons_of_startsWith ne_nil stands
    | false =>
      have longer : startsWith (needle ++ more) (x :: b) = false := by
        refine Bool.eq_false_iff.2 fun front => ?_
        obtain ⟨rest, eq⟩ := startsWith_iff.1 front
        rw [List.append_assoc] at eq
        rw [startsWith_iff.2 ⟨_, eq⟩] at starts
        cases starts
      rw [indexOf?_cons_of_not_startsWith starts] at found
      obtain ⟨i', found', rfl⟩ := Option.map_eq_some_iff.1 found
      rw [indexOf?_cons_of_not_startsWith longer, ih found' stands]
      rfl

/-! ## Lines -/

theorem lines_cons {x : UInt8} (h : x ≠ 13) (b : Bytes) :
    lines (x :: b) = consFirst x (lines b) := by
  rw [lines.eq_3]
  · cases lines b <;> rfl
  · rintro rest rfl
    exact absurd rfl h

/-- A line without a carriage return is the only one. -/
theorem lines_of_notMem {line : Bytes} (plain : 13 ∉ line) : lines line = [line] := by
  induction line with
  | nil => rfl
  | cons x line ih =>
    obtain ⟨first, rest⟩ := not_or.1 fun mem => plain (List.mem_cons.2 mem)
    rw [lines_cons (Ne.symm first), ih rest]
    rfl

/-- A line ending behind a block ends the last line of the block. -/
theorem lines_append_crlf (block rest : Bytes) :
    lines (block ++ (crlf ++ rest)) = lines block ++ lines rest := by
  induction block using lines.induct with
  | case1 => rfl
  | case2 b ih =>
    show [] :: lines (b ++ (crlf ++ rest)) = [] :: (lines b ++ lines rest)
    rw [ih]
  | case3 x b _ none _ => exact absurd none (lines_ne_nil b)
  | case4 x b apart line others first ih =>
    -- what follows `b` starts with a carriage return, so `x` is not drawn into a line ending
    have still : ∀ c, x = 13 → b ++ (crlf ++ rest) = 10 :: c → False := by
      rintro c rfl eq
      cases b with
      | nil => cases eq
      | cons y b => exact apart b rfl (by rw [(List.cons.inj eq).1])
    rw [List.cons_append, lines.eq_3 _ _ still, lines.eq_3 _ _ apart, ih, first]
    rfl

/-- Lines, each with its ending. -/
def unlines (ls : List Bytes) : Bytes := ls.flatMap (· ++ crlf)

theorem unlines_cons (l : Bytes) (ls : List Bytes) :
    unlines (l :: ls) = l ++ (crlf ++ unlines ls) := by
  rw [unlines, List.flatMap_cons, List.append_assoc]
  rfl

/-- Without the last ending, the lines have an ending between any two of them. -/
theorem unlines_eq_intercalate_append (l : Bytes) (ls : List Bytes) :
    unlines (l :: ls) = crlf.intercalate (l :: ls) ++ crlf := by
  induction ls generalizing l with
  | nil => simp [unlines]
  | cons k ls ih =>
    rw [unlines_cons, ih k, List.intercalate_cons_cons, List.append_assoc, List.append_assoc]

/-- Lines with their endings are read back. -/
theorem lines_unlines_append {ls : List Bytes} (plain : ∀ l ∈ ls, 13 ∉ l) (rest : Bytes) :
    lines (unlines ls ++ rest) = ls ++ lines rest := by
  induction ls with
  | nil => rfl
  | cons l ls ih =>
    rw [unlines_cons, List.append_assoc, List.append_assoc, lines_append_crlf,
      lines_of_notMem (plain l List.mem_cons_self),
      ih fun k mem => plain k (List.mem_cons_of_mem l mem)]
    rfl

/-- Lines with endings between them are read back. -/
theorem lines_intercalate {l : Bytes} {ls : List Bytes} (plain : ∀ k ∈ l :: ls, 13 ∉ k) :
    lines (crlf.intercalate (l :: ls)) = l :: ls := by
  have ended := lines_unlines_append plain []
  rw [List.append_nil, unlines_eq_intercalate_append, ← List.append_nil crlf,
    lines_append_crlf, List.append_nil crlf] at ended
  exact List.append_cancel_right ended

/-- A line without a carriage return ends at the line ending behind it. -/
theorem indexOf?_crlf_line {line : Bytes} (plain : 13 ∉ line) (rest : Bytes) :
    indexOf? crlf (line ++ (crlf ++ rest)) = some line.length := by
  have here : indexOf? crlf (crlf ++ rest) = some 0 :=
    indexOf?_cons_of_startsWith (List.cons_ne_nil _ _) (startsWith_iff.2 ⟨rest, rfl⟩)
  show indexOf? (13 :: _) _ = _
  rw [indexOf?_append_of_notMem plain]
  show (indexOf? crlf _).map _ = _
  rw [here, Option.map_some, Nat.zero_add]

/-- A line ending that is followed by something else than another one is passed over. -/
theorem indexOf?_crlf_append {x : UInt8} (h : x ≠ 13) (b : Bytes) :
    indexOf? (crlf ++ crlf) (crlf ++ x :: b) = (indexOf? (crlf ++ crlf) (x :: b)).map (· + 2) := by
  have first : startsWith (crlf ++ crlf) (13 :: 10 :: x :: b) = false := by
    simp [startsWith, dropStart?, crlf, Ne.symm h]
  have second : startsWith (crlf ++ crlf) (10 :: x :: b) = false := by
    simp [startsWith, dropStart?, crlf]
  show indexOf? _ (13 :: 10 :: x :: b) = _
  rw [indexOf?_cons_of_not_startsWith first, indexOf?_cons_of_not_startsWith second,
    Option.map_map]
  rfl

/-- **The first empty line stands behind the last of some lines that are not empty.** -/
theorem indexOf?_intercalate_append {l : Bytes} {ls : List Bytes}
    (plain : ∀ k ∈ l :: ls, k ≠ [] ∧ 13 ∉ k) (rest : Bytes) :
    indexOf? (crlf ++ crlf) (crlf.intercalate (l :: ls) ++ (crlf ++ (crlf ++ rest))) =
      some (crlf.intercalate (l :: ls)).length := by
  induction ls generalizing l with
  | nil =>
    have here : indexOf? (crlf ++ crlf) (crlf ++ (crlf ++ rest)) = some 0 :=
      indexOf?_cons_of_startsWith (List.cons_ne_nil _ _) (startsWith_iff.2 ⟨rest, rfl⟩)
    rw [List.intercalate_singleton]
    show indexOf? (13 :: _) _ = _
    rw [indexOf?_append_of_notMem (plain l List.mem_cons_self).2]
    show (indexOf? (crlf ++ crlf) _).map _ = _
    rw [here, Option.map_some, Nat.zero_add]
  | cons k ls ih =>
    have plain' : ∀ j ∈ k :: ls, j ≠ [] ∧ 13 ∉ j := by
      intro j mem
      exact plain j (List.mem_cons_of_mem l mem)
    obtain ⟨x, k, rfl⟩ := List.exists_cons_of_ne_nil (plain' k List.mem_cons_self).1
    have differs : x ≠ 13 := fun eq =>
      (plain' _ List.mem_cons_self).2 (List.mem_cons.2 (.inl eq.symm))
    -- the next line starts with `x`, so the ending before it is passed over
    obtain ⟨more, starts⟩ : ∃ more, crlf.intercalate ((x :: k) :: ls) = x :: more := by
      cases ls with
      | nil => exact ⟨k, List.intercalate_singleton⟩
      | cons j ls => exact ⟨_, by rw [List.intercalate_cons_cons]; rfl⟩
    have passed := indexOf?_crlf_append differs (more ++ (crlf ++ (crlf ++ rest)))
    rw [← List.cons_append, ← starts, ih plain'] at passed
    rw [List.intercalate_cons_cons, List.append_assoc, List.append_assoc]
    show indexOf? (13 :: _) _ = _
    rw [indexOf?_append_of_notMem (plain l List.mem_cons_self).2]
    show (indexOf? (crlf ++ crlf) _).map _ = _
    have two : crlf.length = 2 := rfl
    rw [passed, Option.map_some, Option.map_some, List.length_append, List.length_append, two]
    exact congrArg some (by omega)

end Bytes

end DeviceHttp
