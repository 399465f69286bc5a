import DeviceHttp.Multipart.Part
import DeviceHttp.Proofs.PartPlaces
import DeviceHttp.Proofs.Pieces

/-!
# Semicolons between quotes

The parameters of a header value are separated by semicolons, but a semicolon between double quotes
belongs to a value. Whether it stands between quotes can be told by counting: an odd number of quotes
in front of it has opened one more quotation than was closed.

The count is over the whole value. A device has no use for it. It reads one piece at a time
(`ParameterScan`), forgets the pieces before, and takes every piece to begin outside of quotes.

**Both make the same cuts** (`Part.parameters_cut_unquoted`). The calls on a scan yield the pieces
and then nothing, the pieces with semicolons between them are the value, and a semicolon is cut out
exactly if an even number of quotes stands in front of it. Behind a quotation that is not closed
nothing is cut.

## How

A cut is only made outside of quotes, so the state that a piece begins with is the state that the
one before ended in. `Part.quotedAfter` is that state behind any beginning of a value, and
`Part.cutsAt_parameters_iff` says by induction on the value where the cuts are, for either state at
its start.
-/

namespace DeviceHttp

namespace Utf8

/-- The characters in front of a place in the octets of a text and those behind it, if the place is
at a boundary. -/
def splitAt? : (cs : List Char) → (i : Nat) → Option (List Char × List Char)
  | cs, 0 => some ([], cs)
  | [], _ + 1 => none
  | c :: cs, i + 1 =>
    if c.utf8Size ≤ i + 1 then
      (splitAt? cs (i + 1 - c.utf8Size)).map fun (front, back) => (c :: front, back)
    else none

/-- A text is split where a beginning of it ends. -/
theorem splitAt?_append (front back : List Char) :
    splitAt? (front ++ back) (size front) = some (front, back) := by
  induction front with
  | nil => cases back <;> rfl
  | cons c front ih =>
    have pos := c.utf8Size_pos
    obtain ⟨i, total⟩ : ∃ i, size (c :: front) = i + 1 := ⟨size (c :: front) - 1, by
      rw [size_cons]
      omega⟩
    have left : i + 1 - c.utf8Size = size front := by
      rw [size_cons] at total
      omega
    have within : c.utf8Size ≤ i + 1 := by
      rw [size_cons] at total
      omega
    rw [total, List.cons_append, splitAt?, if_pos within, left, ih]
    rfl

end Utf8

namespace Part

variable {quoted : Bool} {v : List Char} {pieces : List (List Char)} {i : Nat}

/-! ## Where the cuts are -/

/-- Whether what follows some characters stands between quotes. -/
def quotedAfter (quoted : Bool) (cs : List Char) : Bool :=
  cs.foldl (fun quoted c => if c == '"' then !quoted else quoted) quoted

theorem quotedAfter_cons (quoted : Bool) (c : Char) (cs : List Char) :
    quotedAfter quoted (c :: cs) = quotedAfter (if c == '"' then !quoted else quoted) cs := rfl

/-- Every quote opens or closes. -/
theorem quotedAfter_eq (quoted : Bool) (cs : List Char) :
    quotedAfter quoted cs = (quoted ^^ decide (cs.count '"' % 2 = 1)) := by
  induction cs generalizing quoted with
  | nil => simp [quotedAfter]
  | cons c cs ih =>
    rw [quotedAfter_cons, ih, List.count_cons]
    cases c == '"' with
    | false => rfl
    | true =>
      have flips : decide ((cs.count '"' + 1) % 2 = 1) = !decide (cs.count '"' % 2 = 1) := by
        rw [← decide_not]
        exact decide_eq_decide.2 (by omega)
      rw [if_pos rfl, if_pos rfl, flips, Bool.not_xor, Bool.xor_not]

theorem quotedAfter_eq_false_iff (cs : List Char) :
    quotedAfter false cs = false ↔ cs.count '"' % 2 = 0 := by
  rw [quotedAfter_eq, Bool.false_xor, decide_eq_false_iff_not]
  omega

/-- One of the semicolons between the pieces stands at a place of what they make up. -/
def CutsAt (pieces : List (List Char)) (i : Nat) : Prop :=
  ∃ before after, before ≠ [] ∧ after ≠ [] ∧ pieces = before ++ after ∧
    ([';'].intercalate before).length = i

/-- A single piece is not cut. -/
theorem not_cutsAt_singleton (piece : List Char) (i : Nat) : ¬ CutsAt [piece] i := by
  rintro ⟨before, after, something, ne_nil, eq, -⟩
  have lengths := congrArg List.length eq
  have pos := List.length_pos_iff.2 something
  have pos' := List.length_pos_iff.2 ne_nil
  rw [List.length_append, List.length_singleton] at lengths
  omega

/-- Behind an empty piece the first cut is at the start, and the others are one place further on. -/
theorem cutsAt_nil_cons (ne_nil : pieces ≠ []) :
    CutsAt ([] :: pieces) i ↔ i = 0 ∨ ∃ j, i = j + 1 ∧ CutsAt pieces j := by
  have longer : ∀ q before, ([';'].intercalate ([] :: q :: before)).length =
      ([';'].intercalate (q :: before)).length + 1 := by
    intro q before
    rw [List.intercalate_cons_cons, List.nil_append, List.length_append, List.length_singleton,
      Nat.add_comm]
  constructor
  · rintro ⟨before, after, something, last, eq, rfl⟩
    obtain ⟨p, before, rfl⟩ := List.exists_cons_of_ne_nil something
    obtain ⟨rfl, behind⟩ := List.cons.inj eq
    by_cases first : before = []
    · rw [first]
      exact .inl rfl
    · obtain ⟨q, before, rfl⟩ := List.exists_cons_of_ne_nil first
      exact .inr ⟨_, longer q before, q :: before, after, first, last, behind, rfl⟩
  · rintro (rfl | ⟨j, rfl, before, after, something, last, rfl, rfl⟩)
    · exact ⟨[[]], pieces, List.cons_ne_nil _ _, ne_nil, rfl, rfl⟩
    · obtain ⟨q, before, rfl⟩ := List.exists_cons_of_ne_nil something
      exact ⟨[] :: q :: before, after, List.cons_ne_nil _ _, last, rfl, longer q before⟩

/-- A character in front of the first piece moves every cut one place further on. -/
theorem cutsAt_consFirst (ne_nil : pieces ≠ []) (c : Char) :
    CutsAt (consFirst c pieces) i ↔ ∃ j, i = j + 1 ∧ CutsAt pieces j := by
  obtain ⟨p, rest, rfl⟩ := List.exists_cons_of_ne_nil ne_nil
  have longer : ∀ before, ([';'].intercalate ((c :: p) :: before)).length =
      ([';'].intercalate (p :: before)).length + 1 := by
    intro before
    have joined : [';'].intercalate (consFirst c (p :: before)) =
        c :: [';'].intercalate (p :: before) := intercalate_consFirst (List.cons_ne_nil p before)
    exact congrArg List.length joined
  constructor
  · rintro ⟨before, after, something, last, eq, rfl⟩
    obtain ⟨q, before, rfl⟩ := List.exists_cons_of_ne_nil something
    obtain ⟨rfl, behind⟩ := List.cons.inj eq
    exact ⟨_, longer before, p :: before, after, List.cons_ne_nil _ _, last,
      congrArg (p :: ·) behind, rfl⟩
  · rintro ⟨j, rfl, before, after, something, last, eq, rfl⟩
    obtain ⟨q, before, rfl⟩ := List.exists_cons_of_ne_nil something
    obtain ⟨rfl, behind⟩ := List.cons.inj eq
    exact ⟨(c :: p) :: before, after, List.cons_ne_nil _ _, last,
      congrArg ((c :: p) :: ·) behind, longer before⟩

theorem parameters_ne_nil (quoted : Bool) (v : List Char) : parameters quoted v ≠ [] := by
  cases v with
  | nil => exact List.cons_ne_nil _ _
  | cons c cs =>
    rw [parameters]
    split
    · exact List.cons_ne_nil _ _
    · cases parameters _ cs <;> exact List.cons_ne_nil _ _

/-- A semicolon outside of quotes is cut out. -/
theorem parameters_semicolon (cs : List Char) :
    parameters false (';' :: cs) = [] :: parameters false cs := rfl

/-- Every other character is kept. -/
theorem parameters_cons {c : Char} (kept : ¬ (c = ';' ∧ quoted = false)) (cs : List Char) :
    parameters quoted (c :: cs) =
      consFirst c (parameters (if c == '"' then !quoted else quoted) cs) := by
  rw [parameters, if_neg]
  rwa [Bool.and_eq_true, beq_iff_eq, Bool.not_eq_true']

/-- The pieces, with a semicolon between any two of them, are the value. -/
theorem intercalate_parameters (quoted : Bool) (v : List Char) :
    [';'].intercalate (parameters quoted v) = v := by
  induction v generalizing quoted with
  | nil => rfl
  | cons c cs ih =>
    by_cases cut : c = ';' ∧ quoted = false
    · obtain ⟨rfl, rfl⟩ := cut
      obtain ⟨p, rest, pieces⟩ := List.exists_cons_of_ne_nil (parameters_ne_nil false cs)
      rw [parameters_semicolon, pieces, List.intercalate_cons_cons, ← pieces, ih]
      rfl
    · rw [parameters_cons cut, intercalate_consFirst (parameters_ne_nil _ cs), ih]

/-- **A cut is made at every semicolon outside of quotes**, and nowhere else. -/
theorem cutsAt_parameters_iff : CutsAt (parameters quoted v) i ↔
    v[i]? = some ';' ∧ quotedAfter quoted (v.take i) = false := by
  induction v generalizing quoted i with
  | nil =>
    refine iff_of_false (not_cutsAt_singleton [] i) ?_
    rintro ⟨stands, -⟩
    cases stands
  | cons c cs ih =>
    -- a cut behind the first character is one of what follows
    have later : ∀ j, CutsAt (parameters (if c == '"' then !quoted else quoted) cs) j ↔
        (c :: cs)[j + 1]? = some ';' ∧ quotedAfter quoted ((c :: cs).take (j + 1)) = false := by
      intro j
      rw [ih, List.getElem?_cons_succ, List.take_succ_cons, quotedAfter_cons]
    have first : (c :: cs)[0]? = some ';' ∧ quotedAfter quoted ((c :: cs).take 0) = false ↔
        c = ';' ∧ quoted = false := by
      rw [List.getElem?_cons_zero, Option.some.injEq, List.take_zero]
      rfl
    by_cases cut : c = ';' ∧ quoted = false
    · obtain ⟨rfl, rfl⟩ := cut
      rw [parameters_semicolon, cutsAt_nil_cons (parameters_ne_nil false cs)]
      cases i with
      | zero => exact iff_of_true (.inl rfl) (first.2 ⟨rfl, rfl⟩)
      | succ j =>
        simp only [Nat.succ_ne_zero, false_or, Nat.add_right_cancel_iff, exists_eq_left']
        exact later j
    · rw [parameters_cons cut, cutsAt_consFirst (parameters_ne_nil _ cs)]
      cases i with
      | zero =>
        refine iff_of_false ?_ fun stands => cut (first.1 stands)
        rintro ⟨j, eq, -⟩
        cases eq
      | succ j =>
        simp only [Nat.add_right_cancel_iff, exists_eq_left']
        exact later j

/-! ## One piece at a time -/

/-- The place in the octets of the first semicolon outside of quotes, if the characters begin at
place `i`. -/
def cutPlace? : (quoted : Bool) → (i : Nat) → List Char → Option Nat
  | _, _, [] => none
  | quoted, i, c :: cs =>
    if c = '"' then cutPlace? (!quoted) (i + c.utf8Size) cs
    else if c = ';' ∧ quoted = false then some i
    else cutPlace? quoted (i + c.utf8Size) cs

/-- **The scan for a place cuts off the first piece.** What follows it is read as if nothing had been
before. -/
theorem cutPlace?_cases (quoted : Bool) (v : List Char) :
    (parameters quoted v = [v] ∧ ∀ i, cutPlace? quoted i v = none) ∨
      ∃ piece rest, v = piece ++ ';' :: rest ∧
        parameters quoted v = piece :: parameters false rest ∧
        ∀ i, cutPlace? quoted i v = some (i + Utf8.size piece) := by
  induction v generalizing quoted with
  | nil => exact .inl ⟨rfl, fun _ => rfl⟩
  | cons c cs ih =>
    by_cases cut : c = ';' ∧ quoted = false
    · obtain ⟨rfl, rfl⟩ := cut
      exact .inr ⟨[], cs, rfl, rfl, fun _ => rfl⟩
    · -- the character is passed, whether it is a quote or not
      have passed : ∀ i, cutPlace? quoted i (c :: cs) =
          cutPlace? (if c == '"' then !quoted else quoted) (i + c.utf8Size) cs := by
        intro i
        by_cases quote : c = '"'
        · rw [cutPlace?, if_pos quote, if_pos (beq_iff_eq.2 quote)]
        · rw [cutPlace?, if_neg quote, if_neg cut, beq_eq_false_iff_ne.2 quote]
          rfl
      rw [parameters_cons cut]
      simp only [passed]
      obtain ⟨one, none⟩ | ⟨piece, rest, rfl, pieces, place⟩ :=
        ih (if c == '"' then !quoted else quoted)
      · exact .inl ⟨by rw [one]; rfl, fun i => none _⟩
      · refine .inr ⟨c :: piece, rest, rfl, by rw [pieces]; rfl, fun i => ?_⟩
        rw [place, Utf8.size_cons, Nat.add_assoc]

end Part

/-- A header value that is split while it is read. There is nothing left behind the last piece. -/
structure ParameterScan where
  rest : Option (List Char)

namespace ParameterScan

/-- One call: the next piece, if there is one, and the scan behind it. A value can only be cut at a
boundary between characters, and there is no result at any other place. -/
def call (scan : ParameterScan) : Option (Option (List Char) × ParameterScan) :=
  match scan.rest with
  | none => some (none, ⟨none⟩)
  | some v =>
    match Part.cutPlace? false 0 v with
    | none => some (some v, ⟨none⟩)
    | some i => do
      let (_, rest) ← Utf8.splitAt? v (i + 1)
      let (piece, _) ← Utf8.splitAt? v i
      return (some piece, ⟨some rest⟩)

/-- What the first `n` calls yield. -/
def calls : (n : Nat) → ParameterScan → Option (List (Option (List Char)))
  | 0, _ => some []
  | n + 1, scan => do
    let (answer, after) ← scan.call
    return answer :: (← calls n after)

variable {scan after : ParameterScan} {answer : Option (List Char)} {n : Nat}

theorem calls_succ {answers : List (Option (List Char))} (call : scan.call = some (answer, after))
    (rest : after.calls n = some answers) : scan.calls (n + 1) = some (answer :: answers) := by
  rw [calls, call]
  show (after.calls n >>= _) = _
  rw [rest]
  rfl

/-- Behind the last piece nothing is yielded. -/
theorem calls_ended (n : Nat) : calls n ⟨none⟩ = some (List.replicate n none) := by
  induction n with
  | zero => rfl
  | succ n ih => exact calls_succ rfl ih

/-- **The calls yield the pieces, and then nothing.** No call fails. -/
theorem calls_eq (v : List Char) (n : Nat) :
    calls n ⟨some v⟩ = some ((List.range n).map ((Part.parameters false v)[·]?)) := by
  induction n generalizing v with
  | zero => rfl
  | succ n ih =>
    obtain ⟨one, none⟩ | ⟨piece, rest, rfl, pieces, place⟩ := Part.cutPlace?_cases false v
    · have last : call ⟨some v⟩ = some (some v, ⟨.none⟩) := by
        rw [call]
        simp only [none]
      have silent : (List.range n).map (([] : List (List Char))[·]?) = List.replicate n .none := by
        simp
      rw [one, PartScan.map_getElem?_range_succ, silent]
      exact calls_succ last (calls_ended n)
    · have here : Part.cutPlace? false 0 (piece ++ ';' :: rest) = some (Utf8.size piece) := by
        rw [place, Nat.zero_add]
      have front : Utf8.splitAt? (piece ++ ';' :: rest) (Utf8.size piece) =
          some (piece, ';' :: rest) := Utf8.splitAt?_append piece _
      -- a semicolon takes one octet
      have back : Utf8.splitAt? (piece ++ ';' :: rest) (Utf8.size piece + 1) =
          some (piece ++ [';'], rest) := by
        have narrow : Utf8.size [';'] = 1 := rfl
        have split := Utf8.splitAt?_append (piece ++ [';']) rest
        rwa [Utf8.size_append, narrow, List.append_assoc] at split
      have cut : call ⟨some (piece ++ ';' :: rest)⟩ = some (some piece, ⟨some rest⟩) := by
        rw [call]
        simp only [here, front, back]
        rfl
      rw [pieces, PartScan.map_getElem?_range_succ]
      exact calls_succ cut (ih rest)

end ParameterScan

namespace Part

/-- What the pieces of a value are for: nothing is lost, and the cuts are told by counting the quotes
of the whole value. -/
structure CutOutsideQuotes (v : List Char) (pieces : List (List Char)) : Prop where
  joined : [';'].intercalate pieces = v
  cutsAt_iff : ∀ i, CutsAt pieces i ↔ v[i]? = some ';' ∧ (v.take i).count '"' % 2 = 0
  /-- Behind a quotation that is not closed nothing is cut. -/
  unclosed : ∀ front back, v = front ++ back → front.count '"' % 2 = 1 → '"' ∉ back →
    ∀ i, CutsAt pieces i → i < front.length

theorem cutOutsideQuotes (v : List Char) : CutOutsideQuotes v (parameters false v) where
  joined := intercalate_parameters false v
  cutsAt_iff i := by rw [cutsAt_parameters_iff, quotedAfter_eq_false_iff]
  unclosed := by
    rintro front back rfl odd absent i cut
    rw [cutsAt_parameters_iff, quotedAfter_eq_false_iff] at cut
    refine Nat.lt_of_not_le fun behind => ?_
    -- all the quotes stand in front of such a place
    have all : ((front ++ back).take i).count '"' = front.count '"' := by
      have none : (back.take (i - front.length)).count '"' = 0 :=
        List.count_eq_zero.2 fun inside => absent (List.mem_of_mem_take inside)
      rw [List.take_append, List.take_of_length_le behind, List.count_append, none, Nat.add_zero]
    omega

/-- **A header value is cut exactly at the semicolons outside of quotes**, one piece at a time. The
calls on a scan yield the pieces and then nothing, and of every semicolon the number of quotes in
front of it tells whether it is a cut. -/
theorem parameters_cut_unquoted (value : String) :
    CutOutsideQuotes value.toList (parameters false value.toList) ∧
      ∀ n, ParameterScan.calls n ⟨some value.toList⟩ =
        some ((List.range n).map ((parameters false value.toList)[·]?)) :=
  ⟨cutOutsideQuotes value.toList, ParameterScan.calls_eq value.toList⟩

/-- The last quotation is not closed, so the semicolon in it is no cut. -/
example : parameters false "a;b=\";\";c=\"d;e".toList =
    ["a".toList, "b=\";\"".toList, "c=\"d;e".toList] := by decide +kernel

end Part

end DeviceHttp
