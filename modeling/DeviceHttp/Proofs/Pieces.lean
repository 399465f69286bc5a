import DeviceHttp.Segments

/-!
# Taking apart what was put together

`segments`, `cut?`, `dropWhile` and `dropEndWhile` take a sequence apart at elements that a test
marks. Here the sequence has been put together from a piece without marks, or of marks only, and
something else, and the piece is found again. The rest is arbitrary, so that one lemma serves every
piece of a longer sequence.
-/

namespace DeviceHttp

universe u

variable {α : Type u} {mark : α → Bool} {piece : List α}

/-- No element of the sequence is among the given ones. -/
def Avoids (marks l : List α) : Prop := ∀ a ∈ l, a ∉ marks

-- the instance is given by name because other instances enumerate the whole type of the elements
instance [DecidableEq α] (marks l : List α) : Decidable (Avoids marks l) :=
  List.decidableBAll (fun a => a ∉ marks) l

theorem Avoids.notMem {marks l : List α} (h : Avoids marks l) {m : α} (mem : m ∈ marks) : m ∉ l :=
  fun inside => h m inside mem

theorem Avoids.mono {few marks l : List α} (h : Avoids marks l) (sub : few ⊆ marks) :
    Avoids few l := fun a inside mem => h a inside (sub mem)

theorem unmarked_of_notMem [BEq α] [LawfulBEq α] {m : α} (absent : m ∉ piece) :
    ∀ a ∈ piece, (a == m) = false := fun _ mem =>
  beq_eq_false_iff_ne.2 fun eq => absurd (eq ▸ mem) absent

/-- A piece without marks is the only one. -/
theorem segments_of_unmarked (plain : ∀ a ∈ piece, mark a = false) :
    segments mark piece = [piece] := by
  induction piece with
  | nil => rfl
  | cons a piece ih =>
    rw [segments, if_neg (by rw [plain a List.mem_cons_self]; exact Bool.false_ne_true),
      ih fun b mem => plain b (List.mem_cons_of_mem a mem)]
    rfl

/-- The first piece is what stands in front of the first mark. -/
theorem exists_segments_eq_takeWhile_cons (mark : α → Bool) (l : List α) :
    ∃ others, segments mark l = l.takeWhile (!mark ·) :: others := by
  induction l with
  | nil => exact ⟨[], rfl⟩
  | cons a l ih =>
    obtain ⟨others, pieces⟩ := ih
    rw [segments, pieces]
    cases marked : mark a with
    | true => exact ⟨_, by rw [List.takeWhile_cons_of_neg (by simp [marked])]; rfl⟩
    | false => exact ⟨others, by rw [List.takeWhile_cons_of_pos (by simp [marked])]; rfl⟩

/-- A piece without marks ends where the first mark stands. -/
theorem segments_append_cons (plain : ∀ a ∈ piece, mark a = false) {m : α}
    (marked : mark m = true) (rest : List α) :
    segments mark (piece ++ m :: rest) = piece :: segments mark rest := by
  induction piece with
  | nil => rw [List.nil_append, segments, if_pos marked]
  | cons a piece ih =>
    rw [List.cons_append, segments,
      if_neg (by rw [plain a List.mem_cons_self]; exact Bool.false_ne_true),
      ih fun b mem => plain b (List.mem_cons_of_mem a mem)]
    rfl

/-- Where two sequences meet, the last piece of the first one and the first piece of the second one
become one piece. -/
theorem exists_segments_append (mark : α → Bool) (l l' : List α) :
    ∃ before last first after, segments mark l = before ++ [last] ∧
      segments mark l' = first :: after ∧
        segments mark (l ++ l') = before ++ (last ++ first) :: after := by
  obtain ⟨first, after, pieces'⟩ := List.exists_cons_of_ne_nil (segments_ne_nil mark l')
  induction l with
  | nil => exact ⟨[], [], first, after, rfl, pieces', pieces'⟩
  | cons a l ih =>
    obtain ⟨before, last, _, _, pieces, same, joined⟩ := ih
    obtain ⟨rfl, rfl⟩ := List.cons.inj (pieces'.symm.trans same)
    rw [List.cons_append, segments, segments, pieces, joined]
    split
    · exact ⟨[] :: before, last, first, after, rfl, pieces', rfl⟩
    · cases before with
      | nil => exact ⟨[], a :: last, first, after, rfl, pieces', rfl⟩
      | cons p before => exact ⟨(a :: p) :: before, last, first, after, rfl, pieces', rfl⟩

/-- A mark keeps the pieces on its two sides apart. -/
theorem segments_append_mark {m : α} (marked : mark m = true) (l l' : List α) :
    segments mark (l ++ m :: l') = segments mark l ++ segments mark l' := by
  obtain ⟨before, last, first, after, pieces, pieces', joined⟩ :=
    exists_segments_append mark l (m :: l')
  rw [segments, if_pos marked] at pieces'
  obtain ⟨rfl, rfl⟩ := List.cons.inj pieces'
  rw [joined, pieces, List.append_nil, List.append_assoc, List.singleton_append]

/-- Pieces without marks, with a mark between any two of them, are the segments of what they make
up. -/
theorem segments_intercalate {m : α} (marked : mark m = true) {pieces : List (List α)}
    (ne_nil : pieces ≠ []) (plain : ∀ p ∈ pieces, ∀ a ∈ p, mark a = false) :
    segments mark ([m].intercalate pieces) = pieces := by
  induction pieces with
  | nil => exact absurd rfl ne_nil
  | cons p pieces ih =>
    have unmarked := plain p List.mem_cons_self
    cases pieces with
    | nil => rw [List.intercalate_singleton, segments_of_unmarked unmarked]
    | cons q rest =>
      rw [List.intercalate_cons_cons, List.append_assoc, List.singleton_append,
        segments_append_cons unmarked marked,
        ih (List.cons_ne_nil q rest) fun r mem => plain r (List.mem_cons_of_mem p mem)]

/-- Pieces without marks, with marks between them, are found again. What follows them behind a mark
changes nothing. -/
theorem exists_segments_intercalate {m : α} (marked : mark m = true) {pieces : List (List α)}
    (ne_nil : pieces ≠ []) (plain : ∀ p ∈ pieces, ∀ a ∈ p, mark a = false)
    (others : List (List α)) :
    ∃ more, segments mark ([m].intercalate (pieces ++ others)) = pieces ++ more := by
  induction pieces with
  | nil => exact absurd rfl ne_nil
  | cons p pieces ih =>
    have unmarked := plain p List.mem_cons_self
    rw [List.cons_append]
    cases behind : pieces ++ others with
    | nil =>
      obtain ⟨rfl, -⟩ := List.append_eq_nil_iff.1 behind
      refine ⟨[], ?_⟩
      rw [List.intercalate_singleton, segments_of_unmarked unmarked, List.append_nil]
    | cons q rest =>
      have joined : [m].intercalate (p :: q :: rest) = p ++ m :: [m].intercalate (q :: rest) := by
        rw [List.intercalate_cons_cons, List.append_assoc, List.singleton_append]
      rw [joined, segments_append_cons unmarked marked, ← behind]
      by_cases last : pieces = []
      · exact ⟨_, by rw [last, List.nil_append, List.singleton_append]⟩
      · obtain ⟨more, found⟩ := ih last fun r mem => plain r (List.mem_cons_of_mem p mem)
        exact ⟨more, by rw [found, List.cons_append]⟩

/-- A cut is made at the mark behind a piece without marks. -/
theorem cut?_append_cons (plain : ∀ a ∈ piece, mark a = false) {m : α} (marked : mark m = true)
    (rest : List α) : cut? mark (piece ++ m :: rest) = some (piece, rest) :=
  cut?_eq_some_iff.2 ⟨m, rfl, marked, plain⟩

theorem dropWhile_eq_self_of_head {l : List α} (stops : ∀ a ∈ l.head?, mark a = false) :
    l.dropWhile mark = l := by
  cases l with
  | nil => rfl
  | cons a l => exact List.dropWhile_cons_of_neg (by rw [stops a rfl]; exact Bool.false_ne_true)

/-- Exactly the marked elements in front are dropped. -/
theorem dropWhile_append_of_stops (marked : ∀ a ∈ piece, mark a = true) {rest : List α}
    (stops : ∀ a ∈ rest.head?, mark a = false) : (piece ++ rest).dropWhile mark = rest := by
  rw [List.dropWhile_append_of_pos marked, dropWhile_eq_self_of_head stops]

/-- Exactly the marked elements in front are taken. -/
theorem takeWhile_append_of_stops (marked : ∀ a ∈ piece, mark a = true) {rest : List α}
    (stops : ∀ a ∈ rest.head?, mark a = false) : (piece ++ rest).takeWhile mark = piece := by
  have none : rest.takeWhile mark = [] := by
    cases rest with
    | nil => rfl
    | cons a rest =>
      exact List.takeWhile_cons_of_neg (by rw [stops a rfl]; exact Bool.false_ne_true)
  rw [List.takeWhile_append_of_pos marked, none, List.append_nil]

/-- Exactly the marked elements at the end are dropped. -/
theorem dropEndWhile_append_of_stops (marked : ∀ a ∈ piece, mark a = true) {l : List α}
    (stops : ∀ a ∈ l.getLast?, mark a = false) : dropEndWhile mark (l ++ piece) = l := by
  have marked' : ∀ a ∈ piece.reverse, mark a = true := by
    intro a mem
    exact marked a (List.mem_reverse.1 mem)
  rw [dropEndWhile, List.reverse_append,
    dropWhile_append_of_stops marked' (by rwa [List.head?_reverse]), List.reverse_reverse]

/-- What is left does not begin with a marked element. -/
theorem head?_dropWhile_unmarked (l : List α) :
    ∀ a ∈ (l.dropWhile mark).head?, mark a = false := by
  intro a first
  have := List.head?_dropWhile_not mark l
  rw [first] at this
  simpa using this

/-- What is dropped at the end is marked, and what is left does not end with a marked element. -/
theorem exists_append_of_dropEndWhile (mark : α → Bool) (l : List α) :
    ∃ dropped, dropEndWhile mark l ++ dropped = l ∧ (∀ a ∈ dropped, mark a = true) ∧
      ∀ a ∈ (dropEndWhile mark l).getLast?, mark a = false := by
  refine ⟨(l.reverse.takeWhile mark).reverse, ?_, ?_, ?_⟩
  · rw [dropEndWhile, ← List.reverse_append, List.takeWhile_append_dropWhile, List.reverse_reverse]
  · intro a mem
    exact List.all_eq_true.1 List.all_takeWhile a (List.mem_reverse.1 mem)
  · rw [dropEndWhile, List.getLast?_reverse]
    exact head?_dropWhile_unmarked l.reverse

/-! ## Where a piece stands -/

/-- A piece stands in a sequence that is put together at an element outside the piece only if it
stands on one side of that element. -/
theorem infix_of_infix_append_cons {a : α} {l before after : List α}
    (inside : l <:+: before ++ a :: after) (absent : a ∉ l) : l <:+: before ∨ l <:+: after := by
  obtain ⟨front, back, eq⟩ := inside
  rw [List.append_assoc] at eq
  obtain ⟨more, before_eq, rest_eq⟩ | ⟨more, front_eq, rest_eq⟩ := List.append_eq_append_iff.1 eq
  · -- the piece begins in `before`
    obtain ⟨more', more_eq, -⟩ | ⟨more', l_eq, back_eq⟩ := List.append_eq_append_iff.1 rest_eq
    · exact .inl ⟨front, more', by rw [before_eq, more_eq, List.append_assoc]⟩
    · cases more' with
      | nil => exact .inl ⟨front, [], by rw [before_eq, l_eq, List.append_nil, List.append_nil]⟩
      | cons b more' =>
        obtain ⟨rfl, -⟩ := List.cons.inj back_eq
        exact absurd (l_eq ▸ List.mem_append_right more List.mem_cons_self) absent
  · -- the piece begins behind `before`
    cases more with
    | nil =>
      cases l with
      | nil => exact .inl List.nil_infix
      | cons b l =>
        obtain ⟨rfl, -⟩ := List.cons.inj rest_eq
        exact absurd List.mem_cons_self absent
    | cons b more =>
      obtain ⟨-, after_eq⟩ := List.cons.inj rest_eq
      exact .inr ⟨more, back, (List.append_assoc more l back).trans after_eq.symm⟩

/-- No segment holds a marked element. -/
theorem unmarked_of_mem_segments {l : List α} (mem : piece ∈ segments mark l) :
    ∀ a ∈ piece, mark a = false := by
  induction l generalizing piece with
  | nil =>
    rw [segments, List.mem_singleton] at mem
    rw [mem]
    exact fun a inside => absurd inside List.not_mem_nil
  | cons a l ih =>
    rw [segments] at mem
    split at mem
    next =>
      rcases List.mem_cons.1 mem with rfl | mem
      · exact fun a inside => absurd inside List.not_mem_nil
      · exact ih mem
    next plain =>
      obtain ⟨p, rest, pieces⟩ := List.exists_cons_of_ne_nil (segments_ne_nil mark l)
      rw [pieces] at mem ih
      rcases List.mem_cons.1 mem with rfl | mem
      · intro b inside
        rcases List.mem_cons.1 inside with rfl | inside
        · exact Bool.eq_false_iff.2 plain
        · exact ih List.mem_cons_self b inside
      · exact ih (List.mem_cons_of_mem p mem)

/-- **A sequence is split in one way only**: into pieces without the separator that make it up when
the separator stands between any two of them. -/
theorem segments_eq_iff [DecidableEq α] {sep : α} {l : List α} {pieces : List (List α)} :
    segments (· == sep) l = pieces ↔
      [sep].intercalate pieces = l ∧ pieces ≠ [] ∧ ∀ piece ∈ pieces, sep ∉ piece := by
  constructor
  · rintro rfl
    refine ⟨intercalate_segments sep l, segments_ne_nil _ l, fun piece mem inside => ?_⟩
    have unmarked := unmarked_of_mem_segments mem sep inside
    rw [beq_self_eq_true] at unmarked
    cases unmarked
  · rintro ⟨rfl, ne_nil, plain⟩
    refine segments_intercalate ?_ ne_nil fun piece mem => unmarked_of_notMem (plain piece mem)
    exact beq_self_eq_true sep

/-- In front of a piece stand the earlier ones, each with the separator behind it. -/
theorem intercalate_append_cons (sep : List α) (before : List (List α)) (p : List α)
    (after : List (List α)) : sep.intercalate (before ++ p :: after) =
      before.flatMap (· ++ sep) ++ sep.intercalate (p :: after) := by
  induction before with
  | nil => rfl
  | cons q before ih =>
    obtain ⟨r, rest, others⟩ := List.exists_cons_of_ne_nil
      (List.append_ne_nil_of_right_ne_nil before (List.cons_ne_nil p after))
    rw [others] at ih
    rw [List.cons_append, others, List.intercalate_cons_cons, ih, List.flatMap_cons]
    simp only [List.append_assoc]

theorem infix_intercalate {sep : List α} {pieces : List (List α)} (mem : piece ∈ pieces) :
    piece <:+: sep.intercalate pieces := by
  induction pieces with
  | nil => cases mem
  | cons p pieces ih =>
    cases pieces with
    | nil =>
      refine ⟨[], [], ?_⟩
      rw [List.mem_singleton.1 mem, List.intercalate_singleton, List.nil_append, List.append_nil]
    | cons q pieces =>
      rw [List.intercalate_cons_cons, List.append_assoc]
      rcases List.mem_cons.1 mem with rfl | mem
      · exact (List.prefix_append _ _).isInfix
      · exact (ih mem).trans (((List.suffix_append _ _).trans (List.suffix_append _ _)).isInfix)

/-- Every segment of a sequence is a part of it. -/
theorem infix_of_mem_segments [DecidableEq α] {sep : α} {l : List α}
    (mem : piece ∈ segments (· == sep) l) : piece <:+: l := by
  have inside : piece <:+: [sep].intercalate (segments (· == sep) l) := infix_intercalate mem
  rwa [intercalate_segments] at inside

end DeviceHttp
