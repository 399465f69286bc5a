/-!
# Pieces of a sequence

Splitting at the elements that a test marks, and taking off a beginning or an end. Tokens of a
request line, pairs of a query, parameters of a header value and addresses are all taken apart this
way, some of them on octets and some on characters.

## Main definitions

* `segments` — every piece between two marked elements
* `cut?` — the pieces before and after the first marked element
* `dropStart?` — what follows a given beginning
* `dropEndWhile` — what is left without the elements at the end that a test marks
-/

namespace DeviceHttp

universe u

variable {α : Type u}

/-- Puts an element in front of the first piece. -/
def consFirst (a : α) : List (List α) → List (List α)
  | [] => [[a]]
  | piece :: rest => (a :: piece) :: rest

/-- The pieces between the marked elements, so one more than there are marks. -/
def segments (mark : α → Bool) : List α → List (List α)
  | [] => [[]]
  | a :: rest => if mark a then [] :: segments mark rest else consFirst a (segments mark rest)

/-- The pieces before and after the first marked element. -/
def cut? (mark : α → Bool) : List α → Option (List α × List α)
  | [] => none
  | a :: rest =>
    if mark a then some ([], rest)
    else (cut? mark rest).map fun (before, after) => (a :: before, after)

/-- The elements up to the last one that is not marked. -/
def dropEndWhile (mark : α → Bool) (l : List α) : List α := (l.reverse.dropWhile mark).reverse

section Start

variable [DecidableEq α]

/-- What follows the given beginning, if the sequence starts with it. -/
def dropStart? : (start l : List α) → Option (List α)
  | [], l => some l
  | _ :: _, [] => none
  | s :: start, a :: l => if s = a then dropStart? start l else none

/-- Whether the sequence starts with `start`. -/
def startsWith (start l : List α) : Bool := (dropStart? start l).isSome

/-- Whether the sequence ends with `stop`. -/
def endsWith (stop l : List α) : Bool := startsWith stop.reverse l.reverse

theorem dropStart?_append (start l : List α) : dropStart? start (start ++ l) = some l := by
  induction start with
  | nil => rfl
  | cons s start ih => simp [dropStart?, ih]

theorem dropStart?_eq_some_iff {start l rest : List α} :
    dropStart? start l = some rest ↔ l = start ++ rest := by
  constructor
  · intro h
    fun_induction dropStart? start l with
    | case1 => simpa using h
    | case2 => simp at h
    | case3 s start l ih => simp [ih h]
    | case4 => simp at h
  · rintro rfl
    exact dropStart?_append start rest

theorem startsWith_iff {start l : List α} :
    startsWith start l = true ↔ ∃ rest, l = start ++ rest := by
  simp only [startsWith, Option.isSome_iff_exists, dropStart?_eq_some_iff]

theorem endsWith_iff {stop l : List α} : endsWith stop l = true ↔ ∃ rest, l = rest ++ stop := by
  rw [endsWith, startsWith_iff]
  constructor
  · rintro ⟨rest, h⟩
    exact ⟨rest.reverse, by simpa using congrArg List.reverse h⟩
  · rintro ⟨rest, rfl⟩
    exact ⟨rest.reverse, by simp⟩

end Start

theorem segments_ne_nil (mark : α → Bool) (l : List α) : segments mark l ≠ [] := by
  cases l with
  | nil => simp [segments]
  | cons a rest =>
    simp only [segments]
    split
    · simp
    · cases segments mark rest <;> simp [consFirst]

theorem intercalate_consFirst {sep : List α} {a : α} {pieces : List (List α)} (h : pieces ≠ []) :
    sep.intercalate (consFirst a pieces) = a :: sep.intercalate pieces := by
  cases pieces with
  | nil => exact absurd rfl h
  | cons piece rest => cases rest <;> simp [consFirst, List.intercalate]

/-- The pieces with the separator between them are the sequence. -/
theorem intercalate_segments [DecidableEq α] (sep : α) (l : List α) :
    [sep].intercalate (segments (· == sep) l) = l := by
  induction l with
  | nil => rfl
  | cons a rest ih =>
    simp only [segments, beq_iff_eq]
    split
    next eq =>
      subst eq
      cases pieces : segments (· == a) rest with
      | nil => exact absurd pieces (segments_ne_nil _ _)
      | cons piece others =>
        rw [pieces] at ih
        cases others <;> simp_all [List.intercalate]
    next => rw [intercalate_consFirst (segments_ne_nil _ _), ih]

/-- A cut takes out exactly one marked element, and none lies before it. -/
theorem cut?_eq_some_iff {mark : α → Bool} {l before after : List α} :
    cut? mark l = some (before, after) ↔
      ∃ m, l = before ++ m :: after ∧ mark m = true ∧ ∀ a ∈ before, mark a = false := by
  induction l generalizing before with
  | nil => simp [cut?]
  | cons a rest ih =>
    by_cases h : mark a = true
    · simp only [cut?, h, if_true, Option.some.injEq, Prod.mk.injEq]
      constructor
      · rintro ⟨rfl, rfl⟩
        exact ⟨a, rfl, h, by simp⟩
      · rintro ⟨m, hl, hm, hb⟩
        cases before with
        | nil => simp at hl; simp [hl.2]
        | cons x xs =>
          simp only [List.cons_append, List.cons.injEq] at hl
          have := hb x (by simp)
          simp [← hl.1, h] at this
    · simp only [cut?, h, Bool.false_eq_true, if_false, Option.map_eq_some_iff, Prod.exists,
        Prod.mk.injEq]
      constructor
      · rintro ⟨b, c, hbc, rfl, rfl⟩
        obtain ⟨m, hl, hm, hb⟩ := ih.1 hbc
        refine ⟨m, by simp [hl], hm, ?_⟩
        intro x hx
        rcases List.mem_cons.1 hx with rfl | hx
        · simpa using h
        · exact hb x hx
      · rintro ⟨m, hl, hm, hb⟩
        cases before with
        | nil => simp at hl; simp [hl.1, hm] at h
        | cons x xs =>
          simp only [List.cons_append, List.cons.injEq] at hl
          have found := ih.2 ⟨m, hl.2, hm, fun y hy => hb y (by simp [hy])⟩
          exact ⟨xs, after, found, by simp [hl.1], rfl⟩

/-- There is nothing to cut exactly when nothing is marked. -/
theorem cut?_eq_none_iff {mark : α → Bool} {l : List α} :
    cut? mark l = none ↔ ∀ a ∈ l, mark a = false := by
  induction l with
  | nil => simp [cut?]
  | cons a rest ih =>
    by_cases h : mark a = true
    · simp [cut?, h]
    · simp [cut?, h, ih]

end DeviceHttp
