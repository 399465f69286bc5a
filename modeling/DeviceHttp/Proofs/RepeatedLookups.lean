import DeviceHttp.Lookup

/-!
# Lookups with one scratch area

A handler asks for one parameter after another, and all of its lookups put their values together in
the same scratch area. Some of them empty the area before they know whether they will find anything,
others leave it as it was, and the mark that a value was cut stays behind with the value.

**None of this shows**: in every sequence of lookups, over any requests and keys, each one answers
what it would have answered with an area of its own (`Lookup.answersAfresh`). A lookup in all three
places answers what the first place does that has the key at all, also when an earlier one had to
give up on the way.

## Main statements

* `Lookup.answersAfresh` — answers depend on the questions alone
* `Lookup.pushDecoded_eq` — what the area holds of a decoded value, and when it is marked
* `Lookup.length_value_le_of_inPlace` — a value that was found fits into the area

## How

Looking in one place has two ends. Either the place has the key, and then the area is written anew
and nothing of it is kept, or it does not, and then nobody reads what is left in the area. So two
areas that differ give results that agree as far as the answer goes (`Lookup.fill_alike`), which is
the step of the inductions on the places and on the questions.
-/

namespace DeviceHttp

namespace Lookup

variable {request : Request} {key : String}

/-! ## Decoded values -/

/-- All bytes that an encoded value stands for. -/
def decoded : Bytes → Bytes
  | [] => []
  | b :: rest => (decodeFirst b rest).1 :: decoded (decodeFirst b rest).2
termination_by raw => raw.length
decreasing_by
  have := length_decodeFirst_le b rest
  simp only [List.length_cons]
  omega

/-- **The area holds as many decoded bytes as fit**, and it is marked exactly when there are more of
them. -/
theorem pushDecoded_eq (area : Lookup) (raw : Bytes) (fits : area.scratch.length ≤ capacity) :
    area.pushDecoded raw =
      { scratch := (area.scratch ++ decoded raw).take capacity
        cut := area.cut || decide (capacity < (area.scratch ++ decoded raw).length) } := by
  induction area, raw using pushDecoded.induct with
  | case1 area =>
    rw [pushDecoded, decoded, List.append_nil, List.take_of_length_le fits,
      decide_eq_false (Nat.not_lt.2 fits), Bool.or_false]
  | case2 area b rest room ih =>
    have fits' : (area.scratch ++ [(decodeFirst b rest).1]).length ≤ capacity := by
      rw [List.length_append, List.length_singleton]
      exact room
    rw [pushDecoded, if_pos room, ih fits', decoded]
    simp only [List.append_assoc, List.singleton_append]
  | case3 area b rest full =>
    have filled : area.scratch.length = capacity := by omega
    have longer : capacity < (area.scratch ++ decoded (b :: rest)).length := by
      rw [List.length_append, decoded, List.length_cons]
      omega
    rw [pushDecoded, if_neg full, decide_eq_true longer, Bool.or_true, ← filled,
      List.take_left]

/-! ## One place -/

/-- What is put into the area fits into it. -/
theorem length_scratch_le_of_fill {area filled : Lookup} {origin : Origin}
    (found : area.fill request key origin = (true, filled)) :
    filled.scratch.length ≤ capacity := by
  have ofPairs : ∀ {data : Bytes}, area.inPairs data key = (true, filled) →
      filled.scratch.length ≤ capacity := by
    intro data inPairs
    unfold Lookup.inPairs at inPairs
    split at inPairs
    · obtain ⟨-, rfl⟩ := Prod.mk.inj inPairs
      rw [pushDecoded_eq _ _ (Nat.zero_le _)]
      exact List.length_take_le _ _
    · exact absurd (Prod.mk.inj inPairs).1 Bool.false_ne_true
  have ofValue : ∀ s : String, (ofText s).scratch.length ≤ capacity := by
    intro s
    unfold ofText BoundedText.octets
    rw [Utf8.length_encode]
    exact BoundedText.fits _
  unfold fill at found
  split at found
  · exact ofPairs found
  · split at found
    · exact ofPairs found
    · exact absurd (Prod.mk.inj found).1 Bool.false_ne_true
  · split at found
    · split at found
      · next value _ =>
        cases value <;> simp only [ofJson, Prod.mk.injEq, Bool.false_eq_true, false_and] at found
        all_goals
          rw [← found.2]
          exact ofValue _
      · exact absurd (Prod.mk.inj found).1 Bool.false_ne_true
    · exact absurd (Prod.mk.inj found).1 Bool.false_ne_true

/-- Two areas are filled alike, or else the key is not found with either. -/
theorem fill_alike (area other : Lookup) (request : Request) (key : String) (origin : Origin) :
    area.fill request key origin = other.fill request key origin ∨
      (area.fill request key origin).1 = false ∧ (other.fill request key origin).1 = false := by
  have pairs : ∀ data : Bytes, area.inPairs data key = other.inPairs data key ∨
      (area.inPairs data key).1 = false ∧ (other.inPairs data key).1 = false := by
    intro data
    unfold inPairs
    split
    · exact .inl rfl
    · exact .inr ⟨rfl, rfl⟩
  unfold fill
  split
  · exact pairs _
  · split
    · exact pairs _
    · exact .inr ⟨rfl, rfl⟩
  · split
    · -- A value of a kind that cannot be looked up empties the area, whatever it held.
      split
      · exact .inl rfl
      · exact .inr ⟨rfl, rfl⟩
    · exact .inr ⟨rfl, rfl⟩

theorem isSome_inPlace (area : Lookup) (request : Request) (key : String) (origin : Origin) :
    (area.inPlace request key origin).1.isSome = (area.fill request key origin).1 := by
  unfold inPlace
  split <;> next filled => rw [filled]; rfl

theorem inPlace_of_fill {area filled : Lookup} {origin : Origin}
    (found : area.fill request key origin = (true, filled)) :
    area.inPlace request key origin = (some ⟨filled.scratch, origin, filled.cut⟩, filled) := by
  rw [inPlace, found]

theorem inPlace_of_missed {area : Lookup} {origin : Origin}
    (missed : (area.fill request key origin).1 = false) :
    (area.inPlace request key origin).1 = none := by
  unfold inPlace
  split
  · next found => exact absurd (missed.symm.trans (congrArg Prod.fst found)) Bool.false_ne_true
  · rfl

/-- A lookup in one place does not depend on the area. -/
theorem inPlace_alike (area other : Lookup) (request : Request) (key : String) (origin : Origin) :
    (area.inPlace request key origin).1 = (other.inPlace request key origin).1 := by
  obtain same | ⟨missed, missed'⟩ := fill_alike area other request key origin
  · rw [inPlace, inPlace, same]
  · rw [inPlace_of_missed missed, inPlace_of_missed missed']

/-- Requests with which every area is filled alike are answered alike. -/
theorem inPlace_congr {other : Request} {origin : Origin}
    (same : ∀ area : Lookup, area.fill other key origin = area.fill request key origin)
    (area area' : Lookup) :
    (area'.inPlace other key origin).1 = (area.inPlace request key origin).1 := by
  rw [inPlace_alike area area' request key origin, inPlace, inPlace, same]

/-- A value that was found in one place fits into the area. -/
theorem length_value_le_of_inPlace {area : Lookup} {origin : Origin} {found : Found}
    (held : (area.inPlace request key origin).1 = some found) :
    found.value.length ≤ capacity := by
  unfold inPlace at held
  split at held
  · next filled =>
    rw [← Option.some.inj held]
    exact length_scratch_le_of_fill filled
  · contradiction

/-! ## Several places -/

/-- The lookup in several places answers what the first one that has the key answers alone. -/
theorem inPlaces_eq_findSome? (area : Lookup) (request : Request) (key : String)
    (origins : List Origin) :
    (area.inPlaces request key origins).1 =
      origins.findSome? fun origin => (({} : Lookup).inPlace request key origin).1 := by
  induction origins generalizing area with
  | nil => rfl
  | cons origin others ih =>
    have alone := inPlace_alike area {} request key origin
    rw [List.findSome?_cons, ← alone]
    unfold inPlaces
    split
    · next held => rw [held]
    · next left held =>
      -- The area that was left goes to the other places, and the induction is about any area.
      rw [held]
      exact ih left

theorem length_value_le_of_anywhere {area : Lookup} {found : Found}
    (held : (area.anywhere request key).1 = some found) : found.value.length ≤ capacity := by
  rw [anywhere, inPlaces_eq_findSome?] at held
  obtain ⟨origin, -, inOne⟩ := List.exists_of_findSome?_eq_some held
  exact length_value_le_of_inPlace inOne

/-! ## Sequences of lookups -/

/-- The ways to look up a parameter. -/
inductive Scope where
  | anywhere
  | query
  | form
  | json
deriving DecidableEq, Repr

/-- A lookup that a handler makes. -/
structure Question where
  request : Request
  key : String
  scope : Scope

/-- Makes one lookup with the scratch area. -/
def ask (area : Lookup) (question : Question) : Option Found × Lookup :=
  match question.scope with
  | .anywhere => area.anywhere question.request question.key
  | .query => area.inQuery question.request question.key
  | .form => area.inForm question.request question.key
  | .json => area.inJson question.request question.key

/-- Makes lookups one after another, each with the area as the one before left it. -/
def askAll (area : Lookup) : List Question → List (Option Found) × Lookup
  | [] => ([], area)
  | question :: later =>
    let (answer, area) := area.ask question
    let (answers, area) := area.askAll later
    (answer :: answers, area)

/-- The answer to one question does not depend on the area. -/
theorem ask_alike (area other : Lookup) (question : Question) :
    (area.ask question).1 = (other.ask question).1 := by
  unfold ask
  split
  · rw [anywhere, anywhere, inPlaces_eq_findSome?, inPlaces_eq_findSome?]
  · apply inPlace_alike
  · apply inPlace_alike
  · apply inPlace_alike

/-- Lookups with a scratch area answer as if each of them had an area of its own. -/
structure AnswersAfresh (area : Lookup) : Prop where
  /-- In a sequence of lookups, each answer is the one to its question alone: the same value, from
  the same place, with the same mark. -/
  each : ∀ questions : List Question,
    (area.askAll questions).1 = questions.map fun question => (({} : Lookup).ask question).1
  /-- A lookup in all places answers what the first place with the key answers alone. -/
  first : ∀ (request : Request) (key : String),
    (area.anywhere request key).1 =
      ((({} : Lookup).inQuery request key).1.or
        ((({} : Lookup).inForm request key).1.or
          (({} : Lookup).inJson request key).1))

/-- **A lookup does not depend on earlier ones**, whatever the scratch area holds when the first of
them is made. -/
theorem answersAfresh (area : Lookup) : area.AnswersAfresh := by
  constructor
  · intro questions
    -- Each lookup leaves an area that the next one begins with, so the induction is about any area.
    induction questions generalizing area with
    | nil => rfl
    | cons question later ih =>
      change (area.ask question).1 :: ((area.ask question).2.askAll later).1 = _
      rw [List.map_cons, ih, ask_alike area {} question]
  · intro request key
    rw [anywhere, inPlaces_eq_findSome?]
    simp only [List.findSome?_cons, List.findSome?_nil, inQuery, inForm, inJson]
    cases (({} : Lookup).inPlace request key .query).1 <;>
      cases (({} : Lookup).inPlace request key .form).1 <;>
      cases (({} : Lookup).inPlace request key .json).1 <;> rfl

end Lookup

end DeviceHttp
