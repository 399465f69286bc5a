import DeviceHttp.Proofs.Octets
import DeviceHttp.Text.BoundedText

/-!
# The longest copy that fits

A place of limited size takes the beginning of a text that is too long for it, and the cut must not
fall within a character. `Utf8.IsLongestFitting` says which beginning is meant, and there are two
ways to find it.

* **From the front.** Characters are taken as long as there is room (`fittingChars`), which is how
  a bounded text is made.
* **From the limit.** A device has nothing but the octets. It begins at the limit and goes back until
  it stands at a boundary between characters (`Utf8.lastBoundary?`).

**Both find the same** (`Utf8.lastBoundary?_encodeChars`), and a bounded text made of a text is its
longest copy, marked exactly when something is missing (`BoundedText.isCopyOf_iff`). A device searches
for the cut and stores the octets in front of it (`BoundedText.copyOctets?`). They are those of the
bounded text, and no more of the text would fit (`BoundedText.copies_longest`).

## How

A boundary is recognised by the octet that follows it, which opens a character and continues none.
In the encoding of a text these are the places where a beginning of the text ends
(`Utf8.isBoundary_encodeChars_iff`). So the boundaries up to the limit are the sizes of the
beginnings that fit, and the last one belongs to the longest.
-/

namespace DeviceHttp

namespace Utf8

/-! ## Beginnings that fit -/

/-- The longest beginning of a text that takes at most `room` octets. -/
structure IsLongestFitting (room : Nat) (cs kept : List Char) : Prop where
  begins : kept <+: cs
  fits : size kept ≤ room
  longest : ∀ other, other <+: cs → size other ≤ room → other <+: kept

variable {room : Nat} {cs kept : List Char}

theorem size_le_of_begins (begins : kept <+: cs) : size kept ≤ size cs := by
  obtain ⟨rest, rfl⟩ := begins
  rw [size_append]
  exact Nat.le_add_right _ _

/-- Only a beginning that is not the whole text takes fewer octets. -/
theorem size_lt_iff_of_begins (begins : kept <+: cs) : size kept < size cs ↔ kept ≠ cs := by
  obtain ⟨rest, rfl⟩ := begins
  rw [size_append, ne_eq, List.self_eq_append_right]
  cases rest with
  | nil => exact iff_of_false (Nat.lt_irrefl _) (not_not_intro rfl)
  | cons c rest =>
    have pos := c.utf8Size_pos
    rw [size_cons]
    exact iff_of_true (by omega) (List.cons_ne_nil c rest)

theorem isPrefix_fittingChars {other : List Char} (begins : other <+: cs)
    (fits : size other ≤ room) : other <+: fittingChars room cs := by
  induction other generalizing room cs with
  | nil => exact List.nil_prefix
  | cons c other ih =>
    obtain ⟨rest, rfl⟩ := begins
    rw [size_cons] at fits
    rw [List.cons_append, fittingChars, if_pos (by omega)]
    exact List.cons_prefix_cons.2 ⟨rfl, ih (List.prefix_append other rest) (by omega)⟩

theorem isLongestFitting_fittingChars (room : Nat) (cs : List Char) :
    IsLongestFitting room cs (fittingChars room cs) where
  begins := ⟨_, fittingChars_append_drop room cs⟩
  fits := size_fittingChars_le room cs
  longest _ := isPrefix_fittingChars

/-- There is only one longest beginning. -/
theorem isLongestFitting_iff : IsLongestFitting room cs kept ↔ fittingChars room cs = kept := by
  have found := isLongestFitting_fittingChars room cs
  constructor
  · intro h
    have shorter := h.longest _ found.begins found.fits
    exact shorter.eq_of_length_le (found.longest _ h.begins h.fits).length_le
  · rintro rfl
    exact found

namespace IsLongestFitting

/-- A text that fits is kept as a whole. -/
theorem eq_self_iff (h : IsLongestFitting room cs kept) : kept = cs ↔ size cs ≤ room := by
  rw [← isLongestFitting_iff.1 h, fittingChars_eq_self_iff]

/-- No more than three octets stay free in front of a character that does not fit. -/
theorem lt_size_add_four (h : IsLongestFitting room cs kept) (long : room < size cs) :
    room < size kept + 4 := by
  obtain rfl := isLongestFitting_iff.1 h
  have whole := fittingChars_append_drop room cs
  cases rest : cs.drop (fittingChars room cs).length with
  | nil =>
    rw [rest, List.append_nil, fittingChars_eq_self_iff] at whole
    omega
  | cons c rest =>
    have full := lt_size_add_of_drop_fittingChars rest
    have narrow := c.utf8Size_le_four
    omega

end IsLongestFitting

/-- Of ASCII text as many characters are kept as there are octets of room. -/
theorem fittingChars_of_ascii (ascii : ∀ c ∈ cs, c.toNat ≤ 127) (room : Nat) :
    fittingChars room cs = cs.take room := by
  induction cs generalizing room with
  | nil => rw [fittingChars, List.take_nil]
  | cons c cs ih =>
    have narrow : c.utf8Size = 1 := by
      rw [← String.length_utf8EncodeChar c, encodeChar_of_ascii (ascii c List.mem_cons_self)]
      rfl
    have later := ih fun d mem => ascii d (List.mem_cons_of_mem c mem)
    cases room with
    | zero => rw [fittingChars, if_neg (by omega), List.take_zero]
    | succ room =>
      rw [fittingChars, if_pos (by omega), narrow, Nat.add_sub_cancel, later, List.take_succ_cons]

/-! ## Boundaries between characters -/

/-- Whether a place in an encoding lies between characters: at either end, or in front of an octet
that continues no character. -/
def isBoundary (b : Bytes) (i : Nat) : Bool :=
  i = 0 || match b[i]? with
    | some octet => !isContinuation octet
    | none => i = b.length

/-- The last boundary up to a place. There is no result if the search goes back beyond the start. -/
def lastBoundary? (b : Bytes) : Nat → Option Nat
  | 0 => if isBoundary b 0 then some 0 else none
  | i + 1 => if isBoundary b (i + 1) then some (i + 1) else lastBoundary? b i

/-- The octets up to a place, if that is a boundary. -/
def upTo? (b : Bytes) (i : Nat) : Option Bytes := if isBoundary b i then some (b.take i) else none

/-- Of the octets of a character, all but the first one continue it. -/
theorem exists_encodeChar_eq_cons (c : Char) :
    ∃ lead more, String.utf8EncodeChar c = lead :: more ∧ isContinuation lead = false ∧
      ∀ b ∈ more, isContinuation b = true := by
  have opens : ∀ n : Nat, n < 128 ∨ 192 ≤ n → n < 256 → isContinuation (UInt8.ofNat n) = false := by
    intro n range small
    simp only [isContinuation, Bool.and_eq_false_iff, decide_eq_false_iff_not,
      UInt8.le_iff_toNat_le, UInt8.toNat_ofNat', UInt8.reduceToNat]
    omega
  have continues : ∀ n : Nat, isContinuation (UInt8.ofNat (n % 64 + 128)) = true := by
    intro n
    simp only [isContinuation, Bool.and_eq_true, decide_eq_true_eq, UInt8.le_iff_toNat_le,
      UInt8.toNat_ofNat', UInt8.reduceToNat]
    omega
  have all_continue : ∀ ns : List Nat,
      ∀ b ∈ ns.map fun n => UInt8.ofNat (n % 64 + 128), isContinuation b = true := by
    intro ns b mem
    obtain ⟨n, -, rfl⟩ := List.mem_map.1 mem
    exact continues n
  -- the cases are those of one, two, three and four octets
  rw [String.utf8EncodeChar]
  generalize c.val.toNat = v
  split
  · exact ⟨_, [], rfl, opens v (by omega) (by omega), all_continue []⟩
  · split
    · exact ⟨_, _, rfl, opens _ (by omega) (by omega), all_continue [v]⟩
    · split
      · exact ⟨_, _, rfl, opens _ (by omega) (by omega), all_continue [v / 64, v]⟩
      · exact ⟨_, _, rfl, opens _ (by omega) (by omega), all_continue [v / 4096, v / 64, v]⟩

theorem isBoundary_zero (b : Bytes) : isBoundary b 0 = true := rfl

/-- There is no boundary within the octets of a character. -/
theorem isBoundary_within {c : Char} {rest : Bytes} {i : Nat} (pos : 0 < i)
    (within : i < c.utf8Size) : isBoundary (String.utf8EncodeChar c ++ rest) i = false := by
  obtain ⟨lead, more, eq, -, continued⟩ := exists_encodeChar_eq_cons c
  have length : more.length + 1 = c.utf8Size := by
    rw [← String.length_utf8EncodeChar c, eq, List.length_cons]
  obtain ⟨j, rfl⟩ : ∃ j, i = j + 1 := ⟨i - 1, by omega⟩
  have inside : j < more.length := by omega
  rw [isBoundary, eq, List.cons_append, List.getElem?_cons_succ, List.getElem?_append_left inside,
    List.getElem?_eq_getElem inside]
  simp [continued _ (List.getElem_mem inside)]

/-- Behind a character, the boundaries are those of what follows. -/
theorem isBoundary_behind (c : Char) (cs : List Char) (i : Nat) :
    isBoundary (String.utf8EncodeChar c ++ encodeChars cs) (c.utf8Size + i) =
      isBoundary (encodeChars cs) i := by
  have pos := c.utf8Size_pos
  have length := String.length_utf8EncodeChar c
  have at_i : (String.utf8EncodeChar c ++ encodeChars cs)[c.utf8Size + i]? =
      (encodeChars cs)[i]? := by
    rw [List.getElem?_append_right (by omega)]
    congr 1
    omega
  rw [isBoundary, isBoundary, at_i]
  cases i with
  | succ i =>
    rw [List.length_append, length]
    simp
  | zero =>
    -- the next character opens with an octet that continues none
    cases cs with
    | nil => simp [length]
    | cons d cs =>
      obtain ⟨lead, more, eq, opens, -⟩ := exists_encodeChar_eq_cons d
      simp [encodeChars_cons, eq, opens]

/-- **The boundaries in an encoding are the places where a beginning of the text ends.** -/
theorem isBoundary_encodeChars_iff {i : Nat} :
    isBoundary (encodeChars cs) i = true ↔ ∃ front, front <+: cs ∧ size front = i := by
  induction cs generalizing i with
  | nil =>
    simp only [List.prefix_nil, exists_eq_left, size_nil, encodeChars_nil]
    cases i <;> simp [isBoundary]
  | cons c cs ih =>
    rw [encodeChars_cons]
    rcases Nat.eq_zero_or_pos i with rfl | pos
    · exact iff_of_true (isBoundary_zero _) ⟨[], List.nil_prefix, rfl⟩
    rcases Nat.lt_or_ge i c.utf8Size with within | behind
    · rw [isBoundary_within pos within]
      refine iff_of_false Bool.false_ne_true ?_
      rintro ⟨front, begins, rfl⟩
      cases front with
      | nil => exact absurd pos (Nat.lt_irrefl 0)
      | cons d front =>
        obtain ⟨rfl, -⟩ := List.cons_prefix_cons.1 begins
        rw [size_cons] at within
        omega
    · obtain ⟨j, rfl⟩ := Nat.exists_eq_add_of_le behind
      rw [isBoundary_behind, ih]
      constructor
      · rintro ⟨front, begins, rfl⟩
        exact ⟨c :: front, List.cons_prefix_cons.2 ⟨rfl, begins⟩, rfl⟩
      · rintro ⟨front, begins, total⟩
        cases front with
        | nil =>
          rw [size_nil] at total
          omega
        | cons d front =>
          obtain ⟨rfl, inner⟩ := List.cons_prefix_cons.1 begins
          rw [size_cons] at total
          exact ⟨front, inner, by omega⟩

/-- The search stops at a boundary with no other one up to the limit. -/
theorem lastBoundary?_eq_some {b : Bytes} {last limit : Nat} (boundary : isBoundary b last = true)
    (within : last ≤ limit)
    (none : ∀ i, last < i → i ≤ limit → isBoundary b i = false) :
    lastBoundary? b limit = some last := by
  induction limit with
  | zero =>
    obtain rfl := Nat.le_zero.1 within
    rw [lastBoundary?, if_pos boundary]
  | succ limit ih =>
    rcases Nat.lt_or_eq_of_le within with before | rfl
    · rw [lastBoundary?, none _ before (Nat.le_refl _), if_neg Bool.false_ne_true]
      exact ih (Nat.le_of_lt_succ before) fun i after below => none i after (by omega)
    · rw [lastBoundary?, if_pos boundary]

/-- **Going back from the limit ends where the longest beginning that fits does**, and never goes
back beyond the start. -/
theorem lastBoundary?_encodeChars (room : Nat) (cs : List Char) :
    lastBoundary? (encodeChars cs) (min (size cs) room) = some (size (fittingChars room cs)) := by
  have longest := isLongestFitting_fittingChars room cs
  apply lastBoundary?_eq_some
  · exact isBoundary_encodeChars_iff.2 ⟨_, longest.begins, rfl⟩
  · have := size_le_of_begins longest.begins
    have := longest.fits
    omega
  · intro i after below
    rw [Bool.eq_false_iff, ne_eq, isBoundary_encodeChars_iff]
    rintro ⟨front, begins, rfl⟩
    have := size_le_of_begins (longest.longest front begins (by omega))
    omega

/-- The octets up to the end of a beginning are its encoding. -/
theorem take_size_encodeChars (begins : kept <+: cs) :
    (encodeChars cs).take (size kept) = encodeChars kept := by
  obtain ⟨rest, rfl⟩ := begins
  rw [encodeChars_append, List.take_left' (length_encodeChars kept)]

end Utf8

/-! ## Bounded texts -/

namespace BoundedText

variable {capacity : Nat} {s : String}

/-- The longest copy of a text that fits, with a mark if it is not the whole text. -/
structure IsCopyOf (b : BoundedText capacity) (cs : List Char) : Prop where
  longest : Utf8.IsLongestFitting capacity cs b.text.toList
  cut_iff : b.cut = true ↔ b.text.toList ≠ cs

/-- The text that is stored of a text. -/
theorem toList_text_ofString :
    (ofString s : BoundedText capacity).text.toList = fittingChars capacity s.toList :=
  String.toList_ofList

theorem isCopyOf_ofString (s : String) :
    (ofString s : BoundedText capacity).IsCopyOf s.toList where
  longest := Utf8.isLongestFitting_iff.2 toList_text_ofString.symm
  cut_iff := by
    rw [cut_ofString_iff, ne_eq, ne_eq, String.toList_inj]

theorem prefix_text_ofString :
    (ofString s : BoundedText capacity).text.toList <+: s.toList :=
  (isCopyOf_ofString s).longest.begins

/-- A copy of a copy is the same. -/
theorem text_ofString_text :
    (ofString (ofString s : BoundedText capacity).text : BoundedText capacity).text =
      (ofString s : BoundedText capacity).text :=
  text_copyOf_of_fits (ofString s).fits

/-- A copy of what is stored differs from it in the mark alone. -/
theorem ofString_text (b : BoundedText capacity) : ofString b.text = { b with cut := false } := by
  have text : (ofString b.text : BoundedText capacity).text = b.text := text_copyOf_of_fits b.fits
  have uncut : (ofString b.text : BoundedText capacity).cut = false :=
    decide_eq_false (Nat.not_lt.2 b.fits)
  generalize (ofString b.text : BoundedText capacity) = again at text uncut
  obtain ⟨text', cut', fits'⟩ := again
  cases text
  cases uncut
  rfl

theorem text_ofString_eq_self_iff :
    (ofString s : BoundedText capacity).text = s ↔ s.utf8ByteSize ≤ capacity :=
  ⟨fun same => same ▸ (ofString s).fits, text_copyOf_of_fits⟩

/-- A copy with room for one more character is the whole text. -/
theorem text_ofString_of_room
    (room : (ofString s : BoundedText capacity).text.utf8ByteSize + 4 ≤ capacity) :
    (ofString s : BoundedText capacity).text = s := by
  rw [text_ofString_eq_self_iff, Utf8.utf8ByteSize_eq_size]
  refine Nat.not_lt.1 fun long => ?_
  have full := (isCopyOf_ofString s).longest.lt_size_add_four long
  rw [← Utf8.utf8ByteSize_eq_size] at full
  omega

/-- **A bounded text made of a text is its longest copy**, and the only one. -/
theorem isCopyOf_iff {b : BoundedText capacity} {cs : List Char} :
    b.IsCopyOf cs ↔ ofString (String.ofList cs) = b := by
  have made : (ofString (String.ofList cs) : BoundedText capacity).IsCopyOf cs := by
    have copy : (ofString (String.ofList cs) : BoundedText capacity).IsCopyOf
        (String.ofList cs).toList := isCopyOf_ofString (String.ofList cs)
    rwa [String.toList_ofList] at copy
  constructor
  · intro copy
    have text : (ofString (String.ofList cs) : BoundedText capacity).text = b.text := by
      rw [← String.toList_inj, ← Utf8.isLongestFitting_iff.1 made.longest,
        Utf8.isLongestFitting_iff.1 copy.longest]
    have cut : (ofString (String.ofList cs) : BoundedText capacity).cut = b.cut := by
      rw [Bool.eq_iff_iff, made.cut_iff, copy.cut_iff, text]
    generalize (ofString (String.ofList cs) : BoundedText capacity) = other at text cut
    obtain ⟨text', cut', fits'⟩ := other
    cases text
    cases cut
    rfl
  · rintro rfl
    exact made

/-! ## Copying octets -/

/-- A place for so many octets takes what fits as a whole, and nothing of anything else. -/
def store (capacity : Nat) (b : Bytes) : Bytes := if b.length ≤ capacity then b else []

/-- Copies the octets of a text, with a mark if some are missing. The cut is searched for from the
limit, and there is no result without a boundary at which the octets may be cut. -/
def copyOctets? (capacity : Nat) (b : Bytes) : Option (Bytes × Bool) := do
  let stop ← Utf8.lastBoundary? b (min b.length capacity)
  let kept ← Utf8.upTo? b stop
  return (store capacity kept, decide (stop < b.length))

/-- What a copy of a text is for, octet by octet and character by character. -/
structure CopiesLongest (capacity : Nat) (s : String) (b : BoundedText capacity) : Prop where
  /-- The search for the cut does not fail, and it leaves the copy. -/
  copied : copyOctets? capacity (Utf8.encode s) = some (b.octets, b.cut)
  copy : b.IsCopyOf s.toList
  /-- The octets end between two characters of the text. -/
  ends : Utf8.isBoundary (Utf8.encode s) b.octets.length = true
  /-- No more of the text fits. -/
  longest : ∀ kept, kept <+: Utf8.encode s → kept.length ≤ capacity →
    Utf8.isBoundary (Utf8.encode s) kept.length = true → kept <+: b.octets
  cut_iff : b.cut = true ↔ b.octets.length < (Utf8.encode s).length
  /-- No more than three octets stay free, since no character takes more than four. -/
  nearlyFull : b.cut = true → capacity < b.octets.length + 4
  /-- A copy of the copy differs in the mark alone. -/
  again : ofString b.text = { b with cut := false }
  again_eq_iff : ofString b.text = b ↔ b.cut = false

theorem length_octets (b : BoundedText capacity) : b.octets.length = b.text.utf8ByteSize :=
  Utf8.length_encode b.text

/-- The octets of a copy are those of the text, up to the end of the copy. -/
theorem octets_ofString : (ofString s : BoundedText capacity).octets =
    (Utf8.encode s).take (Utf8.size (fittingChars capacity s.toList)) := by
  have begins := (Utf8.isLongestFitting_fittingChars capacity s.toList).begins
  rw [octets, Utf8.encode, Utf8.encode, toList_text_ofString, Utf8.take_size_encodeChars begins]

/-- **The search back from the limit makes the copy.** -/
theorem copyOctets?_encode (capacity : Nat) (s : String) :
    copyOctets? capacity (Utf8.encode s) =
      some ((ofString s : BoundedText capacity).octets, (ofString s : BoundedText capacity).cut) := by
  have longest := Utf8.isLongestFitting_fittingChars capacity s.toList
  have found : Utf8.lastBoundary? (Utf8.encode s) (min (Utf8.encode s).length capacity) =
      some (Utf8.size (fittingChars capacity s.toList)) := by
    rw [Utf8.encode, Utf8.length_encodeChars]
    exact Utf8.lastBoundary?_encodeChars capacity s.toList
  have boundary : Utf8.isBoundary (Utf8.encode s)
      (Utf8.size (fittingChars capacity s.toList)) = true :=
    Utf8.isBoundary_encodeChars_iff.2 ⟨_, longest.begins, rfl⟩
  have stored : store capacity (ofString s : BoundedText capacity).octets =
      (ofString s : BoundedText capacity).octets := by
    refine if_pos ?_
    rw [length_octets]
    exact (ofString s).fits
  have mark : decide (Utf8.size (fittingChars capacity s.toList) < (Utf8.encode s).length) =
      (ofString s : BoundedText capacity).cut := by
    rw [Bool.eq_iff_iff, decide_eq_true_eq, (isCopyOf_ofString s).cut_iff, toList_text_ofString,
      Utf8.encode, Utf8.length_encodeChars]
    exact Utf8.size_lt_iff_of_begins longest.begins
  rw [copyOctets?, found, Option.bind_eq_bind, Option.bind_some, Utf8.upTo?, if_pos boundary,
    Option.bind_eq_bind, Option.bind_some, ← octets_ofString, stored, mark]
  rfl

/-- **A copy is the longest beginning that ends between two characters**, for every capacity and
every text, and it remembers whether it is the whole text. -/
theorem copies_longest (capacity : Nat) (s : String) :
    CopiesLongest capacity s (ofString s) where
  copied := copyOctets?_encode capacity s
  copy := isCopyOf_ofString s
  ends := by
    rw [length_octets, Utf8.utf8ByteSize_eq_size]
    exact Utf8.isBoundary_encodeChars_iff.2 ⟨_, prefix_text_ofString, rfl⟩
  longest := by
    intro kept begins fits boundary
    obtain ⟨front, begins', size⟩ := Utf8.isBoundary_encodeChars_iff.1 boundary
    -- the beginning ends where some characters of the text do, so it is their encoding
    have encoded : kept = Utf8.encodeChars front := by
      rw [List.prefix_iff_eq_take.1 begins, ← size]
      exact Utf8.take_size_encodeChars begins'
    have copy : (ofString s : BoundedText capacity).IsCopyOf s.toList := isCopyOf_ofString s
    obtain ⟨more, eq⟩ := copy.longest.longest front begins' (by omega)
    rw [encoded, octets, Utf8.encode, ← eq, Utf8.encodeChars_append]
    exact List.prefix_append _ _
  cut_iff := by
    rw [(isCopyOf_ofString s).cut_iff, length_octets, Utf8.utf8ByteSize_eq_size, Utf8.encode,
      Utf8.length_encodeChars]
    exact (Utf8.size_lt_iff_of_begins prefix_text_ofString).symm
  nearlyFull := by
    intro cut
    have long : capacity < Utf8.size s.toList := by
      rw [← Utf8.utf8ByteSize_eq_size]
      exact of_decide_eq_true cut
    rw [length_octets, Utf8.utf8ByteSize_eq_size]
    exact (isCopyOf_ofString s).longest.lt_size_add_four long
  again := ofString_text _
  again_eq_iff := by
    rw [ofString_text]
    constructor
    · intro same
      rw [← same]
    · intro uncut
      rw [← uncut]

/-- A letter of two octets does not fit into the one that is left, so it is missing as a whole. -/
example : (ofString "abcé" : BoundedText 4) = ⟨"abc", true, by decide⟩ := by decide +kernel

end BoundedText

end DeviceHttp
