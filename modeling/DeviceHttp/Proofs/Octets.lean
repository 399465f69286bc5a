import DeviceHttp.Text.Utf8

/-!
# ASCII marks in encoded text

Line endings, blanks, colons and quotes are ASCII characters, and bytes are searched for their
octets before anything is decoded. This is sound because UTF-8 encodes an ASCII character as its own
octet (`encodeChar_of_ascii`) and uses no octet below 128 for any other character. So an encoding
contains the octet of a mark exactly if the text contains the mark (`mem_encodeChars_iff`).
-/

namespace DeviceHttp.Utf8

/-- The octet of an ASCII character. -/
def asciiOctet (c : Char) : UInt8 := UInt8.ofNat c.toNat

/-- An ASCII character is encoded as its own octet. -/
theorem encodeChar_of_ascii {c : Char} (ascii : c.toNat ≤ 127) :
    String.utf8EncodeChar c = [asciiOctet c] := by
  rw [String.utf8EncodeChar]
  exact if_pos ascii

/-- ASCII text is encoded octet by octet. -/
theorem encodeChars_of_ascii {cs : List Char} (ascii : ∀ c ∈ cs, c.toNat ≤ 127) :
    encodeChars cs = cs.map asciiOctet := by
  induction cs with
  | nil => rfl
  | cons c cs ih =>
    rw [encodeChars_cons, encodeChar_of_ascii (ascii c List.mem_cons_self),
      ih fun d mem => ascii d (List.mem_cons_of_mem c mem)]
    rfl

/-- ASCII characters take one byte each. -/
theorem size_of_ascii {cs : List Char} (ascii : ∀ c ∈ cs, c.toNat ≤ 127) :
    size cs = cs.length := by
  rw [← length_encodeChars, encodeChars_of_ascii ascii, List.length_map]

theorem encodeChars_ne_nil {cs : List Char} (nonempty : cs ≠ []) : encodeChars cs ≠ [] := by
  obtain ⟨c, cs, rfl⟩ := List.exists_cons_of_ne_nil nonempty
  rw [encodeChars_cons]
  exact fun nil => String.utf8EncodeChar_ne_nil (List.append_eq_nil_iff.1 nil).1

/-- A part of a text is encoded as a part of it. -/
theorem infix_encodeChars {part cs : List Char} (inside : part <:+: cs) :
    encodeChars part <:+: encodeChars cs := by
  obtain ⟨front, back, rfl⟩ := inside
  rw [encodeChars_append, encodeChars_append]
  exact ⟨_, _, rfl⟩

/-- Every other character is encoded by octets from 128 on. -/
theorem le_of_mem_encodeChar {c : Char} (wide : 127 < c.toNat) {b : UInt8}
    (mem : b ∈ String.utf8EncodeChar c) : 128 ≤ b.toNat := by
  have value : c.toNat = c.val.toNat := rfl
  simp only [String.utf8EncodeChar] at mem
  -- the three cases left are those of two, three and four octets
  rw [if_neg (by omega)] at mem
  split at mem
  · simp only [List.mem_cons, List.not_mem_nil, or_false] at mem
    rcases mem with rfl | rfl <;> simp only [UInt8.toNat_ofNat'] <;> omega
  · split at mem
    · simp only [List.mem_cons, List.not_mem_nil, or_false] at mem
      rcases mem with rfl | rfl | rfl <;> simp only [UInt8.toNat_ofNat'] <;> omega
    · simp only [List.mem_cons, List.not_mem_nil, or_false] at mem
      rcases mem with rfl | rfl | rfl | rfl <;> simp only [UInt8.toNat_ofNat'] <;> omega

theorem toNat_asciiOctet {c : Char} (ascii : c.toNat ≤ 127) : (asciiOctet c).toNat = c.toNat := by
  have : c.toNat < UInt8.size := by show c.toNat < 256; omega
  exact UInt8.toNat_ofNat_of_lt' this

/-- The encoding of a character holds the octet of a mark only if the character is the mark. -/
theorem asciiOctet_mem_encodeChar_iff {mark : Char} (ascii : mark.toNat ≤ 127) {c : Char} :
    asciiOctet mark ∈ String.utf8EncodeChar c ↔ mark = c := by
  constructor
  · intro mem
    have octet := toNat_asciiOctet ascii
    rcases Nat.lt_or_ge 127 c.toNat with wide | narrow
    · have := le_of_mem_encodeChar wide mem
      omega
    · rw [encodeChar_of_ascii narrow, List.mem_singleton] at mem
      rw [mem, toNat_asciiOctet narrow] at octet
      exact (Char.toNat_inj.1 octet).symm
  · rintro rfl
    rw [encodeChar_of_ascii ascii]
    exact List.mem_singleton.2 rfl

/-- **An encoding contains the octet of a mark exactly if the text contains the mark.** -/
theorem mem_encodeChars_iff {mark : Char} (ascii : mark.toNat ≤ 127) {cs : List Char} :
    asciiOctet mark ∈ encodeChars cs ↔ mark ∈ cs := by
  rw [encodeChars, List.mem_flatMap]
  constructor
  · rintro ⟨c, mem, octet⟩
    rwa [(asciiOctet_mem_encodeChar_iff ascii).1 octet]
  · intro mem
    exact ⟨mark, mem, (asciiOctet_mem_encodeChar_iff ascii).2 rfl⟩

/-- A text without a mark is encoded without its octet. -/
theorem notMem_encodeChars {mark : Char} {cs : List Char} (absent : mark ∉ cs)
    (ascii : mark.toNat ≤ 127 := by decide) : asciiOctet mark ∉ encodeChars cs :=
  fun mem => absent ((mem_encodeChars_iff ascii).1 mem)

/-- A mark in an encoding stands for itself, so what is on its two sides is encoded text. -/
theorem exists_of_encodeChars_eq_append_cons {mark : Char} (ascii : mark.toNat ≤ 127)
    {cs : List Char} {b b' : Bytes} (h : encodeChars cs = b ++ asciiOctet mark :: b') :
    ∃ front back, cs = front ++ mark :: back ∧ encodeChars front = b ∧ encodeChars back = b' := by
  induction cs generalizing b with
  | nil => exact absurd h.symm (List.append_ne_nil_of_right_ne_nil b (List.cons_ne_nil _ _))
  | cons c cs ih =>
    rw [encodeChars_cons] at h
    obtain ⟨between, b_eq, rest⟩ | ⟨between, char_eq, rest⟩ := List.append_eq_append_iff.1 h
    · -- the first character ends in front of the mark
      obtain ⟨front, back, rfl, front_eq, back_eq⟩ := ih rest
      exact ⟨c :: front, back, rfl, by rw [encodeChars_cons, front_eq, b_eq], back_eq⟩
    · cases between with
      | nil =>
        rw [List.append_nil] at char_eq
        obtain ⟨front, back, rfl, front_eq, back_eq⟩ := ih (b := []) rest.symm
        refine ⟨c :: front, back, rfl, ?_, back_eq⟩
        rw [encodeChars_cons, front_eq, char_eq, List.append_nil]
      | cons octet between =>
        -- the mark is an octet of the first character, which is then the mark itself
        obtain ⟨rfl, rest_eq⟩ := List.cons.inj rest
        have inside : asciiOctet mark ∈ String.utf8EncodeChar c := by
          rw [char_eq]
          exact List.mem_append_right b List.mem_cons_self
        obtain rfl := (asciiOctet_mem_encodeChar_iff ascii).1 inside
        rw [encodeChar_of_ascii ascii] at char_eq
        obtain ⟨rfl, tail⟩ | ⟨_, rfl, nil⟩ := List.cons_eq_append_iff.1 char_eq
        · obtain ⟨-, rfl⟩ := List.cons.inj tail
          exact ⟨[], cs, rfl, rfl, rest_eq.symm⟩
        · exact absurd nil.symm (List.append_ne_nil_of_right_ne_nil _ (List.cons_ne_nil _ _))

/-- ASCII octets at the front of an encoding are characters of their own. -/
theorem exists_of_encodeChars_eq_ascii_append {written rest : Bytes}
    (ascii : ∀ b ∈ written, b.toNat ≤ 127) {cs : List Char}
    (h : encodeChars cs = written ++ rest) :
    ∃ front back, cs = front ++ back ∧ encodeChars front = written ∧ encodeChars back = rest := by
  induction written generalizing cs with
  | nil => exact ⟨[], cs, rfl, rfl, h⟩
  | cons b written ih =>
    have low := ascii b List.mem_cons_self
    have value : (Char.ofNat b.toNat).toNat = b.toNat := by
      have all : ∀ n < 128, (Char.ofNat n).toNat = n := by decide
      exact all b.toNat (by omega)
    have octet : asciiOctet (Char.ofNat b.toNat) = b := by
      rw [asciiOctet, value, UInt8.ofNat_toNat]
    have narrow : (Char.ofNat b.toNat).toNat ≤ 127 := by rwa [value]
    rw [← octet, List.cons_append] at h
    obtain ⟨front, back, rfl, nothing, others⟩ :=
      exists_of_encodeChars_eq_append_cons narrow (b := []) h
    obtain rfl : front = [] :=
      Decidable.byContradiction fun nonempty => encodeChars_ne_nil nonempty nothing
    obtain ⟨front, back, rfl, front_eq, back_eq⟩ :=
      ih (fun d mem => ascii d (List.mem_cons_of_mem b mem)) others
    refine ⟨Char.ofNat b.toNat :: front, back, rfl, ?_, back_eq⟩
    rw [encodeChars_cons, encodeChar_of_ascii narrow, octet, front_eq, List.singleton_append]

end DeviceHttp.Utf8
