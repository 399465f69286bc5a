import DeviceHttp.Bytes

/-!
# UTF-8

Text on the wire is UTF-8. Encoding is written character by character, decoding accepts exactly the
encodings: `decode? b = some s ↔ b = encode s`.

`decodeLossy` reads any octets at all. Each maximal ill-formed subsequence, that is the longest
beginning of some character's encoding or else a single octet, stands for one replacement character.
-/

namespace DeviceHttp.Utf8

/-- The encoding of a list of characters. -/
def encodeChars (cs : List Char) : Bytes := cs.flatMap String.utf8EncodeChar

/-- The encoding of a text. -/
def encode (s : String) : Bytes := encodeChars s.toList

/-- The text that the octets encode, if they are well-formed. -/
def decode? (b : Bytes) : Option String := String.fromUTF8? b.toByteArray

@[simp] theorem encodeChars_nil : encodeChars [] = [] := rfl

theorem encodeChars_cons (c : Char) (cs : List Char) :
    encodeChars (c :: cs) = String.utf8EncodeChar c ++ encodeChars cs := by
  simp [encodeChars]

theorem encodeChars_append (cs ds : List Char) :
    encodeChars (cs ++ ds) = encodeChars cs ++ encodeChars ds := by
  simp [encodeChars]

theorem encode_append (s t : String) : encode (s ++ t) = encode s ++ encode t := by
  rw [encode, String.toList_append, encodeChars_append]
  rfl

/-- A text that is put together from pieces is encoded piece by piece. -/
theorem encode_foldl_append (s : String) (pieces : List String) :
    encode (pieces.foldl (· ++ ·) s) = encode s ++ (pieces.map encode).flatten := by
  induction pieces generalizing s with
  | nil => exact (List.append_nil _).symm
  | cons piece pieces ih =>
    rw [List.foldl_cons, ih, encode_append, List.append_assoc, List.map_cons, List.flatten_cons]

/-- The octets of a text are those that the text stores. -/
theorem toByteArray_encode (s : String) : (encode s).toByteArray = s.toByteArray := by
  rw [← String.utf8Encode_toList]
  rfl

theorem toByteArray_injective {b c : Bytes} (h : b.toByteArray = c.toByteArray) : b = c := by
  simpa using congrArg (fun a => a.data.toList) h

/-- Decoding accepts exactly the encodings, each as the text it encodes. -/
theorem decode?_eq_some_iff {b : Bytes} {s : String} : decode? b = some s ↔ b = encode s := by
  unfold decode? String.fromUTF8?
  constructor
  · intro h
    split at h
    · simp only [Option.some.injEq] at h
      apply toByteArray_injective
      rw [toByteArray_encode, ← h]
      rfl
    · simp at h
  · rintro rfl
    have valid : (encode s).toByteArray.IsValidUTF8 := ⟨s.toList, rfl⟩
    rw [dif_pos valid]
    congr 1
    rw [← String.toByteArray_inj]
    exact toByteArray_encode s

@[simp] theorem decode?_encode (s : String) : decode? (encode s) = some s :=
  decode?_eq_some_iff.2 rfl

/-- Texts with the same encoding are the same. -/
theorem encode_injective {s t : String} (h : encode s = encode t) : s = t := by
  have := congrArg decode? h
  simpa using this

/-- The number of octets that a text takes. -/
theorem length_encode (s : String) : (encode s).length = s.utf8ByteSize := by
  have h : (encode s).toByteArray.size = s.toByteArray.size := by rw [toByteArray_encode]
  simpa using h

/-- The number of octets that a list of characters takes. -/
def size : List Char → Nat
  | [] => 0
  | c :: cs => c.utf8Size + size cs

@[simp] theorem size_nil : size [] = 0 := rfl

@[simp] theorem size_cons (c : Char) (cs : List Char) : size (c :: cs) = c.utf8Size + size cs :=
  rfl

theorem size_append (cs ds : List Char) : size (cs ++ ds) = size cs + size ds := by
  induction cs with
  | nil => simp
  | cons c cs ih => simp [ih, Nat.add_assoc]

theorem length_encodeChars (cs : List Char) : (encodeChars cs).length = size cs := by
  induction cs with
  | nil => rfl
  | cons c cs ih => simp [encodeChars_cons, ih]

theorem utf8ByteSize_ofList (cs : List Char) : (String.ofList cs).utf8ByteSize = size cs := by
  rw [← length_encode, encode, String.toList_ofList, length_encodeChars]

theorem utf8ByteSize_eq_size (s : String) : s.utf8ByteSize = size s.toList := by
  rw [← length_encode, encode, length_encodeChars]

/-- The octets from `0x80` to `0xBF`, which continue a character. -/
def isContinuation (b : UInt8) : Bool := 128 ≤ b && b ≤ 191

/-- How the encoding of a character that starts with an octet goes on: the least and the greatest
second octet, and how many octets follow that one. -/
def continuation? (lead : UInt8) : Option (UInt8 × UInt8 × Nat) :=
  if 0xC2 ≤ lead ∧ lead ≤ 0xDF then some (0x80, 0xBF, 0)
  else if lead = 0xE0 then some (0xA0, 0xBF, 1)
  else if 0xE1 ≤ lead ∧ lead ≤ 0xEC then some (0x80, 0xBF, 1)
  else if lead = 0xED then some (0x80, 0x9F, 1)
  else if lead = 0xEE ∨ lead = 0xEF then some (0x80, 0xBF, 1)
  else if lead = 0xF0 then some (0x90, 0xBF, 2)
  else if 0xF1 ≤ lead ∧ lead ≤ 0xF3 then some (0x80, 0xBF, 2)
  else if lead = 0xF4 then some (0x80, 0x8F, 2)
  else none

/-- How many of the octets after `lead` belong to the longest beginning of a character's encoding
that `lead` opens here. -/
def followers (lead : UInt8) (rest : Bytes) : Nat :=
  match continuation? lead, rest with
  | some (low, high, more), second :: rest =>
    if low ≤ second ∧ second ≤ high then 1 + ((rest.take more).takeWhile isContinuation).length
    else 0
  | _, _ => 0

/-- Replaces every maximal ill-formed subsequence by U+FFFD and decodes the rest. -/
def decodeLossyChars : Bytes → List Char
  | [] => []
  | lead :: rest =>
    let taken := followers lead rest
    let piece := (decode? (lead :: rest.take taken)).getD "\uFFFD"
    piece.toList ++ decodeLossyChars (rest.drop taken)
termination_by b => b.length
decreasing_by
  simp only [List.length_drop, List.length_cons]
  omega

/-- The text that the octets show, with U+FFFD for each ill-formed subsequence. -/
def decodeLossy (b : Bytes) : String := String.ofList (decodeLossyChars b)

end DeviceHttp.Utf8
