import DeviceHttp.Proofs.Numerals
import DeviceHttp.Request.Line

/-!
# The parts of a written request line

Whoever writes a request line puts three parts in a row, with a space between them, and the version
is put together from two numerals. The lemmas here take such a line apart again. They ask of a part
only what its separator needs, so that they serve lines that are written for different reasons.
-/

namespace DeviceHttp.RequestLine

/-- Three parts without spaces are the tokens. -/
theorem tokens_of_parts {method uri version : List Char} (method_ne_nil : method ≠ [])
    (uri_ne_nil : uri ≠ []) (version_ne_nil : version ≠ []) (inMethod : ' ' ∉ method)
    (inUri : ' ' ∉ uri) (inVersion : ' ' ∉ version) :
    tokens (method ++ ' ' :: (uri ++ ' ' :: version)) = [method, uri, version] := by
  have kept : ∀ token ∈ [method, uri, version], (!token.isEmpty) = true := by
    simp [method_ne_nil, uri_ne_nil, version_ne_nil]
  rw [tokens, segments_append_cons (unmarked_of_notMem inMethod) rfl,
    segments_append_cons (unmarked_of_notMem inUri) rfl,
    segments_of_unmarked (unmarked_of_notMem inVersion)]
  exact List.filter_eq_self.2 kept

/-- `HTTP/major.minor` -/
def versionToken (major minor : Nat) : List Char :=
  "HTTP/".toList ++ ((toString major).toList ++ '.' :: (toString minor).toList)

theorem notMem_versionToken (major minor : Nat) {c : Char} (absent : c ∉ "HTTP/.".toList)
    (noDigit : Text.isDigit c = false) : c ∉ versionToken major minor := by
  have inNumeral : ∀ n : Nat, c ∉ (toString n).toList := by
    intro n mem
    rw [isDigit_of_mem_toString mem] at noDigit
    cases noDigit
  intro mem
  simp only [versionToken, List.mem_append, List.mem_cons] at mem
  rcases mem with inName | inMajor | rfl | inMinor
  · exact absent (List.mem_append_left ['.'] inName)
  · exact inNumeral major inMajor
  · exact absurd absent (by decide)
  · exact inNumeral minor inMinor

/-- The version is read back if both numbers fit into 32 bits, and refused otherwise. -/
theorem version?_versionToken (major minor : Nat) :
    version? (versionToken major minor) =
      if major < UInt32.size ∧ minor < UInt32.size then some (major, minor) else none := by
  have undotted : ∀ c ∈ (toString major).toList, (c == '.') = false :=
    unmarked_of_notMem fun mem => absurd (isDigit_of_mem_toString mem) (by decide)
  have dot := cut?_append_cons undotted (beq_self_eq_true '.') (toString minor).toList
  rw [version?, versionToken, dropStart?_append]
  simp only [Option.bind_eq_bind, Option.bind_some, dot, Text.unsigned?_toString_eq]
  by_cases wide : major < UInt32.size
  · by_cases wide' : minor < UInt32.size
    · simp only [wide, wide', if_true, and_self, Option.bind_some]
      rfl
    · simp only [wide, wide', if_true, if_false, and_false, Option.bind_some, Option.bind_none]
  · simp only [wide, if_false, false_and, Option.bind_none]

end DeviceHttp.RequestLine
