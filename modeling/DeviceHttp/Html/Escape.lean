/-!
# Escaping in HTML

Every text that comes from outside is escaped before it becomes part of a document, so it cannot
change the markup: angle brackets, quotes of both kinds and the ampersand are written as entities.
-/

namespace DeviceHttp.Html

/-- A character as it is written in HTML. -/
def escapeChar (c : Char) : List Char :=
  match c with
  | '<' => "&lt;".toList
  | '>' => "&gt;".toList
  | '&' => "&amp;".toList
  | '\x27' => "&apos;".toList
  | '"' => "&quot;".toList
  | c => [c]

/-- A text as it is written in HTML, between tags or as the value of an attribute. -/
def escape (s : String) : String := String.ofList (s.toList.flatMap escapeChar)

/-- The characters that markup is made of: angle brackets and quotes. -/
def isMarkup (c : Char) : Bool := c = '<' || c = '>' || c = '"' || c = '\x27'

theorem isMarkup_of_mem {cs : List Char} {d : Char} (free : cs.all (!isMarkup ·) = true)
    (h : d ∈ cs) : isMarkup d = false := by
  simpa using List.all_eq_true.1 free d h

/-- No character becomes markup. -/
theorem isMarkup_of_mem_escapeChar {c d : Char} (h : d ∈ escapeChar c) : isMarkup d = false := by
  unfold escapeChar at h
  split at h
  case h_6 lt gt _ apos quot =>
    obtain rfl := List.mem_singleton.1 h
    simp only [isMarkup, Bool.or_eq_false_iff, decide_eq_false_iff_not]
    exact ⟨⟨⟨lt, gt⟩, quot⟩, apos⟩
  all_goals
    exact isMarkup_of_mem (by decide) h

/-- No text becomes markup. -/
theorem isMarkup_of_mem_escape {s : String} {d : Char} (h : d ∈ (escape s).toList) :
    isMarkup d = false := by
  rw [escape, String.toList_ofList, List.mem_flatMap] at h
  obtain ⟨c, _, member⟩ := h
  exact isMarkup_of_mem_escapeChar member

end DeviceHttp.Html
