import SupervisorRelay.Library.JsonValues
import SupervisorRelay.Library.Text

/-! The text layer of `serde_json`, which stands outside: a writer and two readers with the
laws that their callers rely on. -/

/-- An ASCII character that leaves ink. -/
def Char.Visible (c : Char) : Prop :=
  0x20 < c.toNat ∧ c.toNat < 0x7f

instance (c : Char) : Decidable c.Visible := inferInstanceAs (Decidable (_ ∧ _))

theorem Char.Visible.not_whiteSpace {c : Char} (h : c.Visible) : c.isWhiteSpace = false := by
  obtain ⟨hlow, hhigh⟩ := h
  unfold Char.isWhiteSpace
  simp only [Bool.or_eq_false_iff, Bool.and_eq_false_iff, decide_eq_false_iff_not,
    beq_eq_false_iff_ne]
  omega

namespace SerdeJson

/-- A text with no control character, so in particular with no line feed. -/
def Printable (text : List Char) : Prop :=
  ∀ c ∈ text, 0x20 ≤ c.toNat

/-- A text that starts and ends with ink. -/
structure Framed (text : List Char) : Prop where
  first : ∃ c more, text = c :: more ∧ c.Visible
  last : ∃ init c, text = init ++ [c] ∧ c.Visible

/-- A reader that trims a line gets the text that was written. -/
theorem Framed.trimmed_line {text : String} (h : Framed text.toList) :
    (text ++ "\n").trimmed = text := by
  obtain ⟨first, more, hcons, hfirst⟩ := h.first
  obtain ⟨init, last, hconcat, hlast⟩ := h.last
  have hdrop : (text.toList ++ ['\n']).dropWhile Char.isWhiteSpace = text.toList ++ ['\n'] := by
    rw [hcons, List.cons_append, List.dropWhile_cons_of_neg (by simp [hfirst.not_whiteSpace])]
  rw [String.trimmed, String.toList_append]
  change String.ofList (((text.toList ++ ['\n']).dropWhile
    Char.isWhiteSpace).rdropWhile Char.isWhiteSpace) = _
  rw [hdrop, List.rdropWhile_concat_pos _ _ _ (by rfl), hconcat,
    List.rdropWhile_concat_neg _ _ _ (by simp [hlast.not_whiteSpace]), ← hconcat,
    String.ofList_toList]

end SerdeJson

/-- `to_string`, `from_str` at a `Value`, and what a derived reader meets when it is given a
text: the document with its members as they stand there, and otherwise the diagnostic of the
text or, for a document it has no use for, of the reader. -/
structure SerdeJson where
  toString : Json → String
  fromStr : String → Except String Json
  document : String → Except String Json
  mismatch : Json → String

namespace SerdeJson

/-- `to_vec` and a line feed, as text. -/
def toLine (json : SerdeJson) (value : Json) : String :=
  json.toString value ++ "\n"

open Json (Accepted Fits depthLimit)

/-- What `serde_json` documents of itself. The laws speak of values that every reader takes,
and say nothing of floats. -/
structure Lawful (json : SerdeJson) : Prop where
  /-- A `Value` keeps its members in the order of their names. -/
  readsBack : ∀ value, Fits depthLimit value →
    json.fromStr (json.toString value) = .ok value.normalize
  /-- A derived reader meets the members in the order in which they were written. -/
  documents : ∀ value, Fits depthLimit value → json.document (json.toString value) = .ok value
  /-- The compact text is one line: controls inside strings are escaped. -/
  printable : ∀ value, Fits depthLimit value → Printable (json.toString value).toList
  framed : ∀ value, Fits depthLimit value → Framed (json.toString value).toList
  /-- The recursion limit, and the order of a `Value`. -/
  accepts : ∀ text value, json.fromStr text = .ok value → Accepted depthLimit value

variable {json : SerdeJson} {value : Json}

theorem Lawful.trimmed_line (h : json.Lawful) (hfits : Fits depthLimit value) :
    (json.toLine value).trimmed = json.toString value :=
  (h.framed value hfits).trimmed_line

/-- A line that is read and trimmed gives the value that was written. -/
theorem Lawful.fromStr_line (h : json.Lawful) (hfits : Fits depthLimit value) :
    json.fromStr (json.toLine value).trimmed = .ok value.normalize := by
  rw [h.trimmed_line hfits]
  exact h.readsBack value hfits

theorem Lawful.document_line (h : json.Lawful) (hfits : Fits depthLimit value) :
    json.document (json.toLine value).trimmed = .ok value := by
  rw [h.trimmed_line hfits]
  exact h.documents value hfits

theorem Lawful.parsesBack (h : json.Lawful) (hfits : Fits depthLimit value) :
    Json.ParsesBack json.toString json.fromStr value :=
  ⟨value.normalize, h.readsBack value hfits, Json.same_normalize value hfits.distinct⟩

theorem Lawful.line_parsesBack (h : json.Lawful) (hfits : Fits depthLimit value) :
    ∃ parsed, json.fromStr (json.toLine value).trimmed = .ok parsed ∧ Json.Same value parsed :=
  ⟨value.normalize, h.fromStr_line hfits, Json.same_normalize value hfits.distinct⟩

theorem Lawful.lineFeed_notMem (h : json.Lawful) (hfits : Fits depthLimit value) :
    '\n' ∉ (json.toString value).toList := by
  intro hmem
  have hprintable := h.printable value hfits _ hmem
  revert hprintable
  decide

end SerdeJson
