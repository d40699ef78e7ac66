import Mathlib.Data.List.DropRight

/-! Unicode white space and trimming, ASCII lower case and UTF-8 bytes, as Rust's `str`
has them. -/

/-- The `White_Space` code points. -/
def Char.isWhiteSpace (c : Char) : Bool :=
  let n := c.toNat
  (9 ≤ n && n ≤ 13) || n == 0x20 || n == 0x85 || n == 0xA0 || n == 0x1680 ||
    (0x2000 ≤ n && n ≤ 0x200A) || n == 0x2028 || n == 0x2029 || n == 0x202F ||
    n == 0x205F || n == 0x3000

def String.trimmed (s : String) : String :=
  String.ofList ((s.toList.dropWhile Char.isWhiteSpace).rdropWhile Char.isWhiteSpace)

/-- `trim().is_empty()`. -/
def String.isBlank (s : String) : Bool :=
  s.trimmed.isEmpty

theorem String.isBlank_iff (s : String) :
    s.isBlank = true ↔ ∀ c ∈ s.toList, c.isWhiteSpace = true := by
  unfold isBlank trimmed
  rw [String.isEmpty_iff, String.ofList_eq_empty_iff]
  rw [List.rdropWhile_eq_nil_iff]
  constructor
  · intro h c hc
    by_contra hne
    have hmem : c ∈ s.toList.dropWhile Char.isWhiteSpace := by
      have hsplit := List.takeWhile_append_dropWhile (p := Char.isWhiteSpace) (l := s.toList)
      rw [← hsplit, List.mem_append] at hc
      rcases hc with hc | hc
      · exact absurd (List.mem_takeWhile_imp hc) hne
      · exact hc
    exact hne (h c hmem)
  · intro h c hc
    exact h c ((List.dropWhile_sublist _).mem hc)

/-- A trimmed text is blank only where nothing was left of it. -/
theorem String.isBlank_trimmed (s : String) : s.trimmed.isBlank = s.isBlank := by
  by_cases h : s.isBlank = true
  · have hempty : s.trimmed = "" := by simpa [isBlank] using h
    rw [h, hempty]
    decide
  · rw [Bool.not_eq_true] at h
    rw [h, Bool.eq_false_iff, Ne, isBlank_iff]
    intro hall
    have hrest : (s.toList.dropWhile Char.isWhiteSpace).rdropWhile Char.isWhiteSpace = [] := by
      rw [← List.rdropWhile_idempotent, List.rdropWhile_eq_nil_iff]
      simpa [trimmed] using hall
    have hblank : s.isBlank = true := by simp [isBlank, trimmed, hrest]
    rw [h] at hblank
    cases hblank

/-- `to_ascii_lowercase`. -/
def String.toAsciiLowercase (s : String) : String :=
  String.ofList (s.toList.map Char.toLower)

/-- `as_bytes`. -/
def String.asBytes (s : String) : List UInt8 :=
  s.toByteArray.data.toList

theorem String.asBytes_append (s t : String) : (s ++ t).asBytes = s.asBytes ++ t.asBytes := by
  simp [asBytes, String.toByteArray_append]

theorem String.asBytes_inj {s t : String} : s.asBytes = t.asBytes ↔ s = t := by
  rw [← String.toByteArray_inj, asBytes, asBytes, Array.toList_inj, ByteArray.ext_iff]

example : "\t volatile-session\n".trimmed = "volatile-session" := by decide
