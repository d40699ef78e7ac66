import Mathlib.Data.List.Basic
import Mathlib.Data.List.Count

/-! Three fields written one after the other with a separator between them. The text
determines the fields as far as the separator stays out of them. -/

@[ext] structure FieldTriple (α : Type*) where
  first : List α
  second : List α
  third : List α

namespace FieldTriple

variable {α : Type*}

def joined (separator : α) (fields : FieldTriple α) : List α :=
  fields.first ++ separator :: (fields.second ++ separator :: fields.third)

/-- The last two fields hold no separator, and whatever stands before one in the
first field is none that could be a first field itself. -/
structure Separated (separator : α) (usable : List α → Prop) (fields : FieldTriple α) : Prop where
  first : ∀ before after, fields.first = before ++ separator :: after → ¬usable before
  second : separator ∉ fields.second
  third : separator ∉ fields.third

theorem Separated.unique [DecidableEq α] {separator : α} {usable : List α → Prop}
    {fields other : FieldTriple α} (h : Separated separator usable fields)
    (husable : usable other.first) (hjoined : other.joined separator = fields.joined separator) :
    other = fields := by
  have hsame (hrest : other.second ++ separator :: other.third =
      fields.second ++ separator :: fields.third) (hfirst : other.first = fields.first) :
      other = fields := by
    obtain ⟨hsecond, -, hthird⟩ :=
      (List.append_cons_inj_of_notMem h.second h.third).mp hrest.symm
    ext1
    · exact hfirst
    · exact hsecond.symm
    · exact hthird.symm
  unfold joined at hjoined
  rcases List.append_eq_append_iff.mp hjoined with ⟨between, hbetween, hrest⟩ |
    ⟨between, hbetween, hrest⟩
  · cases between with
    | nil =>
        rw [List.nil_append, List.cons.injEq] at hrest
        exact hsame hrest.2 (by simpa using hbetween.symm)
    | cons c between =>
        rw [List.cons_append, List.cons.injEq] at hrest
        rw [← hrest.1] at hbetween
        exact absurd husable (h.first other.first between hbetween)
  · cases between with
    | nil =>
        rw [List.nil_append, List.cons.injEq] at hrest
        exact hsame hrest.2.symm (by simpa using hbetween)
    | cons c between =>
        -- the second and third fields would hold two separators between them
        rw [List.cons_append, List.cons.injEq] at hrest
        have hcount := congrArg (List.count separator) hrest.2
        simp [List.count_eq_zero.mpr h.second, List.count_eq_zero.mpr h.third] at hcount
        omega

/-- A separator inside a field is a place where the text can be cut as well. -/
theorem separated_of_unique {separator : α} {usable : List α → Prop} {fields : FieldTriple α}
    (husable : usable fields.first)
    (hall : ∀ other : FieldTriple α, usable other.first →
      other.joined separator = fields.joined separator → other = fields) :
    Separated separator usable fields := by
  constructor
  · intro before after hfirst hbefore
    have hother := hall ⟨before, after, fields.second ++ separator :: fields.third⟩ hbefore
      (by simp [joined, hfirst])
    have hlength := congrArg (fun other => other.first.length) hother
    simp [hfirst] at hlength
  · intro hmem
    obtain ⟨before, after, hsecond⟩ := List.append_of_mem hmem
    have hother := hall ⟨fields.first, before, after ++ separator :: fields.third⟩ husable
      (by simp [joined, hsecond])
    have hlength := congrArg (fun other => other.second.length) hother
    simp [hsecond] at hlength
  · intro hmem
    obtain ⟨before, after, hthird⟩ := List.append_of_mem hmem
    have hother := hall ⟨fields.first, fields.second ++ separator :: before, after⟩ husable
      (by simp [joined, hthird])
    have hlength := congrArg (fun other => other.second.length) hother
    simp at hlength

end FieldTriple
