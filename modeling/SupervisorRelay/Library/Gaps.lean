import Mathlib.Algebra.Ring.Nat
import Mathlib.Data.List.Basic

/-! Strictly increasing numberings with holes. The numbers missing between the
neighbours of a numbering, and its members, together fill the span of it. -/

/-- How many numbers are missing between each member and the next. -/
def gaps : List ℕ → List ℕ
  | first :: second :: rest => (second - first - 1) :: gaps (second :: rest)
  | _ => []

/-- The positive gaps. -/
def holes (numbers : List ℕ) : List ℕ :=
  (gaps numbers).filter (0 < ·)

theorem sum_filter_pos (numbers : List ℕ) : (numbers.filter (0 < ·)).sum = numbers.sum := by
  induction numbers with
  | nil => rfl
  | cons number rest ih =>
      cases number with
      | zero => simpa using ih
      | succ number =>
          rw [List.filter_cons_of_pos (by simp), List.sum_cons, List.sum_cons, ih]

theorem span_eq {first : ℕ} {rest : List ℕ} (h : (first :: rest).Pairwise (· < ·)) {last : ℕ}
    (hlast : (first :: rest).getLast? = some last) :
    last + 1 = first + (first :: rest).length + (gaps (first :: rest)).sum := by
  induction rest generalizing first with
  | nil =>
      cases hlast
      rfl
  | cons second rest ih =>
      obtain ⟨hfirst, hrest⟩ := List.pairwise_cons.mp h
      rw [List.getLast?_cons_cons] at hlast
      have hspan := ih hrest hlast
      have hlt := hfirst second List.mem_cons_self
      simp only [gaps, List.sum_cons, List.length_cons] at hspan ⊢
      omega

/-- The last number is the greatest. -/
theorem lt_iff_getLast?_lt {α : Type*} [LT α] [IsTrans α (· < ·)] {numbers : List α}
    (h : numbers.Pairwise (· < ·)) (number : α) :
    (∀ other ∈ numbers, other < number) ↔ ∀ last ∈ numbers.getLast?, last < number := by
  constructor
  · intro hall last hlast
    exact hall last (List.mem_of_getLast? hlast)
  · intro hlast other hmem
    rcases List.eq_nil_or_concat numbers with rfl | ⟨front, last, rfl⟩
    · cases hmem
    have hless := hlast last (by simp)
    rcases List.mem_append.mp (List.concat_eq_append ▸ hmem) with hmem | hmem
    · rw [List.concat_eq_append, List.pairwise_append] at h
      exact IsTrans.trans _ _ _ (h.2.2 other hmem last List.mem_cons_self) hless
    · rw [List.mem_singleton.mp hmem]
      exact hless
