import Mathlib.Data.Nat.Digits.Defs
import SupervisorRelay.Library.IpAddr

/-! Unsigned numbers as text: the number that a row of digits denotes, and what Rust's
`from_str_radix` makes of a text. -/
namespace Radix

open IpAddr (toDigit)

/-- The digits in the text's own order, if it is nothing but digits. -/
def digitsOf (radix : Nat) (text : List Char) : Option (List Nat) :=
  text.mapM (toDigit radix)

/-- A nonempty row of digits denotes a number, with its first digit the most significant. -/
def denoted (radix : Nat) (text : List Char) : Option Nat :=
  if text.isEmpty then none
  else (digitsOf radix text).map fun digits => Nat.ofDigits radix digits.reverse

/-- The loop of `from_str_radix`, which stops when the value leaves its type. -/
def readBelow (radix bound : Nat) : List Char → Nat → Option Nat
  | [], value => some value
  | c :: rest, value =>
      match toDigit radix c with
      | some digit =>
          if value * radix + digit < bound then
            readBelow radix bound rest (value * radix + digit)
          else none
      | none => none

/-- `from_str_radix` of an unsigned type with values below `bound`: a `+` may stand
before the digits. -/
def fromStrRadix (radix bound : Nat) : List Char → Option Nat
  | [] => none
  | ['+'] => none
  | '+' :: digits => readBelow radix bound digits 0
  | digits => readBelow radix bound digits 0

variable {radix bound : Nat}

theorem digitsOf_cons {c : Char} {rest : List Char} {digits : List Nat} :
    digitsOf radix (c :: rest) = some digits ↔
      ∃ digit others, toDigit radix c = some digit ∧ digitsOf radix rest = some others ∧
        digits = digit :: others := by
  unfold digitsOf
  rw [List.mapM_cons]
  cases toDigit radix c with
  | none => simp
  | some digit =>
      cases rest.mapM (toDigit radix) with
      | none => simp
      | some others => simp [eq_comm]

/-- One more digit behind the value read so far. -/
theorem ofDigits_step (digits : List Nat) (digit value : Nat) :
    Nat.ofDigits radix (digits ++ [value * radix + digit]) =
      Nat.ofDigits radix (digits ++ [digit, value]) := by
  simp only [Nat.ofDigits_append, Nat.ofDigits_cons, Nat.ofDigits_nil]
  ring

theorem le_ofDigits_append (hradix : 0 < radix) (digits : List Nat) (value : Nat) :
    value ≤ Nat.ofDigits radix (digits ++ [value]) := by
  rw [Nat.ofDigits_append, Nat.ofDigits_singleton]
  have hpow : 1 ≤ radix ^ digits.length := Nat.one_le_pow _ _ hradix
  calc value = 1 * value := (one_mul value).symm
    _ ≤ radix ^ digits.length * value := Nat.mul_le_mul_right value hpow
    _ ≤ _ := Nat.le_add_left _ _

/-- The loop reads the denoted number, unless that leaves the type. -/
theorem readBelow_digits (hradix : 0 < radix) {text : List Char} {digits : List Nat}
    (hdigits : digitsOf radix text = some digits) {value : Nat} (hvalue : value < bound) :
    readBelow radix bound text value =
      if Nat.ofDigits radix (digits.reverse ++ [value]) < bound then
        some (Nat.ofDigits radix (digits.reverse ++ [value]))
      else none := by
  induction text generalizing digits value with
  | nil =>
      cases hdigits
      simp [readBelow, hvalue]
  | cons c rest ih =>
      obtain ⟨digit, others, hdigit, hothers, rfl⟩ := digitsOf_cons.mp hdigits
      have hstep : Nat.ofDigits radix ((digit :: others).reverse ++ [value]) =
          Nat.ofDigits radix (others.reverse ++ [value * radix + digit]) := by
        rw [ofDigits_step, List.reverse_cons, List.append_assoc]
        rfl
      rw [readBelow, hdigit, hstep]
      dsimp only
      split
      · rename_i hnext
        exact ih hothers hnext
      · rename_i hnext
        have hle := le_ofDigits_append hradix others.reverse (value * radix + digit)
        rw [if_neg (by omega)]

theorem toDigit_plus (radix : Nat) : toDigit radix '+' = none := by
  rfl

theorem toDigit_zero (hradix : 0 < radix) : toDigit radix '0' = some 0 := by
  simp [toDigit, Option.filter, hradix]

theorem eq_of_toDigit_zero {c : Char} (h : toDigit radix c = some 0) : c = '0' := by
  have hvalue := (Option.filter_eq_some_iff.mp h).1
  split at hvalue
  · rename_i hdigit
    have hle : '0'.toNat ≤ c.toNat := (Char.isDigit_iff_toNat.mp hdigit).1
    rw [Option.some.injEq] at hvalue
    exact Char.toNat_inj.mp (by omega)
  · split at hvalue
    · simp at hvalue
    split at hvalue
    · simp at hvalue
    · cases hvalue

theorem denoted_cons {c : Char} {rest : List Char} {digits : List Nat}
    (hdigits : digitsOf radix (c :: rest) = some digits) :
    denoted radix (c :: rest) = some (Nat.ofDigits radix digits.reverse) := by
  rw [denoted, hdigits]
  rfl

/-- On digits alone `from_str_radix` is the denoted number, below the bound. -/
theorem fromStrRadix_digits (hradix : 0 < radix) (hbound : 0 < bound) {text : List Char}
    {value : Nat} (hvalue : denoted radix text = some value) :
    fromStrRadix radix bound text = if value < bound then some value else none := by
  cases text with
  | nil => cases hvalue
  | cons c rest =>
      obtain ⟨digits, hdigits, rfl⟩ := Option.map_eq_some_iff.mp hvalue
      obtain ⟨digit, others, hdigit, -⟩ := digitsOf_cons.mp hdigits
      have hplus : c ≠ '+' := by
        rintro rfl
        rw [toDigit_plus] at hdigit
        cases hdigit
      have hread : fromStrRadix radix bound (c :: rest) = readBelow radix bound (c :: rest) 0 := by
        unfold fromStrRadix
        split <;> simp_all
      have hzero : Nat.ofDigits radix (digits.reverse ++ [0]) =
          Nat.ofDigits radix digits.reverse := Nat.ofDigits_append_zero _
      rw [hread, readBelow_digits hradix hdigits hbound, hzero]

/-- Without its leading zeros a number denotes the same, but zero denotes nothing. -/
theorem denoted_dropZeros (hradix : 0 < radix) {text : List Char} {digits : List Nat}
    (hdigits : digitsOf radix text = some digits) :
    (Nat.ofDigits radix digits.reverse = 0 ∧ text.dropWhile (· == '0') = []) ∨
      (0 < Nat.ofDigits radix digits.reverse ∧
        denoted radix (text.dropWhile (· == '0')) =
          some (Nat.ofDigits radix digits.reverse)) := by
  induction text generalizing digits with
  | nil =>
      cases hdigits
      exact .inl ⟨rfl, rfl⟩
  | cons c rest ih =>
      obtain ⟨digit, others, hdigit, hothers, rfl⟩ := digitsOf_cons.mp hdigits
      by_cases hc : c = '0'
      · subst hc
        rw [toDigit_zero hradix] at hdigit
        cases hdigit
        rw [Nat.ofDigits_reverse_zero_cons, List.dropWhile_cons_of_pos (by rfl)]
        exact ih hothers
      · have hpos : 0 < digit := by
          rw [Nat.pos_iff_ne_zero]
          rintro rfl
          exact hc (eq_of_toDigit_zero hdigit)
        rw [List.dropWhile_cons_of_neg (by simpa using hc)]
        refine .inr ⟨?_, denoted_cons hdigits⟩
        rw [Nat.ofDigits_reverse_cons]
        have hpow : 0 < radix ^ others.length := Nat.pow_pos hradix
        exact Nat.add_pos_right _ (Nat.mul_pos hpow hpos)

end Radix
