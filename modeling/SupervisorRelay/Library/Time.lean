import Mathlib.Order.Basic

/-! UTC instants in the default range of the `time` crate and the addition of a
whole number of seconds, which panics when it leaves that range. -/

/-- -9999-01-01T00:00:00Z, in nanoseconds since 1970. -/
def OffsetDateTime.minNanos : Int := -377705116800000000000

/-- 9999-12-31T23:59:59.999999999Z. -/
def OffsetDateTime.maxNanos : Int := 253402300799999999999

/-- Nanoseconds since 1970-01-01T00:00:00Z; a value outside the range cannot be built. -/
@[ext] structure OffsetDateTime where
  unixNanos : Int
  inRange : OffsetDateTime.minNanos ≤ unixNanos ∧ unixNanos ≤ OffsetDateTime.maxNanos
deriving DecidableEq

structure Duration where
  nanos : Int
deriving DecidableEq

def nanosPerSecond : Int := 1000000000

/-- `Duration::seconds(i64)`. -/
def Duration.seconds (seconds : Int64) : Duration :=
  ⟨seconds.toInt * nanosPerSecond⟩

/-- `Duration::days(i64)`. -/
def Duration.days (days : Int64) : Duration :=
  ⟨days.toInt * 86400 * nanosPerSecond⟩

namespace OffsetDateTime

def unixEpoch : OffsetDateTime :=
  ⟨0, by decide⟩

instance : LE OffsetDateTime := ⟨fun left right => left.unixNanos ≤ right.unixNanos⟩
instance : LT OffsetDateTime := ⟨fun left right => left.unixNanos < right.unixNanos⟩

theorem le_iff {left right : OffsetDateTime} :
    left ≤ right ↔ left.unixNanos ≤ right.unixNanos := Iff.rfl

theorem lt_iff {left right : OffsetDateTime} :
    left < right ↔ left.unixNanos < right.unixNanos := Iff.rfl

instance (left right : OffsetDateTime) : Decidable (left ≤ right) :=
  inferInstanceAs (Decidable (left.unixNanos ≤ right.unixNanos))

instance (left right : OffsetDateTime) : Decidable (left < right) :=
  inferInstanceAs (Decidable (left.unixNanos < right.unixNanos))

theorem not_le {left right : OffsetDateTime} : ¬left ≤ right ↔ right < left := by
  rw [le_iff, lt_iff]
  exact Int.not_le

theorem le_refl (instant : OffsetDateTime) : instant ≤ instant :=
  Int.le_refl _

theorem le_trans {first second third : OffsetDateTime} (h : first ≤ second)
    (h' : second ≤ third) : first ≤ third :=
  Int.le_trans h h'

/-- `self + duration`; `none` is the panic "resulting value is out of range". -/
def checkedAdd (instant : OffsetDateTime) (duration : Duration) : Option OffsetDateTime :=
  if h : minNanos ≤ instant.unixNanos + duration.nanos ∧
      instant.unixNanos + duration.nanos ≤ maxNanos then
    some ⟨instant.unixNanos + duration.nanos, h⟩
  else none

/-- `self - duration`, with the same panic. -/
def checkedSub (instant : OffsetDateTime) (duration : Duration) : Option OffsetDateTime :=
  instant.checkedAdd ⟨-duration.nanos⟩

theorem checkedAdd_eq_some {instant sum : OffsetDateTime} {duration : Duration} :
    instant.checkedAdd duration = some sum ↔
      sum.unixNanos = instant.unixNanos + duration.nanos := by
  unfold checkedAdd
  split
  · rw [Option.some.injEq, OffsetDateTime.ext_iff]
    exact eq_comm
  · rename_i hrange
    constructor
    · intro h
      cases h
    · intro h
      exact absurd (h ▸ sum.inRange) hrange

theorem checkedAdd_isSome {instant : OffsetDateTime} {duration : Duration} :
    (instant.checkedAdd duration).isSome = true ↔
      minNanos ≤ instant.unixNanos + duration.nanos ∧
        instant.unixNanos + duration.nanos ≤ maxNanos := by
  unfold checkedAdd
  split <;> simp_all

end OffsetDateTime
