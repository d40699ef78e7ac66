import SupervisorRelay.Library.HashMap
import SupervisorRelay.Library.Json

/-! Readers of JSON objects as serde derives them: each field is looked up by name, and
members that no field asks for go unread. -/
namespace Json

abbrev Members := List (String × Json)

variable {α : Type} {members : Members} {key : String} {read : Json → Option α}

/-- A field that must be there. -/
def required (members : Members) (key : String) (read : Json → Option α) : Option α :=
  (members.lookup key).bind read

/-- An `Option` field: absent and `null` are both `None`. -/
def optional (members : Members) (key : String) (read : Json → Option α) : Option (Option α) :=
  match members.lookup key with
  | none => some none
  | some .null => some none
  | some value => (read value).map some

/-- A field with `#[serde(default)]`. -/
def defaulted (members : Members) (key : String) (fallback : α) (read : Json → Option α) :
    Option α :=
  match members.lookup key with
  | none => some fallback
  | some value => read value

def readList (read : Json → Option α) : Json → Option (List α)
  | .array items => items.mapM read
  | _ => none

def readEntries (read : Json → Option α) : Members → Option (HashMap String α)
  | [] => some ∅
  | (key, value) :: rest => do
      let entry ← read value
      let entries ← readEntries read rest
      return entries.insert key entry

def readMap (read : Json → Option α) : Json → Option (HashMap String α)
  | .object members => readEntries read members
  | _ => none

/-- The fields of a struct, from an object by name or from an array by position. An
array may stop after the first `atLeast` fields. -/
def structMembers (names : List String) (atLeast : Nat) : Json → Option Members
  | .object members => some members
  | .array items =>
      if atLeast ≤ items.length ∧ items.length ≤ names.length then some (names.zip items) else none
  | _ => none

/-- The member is there and has the form. -/
def Holds (members : Members) (key : String) (read : Json → Option α) : Prop :=
  ∃ value, members.lookup key = some value ∧ (read value).isSome = true

/-- The member is absent, `null`, or has the form. -/
def PermitsNull (members : Members) (key : String) (read : Json → Option α) : Prop :=
  ∀ value, members.lookup key = some value → value = .null ∨ (read value).isSome = true

/-- The member is absent or has the form. -/
def Permits (members : Members) (key : String) (read : Json → Option α) : Prop :=
  ∀ value, members.lookup key = some value → (read value).isSome = true

theorem required_isSome :
    (required members key read).isSome = true ↔ Holds members key read := by
  unfold required Holds
  cases members.lookup key <;> simp

theorem optional_isSome :
    (optional members key read).isSome = true ↔ PermitsNull members key read := by
  unfold optional PermitsNull
  cases members.lookup key with
  | none => simp
  | some value => cases value <;> simp

theorem defaulted_isSome {fallback : α} :
    (defaulted members key fallback read).isSome = true ↔ Permits members key read := by
  unfold defaulted Permits
  cases members.lookup key <;> simp

/-- A reader of several fields succeeds when each of them is read. -/
theorem bind_isSome {β : Type} {first : Option α} {next : α → Option β} {rest : Prop}
    (h : ∀ value, (next value).isSome = true ↔ rest) :
    (first >>= next).isSome = true ↔ first.isSome = true ∧ rest := by
  cases first with
  | none => simp
  | some value => simpa using h value

end Json
