import Mathlib.Logic.Basic

/-! The observable error model of `error.rs`, and how a call can end. -/
namespace SupervisorRelay

structure RelayError where
  code : String
  stage : String
  targetId : Option String
  message : String
  retryable : Bool
deriving DecidableEq

abbrev RelayResult (α : Type) := Except RelayError α

def RelayError.new (code stage : String) (targetId : Option String) (message : String)
    (retryable : Bool) : RelayError :=
  ⟨code, stage, targetId, message, retryable⟩

def RelayError.forTarget (code stage targetId message : String) (retryable : Bool) :
    RelayError :=
  .new code stage (some targetId) message retryable

/-- `map_err` into an error of one code. -/
def relayError (code stage message : String) (retryable : Bool) (diagnostic : String) :
    RelayError :=
  .new code stage none (message ++ diagnostic) retryable

/-- A call ends with its `Result` or with a panic that unwinds out of it. -/
inductive Outcome (α : Type) where
  | returned (result : RelayResult α)
  | panicked

def Outcome.isOk : Outcome α → Bool
  | .returned (.ok _) => true
  | _ => false

theorem Outcome.isOk_iff {outcome : Outcome α} :
    outcome.isOk = true ↔ ∃ value, outcome = .returned (.ok value) := by
  unfold isOk
  split <;> simp_all

/-- `?` passes an error on and hands a value to what follows. -/
theorem RelayResult.bind_eq_ok {first : RelayResult α} {next : α → RelayResult β} {value : β} :
    first >>= next = .ok value ↔ ∃ a, first = .ok a ∧ next a = .ok value := by
  cases first with
  | error error => simp [bind, Except.bind]
  | ok a => simp [bind, Except.bind]

theorem RelayResult.unit_bind_eq_ok {first : RelayResult Unit} {next : Unit → RelayResult β}
    {value : β} : first >>= next = .ok value ↔ first = .ok () ∧ next () = .ok value := by
  rw [bind_eq_ok]
  exact ⟨fun ⟨_, hfirst, hnext⟩ => ⟨hfirst, hnext⟩, fun h => ⟨(), h⟩⟩

end SupervisorRelay
