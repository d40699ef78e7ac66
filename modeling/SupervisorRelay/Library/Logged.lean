import Mathlib.Data.List.Basic

/-! Computations that can fail and that act on the world outside. A failure keeps the
record of what was done before it. -/

theorem Except.mapError_ok {ε ε' α : Type} {f : ε → ε'} {result : Except ε α} {value : α} :
    result.mapError f = .ok value ↔ result = .ok value := by
  cases result with
  | error error => simp [Except.mapError]
  | ok a => simp [Except.mapError]

/-- A computation with its result and the events up to its end. -/
structure Logged (Event ε α : Type) where
  result : Except ε α
  events : List Event

namespace Logged

variable {Event ε α β : Type} {first : Logged Event ε α} {next : α → Logged Event ε β}

/-- What follows an error is not run. -/
def andThen (first : Logged Event ε α) (next : α → Logged Event ε β) : Logged Event ε β :=
  match first.result with
  | .error error => ⟨.error error, first.events⟩
  | .ok value => ⟨(next value).result, first.events ++ (next value).events⟩

instance : Monad (Logged Event ε) where
  pure value := ⟨.ok value, []⟩
  bind := andThen

/-- A step that acts on nothing. -/
def ofExcept (result : Except ε α) : Logged Event ε α := ⟨result, []⟩

/-- One call, with what it answers. -/
def call (event : Event) (answer : Except ε α) : Logged Event ε α := ⟨answer, [event]⟩

@[simp] theorem pure_result (value : α) :
    (pure value : Logged Event ε α).result = .ok value := rfl

@[simp] theorem pure_events (value : α) : (pure value : Logged Event ε α).events = [] := rfl

@[simp] theorem ofExcept_events (result : Except ε α) :
    (ofExcept result : Logged Event ε α).events = [] := rfl

@[simp] theorem call_events (event : Event) (answer : Except ε α) :
    (call event answer).events = [event] := rfl

theorem bind_error {error : ε} (h : first.result = .error error) :
    first >>= next = ⟨.error error, first.events⟩ := by
  change andThen first next = _
  rw [andThen, h]

theorem bind_value {value : α} (h : first.result = .ok value) :
    first >>= next = ⟨(next value).result, first.events ++ (next value).events⟩ := by
  change andThen first next = _
  rw [andThen, h]

/-- The computation keeps to a script: it may stop early with an error, and when it
succeeds it has done all of it. -/
structure Follows (script : List Event) (logged : Logged Event ε α) : Prop where
  within : logged.events <+: script
  completed : ∀ value, logged.result = .ok value → logged.events = script

theorem Follows.pure (value : α) : Follows [] (pure value : Logged Event ε α) :=
  ⟨List.nil_prefix, fun _ _ => rfl⟩

theorem Follows.ofExcept (result : Except ε α) :
    Follows [] (ofExcept result : Logged Event ε α) :=
  ⟨List.nil_prefix, fun _ _ => rfl⟩

theorem Follows.call (event : Event) (answer : Except ε α) :
    Follows [event] (call event answer) :=
  ⟨List.prefix_rfl, fun _ _ => rfl⟩

theorem Follows.bind {script rest : List Event} (hfirst : Follows script first)
    (hnext : ∀ a, first.result = .ok a → Follows rest (next a)) :
    Follows (script ++ rest) (first >>= next) := by
  cases h : first.result with
  | error error =>
      rw [bind_error h]
      exact ⟨hfirst.within.trans (List.prefix_append script rest), fun _ hok => by cases hok⟩
  | ok a =>
      rw [bind_value h]
      have hscript := hfirst.completed a h
      have hrest := hnext a h
      refine ⟨?_, fun value hok => ?_⟩
      · rw [hscript]
        exact (List.prefix_append_right_inj script).mpr hrest.within
      · rw [hscript, hrest.completed value hok]

/-- The end of the script is reached exactly in success. -/
structure Concludes (script : List Event) (logged : Logged Event ε α) : Prop where
  within : logged.events <+: script
  concluded : logged.events = script ↔ ∃ value, logged.result = .ok value

/-- A last call that cannot fail tells that all went well before it. -/
theorem Concludes.call (event : Event) (value : α) :
    Concludes [event] (call event (.ok value) : Logged Event ε α) :=
  ⟨List.prefix_rfl, iff_of_true rfl ⟨value, rfl⟩⟩

end Logged
