import Mathlib.Data.List.Basic
import Mathlib.Logic.Function.Basic
import SupervisorRelay.Library.Machine

/-! Parts that take turns on one store. A turn is one atomic step of one part, on the
store and on that part's own state. `Contract` is the rule of rely and guarantee: what
each part asserts of itself survives whatever the others are allowed to do meanwhile. -/

/-- What a part does at its turn. -/
structure Turns (σ κ α ε : Type*) where
  step : σ → κ → α → σ × κ × List ε

/-- The store and the state of every part. -/
structure Scene (σ ι κ : Type*) where
  store : σ
  parts : ι → κ

namespace Turns

variable {σ ι κ α ε : Type*} [DecidableEq ι]

/-- A schedule names the part whose turn it is, and the events carry the name. -/
def machine (T : Turns σ κ α ε) : Machine (Scene σ ι κ) (ι × α) (ι × ε) where
  step scene turn :=
    let next := T.step scene.store (scene.parts turn.1) turn.2
    (⟨next.1, Function.update scene.parts turn.1 next.2.1⟩, next.2.2.map (Prod.mk turn.1))

theorem machine_own (T : Turns σ κ α ε) (scene : Scene σ ι κ) (part : ι) (action : α) :
    (T.machine.step scene (part, action)).1.parts part =
      (T.step scene.store (scene.parts part) action).2.1 :=
  Function.update_self _ _ _

theorem machine_other (T : Turns σ κ α ε) (scene : Scene σ ι κ) {part other : ι} (action : α)
    (h : other ≠ part) :
    (T.machine.step scene (part, action)).1.parts other = scene.parts other :=
  Function.update_of_ne h _ _

/-- The events of one part. -/
def eventsOf (part : ι) (trace : List (ι × ε)) : List ε :=
  (trace.filter fun event => event.1 = part).map Prod.snd

variable {T : Turns σ κ α ε}

@[simp] theorem eventsOf_append (part : ι) (first second : List (ι × ε)) :
    eventsOf part (first ++ second) = eventsOf part first ++ eventsOf part second := by
  simp [eventsOf]

theorem eventsOf_own (part : ι) (events : List ε) :
    eventsOf part (events.map (Prod.mk part)) = events := by
  simp [eventsOf, List.filter_map, Function.comp_def]

theorem eventsOf_other {part other : ι} (h : other ≠ part) (events : List ε) :
    eventsOf part (events.map (Prod.mk other)) = [] := by
  simp [eventsOf, List.filter_map, Function.comp_def, h]

/-- What each part guarantees and may rely on: an invariant of the store and of all
events, the changes of the store that its turns may make, and an assertion about itself
and its own events that such changes by the others leave true. -/
structure Contract (ι : Type*) [DecidableEq ι] (T : Turns σ κ α ε) where
  store : σ → List (ι × ε) → Prop
  guarantee : ι → σ → σ → Prop
  part : ι → σ → κ → List ε → Prop
  keeps : ∀ i s k action trace, store s trace → part i s k (eventsOf i trace) →
    let next := T.step s k action
    store next.1 (trace ++ next.2.2.map (Prod.mk i)) ∧ guarantee i s next.1 ∧
      part i next.1 next.2.1 (eventsOf i trace ++ next.2.2)
  stable : ∀ i other s changed k past, other ≠ i → guarantee other s changed →
    part i s k past → part i changed k past

/-- The invariant and every part's assertion, after the events so far. -/
structure Contract.Holds (C : Contract ι T) (scene : Scene σ ι κ) (trace : List (ι × ε)) :
    Prop where
  store : C.store scene.store trace
  parts : ∀ i, C.part i scene.store (scene.parts i) (eventsOf i trace)

variable {C : Contract ι T} {scene : Scene σ ι κ} {trace : List (ι × ε)}

theorem Contract.Holds.step (h : C.Holds scene trace) (turn : ι × α) :
    C.Holds (T.machine.step scene turn).1 (trace ++ (T.machine.step scene turn).2) := by
  obtain ⟨hstore, hguarantee, hown⟩ :=
    C.keeps turn.1 scene.store (scene.parts turn.1) turn.2 trace h.store (h.parts turn.1)
  refine ⟨hstore, fun i => ?_⟩
  rw [eventsOf_append]
  by_cases hi : i = turn.1
  · subst hi
    rw [machine_own, machine, eventsOf_own]
    exact hown
  · rw [machine_other T scene turn.2 hi, machine, eventsOf_other (Ne.symm hi), List.append_nil]
    exact C.stable i turn.1 _ _ _ _ (Ne.symm hi) hguarantee (h.parts i)

/-- A contract that holds at the start holds under every schedule. -/
theorem Contract.Holds.run (h : C.Holds scene trace) (schedule : List (ι × α)) :
    C.Holds (T.machine.final scene schedule) (trace ++ T.machine.history scene schedule) :=
  Machine.invariant_history C.Holds (fun _ _ turn h => h.step turn) h schedule

end Turns
