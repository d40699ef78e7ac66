import Mathlib.Data.List.Basic

/-! Deterministic machines that emit events. A run is a list of actions; its
history is the concatenation of what the steps emit. The rules below carry along
any run an invariant of state and history, guarded or not, and a requirement of
each event on the events before it, and drop silent actions from a run. -/

/-- Each event meets the requirement, given the events before it. -/
def GuardedTrace {ε : Type*} (allowed : List ε → ε → Prop) (trace : List ε) : Prop :=
  ∀ before event after, trace = before ++ event :: after → allowed before event

theorem GuardedTrace.nil {ε : Type*} (allowed : List ε → ε → Prop) : GuardedTrace allowed [] := by
  intro before event after h
  simp at h

/-- New events that need only what came before them all, where more past never hurts. -/
theorem GuardedTrace.append {ε : Type*} {allowed : List ε → ε → Prop}
    (hmono : ∀ past more event, allowed past event → allowed (past ++ more) event)
    {past new : List ε} (h : GuardedTrace allowed past)
    (hnew : ∀ event ∈ new, allowed past event) : GuardedTrace allowed (past ++ new) := by
  intro before event after heq
  rcases List.append_eq_append_iff.mp heq with ⟨between, hbefore, hsplit⟩ | ⟨rest, hpast, hsplit⟩
  · have hmem : event ∈ new := by simp [hsplit]
    rw [hbefore]
    exact hmono past between event (hnew event hmem)
  · cases rest with
    | nil =>
        rw [List.append_nil] at hpast
        have hmem : event ∈ new := by
          rw [List.nil_append] at hsplit
          simp [← hsplit]
        exact hpast ▸ hnew event hmem
    | cons first rest =>
        rw [List.cons_append] at hsplit
        cases hsplit
        exact h before event rest hpast

/-- New events that guard themselves, where an earlier past never hurts. -/
theorem GuardedTrace.concat {ε : Type*} {allowed : List ε → ε → Prop}
    (hmono : ∀ earlier past event, allowed past event → allowed (earlier ++ past) event)
    {past new : List ε} (h : GuardedTrace allowed past) (hnew : GuardedTrace allowed new) :
    GuardedTrace allowed (past ++ new) := by
  intro before event after heq
  rcases List.append_eq_append_iff.mp heq with ⟨between, hbefore, hsplit⟩ | ⟨rest, hpast, hsplit⟩
  · rw [hbefore]
    exact hmono past between event (hnew between event after hsplit)
  · cases rest with
    | nil =>
        rw [List.append_nil] at hpast
        have hfirst := hmono before [] event (hnew [] event after hsplit.symm)
        rwa [List.append_nil] at hfirst
    | cons first rest =>
        rw [List.cons_append] at hsplit
        cases hsplit
        exact h before event rest hpast

/-- New events, each judged with the new ones before it. -/
theorem GuardedTrace.extend {ε : Type*} {allowed : List ε → ε → Prop} {past new : List ε}
    (h : GuardedTrace allowed past)
    (hnew : ∀ before event after, new = before ++ event :: after →
      allowed (past ++ before) event) : GuardedTrace allowed (past ++ new) := by
  intro before event after heq
  rcases List.append_eq_append_iff.mp heq with ⟨between, hbefore, hsplit⟩ | ⟨rest, hpast, hsplit⟩
  · rw [hbefore]
    exact hnew between event after hsplit
  · cases rest with
    | nil =>
        rw [List.append_nil] at hpast
        have hfirst := hnew [] event after hsplit.symm
        rwa [List.append_nil, hpast] at hfirst
    | cons first rest =>
        rw [List.cons_append] at hsplit
        cases hsplit
        exact h before event rest hpast

structure Machine (σ α ε : Type*) where
  step : σ → α → σ × List ε

namespace Machine

variable {σ α ε : Type*} (M : Machine σ α ε)

def exec (state : σ) : List α → σ × List ε
  | [] => (state, [])
  | action :: rest =>
      let next := M.step state action
      let last := exec next.1 rest
      (last.1, next.2 ++ last.2)

def final (state : σ) (actions : List α) : σ :=
  (M.exec state actions).1

def history (state : σ) (actions : List α) : List ε :=
  (M.exec state actions).2

@[simp] theorem final_nil (state : σ) : M.final state [] = state := rfl

@[simp] theorem history_nil (state : σ) : M.history state [] = [] := rfl

@[simp] theorem final_cons (state : σ) (action : α) (rest : List α) :
    M.final state (action :: rest) = M.final (M.step state action).1 rest := rfl

@[simp] theorem history_cons (state : σ) (action : α) (rest : List α) :
    M.history state (action :: rest) =
      (M.step state action).2 ++ M.history (M.step state action).1 rest := rfl

theorem final_append (state : σ) (first second : List α) :
    M.final state (first ++ second) = M.final (M.final state first) second := by
  induction first generalizing state with
  | nil => rfl
  | cons action rest ih => exact ih (M.step state action).1

theorem history_append (state : σ) (first second : List α) :
    M.history state (first ++ second) =
      M.history state first ++ M.history (M.final state first) second := by
  induction first generalizing state with
  | nil => rfl
  | cons action rest ih =>
      rw [List.cons_append, history_cons, history_cons, final_cons, ih, List.append_assoc]

/-- Some run of permitted actions, with its ends and its events. -/
def Runs (permitted : α → Prop) (first : σ) (events : List ε) (last : σ) : Prop :=
  ∃ actions, (∀ action ∈ actions, permitted action) ∧
    M.final first actions = last ∧ M.history first actions = events

/-- Every step of the run meets the guard in the state it starts from. -/
def Along (guard : σ → α → Prop) (state : σ) : List α → Prop
  | [] => True
  | action :: rest => guard state action ∧ Along guard (M.step state action).1 rest

variable {M} {permitted : α → Prop} {guard : σ → α → Prop}

theorem Runs.nil (state : σ) : M.Runs permitted state [] state :=
  ⟨[], by simp, rfl, rfl⟩

theorem Runs.one {action : α} (h : permitted action) (state : σ) :
    M.Runs permitted state (M.step state action).2 (M.step state action).1 :=
  ⟨[action], by simpa using h, rfl, by simp⟩

theorem Runs.trans {first second third : σ} {events more : List ε}
    (h : M.Runs permitted first events second) (h' : M.Runs permitted second more third) :
    M.Runs permitted first (events ++ more) third := by
  obtain ⟨actions, hall, rfl, rfl⟩ := h
  obtain ⟨others, hothers, rfl, rfl⟩ := h'
  refine ⟨actions ++ others, fun action hmem => ?_, M.final_append _ _ _, M.history_append _ _ _⟩
  rcases List.mem_append.mp hmem with hmem | hmem
  · exact hall action hmem
  · exact hothers action hmem

/-- What one guarded step preserves, together with the events emitted so far,
a whole guarded run preserves. -/
theorem invariant_along (I : σ → List ε → Prop)
    (hstep : ∀ state past action, guard state action → I state past →
      I (M.step state action).1 (past ++ (M.step state action).2))
    {state : σ} (past : List ε) {actions : List α}
    (hguard : M.Along guard state actions) (hinit : I state past) :
    I (M.final state actions) (past ++ M.history state actions) := by
  induction actions generalizing state past with
  | nil => simpa using hinit
  | cons action rest ih =>
      obtain ⟨hfirst, hrest⟩ := hguard
      rw [final_cons, history_cons, ← List.append_assoc]
      exact ih _ hrest (hstep state past action hfirst hinit)

theorem along_and {p : α → Prop} {state : σ} {actions : List α}
    (h : M.Along guard state actions) (hall : ∀ action ∈ actions, p action) :
    M.Along (fun s a => guard s a ∧ p a) state actions := by
  induction actions generalizing state with
  | nil => trivial
  | cons action rest ih =>
      have hrest := ih h.2 fun other hmem => hall other (List.mem_cons_of_mem _ hmem)
      exact ⟨⟨h.1, hall action List.mem_cons_self⟩, hrest⟩

theorem along_of_forall (h : ∀ state action, guard state action) (state : σ)
    (actions : List α) : M.Along guard state actions := by
  induction actions generalizing state with
  | nil => trivial
  | cons action rest ih => exact ⟨h state action, ih _⟩

theorem along_append {state : σ} {first second : List α} :
    M.Along guard state (first ++ second) ↔
      M.Along guard state first ∧ M.Along guard (M.final state first) second := by
  induction first generalizing state with
  | nil => simp [Along]
  | cons action rest ih =>
      rw [List.cons_append, Along, Along, ih, final_cons, and_assoc]

theorem along_congr {other : σ → α → Prop}
    (h : ∀ state action, guard state action ↔ other state action) (state : σ)
    (actions : List α) : M.Along guard state actions ↔ M.Along other state actions := by
  induction actions generalizing state with
  | nil => exact Iff.rfl
  | cons action rest ih => exact and_congr (h state action) (ih _)

theorem invariant_history (I : σ → List ε → Prop)
    (hstep : ∀ state past action, I state past →
      I (M.step state action).1 (past ++ (M.step state action).2))
    {state : σ} {past : List ε} (hinit : I state past) (actions : List α) :
    I (M.final state actions) (past ++ M.history state actions) := by
  have hguard : M.Along (fun _ _ => True) state actions :=
    along_of_forall (fun _ _ => trivial) state actions
  exact invariant_along I (fun s p a _ => hstep s p a) past hguard hinit

theorem guarded_invariant (I : σ → Prop)
    (hstep : ∀ state action, guard state action → I state → I (M.step state action).1)
    {state : σ} {actions : List α} (hguard : M.Along guard state actions) (hinit : I state) :
    I (M.final state actions) :=
  invariant_along (fun s _ => I s) (fun s _ a => hstep s a) [] hguard hinit

theorem invariant (I : σ → Prop) (hstep : ∀ state action, I state → I (M.step state action).1)
    {state : σ} (hinit : I state) (actions : List α) : I (M.final state actions) := by
  have hguard : M.Along (fun _ _ => True) state actions :=
    along_of_forall (fun _ _ => trivial) state actions
  exact guarded_invariant I (fun s a _ => hstep s a) hguard hinit

/-- The machine seen through a filter of its events. -/
def observe (M : Machine σ α ε) (visible : ε → Bool) : Machine σ α ε where
  step state action := ((M.step state action).1, (M.step state action).2.filter visible)

theorem observe_final (M : Machine σ α ε) (visible : ε → Bool) (state : σ) (actions : List α) :
    (M.observe visible).final state actions = M.final state actions := by
  induction actions generalizing state with
  | nil => rfl
  | cons action rest ih => exact ih (M.step state action).1

theorem observe_history (M : Machine σ α ε) (visible : ε → Bool) (state : σ)
    (actions : List α) :
    (M.observe visible).history state actions = (M.history state actions).filter visible := by
  induction actions generalizing state with
  | nil => rfl
  | cons action rest ih =>
      rw [history_cons, history_cons, List.filter_append, ← ih (M.step state action).1]
      rfl

/-- Silent, unguarded actions that keep two states related can be dropped from
a run: neither the history, the guard nor the relation sees them. -/
theorem filter_silent (M : Machine σ α ε) (guard : σ → α → Prop) (R : σ → σ → Prop)
    (keep : α → Bool)
    (hkeep : ∀ first second action, keep action = true → R first second →
      R (M.step first action).1 (M.step second action).1 ∧
        (M.step first action).2 = (M.step second action).2 ∧
        (guard first action ↔ guard second action))
    (hdrop : ∀ first second action, keep action = false → R first second →
      R (M.step first action).1 second ∧ (M.step first action).2 = [] ∧ guard first action)
    {first second : σ} (h : R first second) (actions : List α) :
    M.history first actions = M.history second (actions.filter keep) ∧
      (M.Along guard first actions ↔ M.Along guard second (actions.filter keep)) ∧
      R (M.final first actions) (M.final second (actions.filter keep)) := by
  induction actions generalizing first second with
  | nil => exact ⟨rfl, Iff.rfl, h⟩
  | cons action rest ih =>
      cases hkept : keep action with
      | true =>
          obtain ⟨hnext, hevents, hguard⟩ := hkeep first second action hkept h
          obtain ⟨hhistory, hrest, hfinal⟩ := ih hnext
          rw [List.filter_cons_of_pos hkept, history_cons, history_cons, hhistory, hevents]
          exact ⟨rfl, and_congr hguard hrest, hfinal⟩
      | false =>
          obtain ⟨hnext, hevents, hguard⟩ := hdrop first second action hkept h
          obtain ⟨hhistory, hrest, hfinal⟩ := ih hnext
          rw [List.filter_cons_of_neg (by simp [hkept]), history_cons, hhistory, hevents]
          exact ⟨rfl, (and_iff_right hguard).trans hrest, hfinal⟩

end Machine
