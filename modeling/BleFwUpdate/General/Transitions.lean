import Mathlib.Tactic.Common

/-! Runs of a deterministic machine over lists of events: the states a run goes
through, properties of every step of a run, and the induction rules for both. -/

namespace Transitions

variable {State Event : Type}

/-- The state a run of `events` ends in. -/
def runFrom (step : State → Event → State) (state : State) (events : List Event) : State :=
  events.foldl step state

/-- Every step of the run has the property, in the state it starts from. -/
def Along (step : State → Event → State) (holds : State → Event → Prop) :
    State → List Event → Prop
  | _, [] => True
  | state, event :: rest => holds state event ∧ Along step holds (step state event) rest

instance decidableAlong (step : State → Event → State) (holds : State → Event → Prop)
    [∀ state event, Decidable (holds state event)] :
    ∀ state events, Decidable (Along step holds state events)
  | _, [] => .isTrue trivial
  | state, event :: rest =>
      have := decidableAlong step holds (step state event) rest
      inferInstanceAs (Decidable (_ ∧ _))

/-- The events of a run, each with the state it was handled in. -/
def history (step : State → Event → State) : State → List Event → List (State × Event)
  | _, [] => []
  | state, event :: rest => (state, event) :: history step (step state event) rest

/-- What a run puts out, step after step. -/
def trace {Output : Type} (step : State → Event → State) (output : State → List Output) :
    State → List Event → List Output
  | _, [] => []
  | state, event :: rest => output (step state event) ++ trace step output (step state event) rest

variable (step : State → Event → State)

@[simp] theorem runFrom_nil (state : State) : runFrom step state [] = state := rfl

@[simp] theorem runFrom_cons (state : State) (event : Event) (rest : List Event) :
    runFrom step state (event :: rest) = runFrom step (step state event) rest := rfl

theorem runFrom_append (state : State) (first second : List Event) :
    runFrom step state (first ++ second) = runFrom step (runFrom step state first) second := by
  simp [runFrom]

@[simp] theorem along_nil (holds : State → Event → Prop) (state : State) :
    Along step holds state [] := trivial

@[simp] theorem along_cons (holds : State → Event → Prop) (state : State) (event : Event)
    (rest : List Event) :
    Along step holds state (event :: rest) ↔
      holds state event ∧ Along step holds (step state event) rest := Iff.rfl

theorem along_append (holds : State → Event → Prop) (state : State) (first second : List Event) :
    Along step holds state (first ++ second) ↔
      Along step holds state first ∧ Along step holds (runFrom step state first) second := by
  induction first generalizing state with
  | nil => simp
  | cons event rest ih => simp [ih, and_assoc]

variable {step}

theorem Along.invariant {holds : State → Event → Prop} {inv : State → Prop}
    (keeps : ∀ state event, inv state → holds state event → inv (step state event))
    {state : State} {events : List Event} (along : Along step holds state events)
    (initial : inv state) : inv (runFrom step state events) := by
  induction events generalizing state with
  | nil => exact initial
  | cons event rest ih => exact ih along.2 (keeps state event initial along.1)

theorem Along.imp_of_invariant {holds other : State → Event → Prop} {inv : State → Prop}
    (keeps : ∀ state event, inv state → holds state event → inv (step state event))
    (gives : ∀ state event, inv state → holds state event → other state event)
    {state : State} {events : List Event} (along : Along step holds state events)
    (initial : inv state) : Along step other state events := by
  induction events generalizing state with
  | nil => trivial
  | cons event rest ih =>
      exact ⟨gives state event initial along.1,
        ih along.2 (keeps state event initial along.1)⟩

theorem along_iff_of_invariant {holds other : State → Event → Prop} {inv : State → Prop}
    {state : State} {events : List Event}
    (keeps : ∀ state, ∀ event ∈ events, inv state → holds state event → inv (step state event))
    (same : ∀ state, ∀ event ∈ events, inv state → (holds state event ↔ other state event))
    (initial : inv state) : Along step holds state events ↔ Along step other state events := by
  induction events generalizing state with
  | nil => exact Iff.rfl
  | cons event rest ih =>
      rw [along_cons, along_cons, same state event (by simp) initial]
      refine and_congr_right fun now => ih ?_ ?_ ?_
      · exact fun state event member => keeps state event (List.mem_cons_of_mem _ member)
      · exact fun state event member => same state event (List.mem_cons_of_mem _ member)
      · exact keeps state event (by simp) initial ((same state event (by simp) initial).mpr now)

theorem Along.invariant_history {holds : State → Event → Prop}
    {inv : List (State × Event) → State → Prop}
    (keeps : ∀ log state event, inv log state → holds state event →
      inv (log ++ [(state, event)]) (step state event))
    {state : State} {events : List Event} (along : Along step holds state events)
    {log : List (State × Event)} (initial : inv log state) :
    inv (log ++ history step state events) (runFrom step state events) := by
  induction events generalizing state log with
  | nil => simpa [history] using initial
  | cons event rest ih =>
      have later := ih along.2 (keeps log state event initial along.1)
      rwa [List.append_assoc] at later

theorem Along.and {holds other : State → Event → Prop} {state : State} {events : List Event}
    (first : Along step holds state events) (second : Along step other state events) :
    Along step (fun state event => holds state event ∧ other state event) state events := by
  induction events generalizing state with
  | nil => trivial
  | cons event rest ih => exact ⟨⟨first.1, second.1⟩, ih first.2 second.2⟩

theorem along_of_always {holds : State → Event → Prop} {state : State} {events : List Event}
    (all : ∀ event ∈ events, ∀ state, holds state event) : Along step holds state events := by
  induction events generalizing state with
  | nil => trivial
  | cons event rest ih =>
      exact ⟨all event (by simp) state,
        ih fun event member => all event (List.mem_cons_of_mem _ member)⟩

theorem along_of_forall {holds : Event → Prop} {state : State} {events : List Event}
    (all : ∀ event ∈ events, holds event) :
    Along step (fun _ event => holds event) state events :=
  along_of_always fun event member _ => all event member

theorem along_iff_forall_history {holds : State → Event → Prop} {state : State}
    {events : List Event} :
    Along step holds state events ↔
      ∀ entry ∈ history step state events, holds entry.1 entry.2 := by
  induction events generalizing state with
  | nil => simp [history]
  | cons event rest ih => simp [history, ih]

@[simp] theorem history_nil (state : State) : history step state [] = [] := rfl

theorem history_append (state : State) (first second : List Event) :
    history step state (first ++ second) =
      history step state first ++ history step (runFrom step state first) second := by
  induction first generalizing state with
  | nil => rfl
  | cons event rest ih => simp [history, ih]

theorem history_concat (state : State) (events : List Event) (event : Event) :
    history step state (events ++ [event]) =
      history step state events ++ [(runFrom step state events, event)] := by
  rw [history_append]
  rfl

/-- A property of what a run has put out, which is lost for ever once it is lost, holds exactly
as long as the steps do not break it. -/
theorem along_iff_of_emitted {Output : Type} {emit : State → Event → List Output}
    {good : List Output → Prop} {holds : State → Event → Prop} {inv : List Output → State → Prop}
    (lost : ∀ made more, good (made ++ more) → good made)
    (fine : ∀ made state, inv made state → good made)
    (keeps : ∀ made state event, inv made state → holds state event →
      inv (made ++ emit state event) (step state event))
    (breaks : ∀ made state event, inv made state → ¬ holds state event →
      ¬ good (made ++ emit state event))
    {made : List Output} {state : State} (initial : inv made state) (events : List Event) :
    good (made ++ (history step state events).flatMap fun entry => emit entry.1 entry.2) ↔
      Along step holds state events := by
  induction events generalizing made state with
  | nil => simpa [history] using fine made state initial
  | cons event rest ih =>
      rw [history, List.flatMap_cons, ← List.append_assoc, along_cons]
      constructor
      · intro whole
        have kept : holds state event := by
          by_contra broken
          exact breaks made state event initial broken (lost _ _ whole)
        exact ⟨kept, (ih (keeps made state event initial kept)).mp whole⟩
      · rintro ⟨kept, later⟩
        exact (ih (keeps made state event initial kept)).mpr later

section Trace

variable {Output : Type} {output : State → List Output}

@[simp] theorem trace_nil (state : State) : trace step output state [] = [] := rfl

@[simp] theorem trace_cons (state : State) (event : Event) (rest : List Event) :
    trace step output state (event :: rest) =
      output (step state event) ++ trace step output (step state event) rest := rfl

theorem trace_append (state : State) (first second : List Event) :
    trace step output state (first ++ second) =
      trace step output state first ++ trace step output (runFrom step state first) second := by
  induction first generalizing state with
  | nil => rfl
  | cons event rest ih => simp [ih]

/-- Two runs of the same events put out the same, as long as the states they go through are
related by what decides it. -/
theorem trace_related {related : State → State → Prop} {events : List Event}
    (keeps : ∀ first second, ∀ event ∈ events, related first second →
      related (step first event) (step second event))
    (same : ∀ first second, ∀ event ∈ events, related first second →
      output (step first event) = output (step second event))
    {first second : State} (initial : related first second) :
    trace step output first events = trace step output second events ∧
      related (runFrom step first events) (runFrom step second events) := by
  induction events generalizing first second with
  | nil => exact ⟨rfl, initial⟩
  | cons event rest ih =>
      have now := same first second event (by simp) initial
      obtain ⟨later, final⟩ := ih
        (fun first second event member => keeps first second event (List.mem_cons_of_mem _ member))
        (fun first second event member => same first second event (List.mem_cons_of_mem _ member))
        (keeps first second event (by simp) initial)
      exact ⟨by rw [trace_cons, trace_cons, now, later], final⟩

/-- Runs of events that lead to the same states, each where it is handled. -/
theorem Along.run_congr {holds : State → Event → Prop} {same : Event → Event → Prop}
    (keeps : ∀ state event other, same event other → holds state event →
      step state event = step state other)
    {state : State} {events others : List Event} (alike : List.Forall₂ same events others)
    (along : Along step holds state events) :
    runFrom step state events = runFrom step state others ∧
      trace step output state events = trace step output state others := by
  induction alike generalizing state with
  | nil => exact ⟨rfl, rfl⟩
  | cons now later ih =>
      rw [runFrom_cons, runFrom_cons, trace_cons, trace_cons, ← keeps _ _ _ now along.1]
      obtain ⟨ends, outputs⟩ := ih along.2
      exact ⟨ends, by rw [outputs]⟩

end Trace

end Transitions
