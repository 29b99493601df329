import Mathlib.Tactic.Common

/-! Runs of a machine whose steps can go wrong, and two such machines of which one is a more
abstract description of the other. -/

namespace Faults

variable {State Event : Type}

/-- The state a run ends in, unless one of its steps goes wrong. -/
def runFrom (step : State → Event → Option State) : State → List Event → Option State
  | state, [] => some state
  | state, event :: rest => (step state event).bind fun next => runFrom step next rest

/-- Some step of the run is met in such a state with such an event. -/
def Meets (step : State → Event → Option State) (bad : State → Event → Prop) :
    State → List Event → Prop
  | _, [] => False
  | state, event :: rest =>
      bad state event ∨ ∃ next, step state event = some next ∧ Meets step bad next rest

/-- Every state of the run in which a step is still to be made has the property. -/
def Along (step : State → Event → Option State) (holds : State → Prop) :
    State → List Event → Prop
  | _, [] => True
  | state, event :: rest =>
      holds state ∧ ∀ next, step state event = some next → Along step holds next rest

instance decidableAlong (step : State → Event → Option State) (holds : State → Prop)
    [∀ state, Decidable (holds state)] : ∀ state events, Decidable (Along step holds state events)
  | _, [] => .isTrue trivial
  | state, event :: rest =>
      match found : step state event with
      | none => decidable_of_iff (holds state)
          ⟨fun now => ⟨now, by simp [found]⟩, fun along => along.1⟩
      | some next =>
          have := decidableAlong step holds next rest
          decidable_of_iff (holds state ∧ Along step holds next rest)
            ⟨fun along => ⟨along.1, by simpa [found] using along.2⟩,
              fun along => ⟨along.1, along.2 next found⟩⟩

/-- What the steps of a run cost, one with another. -/
def total (step : State → Event → Option State) (cost : State → Event → Nat) :
    State → List Event → Nat
  | _, [] => 0
  | state, event :: rest =>
      cost state event + ((step state event).map fun next => total step cost next rest).getD 0

variable {step : State → Event → Option State}

@[simp] theorem runFrom_nil (state : State) : runFrom step state [] = some state := rfl

theorem runFrom_cons (state : State) (event : Event) (rest : List Event) :
    runFrom step state (event :: rest) =
      (step state event).bind fun next => runFrom step next rest := rfl

theorem runFrom_append (state : State) (first second : List Event) :
    runFrom step state (first ++ second) =
      (runFrom step state first).bind fun next => runFrom step next second := by
  induction first generalizing state with
  | nil => rfl
  | cons event rest ih =>
      rw [List.cons_append, runFrom_cons, runFrom_cons]
      cases step state event with
      | none => rfl
      | some next => exact ih next

theorem runFrom_concat (state : State) (events : List Event) (event : Event) :
    runFrom step state (events ++ [event]) =
      (runFrom step state events).bind fun next => step next event := by
  rw [runFrom_append]
  congr 1
  funext next
  rw [runFrom_cons]
  cases step next event <;> rfl

theorem run_safe {inv : State → Prop}
    (keeps : ∀ state event, inv state → ∃ next, step state event = some next ∧ inv next)
    {state : State} (initial : inv state) (events : List Event) :
    ∃ final, runFrom step state events = some final ∧ inv final := by
  induction events generalizing state with
  | nil => exact ⟨state, rfl, initial⟩
  | cons event rest ih =>
      obtain ⟨next, done, kept⟩ := keeps state event initial
      obtain ⟨final, runs, holds⟩ := ih kept
      exact ⟨final, by rw [runFrom_cons, done, Option.bind_some, runs], holds⟩

theorem run_invariant {inv : State → Prop}
    (keeps : ∀ state event next, inv state → step state event = some next → inv next)
    {state final : State} {events : List Event} (runs : runFrom step state events = some final)
    (initial : inv state) : inv final := by
  induction events generalizing state with
  | nil => exact Option.some.inj runs ▸ initial
  | cons event rest ih =>
      rw [runFrom_cons, Option.bind_eq_some_iff] at runs
      obtain ⟨next, done, runs⟩ := runs
      exact ih runs (keeps state event next initial done)

theorem run_history {inv : List Event → State → Prop}
    (keeps : ∀ earlier state event next, inv earlier state → step state event = some next →
      inv (earlier ++ [event]) next)
    {state final : State} {earlier events : List Event}
    (runs : runFrom step state events = some final) (initial : inv earlier state) :
    inv (earlier ++ events) final := by
  induction events generalizing state earlier with
  | nil => simpa using Option.some.inj runs ▸ initial
  | cons event rest ih =>
      rw [runFrom_cons, Option.bind_eq_some_iff] at runs
      obtain ⟨next, done, runs⟩ := runs
      have later := ih runs (keeps earlier state event next initial done)
      rwa [List.append_assoc, List.singleton_append] at later

/-- Where nothing but a bad step leads into the trap, and nothing out of it, a run is in the trap
at its end exactly if it was there at the start or met a bad step. -/
theorem trapped_iff {inv trapped : State → Prop} {bad : State → Event → Prop}
    (keeps : ∀ state event next, inv state → step state event = some next →
      inv next ∧ (trapped next ↔ trapped state ∨ bad state event))
    {state final : State} {events : List Event} (runs : runFrom step state events = some final)
    (initial : inv state) : trapped final ↔ trapped state ∨ Meets step bad state events := by
  induction events generalizing state with
  | nil =>
      obtain rfl : state = final := Option.some.inj runs
      simp [Meets]
  | cons event rest ih =>
      rw [runFrom_cons, Option.bind_eq_some_iff] at runs
      obtain ⟨next, done, runs⟩ := runs
      obtain ⟨kept, now⟩ := keeps state event next initial done
      rw [ih runs kept, now, or_assoc]
      refine or_congr_right (or_congr_right ⟨fun later => ⟨next, done, later⟩, ?_⟩)
      rintro ⟨other, same, later⟩
      obtain rfl : other = next := Option.some.inj (same.symm.trans done)
      exact later

theorem run_along {inv holds : State → Prop}
    (keeps : ∀ state event next, inv state → holds state → step state event = some next → inv next)
    {state final : State} {events : List Event} (runs : runFrom step state events = some final)
    (along : Along step holds state events) (initial : inv state) : inv final := by
  induction events generalizing state with
  | nil => exact Option.some.inj runs ▸ initial
  | cons event rest ih =>
      rw [runFrom_cons, Option.bind_eq_some_iff] at runs
      obtain ⟨next, done, runs⟩ := runs
      exact ih runs (along.2 next done) (keeps state event next initial along.1 done)

/-- Where no step mends what has been spoilt, what clean steps keep is kept up to a clean end. It
may speak of the events that led to the state. -/
theorem run_clean {inv clean : State → Prop} {good : List Event → State → Prop}
    (keeps : ∀ state event next, inv state → step state event = some next →
      inv next ∧ (clean next → clean state))
    (goes : ∀ earlier state event next, inv state → clean state → clean next →
      good earlier state → step state event = some next → good (earlier ++ [event]) next)
    {state final : State} {earlier events : List Event}
    (runs : runFrom step state events = some final) (initial : inv state) (ends : clean final) :
    clean state ∧ (good earlier state → good (earlier ++ events) final) := by
  induction events generalizing state earlier with
  | nil =>
      obtain rfl : state = final := Option.some.inj runs
      exact ⟨ends, fun now => by rwa [List.append_nil]⟩
  | cons event rest ih =>
      rw [runFrom_cons, Option.bind_eq_some_iff] at runs
      obtain ⟨next, done, runs⟩ := runs
      obtain ⟨kept, back⟩ := keeps state event next initial done
      obtain ⟨clean, later⟩ := @ih next (earlier ++ [event]) runs kept
      refine ⟨back clean, fun now => ?_⟩
      have final := later (goes earlier state event next initial (back clean) clean now done)
      rwa [List.append_assoc, List.singleton_append] at final

/-- Amortised costs: what the potential does not pay for is paid out of a budget that grows. -/
theorem total_le {inv : State → Prop} {potential budget : State → Nat} {cost : State → Event → Nat}
    (keeps : ∀ state event next, inv state → step state event = some next →
      inv next ∧ cost state event + potential next + budget state ≤ potential state + budget next)
    {state final : State} {events : List Event} (runs : runFrom step state events = some final)
    (initial : inv state) :
    total step cost state events + potential final + budget state ≤
      potential state + budget final := by
  induction events generalizing state with
  | nil =>
      obtain rfl : state = final := Option.some.inj runs
      simp [total]
  | cons event rest ih =>
      rw [runFrom_cons, Option.bind_eq_some_iff] at runs
      obtain ⟨next, done, runs⟩ := runs
      obtain ⟨kept, now⟩ := keeps state event next initial done
      have later := ih runs kept
      rw [total, done, Option.map_some, Option.getD_some]
      omega

/-- A reflexive and transitive relation that every step keeps to holds between the ends of
every run. -/
theorem run_related {inv : State → Prop} {rel : State → State → Prop}
    (refl : ∀ state, rel state state)
    (trans : ∀ first second third, rel first second → rel second third → rel first third)
    (keeps : ∀ state event next, inv state → step state event = some next →
      inv next ∧ rel state next)
    {state final : State} {events : List Event} (runs : runFrom step state events = some final)
    (initial : inv state) : rel state final := by
  induction events generalizing state with
  | nil => exact Option.some.inj runs ▸ refl state
  | cons event rest ih =>
      rw [runFrom_cons, Option.bind_eq_some_iff] at runs
      obtain ⟨next, done, runs⟩ := runs
      obtain ⟨kept, now⟩ := keeps state event next initial done
      exact trans state next final now (ih runs kept)

/-- Where from every state short of the goal some step leads to a smaller one, the goal can be
reached by such steps. -/
theorem run_reaches {Size : Type} {less : Size → Size → Prop} (wf : WellFounded less)
    {inv : State → Size → Prop} {goal : State → Prop} {chosen : Event → Prop}
    (goes : ∀ state size, inv state size → goal state ∨ ∃ event next smaller, chosen event ∧
      step state event = some next ∧ inv next smaller ∧ less smaller size)
    {state : State} {size : Size} (initial : inv state size) :
    ∃ events final, (∀ event ∈ events, chosen event) ∧ runFrom step state events = some final ∧
      goal final := by
  induction size using wf.induction generalizing state with
  | _ size ih =>
      rcases goes state size initial with
        reached | ⟨event, next, smaller, picked, done, kept, below⟩
      · exact ⟨[], state, by simp, rfl, reached⟩
      · obtain ⟨events, final, rest, runs, reached⟩ := ih smaller below kept
        exact ⟨event :: events, final, List.forall_mem_cons.mpr ⟨picked, rest⟩,
          by rw [runFrom_cons, done, Option.bind_some, runs], reached⟩

/-- Forward simulation: what the abstract machine does without going wrong, the concrete one
does as well, and it does not go wrong either. -/
theorem run_simulated {Concrete : Type} {concrete : Concrete → Event → Option Concrete}
    {related : State → Concrete → Prop}
    (keeps : ∀ state other event next, related state other → step state event = some next →
      ∃ after, concrete other event = some after ∧ related next after)
    {state final : State} {other : Concrete} {events : List Event} (initial : related state other)
    (runs : runFrom step state events = some final) :
    ∃ after, runFrom concrete other events = some after ∧ related final after := by
  induction events generalizing state other with
  | nil => exact ⟨other, rfl, Option.some.inj runs ▸ initial⟩
  | cons event rest ih =>
      rw [runFrom_cons, Option.bind_eq_some_iff] at runs
      obtain ⟨next, done, runs⟩ := runs
      obtain ⟨middle, followed, related⟩ := keeps state other event next initial done
      obtain ⟨after, reached, final⟩ := ih related runs
      exact ⟨after, by rw [runFrom_cons, followed, Option.bind_some, reached], final⟩

end Faults
