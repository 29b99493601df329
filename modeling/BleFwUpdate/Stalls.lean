import BleFwUpdate.Requests

/-! The interrupt line is served on its rising edge only, and it stays high as long as the radio
has an event: what becomes of the program when the interrupt returns without having taken it. -/

namespace BleFwUpdate

open Faults

variable {App Answers : Type}

/-- The radio has an event, and no interrupt is being served or will be. -/
def Stalled (config : Transport App × Lists) : Prop :=
  config.1.isr = .idle ∧ config.1.edge = false ∧ config.1.offered ≠ []

instance : DecidablePred (@Stalled App) := fun _ =>
  inferInstanceAs (Decidable (_ ∧ _ ∧ _))

/-- The interrupt finds no packet in the pool, and no edge has come up since it began. -/
def Exhausts (config : Transport App × Lists) (input : Input Answers) : Prop :=
  (∃ ready, input = .interrupt ready) ∧ config.1.isr = .poolEmpty ∧ config.2.pool = [] ∧
    config.1.edge = false

/-- The interrupt asks for a packet only while the radio has an event, and the radio has none
unless an interrupt is being served, is to come, or never will be. -/
def Attended (config : Transport App × Lists) : Prop :=
  (config.1.isr = .poolEmpty → config.1.offered ≠ []) ∧
    (config.1.isr = .poolRemove → config.1.offered ≠ []) ∧
    ∀ index, config.1.isr = .receive index → config.1.offered ≠ []

theorem interrupt_stalls {transport : Transport App} {lists : Lists} {ready : Bool}
    {next : Transport App × Lists} (attended : Attended (transport, lists))
    (runs : (transport.interrupt ready).onLists lists = some next) :
    Attended next ∧ (Stalled next ↔ Stalled (transport, lists) ∨
      Exhausts (transport, lists) (Input.interrupt ready : Input Answers)) := by
  unfold Transport.interrupt at runs
  cases place : transport.isr with
  | idle =>
      rw [place] at runs
      cases runs
      cases edge : transport.edge with
      | true => simp [Attended, Stalled, Exhausts, place, edge]
      | false => simp [Attended, Stalled, Exhausts, place, edge]
  | available =>
      rw [place] at runs
      cases runs
      by_cases empty : transport.offered = [] <;>
        simp [Attended, Stalled, Exhausts, place, empty]
  | poolEmpty =>
      have some : transport.offered ≠ [] := attended.1 place
      rw [place] at runs
      obtain ⟨items, found, rfl⟩ := isEmpty_onLists runs
      obtain rfl : lists.pool = items := Option.some.inj found
      cases filled : lists.pool with
      | nil => simp [Attended, Stalled, Exhausts, place, some, filled]
      | cons index items => simp [Attended, Stalled, Exhausts, place, some, filled]
  | poolRemove =>
      have some : transport.offered ≠ [] := attended.2.1 place
      rw [place] at runs
      obtain ⟨index, items, -, rfl⟩ := removeHead_onLists runs
      simp [Attended, Stalled, Exhausts, place, some]
  | receive index =>
      rw [place] at runs
      cases runs
      rcases receive_isr transport index ready with isr | ⟨isr, -⟩ <;>
        simp [Attended, Stalled, Exhausts, place, isr]
  | queue index =>
      rw [place] at runs
      obtain ⟨items, -, -, rfl⟩ := insertTail_onLists runs
      simp [Attended, Stalled, Exhausts, place]
  | giveBack index =>
      rw [place] at runs
      obtain ⟨items, -, -, rfl⟩ := insertHead_onLists runs
      simp [Attended, Stalled, Exhausts, place]

theorem step_stalls {firmware : Firmware App Answers} {config next : Transport App × Lists}
    {input : Input Answers} (attended : Attended config)
    (runs : listStep firmware config input = some next) :
    Attended next ∧ (Stalled next ↔ Stalled config ∨ Exhausts config input) := by
  obtain ⟨transport, lists⟩ := config
  have calm : ∀ input : Input Answers, (∀ ready, input ≠ .interrupt ready) →
      ¬ Exhausts (transport, lists) input := by
    rintro input other ⟨⟨ready, same⟩, -⟩
    exact other ready same
  cases input with
  | interrupt ready => exact interrupt_stalls attended runs
  | arrive type rest =>
      rw [or_iff_left (calm _ (by simp))]
      cases runs
      cases filled : transport.offered with
      | nil => simp [Attended, Stalled, filled]
      | cons event later => simp [Attended, Stalled, filled]
  | main elapsed answers =>
      rw [or_iff_left (calm _ (by simp))]
      simp only [listStep, Transport.step] at runs
      split at runs
      next quiet =>
        have line := (main_line transport firmware elapsed answers).holds runs
        simp only [Attended, Stalled, line.isr, line.edge, line.offered]
        exact ⟨attended, trivial⟩
      next =>
        cases runs
        exact ⟨attended, Iff.rfl⟩

/-- In every interleaving, the radio has an event that no interrupt will ever fetch exactly if
at some time the interrupt found no packet in the pool. -/
theorem stalled_iff_pool_exhausted (firmware : Firmware App Answers)
    (packets : PacketIndex → HciDataPacket) (app : App) (inputs : List (Input Answers)) :
    ∃ config,
      runFrom (listStep firmware) (Transport.initial firmware packets app, Lists.initial) inputs =
        some config ∧
      (Stalled config ↔ Meets (listStep firmware) Exhausts
        (Transport.initial firmware packets app, Lists.initial) inputs) := by
  obtain ⟨config, runs, -⟩ :=
    run_safe (step_inPlace firmware) (initial_inPlace firmware packets app) inputs
  have attended : Attended (Transport.initial firmware packets app, Lists.initial) := by
    simp [Attended, Transport.initial]
  have start : ¬ Stalled (Transport.initial firmware packets app, Lists.initial) := by
    simp [Stalled, Transport.initial]
  refine ⟨config, runs, ?_⟩
  rw [trapped_iff (fun _ _ _ attended done => step_stalls attended done) runs attended,
    or_iff_right start]

section After

variable {firmware : Firmware App Answers} {config next : Transport App × Lists}

structure Drains (config next : Transport App × Lists) : Prop where
  queued : next.1.events.queued = config.1.events.queued
  consumed : next.1.events.consumed.length + (waiting next).length ≤
    config.1.events.consumed.length + (waiting config).length
  delivered : next.1.events.delivered.length + (waiting next).length ≤
    config.1.events.delivered.length + (waiting config).length

theorem Drains.trans {final : Transport App × Lists} (first : Drains config next)
    (second : Drains next final) : Drains config final :=
  ⟨second.queued.trans first.queued, Nat.le_trans second.consumed first.consumed,
    Nat.le_trans second.delivered first.delivered⟩

theorem stalled_drains {input : Input Answers} (inPlace : InPlace config)
    (stalled : Stalled config) (runs : listStep firmware config input = some next) :
    Drains config next := by
  cases step_moves inPlace runs with
  | keeps log waits =>
      constructor
      · rw [log]
      · rw [log, waits]
      · rw [log, waits]
  | queues index isr =>
      rw [stalled.1] at isr
      cases isr
  | delivers index log waits =>
      constructor
      · rw [log]
        rfl
      · rw [log, waits]
        simp [EventLog.deliver]
      · rw [log, waits, List.length_cons]
        simp only [EventLog.deliver, List.length_append, List.length_singleton]
        omega
  | consumes index front back log waits rest =>
      constructor
      · rw [log]
        rfl
      · rw [log, waits, rest]
        simp only [EventLog.consume, List.length_append, List.length_cons, List.length_nil]
        omega
      · rw [log, waits, rest]
        simp [EventLog.consume]
  | loses index front back log waits rest =>
      constructor
      · rw [log]
        rfl
      · rw [log, waits, rest]
        simp [EventLog.lose]
      · rw [log, waits, rest]
        simp [EventLog.lose]

/-- Once the program is stalled it remains so whatever happens: no event is put in the queue any
more, the application is called with no more events than were waiting, and all but a few of its
requests fail. -/
theorem stalled_for_ever {packets : PacketIndex → HciDataPacket} {app : App}
    {inputs : List (Input Answers)}
    (reached : runFrom (listStep firmware) (Transport.initial firmware packets app, Lists.initial)
      inputs = some config) (stalled : Stalled config) (later : List (Input Answers)) :
    ∃ final, runFrom (listStep firmware) config later = some final ∧ Stalled final ∧
      final.1.events.queued = config.1.events.queued ∧
      final.1.events.delivered.length ≤
        config.1.events.delivered.length + (waiting config).length ∧
      final.1.calls.results.countP Option.isSome ≤
        config.1.calls.results.countP Option.isSome + (waiting config).length + 1 := by
  have order := run_inOrder reached
  have attended : Attended config := by
    refine run_invariant (fun _ _ _ attended done => (step_stalls attended done).1) reached ?_
    simp [Attended, Transport.initial]
  obtain ⟨final, runs, -⟩ := run_safe (step_inPlace firmware) order.inPlace later
  have keeps : ∀ state input next,
      (InPlace state ∧ Attended state ∧ Stalled state) →
      listStep firmware state input = some next →
      (InPlace next ∧ Attended next ∧ Stalled next) ∧ Drains state next := by
    rintro state input next ⟨inPlace, attended, stalled⟩ done
    obtain ⟨after, same, kept⟩ := step_inPlace firmware state input inPlace
    obtain rfl : after = next := Option.some.inj (same.symm.trans done)
    obtain ⟨attendedNext, iff⟩ := step_stalls attended done
    exact ⟨⟨kept, attendedNext, iff.mpr (.inl stalled)⟩, stalled_drains inPlace stalled done⟩
  have drains : Drains config final :=
    run_related (fun _ => ⟨rfl, Nat.le_refl _, Nat.le_refl _⟩)
      (fun _ _ _ first second => first.trans second) keeps runs ⟨order.inPlace, attended, stalled⟩
  have still := run_invariant (fun state input next holds done => (keeps state input next holds done).1)
    runs ⟨order.inPlace, attended, stalled⟩
  refine ⟨final, runs, still.2.2, drains.queued, ?_, ?_⟩
  · have delivered := drains.delivered
    omega
  · obtain ⟨commands, results, successes⟩ :=
      run_tallied (initial_tallied firmware packets app) reached
    have once : config.1.control.succeeding ≤ 1 := succeeding_le config.1.control
    have tallied : Tallied (config.1.events.consumed.length -
        (config.1.calls.results.countP Option.isSome + config.1.control.succeeding)) config.1 :=
      ⟨commands, results, by omega⟩
    have ending := (run_tallied tallied runs).successes
    have consumed := drains.consumed
    omega

/-- Six events arrive while the main program does not come to handle one. -/
def burst : List (Input Unit) :=
  List.replicate 6 (.arrive hciEventPkt [0x05, 0x00]) ++ List.replicate 28 (.interrupt true)

theorem stalled_for_ever_burst :
    ∃ config, runFrom (listStep .silent)
        (Transport.initial .silent blankPackets (), Lists.initial) burst = some config ∧
      Stalled config ∧
      ∀ later, ∃ final, runFrom (listStep .silent) config later = some final ∧ Stalled final ∧
        final.1.events.queued = config.1.events.queued ∧
        final.1.events.delivered.length ≤
          config.1.events.delivered.length + (waiting config).length ∧
        final.1.calls.results.countP Option.isSome ≤
          config.1.calls.results.countP Option.isSome + (waiting config).length + 1 := by
  have exhausted : ∃ config ∈ runFrom (listStep .silent)
      (Transport.initial .silent blankPackets (), Lists.initial) burst, Stalled config := by
    decide +kernel
  obtain ⟨config, reached, stalled⟩ := exhausted
  exact ⟨config, reached, stalled, stalled_for_ever reached stalled⟩

end After

end BleFwUpdate
