import Mathlib.Tactic.Common

/-! Systems whose moves may come in any order, with an invariant that counts the moves left. -/

namespace Countdown

variable {State Move : Type}

/-- The state after the moves in turn, if each of them is possible. -/
def runMoves (move : State → Move → Option State) : State → List Move → Option State
  | state, [] => some state
  | state, first :: rest => (move state first).bind fun next => runMoves move next rest

def Stuck (move : State → Move → Option State) (state : State) : Prop :=
  ∀ next, move state next = none

theorem runMoves_concat {move : State → Move → Option State} {state after final : State}
    {moves : List Move} {last : Move} (ran : runMoves move state moves = some after)
    (moved : move after last = some final) : runMoves move state (moves ++ [last]) = some final := by
  induction moves generalizing state with
  | nil =>
      obtain rfl : state = after := Option.some.inj ran
      rw [List.nil_append, runMoves, moved]
      rfl
  | cons first rest ih =>
      obtain ⟨next, done, later⟩ := Option.bind_eq_some_iff.mp ran
      rw [List.cons_append, runMoves, done]
      exact ih later

/-- Each move brings down the count, and there is one as long as it is positive. -/
structure CountsDown (move : State → Move → Option State) (holds : Nat → State → Prop) : Prop where
  keeps : ∀ {left state} next {after}, holds left state → move state next = some after →
    ∃ fewer < left, holds fewer after
  goesOn : ∀ {left state}, holds left state → left ≠ 0 → ∃ next after, move state next = some after

variable {move : State → Move → Option State} {holds : Nat → State → Prop} {left : Nat}
  {state after : State}

theorem CountsDown.run (counts : CountsDown move holds) {moves : List Move}
    (initial : holds left state) (ran : runMoves move state moves = some after) :
    ∃ fewer, holds fewer after ∧ moves.length + fewer ≤ left := by
  induction moves generalizing left state with
  | nil =>
      obtain rfl : state = after := Option.some.inj ran
      exact ⟨left, initial, by simp⟩
  | cons first rest ih =>
      obtain ⟨next, moved, later⟩ := Option.bind_eq_some_iff.mp ran
      obtain ⟨fewer, below, holdsNext⟩ := counts.keeps first initial moved
      obtain ⟨least, holdsAfter, bound⟩ := ih holdsNext later
      exact ⟨least, holdsAfter, by rw [List.length_cons]; omega⟩

theorem CountsDown.spent (counts : CountsDown move holds) (initial : holds 0 state) :
    Stuck move state := by
  intro next
  cases moved : move state next with
  | none => rfl
  | some after =>
      obtain ⟨fewer, below, _⟩ := counts.keeps next initial moved
      contradiction

/-- A run that cannot go on has used up the count. -/
theorem CountsDown.stuck (counts : CountsDown move holds) {moves : List Move}
    (initial : holds left state) (ran : runMoves move state moves = some after)
    (stuck : Stuck move after) : holds 0 after := by
  obtain ⟨fewer, holdsAfter, _⟩ := counts.run initial ran
  cases fewer with
  | zero => exact holdsAfter
  | succ fewer =>
      obtain ⟨next, _, possible⟩ := counts.goesOn holdsAfter (Nat.succ_ne_zero fewer)
      rw [stuck next] at possible
      contradiction

end Countdown
