import Mathlib.Tactic.Common

/-! Computations that keep a log, such as the accesses they make. What they return does not
depend on the log, and what holds of all its entries is found part by part. -/

structure Logged (Entry Result : Type) where
  value : Result
  log : List Entry

namespace Logged

instance {Entry : Type} : Monad (Logged Entry) where
  pure value := { value := value, log := [] }
  bind first next :=
    { value := (next first.value).value, log := first.log ++ (next first.value).log }

variable {Entry Result Next : Type}

def note (entries : List Entry) : Logged Entry Unit := { value := (), log := entries }

/-- Every entry of the log has the property. -/
def All (holds : Entry → Prop) (first : Logged Entry Result) : Prop :=
  ∀ entry ∈ first.log, holds entry

instance (holds : Entry → Prop) [DecidablePred holds] (first : Logged Entry Result) :
    Decidable (first.All holds) :=
  inferInstanceAs (Decidable (∀ entry ∈ first.log, holds entry))

@[simp] theorem value_pure (result : Result) :
    (pure result : Logged Entry Result).value = result := rfl

@[simp] theorem value_bind (first : Logged Entry Result) (next : Result → Logged Entry Next) :
    (first >>= next).value = (next first.value).value := rfl

@[simp] theorem value_ite {condition : Prop} {decision : Decidable condition}
    (first second : Logged Entry Result) :
    (if condition then first else second).value =
      if condition then first.value else second.value := by
  split <;> rfl

theorem value_foldlM (next : Next → Result → Logged Entry Next) (first : Next)
    (items : List Result) :
    (items.foldlM next first).value =
      items.foldl (fun sofar item => (next sofar item).value) first := by
  induction items generalizing first with
  | nil => rfl
  | cons item rest ih =>
      rw [List.foldlM_cons, value_bind, ih]
      rfl

section All

variable {holds : Entry → Prop}

@[simp] theorem all_pure (result : Result) : (pure result : Logged Entry Result).All holds := by
  intro entry member
  contradiction

@[simp] theorem all_note (entries : List Entry) :
    (note entries).All holds ↔ ∀ entry ∈ entries, holds entry := Iff.rfl

@[simp] theorem all_bind (first : Logged Entry Result) (next : Result → Logged Entry Next) :
    (first >>= next).All holds ↔ first.All holds ∧ (next first.value).All holds := by
  simp only [All, Bind.bind, List.mem_append, or_imp, forall_and]

@[simp] theorem all_ite {condition : Prop} {decision : Decidable condition}
    (first second : Logged Entry Result) :
    (if condition then first else second).All holds ↔
      (condition → first.All holds) ∧ (¬ condition → second.All holds) := by
  split <;> simp_all

/-- A loop of which each turn logs the same, whatever the turns before it computed. -/
theorem all_foldlM {next : Next → Result → Logged Entry Next} {each : Result → Prop}
    (turn : ∀ sofar item, (next sofar item).All holds ↔ each item) (first : Next)
    (items : List Result) :
    (items.foldlM next first).All holds ↔ ∀ item ∈ items, each item := by
  induction items generalizing first with
  | nil => simp
  | cons item rest ih =>
      rw [List.foldlM_cons, all_bind, turn, ih, List.forall_mem_cons]

end All

end Logged
