import Mathlib.Algebra.Group.Nat.Defs
import Mathlib.Logic.Function.Iterate

/-! Maps between machine words that are linear over exclusive or. Two of them are equal if they
agree on the words with a single bit, so that facts about all words can be computed. -/

namespace BitMaps

variable {u v w : Nat}

def XorLinear (map : BitVec v → BitVec w) : Prop :=
  ∀ first second, map (first ^^^ second) = map first ^^^ map second

theorem xorLinear_id : XorLinear (id : BitVec w → BitVec w) := fun _ _ => rfl

theorem XorLinear.zero {map : BitVec v → BitVec w} (linear : XorLinear map) : map 0 = 0 := by
  have twice := linear 0 0
  simpa using twice

theorem XorLinear.comp {outer : BitVec v → BitVec w} {inner : BitVec u → BitVec v}
    (outerLinear : XorLinear outer) (innerLinear : XorLinear inner) :
    XorLinear fun word => outer (inner word) := by
  intro first second
  simp only [innerLinear first second, outerLinear (inner first)]

theorem XorLinear.iterate {map : BitVec w → BitVec w} (linear : XorLinear map) (count : Nat) :
    XorLinear map^[count] := by
  induction count with
  | zero => exact xorLinear_id
  | succ count ih => exact ih.comp linear

theorem XorLinear.xor {left right : BitVec v → BitVec w} (leftLinear : XorLinear left)
    (rightLinear : XorLinear right) : XorLinear fun word => left word ^^^ right word := by
  intro first second
  simp only [leftLinear first second, rightLinear first second]
  ac_rfl

theorem setWidth_succ (word : BitVec v) (count : Nat) :
    (word.setWidth (count + 1)).setWidth v =
      (word.setWidth count).setWidth v ^^^
        if word.getLsbD count then BitVec.twoPow v count else 0 := by
  apply BitVec.eq_of_getLsbD_eq
  intro index inside
  have low : index < count + 1 ↔ index < count ∨ index = count := Nat.lt_succ_iff_lt_or_eq
  rw [BitVec.getLsbD_xor, apply_ite (fun bits => BitVec.getLsbD bits index), BitVec.getLsbD_twoPow]
  simp only [BitVec.getLsbD_setWidth, inside, low, decide_true, Bool.true_and]
  by_cases same : index = count
  · subst same
    cases word.getLsbD index <;> simp [inside]
  · simp [same, Ne.symm same]

theorem XorLinear.ext {left right : BitVec v → BitVec w} (leftLinear : XorLinear left)
    (rightLinear : XorLinear right)
    (single : ∀ index < v, left (.twoPow v index) = right (.twoPow v index)) (word : BitVec v) :
    left word = right word := by
  have lowBits : ∀ count ≤ v,
      left ((word.setWidth count).setWidth v) = right ((word.setWidth count).setWidth v) := by
    intro count
    induction count with
    | zero =>
        intro _
        have zero : (word.setWidth 0).setWidth v = 0 := by
          apply BitVec.eq_of_getLsbD_eq
          simp
        rw [zero, leftLinear.zero, rightLinear.zero]
    | succ count ih =>
        intro inside
        rw [setWidth_succ, leftLinear, rightLinear, ih (by omega)]
        split
        · rw [single count inside]
        · rw [leftLinear.zero, rightLinear.zero]
  simpa using lowBits v (Nat.le_refl v)

/-- The linear map with the given values on the words of a single bit, from the bit `index` on. -/
def combine (columns : List (BitVec w)) (index : Nat) (word : BitVec v) : BitVec w :=
  match columns with
  | [] => 0
  | column :: rest =>
      (if word.getLsbD index then column else 0) ^^^ combine rest (index + 1) word

theorem xorLinear_combine (columns : List (BitVec w)) (index : Nat) :
    XorLinear (combine columns index : BitVec v → BitVec w) := by
  intro first second
  induction columns generalizing index with
  | nil => simp [combine]
  | cons column rest ih =>
      have here : (if (first ^^^ second).getLsbD index then column else 0) =
          (if first.getLsbD index then column else 0) ^^^
            if second.getLsbD index then column else 0 := by
        rw [BitVec.getLsbD_xor]
        cases first.getLsbD index <;> cases second.getLsbD index <;> simp
      rw [combine, combine, combine, here, ih]
      ac_rfl

/-- A linear map with an inverse on the left takes only zero to zero. -/
theorem XorLinear.eq_zero {map : BitVec v → BitVec w} (linear : XorLinear map)
    (columns : List (BitVec v))
    (undoes : ∀ index < v, combine columns 0 (map (.twoPow v index)) = .twoPow v index)
    {word : BitVec v} (zero : map word = 0) : word = 0 := by
  have back := ((xorLinear_combine columns 0).comp linear).ext xorLinear_id undoes word
  rw [zero, (xorLinear_combine columns 0).zero] at back
  exact back.symm

theorem combine_of_noBits (columns : List (BitVec w)) {start : Nat} {word : BitVec v}
    (none : ∀ index, start ≤ index → word.getLsbD index = false) :
    combine columns start word = 0 := by
  induction columns generalizing start with
  | nil => rfl
  | cons column rest ih =>
      rw [combine, none start (Nat.le_refl start), ih fun index later => none index (by omega)]
      simp

theorem combine_twoPow (columns : List (BitVec w)) {start offset : Nat}
    (inside : start + offset < v) :
    combine columns start (BitVec.twoPow v (start + offset)) = columns.getD offset 0 := by
  induction columns generalizing start offset with
  | nil => rfl
  | cons column rest ih =>
      rw [combine]
      cases offset with
      | zero =>
          have none : combine rest (start + 1) (BitVec.twoPow v (start + 0)) = 0 := by
            apply combine_of_noBits
            intro index later
            rw [BitVec.getLsbD_twoPow]
            simp
            omega
          have here : (BitVec.twoPow v (start + 0)).getLsbD start = true := by
            rw [BitVec.getLsbD_twoPow]
            simpa using inside
          rw [none, here]
          simp
      | succ offset =>
          have place : start + (offset + 1) = start + 1 + offset := by omega
          have other : (BitVec.twoPow v (start + (offset + 1))).getLsbD start = false := by
            rw [BitVec.getLsbD_twoPow]
            simp
          rw [other, place, ih (by omega)]
          simp

theorem map_combine {map : BitVec v → BitVec w} (linear : XorLinear map)
    (columns : List (BitVec v)) (start : Nat) (word : BitVec u) :
    combine (columns.map map) start word = map (combine columns start word) := by
  induction columns generalizing start with
  | nil => exact linear.zero.symm
  | cons column rest ih =>
      rw [List.map_cons, combine, combine, ih, linear]
      split
      · rfl
      · rw [linear.zero]

/-- The values of a map on the words of a single bit. -/
def columnsOf (map : BitVec v → BitVec w) : List (BitVec w) :=
  (List.range v).map fun index => map (.twoPow v index)

theorem XorLinear.combine_columnsOf {map : BitVec v → BitVec w} (linear : XorLinear map)
    (word : BitVec v) : combine (columnsOf map) 0 word = map word := by
  refine (xorLinear_combine _ 0).ext linear ?_ word
  intro index inside
  have column := combine_twoPow (columnsOf map) (show 0 + index < v by omega)
  rw [Nat.zero_add] at column
  rw [column]
  simp [columnsOf, inside]

/-- The word after `count` turns of the map with the given columns, by repeated squaring. -/
def iterateBy (columns : List (BitVec w)) : Nat → Nat → BitVec w → BitVec w
  | 0, _, word => word
  | bits + 1, count, word =>
      iterateBy (columns.map (combine columns 0)) bits (count / 2)
        (if count % 2 = 0 then word else combine columns 0 word)

theorem iterateBy_eq {map : BitVec w → BitVec w} {columns : List (BitVec w)}
    (same : ∀ word, combine columns 0 word = map word) {bits count : Nat}
    (small : count < 2 ^ bits) (word : BitVec w) :
    iterateBy columns bits count word = map^[count] word := by
  induction bits generalizing columns map count word with
  | zero =>
      have none : count = 0 := by omega
      rw [none]
      rfl
  | succ bits ih =>
      have squared : ∀ word, combine (columns.map (combine columns 0)) 0 word = map^[2] word := by
        intro word
        rw [map_combine (xorLinear_combine columns 0), same, same]
        rfl
      have half : count / 2 < 2 ^ bits := by omega
      rw [iterateBy, ih squared half, ← Function.iterate_mul]
      split
      · rename_i even
        rw [show 2 * (count / 2) = count by omega]
      · rename_i odd
        rw [same, ← Function.iterate_succ_apply, show (2 * (count / 2)).succ = count by omega]

theorem XorLinear.iterate_eq {map : BitVec w → BitVec w} (linear : XorLinear map)
    {bits count : Nat} (small : count < 2 ^ bits) (word : BitVec w) :
    map^[count] word = iterateBy (columnsOf map) bits count word :=
  (iterateBy_eq linear.combine_columnsOf small word).symm

/-- If the word after `count + rest` turns and the word after `rest` turns always differ by the
word itself, only zero comes back after `count` turns. -/
theorem eq_zero_of_returns {map : BitVec w → BitVec w} {count rest : Nat}
    (differ : ∀ word, map^[count + rest] word ^^^ map^[rest] word = word) {word : BitVec w}
    (returns : map^[count] word = word) : word = 0 := by
  have here := differ word
  rw [Nat.add_comm, Function.iterate_add_apply, returns, BitVec.xor_self] at here
  exact here.symm

end BitMaps
