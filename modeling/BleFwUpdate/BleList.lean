import BleFwUpdate.General.Rings

/-! `ble_list.c`: circular doubly linked lists whose nodes are embedded in what they list.
The result is `none` where the code would follow a null pointer. Every function but
`list_init_head` runs with the interrupts masked. -/

namespace BleFwUpdate

open Rings

section Functions

variable {Node : Type} [DecidableEq Node]

def listInitHead (listHead : Node) (links : Links Node) : Links Node :=
  let links := links.setNext listHead (some listHead)
  links.setPrev listHead (some listHead)

def listIsEmpty (listHead : Node) (links : Links Node) : Bool :=
  links.next listHead == some listHead

def listInsertHead (listHead node : Node) (links : Links Node) : Option (Links Node) := do
  let links := links.setNext node (links.next listHead)
  let links := links.setPrev node (some listHead)
  let links := links.setNext listHead (some node)
  let after ← links.next node
  return links.setPrev after (some node)

def listInsertTail (listHead node : Node) (links : Links Node) : Option (Links Node) := do
  let links := links.setNext node (some listHead)
  let links := links.setPrev node (links.prev listHead)
  let links := links.setPrev listHead (some node)
  let before ← links.prev node
  return links.setNext before (some node)

def listRemoveNode (node : Node) (links : Links Node) : Option (Links Node) := do
  let before ← links.prev node
  let links := links.setNext before (links.next node)
  let after ← links.next node
  return links.setPrev after (links.prev node)

def listRemoveHead (listHead : Node) (links : Links Node) : Option (Node × Links Node) := do
  let node ← links.next listHead
  let links ← listRemoveNode node links
  let links := links.setNext node none
  return (node, links.setPrev node none)

def listRemoveTail (listHead : Node) (links : Links Node) : Option (Node × Links Node) := do
  let node ← links.prev listHead
  let links ← listRemoveNode node links
  let links := links.setNext node none
  return (node, links.setPrev node none)

def listInsertNodeAfter (node refNode : Node) (links : Links Node) : Option (Links Node) := do
  let links := links.setNext node (links.next refNode)
  let links := links.setPrev node (some refNode)
  let links := links.setNext refNode (some node)
  let after ← links.next node
  return links.setPrev after (some node)

def listInsertNodeBefore (node refNode : Node) (links : Links Node) : Option (Links Node) := do
  let links := links.setNext node (some refNode)
  let links := links.setPrev node (links.prev refNode)
  let links := links.setPrev refNode (some node)
  let before ← links.prev node
  return links.setNext before (some node)

/-- The loop of `list_get_size`, which stops only at the list head. -/
def listSizeFrom (listHead : Node) (links : Links Node) : Nat → Node → Nat → Option Nat
  | 0, _, _ => none
  | fuel + 1, temp, size =>
      if temp = listHead then some size
      else do
        let next ← links.next temp
        listSizeFrom listHead links fuel next (size + 1)

def listGetSize (fuel : Nat) (listHead : Node) (links : Links Node) : Option Nat := do
  let temp ← links.next listHead
  listSizeFrom listHead links fuel temp 0

end Functions

section Specifications

variable {Node : Type} [DecidableEq Node] {links : Links Node} {head node refNode : Node}
  {nodes front back : List Node}

theorem listInitHead_ring (head : Node) (links : Links Node) :
    Ring (listInitHead head links) head [] ∧
      SameOutside [head] links (listInitHead head links) := by
  refine ⟨ring_nil (by simp [listInitHead]) (by simp [listInitHead]), ?_⟩
  intro other outside
  rw [List.mem_singleton] at outside
  simp [listInitHead, outside]

theorem listIsEmpty_ring (ring : Ring links head nodes) :
    listIsEmpty head links = true ↔ nodes = [] := by
  rw [listIsEmpty, beq_iff_eq, ring.next_head_eq_iff]

/-- `list_insert_head` is the insertion after the list head, as `list_insert_tail` is the
insertion before it. -/
theorem listInsertHead_eq (head node : Node) (links : Links Node) :
    listInsertHead head node links = listInsertNodeAfter node head links := rfl

theorem listInsertTail_eq (head node : Node) (links : Links Node) :
    listInsertTail head node links = listInsertNodeBefore node head links := rfl

theorem listInsertNodeAfter_ring (ring : Ring links head (front ++ back))
    (last : (head :: front).getLast? = some refNode) (fresh : node ∉ head :: (front ++ back)) :
    ∃ changed, listInsertNodeAfter node refNode links = some changed ∧
      Ring changed head (front ++ node :: back) ∧
      SameOutside (node :: head :: (front ++ back)) links changed := by
  obtain ⟨after, first⟩ : ∃ after, (back ++ [head]).head? = some after := by
    cases back <;> simp
  have beside : Adjacent links refNode after := ring.cut.2.2 refNode last after first
  have ref_mem : refNode ∈ head :: front := List.mem_of_getLast? last
  have after_mem : after ∈ back ++ [head] := List.mem_of_head? first
  have ref_ne : node ≠ refNode := by grind
  have after_ne : node ≠ after := by grind
  refine ⟨_, by simp [listInsertNodeAfter, beside.1, ref_ne]; rfl, ?_, ?_⟩
  · refine ring.insert last first ⟨?_, ?_⟩ fresh ⟨?_, ?_⟩ ⟨?_, ?_⟩
    · intro other notRef notNode
      simp [notRef, notNode]
    · intro other notAfter notNode
      simp [notAfter, notNode]
    · simp
    · simp [after_ne]
    · simp [ref_ne]
    · simp
  · intro other outside
    have notRef : other ≠ refNode := by grind
    have notAfter : other ≠ after := by grind
    have notNode : other ≠ node := by grind
    simp [notRef, notAfter, notNode]

theorem listInsertNodeBefore_ring (ring : Ring links head (front ++ back))
    (first : (back ++ [head]).head? = some refNode) (fresh : node ∉ head :: (front ++ back)) :
    ∃ changed, listInsertNodeBefore node refNode links = some changed ∧
      Ring changed head (front ++ node :: back) ∧
      SameOutside (node :: head :: (front ++ back)) links changed := by
  obtain ⟨before, last⟩ : ∃ before, (head :: front).getLast? = some before := by
    simp [List.getLast?_cons]
  have beside : Adjacent links before refNode := ring.cut.2.2 before last refNode first
  have before_mem : before ∈ head :: front := List.mem_of_getLast? last
  have ref_mem : refNode ∈ back ++ [head] := List.mem_of_head? first
  have before_ne : node ≠ before := by grind
  have ref_ne : node ≠ refNode := by grind
  refine ⟨_, by simp [listInsertNodeBefore, beside.2, ref_ne]; rfl, ?_, ?_⟩
  · refine ring.insert last first ⟨?_, ?_⟩ fresh ⟨?_, ?_⟩ ⟨?_, ?_⟩
    · intro other notBefore notNode
      simp [notBefore, notNode]
    · intro other notRef notNode
      simp [notRef, notNode]
    · simp
    · simp [ref_ne]
    · simp [before_ne]
    · simp
  · intro other outside
    have notBefore : other ≠ before := by grind
    have notRef : other ≠ refNode := by grind
    have notNode : other ≠ node := by grind
    simp [notBefore, notRef, notNode]

theorem listInsertHead_ring (ring : Ring links head nodes) (fresh : node ∉ head :: nodes) :
    ∃ changed, listInsertHead head node links = some changed ∧
      Ring changed head (node :: nodes) ∧ SameOutside (node :: head :: nodes) links changed := by
  have whole : Ring links head ([] ++ nodes) := ring
  rw [listInsertHead_eq]
  exact listInsertNodeAfter_ring whole (by simp) fresh

theorem listInsertTail_ring (ring : Ring links head nodes) (fresh : node ∉ head :: nodes) :
    ∃ changed, listInsertTail head node links = some changed ∧
      Ring changed head (nodes ++ [node]) ∧ SameOutside (node :: head :: nodes) links changed := by
  have whole : Ring links head (nodes ++ []) := by simpa using ring
  rw [listInsertTail_eq]
  simpa using listInsertNodeBefore_ring whole (by simp) (by simpa using fresh)

theorem listRemoveNode_ring (ring : Ring links head (front ++ node :: back)) :
    ∃ changed, listRemoveNode node links = some changed ∧ Ring changed head (front ++ back) ∧
      SameOutside (head :: (front ++ back)) links changed := by
  obtain ⟨before, last⟩ : ∃ before, (head :: front).getLast? = some before := by
    simp [List.getLast?_cons]
  obtain ⟨after, first⟩ : ∃ after, (back ++ [head]).head? = some after := by
    cases back <;> simp
  have prev : links.prev node = some before := by rw [ring.prev_node, last]
  have next : links.next node = some after := by rw [ring.next_node, first]
  have before_mem : before ∈ head :: front := List.mem_of_getLast? last
  have after_mem : after ∈ back ++ [head] := List.mem_of_head? first
  have apart : node ∉ head :: (front ++ back) := (nodup_middle.mp ring.distinct).1
  refine ⟨_, by simp [listRemoveNode, prev, next]; rfl, ?_, ?_⟩
  · refine ring.remove last first ⟨?_, ?_⟩ ⟨?_, ?_⟩
    · intro other notBefore notNode
      simp [notBefore]
    · intro other notAfter notNode
      simp [notAfter]
    · simp
    · simp
  · intro other outside
    have notBefore : other ≠ before := by grind
    have notAfter : other ≠ after := by grind
    simp [notBefore, notAfter]

theorem listClearNode_ring (ring : Ring links head nodes) (apart : node ∉ head :: nodes) :
    Ring ((links.setNext node none).setPrev node none) head nodes ∧
      SameOutside [node] links ((links.setNext node none).setPrev node none) := by
  have same : SameOutside [node] links ((links.setNext node none).setPrev node none) := by
    intro other outside
    rw [List.mem_singleton] at outside
    simp [outside]
  refine ⟨ring.disjoint same ?_, same⟩
  rintro other member found
  rw [List.mem_singleton] at found
  exact apart (found ▸ member)

theorem listRemoveHead_ring (ring : Ring links head (node :: nodes)) :
    ∃ changed, listRemoveHead head links = some (node, changed) ∧ Ring changed head nodes ∧
      SameOutside (node :: head :: nodes) links changed := by
  have next : links.next head = some node := by rw [ring.next_head]; rfl
  have apart : node ∉ head :: nodes := by
    have distinct := ring.distinct
    grind
  have whole : Ring links head ([] ++ node :: nodes) := ring
  obtain ⟨removed, runs, rest, same⟩ := listRemoveNode_ring whole
  obtain ⟨final, cleared⟩ := listClearNode_ring rest apart
  refine ⟨_, by simp [listRemoveHead, next, runs], final, ?_⟩
  intro other outside
  rw [List.mem_cons, not_or] at outside
  obtain ⟨nextSame, prevSame⟩ := same other outside.2
  obtain ⟨nextLast, prevLast⟩ := cleared other (by simpa using outside.1)
  exact ⟨nextLast.trans nextSame, prevLast.trans prevSame⟩

theorem listRemoveTail_ring (ring : Ring links head (nodes ++ [node])) :
    ∃ changed, listRemoveTail head links = some (node, changed) ∧ Ring changed head nodes ∧
      SameOutside (node :: head :: nodes) links changed := by
  have prev : links.prev head = some node := by simp [ring.prev_head, List.getLast?_cons]
  have apart : node ∉ head :: nodes := by
    have distinct := ring.distinct
    grind
  have whole : Ring links head (nodes ++ node :: []) := ring
  obtain ⟨removed, runs, rest, same⟩ := listRemoveNode_ring whole
  rw [List.append_nil] at rest same
  obtain ⟨final, cleared⟩ := listClearNode_ring rest apart
  refine ⟨_, by simp [listRemoveTail, prev, runs], final, ?_⟩
  intro other outside
  rw [List.mem_cons, not_or] at outside
  obtain ⟨nextSame, prevSame⟩ := same other outside.2
  obtain ⟨nextLast, prevLast⟩ := cleared other (by simpa using outside.1)
  exact ⟨nextLast.trans nextSame, prevLast.trans prevSame⟩

theorem listSizeFrom_ring {temp : Node} {fuel size : Nat} (ring : Ring links head (front ++ back))
    (here : (back ++ [head]).head? = some temp) (enough : back.length < fuel) :
    listSizeFrom head links fuel temp size = some (size + back.length) := by
  induction back generalizing front temp fuel size with
  | nil =>
      obtain ⟨fuel, rfl⟩ := Nat.exists_eq_add_of_lt enough
      obtain rfl : head = temp := by simpa using here
      simp [listSizeFrom]
  | cons node back ih =>
      obtain rfl : node = temp := by simpa using here
      obtain ⟨after, first⟩ : ∃ after, (back ++ [head]).head? = some after := by
        cases back <;> simp
      have next : links.next node = some after := by rw [ring.next_node, first]
      have notHead : node ≠ head := by
        have distinct := ring.distinct
        grind
      cases fuel with
      | zero => omega
      | succ fuel =>
          rw [List.length_cons] at enough
          have rest : Ring links head ((front ++ [node]) ++ back) := by simpa using ring
          simp only [listSizeFrom, if_neg notHead, next]
          rw [Option.bind_eq_bind, Option.bind_some, ih rest first (by omega), List.length_cons]
          congr 1
          omega

theorem listGetSize_ring {fuel : Nat} (ring : Ring links head nodes)
    (enough : nodes.length < fuel) : listGetSize fuel head links = some nodes.length := by
  obtain ⟨temp, here⟩ : ∃ temp, (nodes ++ [head]).head? = some temp := by
    cases nodes <;> simp
  have next : links.next head = some temp := by rw [ring.next_head, here]
  have whole : Ring links head ([] ++ nodes) := ring
  rw [listGetSize, next, Option.bind_eq_bind, Option.bind_some,
    listSizeFrom_ring whole here enough, Nat.zero_add]

end Specifications

end BleFwUpdate
