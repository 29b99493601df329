import Mathlib.Data.List.Chain
import Mathlib.Data.List.Nodup
import Mathlib.Tactic.Common

/-! Circular doubly linked lists: a list head and the nodes of the list, each with a link
to the next and to the previous one. What a ring says about the memory, and how linking a
node in or unlinking one changes the list it stands for. -/

namespace Rings

variable {Node : Type}

/-- The two links of every node; `none` is the null pointer. -/
structure Links (Node : Type) where
  next : Node → Option Node
  prev : Node → Option Node

section Writing

variable [DecidableEq Node] (links : Links Node) (node other : Node) (target : Option Node)

def Links.setNext : Links Node :=
  { links with next := fun other => if other = node then target else links.next other }

def Links.setPrev : Links Node :=
  { links with prev := fun other => if other = node then target else links.prev other }

@[simp] theorem setNext_next : (links.setNext node target).next other =
    if other = node then target else links.next other := rfl

@[simp] theorem setNext_prev : (links.setNext node target).prev = links.prev := rfl

@[simp] theorem setPrev_next : (links.setPrev node target).next = links.next := rfl

@[simp] theorem setPrev_prev : (links.setPrev node target).prev other =
    if other = node then target else links.prev other := rfl

end Writing

def Adjacent (links : Links Node) (first second : Node) : Prop :=
  links.next first = some second ∧ links.prev second = some first

/-- Starting at the head, the links lead through the nodes in order and back to the head. -/
structure Ring (links : Links Node) (head : Node) (nodes : List Node) : Prop where
  distinct : (head :: nodes).Nodup
  linked : (head :: (nodes ++ [head])).IsChain (Adjacent links)

variable {links changed : Links Node} {head node before after : Node}
  {nodes front back : List Node}

/-- A chain depends on the `next` of all its nodes but the last, and on the `prev` of all but
the first. -/
theorem chain_frame (chain : nodes.IsChain (Adjacent links))
    (sameNext : ∀ other ∈ nodes.dropLast, changed.next other = links.next other)
    (samePrev : ∀ other ∈ nodes.tail, changed.prev other = links.prev other) :
    nodes.IsChain (Adjacent changed) := by
  induction chain with
  | nil => exact .nil
  | singleton => exact .singleton _
  | @cons_cons first second rest adjacent chain ih =>
      refine List.IsChain.cons_cons ⟨?_, ?_⟩ (ih ?_ ?_)
      · rw [sameNext first (by simp)]
        exact adjacent.1
      · rw [samePrev second (by simp)]
        exact adjacent.2
      · intro other member
        exact sameNext other (by simp [member])
      · intro other member
        exact samePrev other (List.mem_cons_of_mem _ member)

theorem Ring.frame (ring : Ring links head nodes)
    (sameNext : ∀ other ∈ head :: nodes, changed.next other = links.next other)
    (samePrev : ∀ other ∈ head :: nodes, changed.prev other = links.prev other) :
    Ring changed head nodes := by
  refine ⟨ring.distinct, chain_frame ring.linked ?_ ?_⟩
  · intro other member
    refine sameNext other ?_
    have cut : (head :: (nodes ++ [head])).dropLast = head :: nodes := by
      rw [← List.cons_append, List.dropLast_concat]
    rwa [cut] at member
  · intro other member
    refine samePrev other ?_
    simpa [or_comm] using member

def SameOutside (nodes : List Node) (links changed : Links Node) : Prop :=
  ∀ other ∉ nodes, changed.next other = links.next other ∧ changed.prev other = links.prev other

theorem SameOutside.trans {last : Links Node} (first : SameOutside nodes links changed)
    (second : SameOutside nodes changed last) : SameOutside nodes links last := by
  intro other outside
  obtain ⟨next, prev⟩ := first other outside
  obtain ⟨nextAgain, prevAgain⟩ := second other outside
  exact ⟨nextAgain.trans next, prevAgain.trans prev⟩

theorem Ring.disjoint {touched : List Node} (ring : Ring links head nodes)
    (same : SameOutside touched links changed) (apart : ∀ other ∈ head :: nodes, other ∉ touched) :
    Ring changed head nodes :=
  ring.frame (fun other member => (same other (apart other member)).1)
    fun other member => (same other (apart other member)).2

theorem ring_nil (next : links.next head = some head) (prev : links.prev head = some head) :
    Ring links head [] :=
  ⟨by simp, by simpa [Adjacent] using ⟨next, prev⟩⟩

section Reading

/-- A gap between two neighbours cuts the ring into two arcs. -/
theorem Ring.cut (ring : Ring links head (front ++ back)) :
    (head :: front).IsChain (Adjacent links) ∧ (back ++ [head]).IsChain (Adjacent links) ∧
      ∀ before ∈ (head :: front).getLast?, ∀ after ∈ (back ++ [head]).head?,
        Adjacent links before after := by
  have linked := ring.linked
  rw [List.append_assoc, ← List.cons_append] at linked
  exact List.isChain_append.mp linked

theorem Ring.next_head (ring : Ring links head nodes) :
    links.next head = (nodes ++ [head]).head? := by
  obtain ⟨after, first⟩ : ∃ after, (nodes ++ [head]).head? = some after := by
    cases nodes <;> simp
  have whole : Ring links head ([] ++ nodes) := ring
  have cut := whole.cut
  rw [first]
  exact (cut.2.2 head (by simp) after first).1

theorem Ring.prev_head (ring : Ring links head nodes) :
    links.prev head = (head :: nodes).getLast? := by
  obtain ⟨before, last⟩ : ∃ before, (head :: nodes).getLast? = some before := by
    simp [List.getLast?_cons]
  have whole : Ring links head (nodes ++ []) := by simpa using ring
  rw [last]
  exact (whole.cut.2.2 before last head (by simp)).2

theorem Ring.next_node (ring : Ring links head (front ++ node :: back)) :
    links.next node = (back ++ [head]).head? := by
  obtain ⟨after, first⟩ : ∃ after, (back ++ [head]).head? = some after := by
    cases back <;> simp
  have around : Ring links head ((front ++ [node]) ++ back) := by simpa using ring
  rw [first]
  exact (around.cut.2.2 node (by simp [List.getLast?_cons]) after first).1

theorem Ring.prev_node (ring : Ring links head (front ++ node :: back)) :
    links.prev node = (head :: front).getLast? := by
  obtain ⟨before, last⟩ : ∃ before, (head :: front).getLast? = some before := by
    simp [List.getLast?_cons]
  rw [last]
  exact (ring.cut.2.2 before last node (by simp)).2

theorem Ring.next_head_eq_iff (ring : Ring links head nodes) :
    links.next head = some head ↔ nodes = [] := by
  rw [ring.next_head]
  cases nodes with
  | nil => simp
  | cons first rest =>
      have distinct := ring.distinct
      simp only [List.nodup_cons, List.mem_cons, not_or] at distinct
      simpa using fun same : first = head => distinct.1.1 same.symm

end Reading

section Linking

theorem getLast_not_mem_dropLast {last : Node} (distinct : nodes.Nodup)
    (final : nodes.getLast? = some last) : last ∉ nodes.dropLast := by
  obtain ⟨early, rfl⟩ := List.getLast?_eq_some_iff.mp final
  rw [List.nodup_append] at distinct
  rw [List.dropLast_concat]
  intro member
  exact distinct.2.2 last member last (by simp) rfl

theorem head_not_mem_tail {first : Node} (distinct : nodes.Nodup)
    (initial : nodes.head? = some first) : first ∉ nodes.tail := by
  obtain ⟨rest, rfl⟩ := List.head?_eq_some_iff.mp initial
  exact (List.nodup_cons.mp distinct).1

theorem nodup_middle : (head :: (front ++ node :: back)).Nodup ↔
    node ∉ head :: (front ++ back) ∧ (head :: (front ++ back)).Nodup := by
  have moved : (head :: front ++ node :: back).Perm (node :: (head :: front ++ back)) :=
    List.perm_middle
  exact moved.nodup_iff.trans List.nodup_cons

/-- Only the links across the gap between `before` and `after` and those of `node` differ. -/
structure ChangedAt (before node after : Node) (links changed : Links Node) : Prop where
  next : ∀ other, other ≠ before → other ≠ node → changed.next other = links.next other
  prev : ∀ other, other ≠ after → other ≠ node → changed.prev other = links.prev other

/-- Away from the gap and from the node that is put in or taken out there, nothing changes. -/
theorem arcs_frame (last : (head :: front).getLast? = some before)
    (first : (back ++ [head]).head? = some after) (same : ChangedAt before node after links changed)
    (distinct : (head :: (front ++ back)).Nodup)
    (apart : node ∉ head :: (front ++ back))
    (start : (head :: front).IsChain (Adjacent links))
    (finish : (back ++ [head]).IsChain (Adjacent links)) :
    (head :: front).IsChain (Adjacent changed) ∧ (back ++ [head]).IsChain (Adjacent changed) := by
  have turned : (front ++ (back ++ [head])).Nodup := by
    rw [← List.append_assoc]
    exact (List.perm_append_singleton head (front ++ back)).nodup_iff.mpr distinct
  rw [← List.cons_append, List.nodup_append] at distinct
  rw [List.nodup_append] at turned
  have before_mem : before ∈ head :: front := List.mem_of_getLast? last
  have after_mem : after ∈ back ++ [head] := List.mem_of_head? first
  refine ⟨chain_frame start ?_ ?_, chain_frame finish ?_ ?_⟩
  · intro other member
    refine same.next other ?_ ?_
    · rintro rfl
      exact getLast_not_mem_dropLast distinct.1 last member
    · rintro rfl
      have inside := List.dropLast_subset _ member
      exact apart (by rw [← List.cons_append]; exact List.mem_append_left _ inside)
  · intro other member
    rw [List.tail_cons] at member
    refine same.prev other ?_ ?_
    · rintro rfl
      exact turned.2.2 other member other after_mem rfl
    · rintro rfl
      exact apart (by simp [member])
  · intro other member
    rw [List.dropLast_concat] at member
    refine same.next other ?_ ?_
    · rintro rfl
      exact distinct.2.2 other before_mem other member rfl
    · rintro rfl
      exact apart (by simp [member])
  · intro other member
    refine same.prev other ?_ ?_
    · rintro rfl
      exact head_not_mem_tail turned.2.1 first member
    · rintro rfl
      have inside := List.mem_of_mem_tail member
      exact apart ((List.perm_append_singleton head (front ++ back)).mem_iff.mp
        (by rw [List.append_assoc]; exact List.mem_append_right _ inside))

theorem Ring.insert (ring : Ring links head (front ++ back))
    (last : (head :: front).getLast? = some before)
    (first : (back ++ [head]).head? = some after)
    (same : ChangedAt before node after links changed) (fresh : node ∉ head :: (front ++ back))
    (toNode : Adjacent changed before node) (fromNode : Adjacent changed node after) :
    Ring changed head (front ++ node :: back) := by
  obtain ⟨start, finish, -⟩ := ring.cut
  obtain ⟨start, finish⟩ := arcs_frame last first same ring.distinct fresh start finish
  refine ⟨?_, ?_⟩
  · exact nodup_middle.mpr ⟨fresh, ring.distinct⟩
  · rw [List.append_assoc, ← List.cons_append, List.isChain_append]
    refine ⟨start, List.isChain_cons.mpr ⟨?_, finish⟩, ?_⟩
    · intro other member
      obtain rfl : after = other := Option.some.inj (first.symm.trans member)
      exact fromNode
    · intro other member next found
      obtain rfl : before = other := Option.some.inj (last.symm.trans member)
      obtain rfl : node = next := Option.some.inj found
      exact toNode

theorem Ring.remove (ring : Ring links head (front ++ node :: back))
    (last : (head :: front).getLast? = some before)
    (first : (back ++ [head]).head? = some after)
    (same : ChangedAt before node after links changed)
    (across : Adjacent changed before after) : Ring changed head (front ++ back) := by
  obtain ⟨apart, distinct⟩ := nodup_middle.mp ring.distinct
  obtain ⟨start, later, -⟩ := ring.cut
  have finish := (List.isChain_cons.mp later).2
  obtain ⟨start, finish⟩ := arcs_frame last first same distinct apart start finish
  refine ⟨distinct, ?_⟩
  rw [List.append_assoc, ← List.cons_append, List.isChain_append]
  refine ⟨start, finish, ?_⟩
  intro other member next found
  obtain rfl : before = other := Option.some.inj (last.symm.trans member)
  obtain rfl : after = next := Option.some.inj (first.symm.trans found)
  exact across

end Linking

end Rings
