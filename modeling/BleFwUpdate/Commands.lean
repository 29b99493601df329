import BleFwUpdate.BleList
import BleFwUpdate.General.Faults
import Mathlib.Data.Fintype.Card

/-! The lists of `hci_tl.c` and the calls of `ble_list.c` made on them, twice: on plain lists,
where a call out of place is an error, and on the links the nodes carry in memory. -/

namespace BleFwUpdate

open Rings

/-- `HCI_READ_PACKET_NUM_MAX` -/
def hciReadPacketNumMax : Nat := 5

/-- An element of `hciReadPacketBuffer`. -/
abbrev PacketIndex := Fin hciReadPacketNumMax

inductive Queue
  | hciReadPktPool
  | hciReadPktRxQueue
  | hciTempQueue
  deriving DecidableEq, Repr

inductive ListNode
  | head (queue : Queue)
  | packet (index : PacketIndex)
  deriving DecidableEq, Repr

/-- A step of a program: one call of `ble_list.c`, and the state it leads to. -/
inductive Command (State : Type)
  | skip (next : State)
  | initHead (queue : Queue) (next : State)
  | isEmpty (queue : Queue) (next : Bool → State)
  | getSize (queue : Queue) (next : Nat → State)
  | insertHead (queue : Queue) (index : PacketIndex) (next : State)
  | insertTail (queue : Queue) (index : PacketIndex) (next : State)
  | removeHead (queue : Queue) (next : PacketIndex → State)
  | removeTail (queue : Queue) (next : PacketIndex → State)
  -- the list head `hciTempQueue`, a local variable, goes out of scope
  | leave (next : State)

/-- `hciTempQueue` exists only while `hci_send_req` runs. -/
structure Lists where
  pool : List PacketIndex
  rxQueue : List PacketIndex
  tempQueue : Option (List PacketIndex)
  deriving DecidableEq, Repr

def Lists.get (lists : Lists) : Queue → Option (List PacketIndex)
  | .hciReadPktPool => some lists.pool
  | .hciReadPktRxQueue => some lists.rxQueue
  | .hciTempQueue => lists.tempQueue

def Lists.set (lists : Lists) (queue : Queue) (items : List PacketIndex) : Lists :=
  match queue with
  | .hciReadPktPool => { lists with pool := items }
  | .hciReadPktRxQueue => { lists with rxQueue := items }
  | .hciTempQueue => { lists with tempQueue := some items }

def Lists.temp (lists : Lists) : List PacketIndex := lists.tempQueue.getD []

def Lists.all (lists : Lists) : List PacketIndex := lists.pool ++ lists.rxQueue ++ lists.temp

theorem Lists.get_set (lists : Lists) (queue other : Queue) (items : List PacketIndex) :
    (lists.set queue items).get other = if other = queue then some items else lists.get other := by
  cases queue <;> cases other <;> rfl

theorem Lists.mem_all {lists : Lists} {index : PacketIndex} :
    index ∈ lists.all ↔ ∃ queue items, lists.get queue = some items ∧ index ∈ items := by
  rw [Lists.all, List.mem_append, List.mem_append]
  constructor
  · rintro ((member | member) | member)
    · exact ⟨.hciReadPktPool, _, rfl, member⟩
    · exact ⟨.hciReadPktRxQueue, _, rfl, member⟩
    · cases temp : lists.tempQueue with
      | none => simp [Lists.temp, temp] at member
      | some items => exact ⟨.hciTempQueue, items, temp, by simpa [Lists.temp, temp] using member⟩
  · rintro ⟨queue, items, found, member⟩
    cases queue with
    | hciReadPktPool => exact .inl (.inl (Option.some.inj found ▸ member))
    | hciReadPktRxQueue => exact .inl (.inr (Option.some.inj found ▸ member))
    | hciTempQueue =>
        have temp : lists.tempQueue = some items := found
        exact .inr (by simpa [Lists.temp, temp] using member)

/-- The calls as they are meant. It is an error to use `hciTempQueue` outside `hci_send_req`,
to remove from an empty list, to insert a packet that is on a list, and to drop packets with
the head of their list. -/
def Command.onLists {State : Type} (command : Command State) (lists : Lists) :
    Option (State × Lists) :=
  match command with
  | .skip next => some (next, lists)
  | .initHead queue next =>
      if (lists.get queue).getD [] = [] then some (next, lists.set queue []) else none
  | .isEmpty queue next => (lists.get queue).map fun items => (next items.isEmpty, lists)
  | .getSize queue next => (lists.get queue).map fun items => (next items.length, lists)
  | .insertHead queue index next =>
      if index ∈ lists.all then none
      else (lists.get queue).map fun items => (next, lists.set queue (index :: items))
  | .insertTail queue index next =>
      if index ∈ lists.all then none
      else (lists.get queue).map fun items => (next, lists.set queue (items ++ [index]))
  | .removeHead queue next =>
      match lists.get queue with
      | some (index :: items) => some (next index, lists.set queue items)
      | _ => none
  | .removeTail queue next =>
      (lists.get queue).bind fun items =>
        items.getLast?.map fun index => (next index, lists.set queue items.dropLast)
  | .leave next =>
      if lists.tempQueue = some [] then some (next, { lists with tempQueue := none }) else none

section Inversion

variable {State : Type} {lists : Lists} {queue : Queue} {index : PacketIndex} {next : State}
  {result : State × Lists}

theorem initHead_onLists (runs : (Command.initHead queue next).onLists lists = some result) :
    (lists.get queue).getD [] = [] ∧ result = (next, lists.set queue []) := by
  simp only [Command.onLists, Option.ite_none_right_eq_some, Option.some.injEq] at runs
  exact ⟨runs.1, runs.2.symm⟩

theorem isEmpty_onLists {next : Bool → State}
    (runs : (Command.isEmpty queue next).onLists lists = some result) :
    ∃ items, lists.get queue = some items ∧ result = (next items.isEmpty, lists) := by
  obtain ⟨items, found, equal⟩ := Option.map_eq_some_iff.mp runs
  exact ⟨items, found, equal.symm⟩

theorem getSize_onLists {next : Nat → State}
    (runs : (Command.getSize queue next).onLists lists = some result) :
    ∃ items, lists.get queue = some items ∧ result = (next items.length, lists) := by
  obtain ⟨items, found, equal⟩ := Option.map_eq_some_iff.mp runs
  exact ⟨items, found, equal.symm⟩

theorem insertHead_onLists (runs : (Command.insertHead queue index next).onLists lists = some result) :
    ∃ items, lists.get queue = some items ∧ index ∉ lists.all ∧
      result = (next, lists.set queue (index :: items)) := by
  simp only [Command.onLists, Option.ite_none_left_eq_some] at runs
  obtain ⟨items, found, equal⟩ := Option.map_eq_some_iff.mp runs.2
  exact ⟨items, found, runs.1, equal.symm⟩

theorem insertTail_onLists (runs : (Command.insertTail queue index next).onLists lists = some result) :
    ∃ items, lists.get queue = some items ∧ index ∉ lists.all ∧
      result = (next, lists.set queue (items ++ [index])) := by
  simp only [Command.onLists, Option.ite_none_left_eq_some] at runs
  obtain ⟨items, found, equal⟩ := Option.map_eq_some_iff.mp runs.2
  exact ⟨items, found, runs.1, equal.symm⟩

theorem removeHead_onLists {next : PacketIndex → State}
    (runs : (Command.removeHead queue next).onLists lists = some result) :
    ∃ index items, lists.get queue = some (index :: items) ∧
      result = (next index, lists.set queue items) := by
  simp only [Command.onLists] at runs
  split at runs
  next index items found => exact ⟨index, items, found, (Option.some.inj runs).symm⟩
  next => cases runs

theorem removeTail_onLists {next : PacketIndex → State}
    (runs : (Command.removeTail queue next).onLists lists = some result) :
    ∃ index items, lists.get queue = some (items ++ [index]) ∧
      result = (next index, lists.set queue items) := by
  obtain ⟨items, found, runs⟩ := Option.bind_eq_some_iff.mp runs
  obtain ⟨index, last, equal⟩ := Option.map_eq_some_iff.mp runs
  obtain ⟨early, rfl⟩ := List.getLast?_eq_some_iff.mp last
  rw [List.dropLast_concat] at equal
  exact ⟨index, early, found, equal.symm⟩

theorem leave_onLists (runs : (Command.leave next).onLists lists = some result) :
    lists.tempQueue = some [] ∧ result = (next, { lists with tempQueue := none }) := by
  simp only [Command.onLists, Option.ite_none_right_eq_some, Option.some.injEq] at runs
  exact ⟨runs.1, runs.2.symm⟩

end Inversion

def Command.Leads {State : Type} (good : State → Prop) : Command State → Prop
  | .skip next | .initHead _ next | .insertHead _ _ next | .insertTail _ _ next | .leave next =>
      good next
  | .isEmpty _ next => ∀ empty, good (next empty)
  | .getSize _ next => ∀ size, good (next size)
  | .removeHead _ next | .removeTail _ next => ∀ index, good (next index)

theorem Command.Leads.holds {State : Type} {good : State → Prop} {command : Command State}
    {lists : Lists} {result : State × Lists} (leads : command.Leads good)
    (runs : command.onLists lists = some result) : good result.1 := by
  cases command with
  | skip next =>
      cases runs
      exact leads
  | initHead queue next =>
      obtain ⟨-, rfl⟩ := initHead_onLists runs
      exact leads
  | isEmpty queue next =>
      obtain ⟨items, -, rfl⟩ := isEmpty_onLists runs
      exact leads items.isEmpty
  | getSize queue next =>
      obtain ⟨items, -, rfl⟩ := getSize_onLists runs
      exact leads items.length
  | insertHead queue index next =>
      obtain ⟨items, -, -, rfl⟩ := insertHead_onLists runs
      exact leads
  | insertTail queue index next =>
      obtain ⟨items, -, -, rfl⟩ := insertTail_onLists runs
      exact leads
  | removeHead queue next =>
      obtain ⟨index, items, -, rfl⟩ := removeHead_onLists runs
      exact leads index
  | removeTail queue next =>
      obtain ⟨index, items, -, rfl⟩ := removeTail_onLists runs
      exact leads index
  | leave next =>
      obtain ⟨-, rfl⟩ := leave_onLists runs
      exact leads

/-- The calls as `ble_list.c` carries them out. A list head that is handed out as if it were a
packet is an error. -/
def Command.onLinks {State : Type} (command : Command State) (links : Links ListNode) :
    Option (State × Links ListNode) :=
  match command with
  | .skip next => some (next, links)
  | .initHead queue next => some (next, listInitHead (.head queue) links)
  | .isEmpty queue next => some (next (listIsEmpty (.head queue) links), links)
  | .getSize queue next =>
      (listGetSize (hciReadPacketNumMax + 1) (.head queue) links).map fun size => (next size, links)
  | .insertHead queue index next =>
      (listInsertHead (.head queue) (.packet index) links).map fun links => (next, links)
  | .insertTail queue index next =>
      (listInsertTail (.head queue) (.packet index) links).map fun links => (next, links)
  | .removeHead queue next =>
      match listRemoveHead (.head queue) links with
      | some (.packet index, links) => some (next index, links)
      | _ => none
  | .removeTail queue next =>
      match listRemoveTail (.head queue) links with
      | some (.packet index, links) => some (next index, links)
      | _ => none
  | .leave next => some (next, links)

/-- The memory holds a ring for every list, and no packet is on two of them. -/
structure Represents (lists : Lists) (links : Links ListNode) : Prop where
  rings : ∀ queue items, lists.get queue = some items →
    Ring links (.head queue) (items.map .packet)
  apart : ∀ queue other items others, lists.get queue = some items →
    lists.get other = some others → queue ≠ other → ∀ index ∈ items, index ∉ others

section Refinement

variable {lists : Lists} {links changed : Links ListNode} {queue : Queue}
  {items others : List PacketIndex} {index : PacketIndex}

theorem packet_mem {index : PacketIndex} {items : List PacketIndex} :
    ListNode.packet index ∈ items.map ListNode.packet ↔ index ∈ items := by
  simp

theorem Represents.length_le (represents : Represents lists links)
    (found : lists.get queue = some items) : items.length ≤ hciReadPacketNumMax := by
  have distinct := (List.nodup_cons.mp (represents.rings queue items found).distinct).2
  simpa using (List.Nodup.of_map _ distinct).length_le_card

theorem Represents.update (represents : Represents lists links)
    (found : lists.get queue = some items) (ring : Ring changed (.head queue) (others.map .packet))
    {touched : List ListNode} (same : SameOutside touched links changed)
    (heads : ∀ other, .head other ∈ touched → other = queue)
    (packets : ∀ index, .packet index ∈ touched → index ∈ items ∨ index ∉ lists.all)
    (known : ∀ index ∈ others, index ∈ items ∨ index ∉ lists.all) :
    Represents (lists.set queue others) changed := by
  constructor
  · intro other listed
    rw [Lists.get_set]
    by_cases own : other = queue
    · rw [if_pos own]
      rintro ⟨⟩
      exact own ▸ ring
    · rw [if_neg own]
      intro kept
      refine (represents.rings other listed kept).disjoint same ?_
      intro node member inside
      rcases List.mem_cons.mp member with rfl | member
      · exact own (heads other inside)
      · obtain ⟨index, here, rfl⟩ := List.mem_map.mp member
        rcases packets index inside with shared | free
        · exact represents.apart other queue listed items kept found own index here shared
        · exact free (Lists.mem_all.mpr ⟨other, listed, kept, here⟩)
  · intro first second firsts seconds firstGet secondGet different index member shared
    rw [Lists.get_set] at firstGet secondGet
    by_cases firstOwn : first = queue
    · by_cases secondOwn : second = queue
      · exact different (firstOwn.trans secondOwn.symm)
      · rw [if_pos firstOwn] at firstGet
        rw [if_neg secondOwn] at secondGet
        cases firstGet
        rcases known index member with mine | free
        · exact represents.apart queue second items seconds found secondGet
            (fun same => secondOwn same.symm) index mine shared
        · exact free (Lists.mem_all.mpr ⟨second, seconds, secondGet, shared⟩)
    · rw [if_neg firstOwn] at firstGet
      by_cases secondOwn : second = queue
      · rw [if_pos secondOwn] at secondGet
        cases secondGet
        rcases known index shared with mine | free
        · exact represents.apart first queue firsts items firstGet found firstOwn index member mine
        · exact free (Lists.mem_all.mpr ⟨first, firsts, firstGet, member⟩)
      · rw [if_neg secondOwn] at secondGet
        exact represents.apart first second firsts seconds firstGet secondGet different index
          member shared

theorem not_mem_map_of_not_mem_all (found : lists.get queue = some items)
    (free : index ∉ lists.all) :
    ListNode.packet index ∉ ListNode.head queue :: items.map ListNode.packet := by
  intro member
  rcases List.mem_cons.mp member with equal | member
  · cases equal
  · exact free (Lists.mem_all.mpr ⟨queue, items, found, packet_mem.mp member⟩)

theorem Represents.insert (represents : Represents lists links)
    (found : lists.get queue = some items) (free : index ∉ lists.all)
    (ring : Ring changed (.head queue) (others.map .packet))
    (same : SameOutside (.packet index :: .head queue :: items.map .packet) links changed)
    (known : ∀ other ∈ others, other = index ∨ other ∈ items) :
    Represents (lists.set queue others) changed := by
  refine represents.update found ring same ?_ ?_ ?_
  · intro other member
    simpa using member
  · intro other member
    simp only [List.mem_cons, ListNode.packet.injEq, reduceCtorEq, false_or, packet_mem] at member
    rcases member with rfl | member
    · exact .inr free
    · exact .inl member
  · intro other member
    rcases known other member with rfl | member
    · exact .inr free
    · exact .inl member

theorem Represents.remove (represents : Represents lists links)
    (found : lists.get queue = some items) (member : index ∈ items)
    (ring : Ring changed (.head queue) (others.map .packet))
    (same : SameOutside (.packet index :: .head queue :: others.map .packet) links changed)
    (known : ∀ other ∈ others, other ∈ items) : Represents (lists.set queue others) changed := by
  refine represents.update found ring same ?_ ?_ ?_
  · intro other member
    simpa using member
  · intro other touched
    simp only [List.mem_cons, ListNode.packet.injEq, reduceCtorEq, false_or, packet_mem] at touched
    rcases touched with rfl | touched
    · exact .inl member
    · exact .inl (known other touched)
  · exact fun other member => .inl (known other member)

/-- Every call that is in place on the lists does the same to the lists in memory. -/
theorem Command.onLinks_refines {State : Type} {command : Command State} {after : Lists}
    {state : State} (represents : Represents lists links)
    (runs : command.onLists lists = some (state, after)) :
    ∃ changed, command.onLinks links = some (state, changed) ∧ Represents after changed := by
  cases command with
  | skip next =>
      cases runs
      exact ⟨links, rfl, represents⟩
  | initHead queue next =>
      obtain ⟨-, equal⟩ := initHead_onLists runs
      cases equal
      obtain ⟨ring, same⟩ := listInitHead_ring (.head queue) links
      refine ⟨_, rfl, ?_⟩
      cases found : lists.get queue with
      | some items =>
          refine represents.update found ring same ?_ ?_ ?_ <;> simp
      | none =>
          constructor
          · intro other listed kept
            rw [Lists.get_set] at kept
            by_cases own : other = queue
            · rw [if_pos own] at kept
              cases kept
              exact own ▸ ring
            · rw [if_neg own] at kept
              refine (represents.rings other listed kept).disjoint same ?_
              intro node member inside
              rw [List.mem_singleton] at inside
              subst inside
              simp [Ne.symm own] at member
          · intro first second firsts seconds firstGet secondGet different index member shared
            rw [Lists.get_set] at firstGet secondGet
            split at firstGet
            · cases firstGet
              cases member
            · split at secondGet
              · cases secondGet
                cases shared
              · exact represents.apart first second firsts seconds firstGet secondGet different
                  index member shared
  | isEmpty queue next =>
      obtain ⟨items, found, equal⟩ := isEmpty_onLists runs
      cases equal
      have same := listIsEmpty_ring (represents.rings queue items found)
      have empty : listIsEmpty (.head queue) links = items.isEmpty := by
        rw [Bool.eq_iff_iff, same, List.map_eq_nil_iff, List.isEmpty_iff]
      exact ⟨links, by rw [onLinks, empty], represents⟩
  | getSize queue next =>
      obtain ⟨items, found, equal⟩ := getSize_onLists runs
      cases equal
      have short := represents.length_le found
      have short : (items.map ListNode.packet).length < hciReadPacketNumMax + 1 := by
        rw [List.length_map]
        omega
      have size := listGetSize_ring (represents.rings queue items found) short
      exact ⟨links, by rw [onLinks, size, List.length_map, Option.map_some], represents⟩
  | insertHead queue index next =>
      obtain ⟨items, found, free, equal⟩ := insertHead_onLists runs
      cases equal
      obtain ⟨changed, done, ring, same⟩ := listInsertHead_ring
        (represents.rings queue items found) (not_mem_map_of_not_mem_all found free)
      have ring : Ring changed (.head queue) ((index :: items).map .packet) := ring
      exact ⟨changed, by rw [onLinks, done, Option.map_some],
        represents.insert found free ring same (by simp)⟩
  | insertTail queue index next =>
      obtain ⟨items, found, free, equal⟩ := insertTail_onLists runs
      cases equal
      obtain ⟨changed, done, ring, same⟩ := listInsertTail_ring
        (represents.rings queue items found) (not_mem_map_of_not_mem_all found free)
      have ring : Ring changed (.head queue) ((items ++ [index]).map .packet) := by simpa using ring
      exact ⟨changed, by rw [onLinks, done, Option.map_some],
        represents.insert found free ring same (by simp [or_comm])⟩
  | removeHead queue next =>
      obtain ⟨index, items, found, equal⟩ := removeHead_onLists runs
      cases equal
      obtain ⟨changed, done, ring, same⟩ := listRemoveHead_ring
        (represents.rings queue (index :: items) found)
      exact ⟨changed, by rw [onLinks, done],
        represents.remove found (by simp) ring same (by simp +contextual)⟩
  | removeTail queue next =>
      obtain ⟨index, items, found, equal⟩ := removeTail_onLists runs
      cases equal
      have ring := represents.rings queue _ found
      rw [List.map_append, List.map_singleton] at ring
      obtain ⟨changed, done, ring, same⟩ := listRemoveTail_ring ring
      exact ⟨changed, by rw [onLinks, done],
        represents.remove found (by simp) ring same (by simp +contextual)⟩
  | leave next =>
      obtain ⟨-, equal⟩ := leave_onLists runs
      cases equal
      refine ⟨links, rfl, ?_, ?_⟩
      · intro queue items found
        cases queue with
        | hciReadPktPool => exact represents.rings .hciReadPktPool items found
        | hciReadPktRxQueue => exact represents.rings .hciReadPktRxQueue items found
        | hciTempQueue => cases found
      · intro first second firsts seconds firstGet secondGet different
        cases first with
        | hciTempQueue => cases firstGet
        | hciReadPktPool =>
            cases second with
            | hciTempQueue => cases secondGet
            | hciReadPktPool => exact absurd rfl different
            | hciReadPktRxQueue =>
                exact represents.apart .hciReadPktPool .hciReadPktRxQueue firsts seconds firstGet
                  secondGet different
        | hciReadPktRxQueue =>
            cases second with
            | hciTempQueue => cases secondGet
            | hciReadPktRxQueue => exact absurd rfl different
            | hciReadPktPool =>
                exact represents.apart .hciReadPktRxQueue .hciReadPktPool firsts seconds firstGet
                  secondGet different

end Refinement

end BleFwUpdate
