import BleFwUpdate.Buffers

/-! The program over the links in memory: from whatever the memory holds before `hci_init`, it
does what the program over plain lists does, and follows no null pointer. -/

namespace BleFwUpdate

open Faults Rings

variable {App Answers : Type}

def linkStep (firmware : Firmware App Answers) (config : Transport App × Links ListNode)
    (input : Input Answers) : Option (Transport App × Links ListNode) :=
  (config.1.step firmware input).onLinks config.2

/-- The part of `hci_init` that sets up the lists. -/
def hciInit (links : Links ListNode) : Option (Links ListNode) :=
  let links := listInitHead (.head .hciReadPktPool) links
  let links := listInitHead (.head .hciReadPktRxQueue) links
  (List.finRange hciReadPacketNumMax).foldlM
    (fun links index => listInsertTail (.head .hciReadPktPool) (.packet index) links) links

theorem insertTails_represents {lists : Lists} {links : Links ListNode}
    (represents : Represents lists links) (items : List PacketIndex) (distinct : items.Nodup)
    (free : ∀ index ∈ items, index ∉ lists.all) :
    ∃ changed, items.foldlM (fun links index =>
        listInsertTail (.head .hciReadPktPool) (.packet index) links) links = some changed ∧
      Represents { lists with pool := lists.pool ++ items } changed := by
  induction items generalizing lists links with
  | nil => exact ⟨links, rfl, by simpa using represents⟩
  | cons index items ih =>
      obtain ⟨apart, distinct⟩ := List.nodup_cons.mp distinct
      have here : Command.onLists (.insertTail .hciReadPktPool index ()) lists =
          some ((), lists.set .hciReadPktPool (lists.pool ++ [index])) := by
        rw [Command.onLists, if_neg (free index (by simp))]
        rfl
      obtain ⟨next, done, kept⟩ := Command.onLinks_refines represents here
      have inserted : listInsertTail (.head .hciReadPktPool) (.packet index) links = some next := by
        obtain ⟨result, found, equal⟩ := Option.map_eq_some_iff.mp done
        cases equal
        exact found
      have freeLater : ∀ other ∈ items,
          other ∉ (lists.set .hciReadPktPool (lists.pool ++ [index])).all := by
        intro other member
        have notIndex : other ≠ index := ne_of_mem_of_not_mem member apart
        have outside := free other (List.mem_cons_of_mem _ member)
        simp only [Lists.all, Lists.set, Lists.temp, List.mem_append, List.mem_singleton] at outside ⊢
        tauto
      obtain ⟨changed, runs, final⟩ := ih kept distinct freeLater
      refine ⟨changed, ?_, by simpa [Lists.set] using final⟩
      rw [List.foldlM_cons, inserted]
      exact runs

theorem hciInit_represents (links : Links ListNode) :
    ∃ changed, hciInit links = some changed ∧ Represents Lists.initial changed := by
  obtain ⟨poolRing, -⟩ := listInitHead_ring (.head .hciReadPktPool) links
  obtain ⟨rxRing, same⟩ := listInitHead_ring (.head .hciReadPktRxQueue)
    (listInitHead (.head .hciReadPktPool) links)
  have empty : Represents { pool := [], rxQueue := [], tempQueue := none }
      (listInitHead (.head .hciReadPktRxQueue) (listInitHead (.head .hciReadPktPool) links)) := by
    constructor
    · intro queue items found
      cases queue with
      | hciReadPktPool =>
          cases found
          exact poolRing.disjoint same (by simp)
      | hciReadPktRxQueue =>
          cases found
          exact rxRing
      | hciTempQueue => cases found
    · intro first second items others firstGet secondGet different index member
      cases first with
      | hciTempQueue => cases firstGet
      | hciReadPktPool =>
          cases firstGet
          cases member
      | hciReadPktRxQueue =>
          cases firstGet
          cases member
  exact insertTails_represents empty (List.finRange hciReadPacketNumMax) (List.nodup_finRange _)
    (by simp [Lists.all, Lists.temp])

theorem linkStep_simulates (firmware : Firmware App Answers) (config next : Transport App × Lists)
    (other : Transport App × Links ListNode) (input : Input Answers)
    (related : config.1 = other.1 ∧ Represents config.2 other.2)
    (runs : listStep firmware config input = some next) :
    ∃ after, linkStep firmware other input = some after ∧
      next.1 = after.1 ∧ Represents next.2 after.2 := by
  obtain ⟨transport, links⟩ := other
  obtain ⟨rfl, represents⟩ := related
  obtain ⟨changed, done, kept⟩ := Command.onLinks_refines represents runs
  exact ⟨(next.1, changed), done, rfl, kept⟩

/-- Whatever the memory holds before `hci_init`, in every interleaving the calls of `ble_list.c`
follow no null pointer, `list_get_size` comes to an end, no list head is taken for a packet, and
the rings in memory are the lists of the program over plain lists, in the same state. -/
theorem links_follow_lists (firmware : Firmware App Answers)
    (packets : PacketIndex → HciDataPacket) (app : App) (links : Links ListNode)
    (inputs : List (Input Answers)) :
    ∃ initial transport lists final, hciInit links = some initial ∧
      runFrom (listStep firmware) (Transport.initial firmware packets app, Lists.initial) inputs =
        some (transport, lists) ∧
      runFrom (linkStep firmware) (Transport.initial firmware packets app, initial) inputs =
        some (transport, final) ∧
      Represents lists final := by
  obtain ⟨initial, start, represents⟩ := hciInit_represents links
  obtain ⟨⟨transport, lists⟩, runs, -⟩ :=
    run_safe (step_inPlace firmware) (initial_inPlace firmware packets app) inputs
  obtain ⟨⟨same, final⟩, followed, equal, kept⟩ :=
    run_simulated (fun config other input next => linkStep_simulates firmware config next other input)
      (show _ = (Transport.initial firmware packets app, initial).1 ∧ _ from ⟨rfl, represents⟩) runs
  dsimp only at equal
  subst equal
  exact ⟨initial, transport, lists, final, start, runs, followed, kept⟩

end BleFwUpdate
