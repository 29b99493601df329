import Mathlib.Data.List.Perm.Subperm
import Mathlib.Data.List.Sort

/-! The entries of a list at ascending positions. -/

namespace Positions

variable {Entry : Type}

/-- What is taken are the entries at these positions, in their order. -/
structure Picks (positions : List Nat) (whole taken : List Entry) : Prop where
  ascending : positions.Pairwise (· < ·)
  entries : positions.map (whole[·]?) = taken.map some

variable {positions : List Nat} {whole taken : List Entry}

theorem Picks.nodup (picks : Picks positions whole taken) : positions.Nodup :=
  picks.ascending.imp fun below => Nat.ne_of_lt below

theorem Picks.lt_length (picks : Picks positions whole taken) {position : Nat}
    (member : position ∈ positions) : position < whole.length := by
  have entry : whole[position]? ∈ taken.map some := by
    rw [← picks.entries]
    exact List.mem_map_of_mem member
  obtain ⟨value, -, equal⟩ := List.mem_map.mp entry
  exact (List.getElem?_eq_some_iff.mp equal.symm).1

theorem picks_range (whole : List Entry) : Picks (List.range whole.length) whole whole := by
  refine ⟨List.pairwise_lt_range, List.ext_getElem? fun position => ?_⟩
  by_cases below : position < whole.length <;> simp [below]

theorem Picks.sublist (picks : Picks positions whole taken) : taken.Sublist whole := by
  have inside : positions ⊆ List.range whole.length :=
    fun position member => List.mem_range.mpr (picks.lt_length member)
  have chosen : positions.Sublist (List.range whole.length) :=
    List.sublist_of_subperm_of_pairwise (picks.nodup.subperm inside) picks.ascending
      List.pairwise_lt_range
  have mapped := chosen.map (whole[·]?)
  rw [picks.entries, (picks_range whole).entries] at mapped
  simpa using mapped.filterMap id

theorem Picks.countP_eq (picks : Picks positions whole taken) (accept : Entry → Bool) :
    taken.countP accept = positions.countP fun position => whole[position]?.any accept := by
  have counted := congrArg (List.countP fun entry => entry.any accept) picks.entries
  rw [List.countP_map, List.countP_map] at counted
  exact counted.symm

theorem Picks.filter_eq (picks : Picks positions whole taken) {accept : Entry → Bool}
    (all : ∀ position entry, whole[position]? = some entry → accept entry = true →
      position ∈ positions) : taken.filter accept = whole.filter accept := by
  refine (picks.sublist.filter accept).eq_of_length ?_
  have same : (positions.filter fun position => whole[position]?.any accept).Perm
      ((List.range whole.length).filter fun position => whole[position]?.any accept) := by
    refine (List.perm_ext_iff_of_nodup (picks.nodup.filter _) (List.nodup_range.filter _)).mpr ?_
    intro position
    rw [List.mem_filter, List.mem_filter]
    refine and_congr_left fun accepted => ?_
    obtain ⟨entry, found, accepted⟩ := (Option.any_eq_true _ _).mp accepted
    exact ⟨fun member => List.mem_range.mpr (picks.lt_length member),
      fun _ => all position entry found accepted⟩
  rw [← List.countP_eq_length_filter, ← List.countP_eq_length_filter, picks.countP_eq,
    (picks_range whole).countP_eq, List.countP_eq_length_filter, List.countP_eq_length_filter,
    same.length_eq]

end Positions
