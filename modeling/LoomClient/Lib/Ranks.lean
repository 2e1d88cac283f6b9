import Mathlib.Data.List.Perm.Subperm
import Mathlib.Data.List.Sort

namespace LoomClient.Lib
variable {α : Type} (rank : α → Int)

-- `sorted(items, key=rank)`, which is stable.
def byRank (items : List α) : List α := items.insertionSort fun a b => rank a ≤ rank b

variable {rank}

theorem by_rank_perm (items : List α) : (byRank rank items).Perm items := List.perm_insertionSort _ _

-- Ranks that are all different and below their number fill the positions in order.
theorem by_rank_positions {items : List α} (distinct : (items.map rank).Nodup)
    (within : ∀ a ∈ items, 0 ≤ rank a ∧ rank a < items.length) :
    (byRank rank items).map rank = (List.range items.length).map Int.ofNat := by
  have filled : (items.map rank).Perm ((List.range items.length).map Int.ofNat) := by
    refine (List.subperm_of_subset distinct ?_).perm_of_length_le (by simp)
    intro r member
    obtain ⟨a,among,rfl⟩ := List.mem_map.mp member
    obtain ⟨low,high⟩ := within a among
    exact List.mem_map.mpr ⟨(rank a).toNat,List.mem_range.mpr (by omega),Int.toNat_of_nonneg low⟩
  have sorted : ((byRank rank items).map rank).Pairwise (· ≤ ·) := by
    have total : Std.Total fun a b : α => rank a ≤ rank b := ⟨fun a b => le_total (rank a) (rank b)⟩
    have transitive : IsTrans α fun a b : α => rank a ≤ rank b := ⟨fun a b c => le_trans⟩
    exact List.pairwise_map.mpr (List.pairwise_insertionSort _ items)
  have counted : ((List.range items.length).map Int.ofNat).Pairwise (· ≤ ·) := by
    refine List.pairwise_map.mpr (List.pairwise_lt_range.imp ?_)
    intro a b before
    exact Int.ofNat_le.mpr (Nat.le_of_lt before)
  exact (((by_rank_perm items).map rank).trans filled).eq_of_pairwise' sorted counted

theorem by_rank_get {items : List α} (distinct : (items.map rank).Nodup)
    (within : ∀ a ∈ items, 0 ≤ rank a ∧ rank a < items.length) (member : a ∈ items) :
    (byRank rank items)[(rank a).toNat]? = some a := by
  obtain ⟨i,bound,found⟩ := List.getElem_of_mem ((by_rank_perm items).mem_iff.mpr member)
  have placed : ((byRank rank items).map rank)[i]? = ((List.range items.length).map Int.ofNat)[i]? := by
    rw [by_rank_positions distinct within]
  have length : (byRank rank items).length = items.length := (by_rank_perm items).length_eq
  rw [List.getElem?_map,List.getElem?_eq_getElem bound,found,List.getElem?_map,
    List.getElem?_range (by omega)] at placed
  have position : rank a = i := by simpa using placed
  rw [position,Int.toNat_natCast,List.getElem?_eq_getElem bound,found]

end LoomClient.Lib
