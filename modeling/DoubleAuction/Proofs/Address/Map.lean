import DoubleAuction.Address.Map

/-! # Maps made from their entries

A list that names every address once makes the map of its entries, in whatever order they stand
(`AddressMap.ofList_of_perm`).
-/

namespace DoubleAuction.AddressMap

variable {α : Type u} {entries : List (Address × α)} {key : Address}

theorem lookup_of_mem (distinct : (entries.map (·.1)).Nodup) {value : α}
    (member : (key, value) ∈ entries) : lookup key entries = some value := by
  induction entries with
  | nil => cases member
  | cons first rest ih =>
    obtain ⟨apart, distinct⟩ := List.nodup_cons.mp distinct
    rcases List.mem_cons.mp member with rfl | later
    · exact if_pos rfl
    · have elsewhere : first.1 ≠ key := by
        rintro rfl
        exact apart (List.mem_map.mpr ⟨_, later, rfl⟩)
      rw [lookup, if_neg elsewhere, ih distinct later]

theorem lookup_of_not_mem (absent : key ∉ entries.map (·.1)) : lookup key entries = none := by
  induction entries with
  | nil => rfl
  | cons first rest ih =>
    rw [List.map_cons, List.mem_cons, not_or] at absent
    obtain ⟨elsewhere, absent⟩ := absent
    rw [lookup, if_neg (Ne.symm elsewhere), ih absent]

theorem find?_foldl_insert_of_not_mem (absent : key ∉ entries.map (·.1)) (map : AddressMap α) :
    (entries.foldl (fun map entry => map.insert entry.1 entry.2) map).find? key =
      map.find? key := by
  induction entries generalizing map with
  | nil => rfl
  | cons first rest ih =>
    rw [List.map_cons, List.mem_cons, not_or] at absent
    obtain ⟨elsewhere, absent⟩ := absent
    rw [List.foldl_cons, ih absent, find?_insert_of_ne _ _ (Ne.symm elsewhere)]

theorem find?_foldl_insert_of_mem (distinct : (entries.map (·.1)).Nodup) {value : α}
    (member : (key, value) ∈ entries) (map : AddressMap α) :
    (entries.foldl (fun map entry => map.insert entry.1 entry.2) map).find? key =
      some value := by
  induction entries generalizing map with
  | nil => cases member
  | cons first rest ih =>
    obtain ⟨apart, distinct⟩ := List.nodup_cons.mp distinct
    rw [List.foldl_cons]
    rcases List.mem_cons.mp member with rfl | later
    · rw [find?_foldl_insert_of_not_mem apart, find?_insert_self]
    · exact ih distinct later _

theorem nodup_keys (map : AddressMap α) : (map.entries.map (·.1)).Nodup := by
  rw [List.Nodup, List.pairwise_map]
  exact map.sorted.imp Address.ne_of_lt

/-- A map is made again from its entries in any order. -/
theorem ofList_of_perm {map : AddressMap α} (perm : map.entries.Perm entries) :
    ofList entries = map := by
  have distinct : (entries.map (·.1)).Nodup := (perm.map _).nodup_iff.mp map.nodup_keys
  ext1 key
  by_cases present : key ∈ entries.map (·.1)
  · obtain ⟨⟨_, value⟩, member, rfl⟩ := List.mem_map.mp present
    rw [ofList, find?_foldl_insert_of_mem distinct member, find?,
      lookup_of_mem map.nodup_keys (perm.mem_iff.mpr member)]
  · have absent : key ∉ map.entries.map (·.1) := by rwa [(perm.map _).mem_iff]
    have unknown : map.find? key = none := lookup_of_not_mem absent
    rw [ofList, find?_foldl_insert_of_not_mem present, unknown, find?_empty]

end DoubleAuction.AddressMap
