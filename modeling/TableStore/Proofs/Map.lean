import TableStore.OrdMap

set_option autoImplicit false

namespace TableStore

section
variable {κ ν : Type} [DecidableEq κ]

theorem entry_at_of_mem [LT κ] [Std.Irrefl fun a b : κ => a < b] {key : κ} {value : ν} {entries : List (κ × ν)}
    (ascending : Ascending entries) (present : (key, value) ∈ entries) : entryAt key entries = some value := by
  induction entries with
  | nil => cases present
  | cons head rest ih =>
    obtain ⟨above, tail⟩ := List.pairwise_cons.mp ascending
    rcases List.mem_cons.mp present with same | later
    · rw [← same, entryAt, if_pos rfl]
    · have less : head.1 < key := above _ later
      have different : key ≠ head.1 := by
        intro same
        rw [same] at less
        exact Std.Irrefl.irrefl (r := fun a b : κ => a < b) head.1 less
      rw [entryAt, if_neg different]
      exact ih tail later

theorem put_entry_absent [LT κ] [DecidableLT κ] {key : κ} {entries : List (κ × ν)} (absent : entryAt key entries = none)
    (value : ν) : (putEntry key value entries).Perm ((key, value) :: entries) := by
  induction entries with
  | nil => exact .refl _
  | cons head rest ih =>
    rw [entryAt] at absent
    rw [putEntry]
    split at absent
    · cases absent
    · rename_i different
      split
      · exact .refl _
      · exact ((ih absent).cons head).trans (.swap ..)

theorem erase_entry_absent {key : κ} {entries : List (κ × ν)} (absent : entryAt key entries = none) :
    eraseEntry key entries = entries := by
  induction entries with
  | nil => rfl
  | cons head rest ih =>
    rw [entryAt] at absent
    split at absent
    · cases absent
    · rename_i different
      have kept := ih absent
      rw [eraseEntry] at kept ⊢
      rw [List.filter_cons_of_pos (by simpa using different), kept]

theorem erase_entry_length [LT κ] [Std.Irrefl fun a b : κ => a < b] {key : κ} {entries : List (κ × ν)}
    (ascending : Ascending entries) :
    (eraseEntry key entries).length + (entryAt key entries).isSome.toNat = entries.length := by
  induction entries with
  | nil => rfl
  | cons head rest ih =>
    obtain ⟨above, tail⟩ := List.pairwise_cons.mp ascending
    rw [entryAt]
    by_cases same : key = head.1
    · subst same
      have kept := erase_entry_absent (entry_at_none above)
      rw [eraseEntry] at kept ⊢
      rw [if_pos rfl, List.filter_cons_of_neg (by simp), kept]
      rfl
    · have behind := ih tail
      rw [eraseEntry] at behind ⊢
      rw [if_neg same, List.filter_cons_of_pos (by simpa using same), List.length_cons, List.length_cons]
      omega

theorem put_entry_length [LT κ] [DecidableLT κ] [LE κ] [Std.IsLinearOrder κ] [Std.LawfulOrderLT κ] {key : κ} {value : ν}
    {entries : List (κ × ν)} (ascending : Ascending entries) :
    (putEntry key value entries).length + (entryAt key entries).isSome.toNat = entries.length + 1 := by
  induction entries with
  | nil => rfl
  | cons head rest ih =>
    obtain ⟨above, tail⟩ := List.pairwise_cons.mp ascending
    rw [putEntry]
    split
    · rename_i less
      have absent : entryAt key (head :: rest) = none := by
        apply entry_at_none
        exact List.forall_mem_cons.mpr ⟨less, fun entry later => Std.lt_trans less (above entry later)⟩
      rw [absent]
      rfl
    · split
      · rename_i same
        rw [entryAt, if_pos same]
        rfl
      · rename_i different
        have behind := ih tail
        rw [entryAt, if_neg different, List.length_cons, List.length_cons]
        omega

end

namespace OrdMap

section
variable {κ ν : Type} [LT κ] [DecidableEq κ]

theorem get_of_mem_values [Std.Irrefl fun a b : κ => a < b] {map : OrdMap κ ν} {value : ν}
    (present : value ∈ map.values) : ∃ key, map.get? key = some value := by
  obtain ⟨entry, listed, same⟩ := List.mem_map.mp present
  subst same
  exact ⟨entry.1, entry_at_of_mem map.ascending listed⟩

-- A key has one entry at most, so erasing it takes away one entry where it is present and none where it is not.
theorem size_erase [Std.Irrefl fun a b : κ => a < b] (map : OrdMap κ ν) (key : κ) :
    (map.erase key).size + (map.contains key).toNat = map.size := erase_entry_length map.ascending

end

section
variable {κ ν : Type} [LE κ] [LT κ] [DecidableEq κ] [DecidableLT κ] [Std.IsLinearOrder κ] [Std.LawfulOrderLT κ]

theorem size_insert (map : OrdMap κ ν) (key : κ) (value : ν) :
    (map.insert key value).size + (map.contains key).toNat = map.size + 1 := put_entry_length map.ascending

theorem values_insert {map : OrdMap κ ν} {key : κ} (absent : map.get? key = none) (value : ν) :
    (map.insert key value).values.Perm (value :: map.values) := (put_entry_absent absent value).map Prod.snd

theorem insert_present {map : OrdMap κ ν} {key : κ} {value : ν} (present : map.get? key = some value) :
    map.insert key value = map := by
  apply ext_get
  intro query
  rw [get_insert]
  split
  · rename_i same
    rw [same, present]
  · rfl

theorem insert_insert (map : OrdMap κ ν) (key : κ) (first second : ν) :
    (map.insert key first).insert key second = map.insert key second := by
  apply ext_get
  intro query
  simp only [get_insert]
  by_cases hit : query = key
  · simp [hit]
  · simp [hit]

end

end OrdMap

end TableStore
