set_option autoImplicit false

/- Maps with the same lookups are the same map, so each operation is told by what it does to the lookups. -/
namespace TableStore

section
variable {κ ν : Type}

def Ascending [LT κ] (entries : List (κ × ν)) : Prop := entries.Pairwise fun a b => a.1 < b.1

def entryAt [DecidableEq κ] (key : κ) : List (κ × ν) → Option ν
  | [] => none
  | (k, v) :: rest => if key = k then some v else entryAt key rest

def putEntry [LT κ] [DecidableEq κ] [DecidableLT κ] (key : κ) (value : ν) : List (κ × ν) → List (κ × ν)
  | [] => [(key, value)]
  | (k, v) :: rest =>
    if key < k then (key, value) :: (k, v) :: rest
    else if key = k then (key, value) :: rest
    else (k, v) :: putEntry key value rest

def eraseEntry [DecidableEq κ] (key : κ) (entries : List (κ × ν)) : List (κ × ν) := entries.filter (key ≠ ·.1)

theorem mem_put_entry [LT κ] [DecidableEq κ] [DecidableLT κ] {key : κ} {value : ν} {entry : κ × ν}
    {entries : List (κ × ν)} (present : entry ∈ putEntry key value entries) :
    entry = (key, value) ∨ entry ∈ entries := by
  induction entries with
  | nil => simpa [putEntry] using present
  | cons head rest ih =>
    rw [putEntry] at present
    split at present
    · simpa using present
    · split at present <;> grind

theorem entry_at_put [LT κ] [DecidableEq κ] [DecidableLT κ] (key : κ) (value : ν) (entries : List (κ × ν)) (query : κ) :
    entryAt query (putEntry key value entries) = if query = key then some value else entryAt query entries := by
  induction entries with
  | nil => simp [putEntry, entryAt]
  | cons head rest ih =>
    rw [putEntry]
    split
    · rfl
    · split
      · rename_i same
        subst same
        by_cases hit : query = head.1 <;> simp [entryAt, hit]
      · rename_i different
        rw [entryAt, entryAt, ih]
        by_cases hit : query = key
        · subst hit
          simp [different]
        · simp [hit]

theorem entry_at_erase [DecidableEq κ] (key : κ) (entries : List (κ × ν)) (query : κ) :
    entryAt query (eraseEntry key entries) = if query = key then none else entryAt query entries := by
  induction entries with
  | nil => simp [eraseEntry, entryAt]
  | cons head rest ih =>
    rw [eraseEntry] at ih ⊢
    by_cases same : key = head.1
    · subst same
      rw [List.filter_cons_of_neg (by simp), ih, entryAt]
      by_cases hit : query = head.1 <;> simp [hit]
    · rw [List.filter_cons_of_pos (by simpa using same), entryAt, entryAt, ih]
      by_cases hit : query = key
      · subst hit
        simp [same]
      · simp [hit]

theorem erase_entry_ascending [LT κ] [DecidableEq κ] (key : κ) {entries : List (κ × ν)}
    (ascending : Ascending entries) : Ascending (eraseEntry key entries) := List.Pairwise.filter _ ascending

theorem entry_at_none [LT κ] [DecidableEq κ] [Std.Irrefl fun a b : κ => a < b] {key : κ} {entries : List (κ × ν)}
    (above : ∀ entry ∈ entries, key < entry.1) : entryAt key entries = none := by
  induction entries with
  | nil => rfl
  | cons head rest ih =>
    have less := above head (List.mem_cons_self ..)
    have different : key ≠ head.1 := fun same => Std.Irrefl.irrefl (r := fun a b : κ => a < b) head.1 (same ▸ less)
    rw [entryAt, if_neg different]
    exact ih fun entry present => above entry (List.mem_cons_of_mem _ present)

variable [LE κ] [LT κ] [DecidableEq κ] [Std.IsLinearOrder κ] [Std.LawfulOrderLT κ]

theorem put_entry_ascending [DecidableLT κ] (key : κ) (value : ν) {entries : List (κ × ν)}
    (ascending : Ascending entries) : Ascending (putEntry key value entries) := by
  induction entries with
  | nil => simp [putEntry, Ascending]
  | cons head rest ih =>
    obtain ⟨above, tail⟩ := List.pairwise_cons.mp ascending
    rw [putEntry]
    split
    · rename_i less
      exact List.pairwise_cons.mpr ⟨fun entry present => (List.mem_cons.mp present).elim
        (fun same => same ▸ less) (fun later => Std.lt_trans less (above entry later)), ascending⟩
    · rename_i notLess
      split
      · rename_i same
        exact List.pairwise_cons.mpr ⟨fun entry present => same ▸ above entry present, tail⟩
      · rename_i different
        exact List.pairwise_cons.mpr ⟨fun entry present => (mem_put_entry present).elim
          (fun same => same ▸ Std.lt_of_le_of_ne (Std.not_lt.mp notLess) (Ne.symm different)) (above entry), ih tail⟩

theorem entries_ext {a b : List (κ × ν)} (left : Ascending a) (right : Ascending b)
    (same : ∀ key, entryAt key a = entryAt key b) : a = b := by
  induction a generalizing b with
  | nil =>
    cases b with
    | nil => rfl
    | cons head rest => simpa [entryAt] using same head.1
  | cons head rest ih =>
    cases b with
    | nil => simpa [entryAt] using same head.1
    | cons other tail =>
      obtain ⟨above, leftTail⟩ := List.pairwise_cons.mp left
      obtain ⟨otherAbove, rightTail⟩ := List.pairwise_cons.mp right
      have keys : head.1 = other.1 := by
        have atHead := same head.1
        have atOther := same other.1
        rw [entryAt, if_pos rfl, entryAt] at atHead
        rw [entryAt, entryAt, if_pos rfl] at atOther
        rcases Std.lt_trichotomy head.1 other.1 with less | equal | greater
        · rw [if_neg fun equal => Std.lt_irrefl (equal ▸ less),
            entry_at_none fun entry present => Std.lt_trans less (otherAbove entry present)] at atHead
          cases atHead
        · exact equal
        · rw [if_neg fun equal => Std.lt_irrefl (equal ▸ greater),
            entry_at_none fun entry present => Std.lt_trans greater (above entry present)] at atOther
          cases atOther
      have values : head.2 = other.2 := by
        have atHead := same head.1
        rw [entryAt, if_pos rfl, entryAt, if_pos keys] at atHead
        exact Option.some.inj atHead
      have rests : rest = tail := by
        apply ih leftTail rightTail
        intro key
        by_cases hit : key = head.1
        · rw [entry_at_none fun entry present => hit ▸ above entry present,
            entry_at_none fun entry present => hit ▸ keys ▸ otherAbove entry present]
        · have atKey := same key
          rwa [entryAt, if_neg hit, entryAt, if_neg (keys ▸ hit)] at atKey
      rw [rests, Prod.ext keys values]

end

structure OrdMap (κ ν : Type) [LT κ] where
  entries : List (κ × ν)
  ascending : Ascending entries
deriving DecidableEq

namespace OrdMap

variable {κ ν : Type}

def empty [LT κ] : OrdMap κ ν := ⟨[], List.Pairwise.nil⟩

def keys [LT κ] (map : OrdMap κ ν) : List κ := map.entries.map (·.1)

def values [LT κ] (map : OrdMap κ ν) : List ν := map.entries.map (·.2)

def size [LT κ] (map : OrdMap κ ν) : Nat := map.entries.length

def isEmpty [LT κ] (map : OrdMap κ ν) : Bool := map.entries.isEmpty

def get? [LT κ] [DecidableEq κ] (map : OrdMap κ ν) (key : κ) : Option ν := entryAt key map.entries

def contains [LT κ] [DecidableEq κ] (map : OrdMap κ ν) (key : κ) : Bool := (map.get? key).isSome

def erase [LT κ] [DecidableEq κ] (map : OrdMap κ ν) (key : κ) : OrdMap κ ν :=
  ⟨eraseEntry key map.entries, erase_entry_ascending key map.ascending⟩

theorem get_erase [LT κ] [DecidableEq κ] (map : OrdMap κ ν) (key query : κ) :
    (map.erase key).get? query = if query = key then none else map.get? query := entry_at_erase ..

variable [LE κ] [LT κ] [DecidableEq κ] [Std.IsLinearOrder κ] [Std.LawfulOrderLT κ]

def insert [DecidableLT κ] (map : OrdMap κ ν) (key : κ) (value : ν) : OrdMap κ ν :=
  ⟨putEntry key value map.entries, put_entry_ascending key value map.ascending⟩

theorem get_insert [DecidableLT κ] (map : OrdMap κ ν) (key : κ) (value : ν) (query : κ) :
    (map.insert key value).get? query = if query = key then some value else map.get? query := entry_at_put ..

theorem ext_get {a b : OrdMap κ ν} (same : ∀ key, a.get? key = b.get? key) : a = b := by
  cases a with
  | mk entries ascending =>
    cases b with
    | mk others othersAscending => cases entries_ext ascending othersAscending same; rfl

end OrdMap

end TableStore
