/-! Finite maps that keep the order in which their keys arrived.

A table holds each key once (`insert` keeps it so: `nodup_insert`); a value given for a key that
is already there takes the old value's place, so the order of the keys never changes. -/
namespace PackageVet

structure Table (κ : Type) (ν : Type) where
  entries : List (κ × ν) := []
  deriving DecidableEq, Repr

namespace Table
variable {κ ν : Type} [DecidableEq κ]

def empty : Table κ ν := {}

instance : Inhabited (Table κ ν) := ⟨{}⟩

def keys (t : Table κ ν) : List κ := t.entries.map Prod.fst

def values (t : Table κ ν) : List ν := t.entries.map Prod.snd

def size (t : Table κ ν) : Nat := t.entries.length

/-- The value at a key in a list of entries. -/
def find? (key : κ) : List (κ × ν) → Option ν
  | [] => none
  | (k, v) :: rest => if k = key then some v else find? key rest

def get? (t : Table κ ν) (key : κ) : Option ν := find? key t.entries

def contains (t : Table κ ν) (key : κ) : Bool := (t.get? key).isSome

/-- The entries with a key's value changed, or with the key put at the end. -/
def put (key : κ) (value : ν) : List (κ × ν) → List (κ × ν)
  | [] => [(key, value)]
  | (k, v) :: rest => if k = key then (k, value) :: rest else (k, v) :: put key value rest

def insert (t : Table κ ν) (key : κ) (value : ν) : Table κ ν := ⟨put key value t.entries⟩

/-- The table with the value at a key changed; the same table where there is none. -/
def modify (t : Table κ ν) (key : κ) (change : ν → ν) : Table κ ν :=
  ⟨t.entries.map fun (k, v) => if k = key then (k, change v) else (k, v)⟩

def erase (t : Table κ ν) (key : κ) : Table κ ν := ⟨t.entries.filter fun e => e.1 ≠ key⟩

def ofList (entries : List (κ × ν)) : Table κ ν :=
  entries.foldl (fun t (k, v) => t.insert k v) {}

/-! ### Looking up -/

theorem find?_put_self (key : κ) (value : ν) (entries : List (κ × ν)) :
    find? key (put key value entries) = some value := by
  induction entries with
  | nil => simp [put, find?]
  | cons e rest ih =>
    obtain ⟨k, v⟩ := e
    by_cases h : k = key <;> simp [put, find?, h, ih]

theorem find?_put_of_ne {key other : κ} (value : ν) (entries : List (κ × ν)) (h : other ≠ key) :
    find? other (put key value entries) = find? other entries := by
  induction entries with
  | nil => simp [put, find?, Ne.symm h]
  | cons e rest ih =>
    obtain ⟨k, v⟩ := e
    by_cases hk : k = key
    · subst hk; simp [put, find?, Ne.symm h]
    · simp [put, find?, hk, ih]

@[simp] theorem get?_insert_self (t : Table κ ν) (key : κ) (value : ν) :
    (t.insert key value).get? key = some value := find?_put_self key value t.entries

theorem get?_insert_of_ne (t : Table κ ν) {key other : κ} (value : ν) (h : other ≠ key) :
    (t.insert key value).get? other = t.get? other := find?_put_of_ne value t.entries h

theorem find?_isSome (key : κ) (entries : List (κ × ν)) :
    (find? key entries).isSome = true ↔ key ∈ entries.map Prod.fst := by
  induction entries with
  | nil => simp [find?]
  | cons e rest ih =>
    obtain ⟨k, v⟩ := e
    by_cases h : k = key
    · simp [find?, h]
    · simp [find?, h, ih, Ne.symm h]

theorem contains_iff (t : Table κ ν) (key : κ) : t.contains key = true ↔ key ∈ t.keys :=
  find?_isSome key t.entries

theorem get?_insert (t : Table κ ν) (key other : κ) (value : ν) :
    (t.insert key value).get? other = if other = key then some value else t.get? other := by
  split
  · next h => rw [h, get?_insert_self]
  · next h => exact get?_insert_of_ne t value h

theorem get?_modify (t : Table κ ν) (key other : κ) (change : ν → ν) :
    (t.modify key change).get? other =
      if other = key then (t.get? other).map change else t.get? other := by
  obtain ⟨entries⟩ := t
  simp only [modify, get?]
  induction entries with
  | nil => simp [find?]
  | cons e rest ih =>
    obtain ⟨k, v⟩ := e
    rw [List.map_cons]
    by_cases hk : k = other
    · subst hk
      by_cases h : k = key <;> simp [find?, h]
    · by_cases h : k = key
      · subst h
        simpa [find?, hk] using ih
      · simpa [find?, h, hk] using ih

/-- In a table with only some of its keys, the others are not found. -/
theorem get?_filter (t : Table κ ν) (p : κ → Bool) (key : κ) :
    get? ⟨t.entries.filter fun e => p e.1⟩ key = if p key then t.get? key else none := by
  obtain ⟨entries⟩ := t
  simp only [get?]
  induction entries with
  | nil => simp [find?]
  | cons e rest ih =>
    obtain ⟨k, v⟩ := e
    rw [List.filter_cons]
    by_cases hk : k = key
    · subst hk
      by_cases hp : p k = true
      · simp [find?, hp]
      · simpa [hp] using ih
    · by_cases hp : p k = true
      · simpa [find?, hp, hk] using ih
      · simpa [find?, hp, hk] using ih

theorem get?_erase (t : Table κ ν) (key other : κ) :
    (t.erase key).get? other = if other = key then none else t.get? other := by
  refine (t.get?_filter (fun k => k ≠ key) other).trans ?_
  by_cases h : other = key <;> simp [h]

/-- In a table that holds each key once, looking up is finding the entry. -/
theorem get?_eq_some_iff {t : Table κ ν} (h : t.keys.Nodup) {key : κ} {value : ν} :
    t.get? key = some value ↔ (key, value) ∈ t.entries := by
  obtain ⟨entries⟩ := t
  simp only [get?, keys] at h ⊢
  induction entries with
  | nil => simp [find?]
  | cons e rest ih =>
    obtain ⟨k, v⟩ := e
    obtain ⟨hk, hrest⟩ := List.nodup_cons.mp h
    by_cases he : k = key
    · subst he
      have hnot : (k, value) ∉ rest := fun hm => hk (List.mem_map.mpr ⟨_, hm, rfl⟩)
      simp [find?, hnot, eq_comm]
    · simp [find?, he, Ne.symm he, ih hrest]

/-- A value that is there already changes nothing. -/
theorem insert_of_get? {t : Table κ ν} {key : κ} {value : ν} (h : t.get? key = some value) :
    t.insert key value = t := by
  obtain ⟨entries⟩ := t
  simp only [get?, insert, mk.injEq] at h ⊢
  induction entries with
  | nil => cases h
  | cons e rest ih =>
    obtain ⟨k, v⟩ := e
    by_cases hk : k = key
    · simp_all [find?, put]
    · simp only [find?, hk, if_false] at h
      simp [put, hk, ih h]

theorem insert_insert (t : Table κ ν) (key : κ) (first second : ν) :
    (t.insert key first).insert key second = t.insert key second := by
  obtain ⟨entries⟩ := t
  simp only [insert, mk.injEq]
  induction entries with
  | nil => simp [put]
  | cons e rest ih =>
    obtain ⟨k, v⟩ := e
    by_cases hk : k = key <;> simp [put, hk, ih]

/-! ### Keys -/

theorem keys_put (key : κ) (value : ν) (entries : List (κ × ν)) :
    (put key value entries).map Prod.fst =
      if key ∈ entries.map Prod.fst then entries.map Prod.fst
      else entries.map Prod.fst ++ [key] := by
  induction entries with
  | nil => simp [put]
  | cons e rest ih =>
    obtain ⟨k, v⟩ := e
    by_cases h : k = key
    · simp [put, h]
    · simp only [put, h, if_false, List.map_cons, ih, List.mem_cons, Ne.symm h, false_or]
      split <;> simp

/-- A new key goes to the end, a known one stays where it is. -/
theorem keys_insert (t : Table κ ν) (key : κ) (value : ν) :
    (t.insert key value).keys = if key ∈ t.keys then t.keys else t.keys ++ [key] :=
  keys_put key value t.entries

theorem nodup_insert (t : Table κ ν) (key : κ) (value : ν) (h : t.keys.Nodup) :
    (t.insert key value).keys.Nodup := by
  rw [keys_insert]
  split
  · exact h
  · next hn =>
    rw [List.nodup_append]
    refine ⟨h, by simp, ?_⟩
    intro a ha b hb
    rw [List.mem_singleton] at hb
    exact fun hab => hn (hb ▸ hab ▸ ha)

theorem keys_erase (t : Table κ ν) (key : κ) : (t.erase key).keys = t.keys.filter (· ≠ key) := by
  simp [erase, keys, List.filter_map, Function.comp_def]

@[simp] theorem keys_modify (t : Table κ ν) (key : κ) (change : ν → ν) :
    (t.modify key change).keys = t.keys := by
  simp only [modify, keys, List.map_map]
  apply List.map_congr_left
  intro e _
  simp only [Function.comp]
  split <;> rfl

end Table

end PackageVet
