import PackageVet.Table

/-! Edges between numbered nodes.

A graph here has at most one edge from a node to another, with a value on it. Edges keep the order
in which they arrived, so the successors of a node, and its predecessors, are seen in the order in
which they were linked. A graph may keep them in an index as well, so as not to go through all of
its edges. -/
namespace PackageVet

abbrev NodeId := Nat

abbrev Edges (ν : Type) := Table (NodeId × NodeId) ν

namespace Edges
variable {ν : Type}

def successors (edges : Edges ν) (id : NodeId) : List NodeId :=
  edges.keys.filterMap fun (source, target) => if source = id then some target else none

def predecessors (edges : Edges ν) (id : NodeId) : List NodeId :=
  edges.keys.filterMap fun (source, target) => if target = id then some source else none

theorem mem_successors {edges : Edges ν} {s t : NodeId} :
    t ∈ edges.successors s ↔ (s, t) ∈ edges.keys := by
  simp only [successors, List.mem_filterMap]
  constructor
  · rintro ⟨⟨a, b⟩, hm, h⟩
    by_cases ha : a = s <;> simp_all
  · intro h
    exact ⟨(s, t), h, by simp⟩

theorem mem_predecessors {edges : Edges ν} {s t : NodeId} :
    s ∈ edges.predecessors t ↔ (s, t) ∈ edges.keys := by
  simp only [predecessors, List.mem_filterMap]
  constructor
  · rintro ⟨⟨a, b⟩, hm, h⟩
    by_cases ha : b = t <;> simp_all
  · intro h
    exact ⟨(s, t), h, by simp⟩

/-- A node is among the successors of another as often as there are edges to it. -/
theorem count_successors (edges : Edges ν) (s t : NodeId) :
    (edges.successors s).count t = edges.keys.count (s, t) := by
  unfold successors
  induction edges.keys with
  | nil => rfl
  | cons key rest ih =>
    obtain ⟨a, b⟩ := key
    by_cases ha : a = s
    · simp [List.count_cons, ha, ih]
    · simp [ha, ih]

theorem count_predecessors (edges : Edges ν) (s t : NodeId) :
    (edges.predecessors t).count s = edges.keys.count (s, t) := by
  unfold predecessors
  induction edges.keys with
  | nil => rfl
  | cons key rest ih =>
    obtain ⟨a, b⟩ := key
    by_cases hb : b = t
    · simp [List.count_cons, hb, ih]
    · simp [hb, ih]

theorem nodup_predecessors {edges : Edges ν} (h : edges.keys.Nodup) (t : NodeId) :
    (edges.predecessors t).Nodup := by
  rw [List.nodup_iff_count]
  intro s
  rw [count_predecessors]
  exact List.nodup_iff_count.mp h (s, t)

theorem length_successors (edges : Edges ν) (s : NodeId) :
    (edges.successors s).length = (edges.keys.filter fun e => e.1 = s).length := by
  unfold successors
  induction edges.keys with
  | nil => rfl
  | cons key rest ih => by_cases hs : key.1 = s <;> simp [hs, ih]

theorem length_predecessors (edges : Edges ν) (t : NodeId) :
    (edges.predecessors t).length = (edges.keys.filter fun e => e.2 = t).length := by
  unfold predecessors
  induction edges.keys with
  | nil => rfl
  | cons key rest ih => by_cases ht : key.2 = t <;> simp [ht, ih]

theorem successors_insert (edges : Edges ν) (s t : NodeId) (value : ν) (a : NodeId) :
    Edges.successors (edges.insert (s, t) value) a =
      if a = s ∧ (s, t) ∉ edges.keys then edges.successors a ++ [t] else edges.successors a := by
  unfold successors
  rw [Table.keys_insert]
  by_cases hknown : (s, t) ∈ edges.keys
  · simp [hknown]
  · by_cases ha : a = s
    · simp [hknown, ha]
    · simp [hknown, ha, Ne.symm ha]

theorem predecessors_insert (edges : Edges ν) (s t : NodeId) (value : ν) (b : NodeId) :
    Edges.predecessors (edges.insert (s, t) value) b =
      if b = t ∧ (s, t) ∉ edges.keys then edges.predecessors b ++ [s]
      else edges.predecessors b := by
  unfold predecessors
  rw [Table.keys_insert]
  by_cases hknown : (s, t) ∈ edges.keys
  · simp [hknown]
  · by_cases hb : b = t
    · simp [hknown, hb]
    · simp [hknown, hb, Ne.symm hb]

theorem successors_erase (edges : Edges ν) (s t a : NodeId) :
    Edges.successors (edges.erase (s, t)) a =
      if a = s then (edges.successors a).filter (· ≠ t) else edges.successors a := by
  unfold successors
  rw [Table.keys_erase, List.filterMap_filter]
  split
  · next ha =>
    rw [List.filter_filterMap]
    congr 1
    funext ⟨source, target⟩
    by_cases hs : source = a <;> by_cases ht : target = t <;>
      simp [← ha, hs, ht, Option.filter]
  · next ha =>
    congr 1
    funext ⟨source, target⟩
    by_cases hs : source = a
    · simp [hs, ha]
    · simp [hs]

theorem predecessors_erase (edges : Edges ν) (s t b : NodeId) :
    Edges.predecessors (edges.erase (s, t)) b =
      if b = t then (edges.predecessors b).filter (· ≠ s) else edges.predecessors b := by
  unfold predecessors
  rw [Table.keys_erase, List.filterMap_filter]
  split
  · next hb =>
    rw [List.filter_filterMap]
    congr 1
    funext ⟨source, target⟩
    by_cases hs : source = s <;> by_cases ht : target = b <;>
      simp [← hb, hs, ht, Option.filter]
  · next hb =>
    congr 1
    funext ⟨source, target⟩
    by_cases ht : target = b
    · simp [ht, hb]
    · simp [ht]

/-- Nodes to each of which an edge leads are no more than the edges, if none is named twice. -/
theorem length_le_size {edges : Edges ν} {ids : List NodeId} (hnd : ids.Nodup)
    (h : ∀ t ∈ ids, ∃ s, t ∈ edges.successors s) : ids.length ≤ edges.size := by
  have hsub : ids ⊆ edges.keys.map Prod.snd := by
    intro t ht
    obtain ⟨s, hs⟩ := h t ht
    exact List.mem_map.mpr ⟨(s, t), mem_successors.mp hs, rfl⟩
  have hlen := hnd.length_le_of_subset hsub
  simpa [Table.keys, Table.size] using hlen

end Edges

/-! ### Indexes -/

/-- For nodes the others that they are linked with on one side. -/
abbrev Index := Table NodeId (List NodeId)

namespace Index

/-- The ids at a key; none where there is no such key. -/
def idsAt (index : Index) (key : NodeId) : List NodeId := (index.get? key).getD []

/-- The index with one id more at a key. -/
def extend (index : Index) (key id : NodeId) : Index := index.insert key (index.idsAt key ++ [id])

/-- The index with an id at a key. -/
def ensure (index : Index) (key id : NodeId) : Index :=
  if id ∈ index.idsAt key then index else index.extend key id

/-- The index with an id no longer at a key. -/
def drop (index : Index) (key id : NodeId) : Index :=
  index.modify key fun ids => ids.filter (· ≠ id)

/-- Of ids that are there once each, all but the first. -/
theorem filter_ne_head {id : NodeId} {ids : List NodeId} (h : (id :: ids).Nodup) :
    (id :: ids).filter (· ≠ id) = ids := by
  rw [List.filter_cons_of_neg (by simp), List.filter_eq_self]
  intro other hother
  have hne : other ≠ id := fun he => (List.nodup_cons.mp h).1 (he ▸ hother)
  simpa using hne

theorem idsAt_extend (index : Index) (key id other : NodeId) :
    (index.extend key id).idsAt other =
      if other = key then index.idsAt other ++ [id] else index.idsAt other := by
  unfold idsAt extend
  rw [Table.get?_insert]
  split
  · next h => rw [h]; rfl
  · rfl

theorem idsAt_ensure (index : Index) (key id other : NodeId) :
    (index.ensure key id).idsAt other =
      if other = key ∧ id ∉ index.idsAt key then index.idsAt other ++ [id]
      else index.idsAt other := by
  unfold ensure
  by_cases hknown : id ∈ index.idsAt key
  · simp [hknown]
  · rw [if_neg hknown, idsAt_extend]
    simp [hknown]

theorem idsAt_drop (index : Index) (key id other : NodeId) :
    (index.drop key id).idsAt other =
      if other = key then (index.idsAt other).filter (· ≠ id) else index.idsAt other := by
  unfold idsAt drop
  rw [Table.get?_modify]
  split
  · cases index.get? other <;> rfl
  · rfl

theorem idsAt_erase (index : Index) (key other : NodeId) :
    Index.idsAt (index.erase key) other = if other = key then [] else index.idsAt other := by
  unfold idsAt
  rw [Table.get?_erase]
  split <;> rfl

end Index

/-- Whether an edge carries control or data from one node to the other. -/
inductive EdgeKind where
  | control
  | data
  deriving DecidableEq, Repr, Inhabited

namespace EdgeKind

def name : EdgeKind → String
  | .control => "CFG"
  | .data => "DDG"

def ofName? (name : String) : Option EdgeKind :=
  if name = "CFG" then some .control else if name = "DDG" then some .data else none

/-- The stronger of two kinds: data flow implies control flow. -/
def join : EdgeKind → EdgeKind → EdgeKind
  | .control, .control => .control
  | _, _ => .data

end EdgeKind

end PackageVet
