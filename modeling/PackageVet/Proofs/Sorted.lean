import PackageVet.Sorted

/-! Maps and orders kept as lists.

In a map whose keys ascend, a change at a key is seen at that key and nowhere else
(`find?_upsert_self`, `find?_upsert_of_ne`), and the keys still ascend (`ascending_upsert`). Entries
whose keys ascend are a map as they are (`foldl_put_of_ascending`).

A list put in order goes by its keys first and, among equal keys, by whatever order its elements
were in before (`pairwise_orderBy`). -/
namespace PackageVet.Sorted

/-! ### Maps -/

section Maps
variable {κ ν : Type} [Ord κ] {key other : κ} {value : Option ν → ν} {entries : List (κ × ν)}

/-- Whether the keys of a map ascend. -/
def Ascending (entries : List (κ × ν)) : Prop := entries.Pairwise fun a b => compare a.1 b.1 = .lt

theorem Ascending.nodup_keys [Std.ReflOrd κ] (h : Ascending entries) :
    (entries.map Prod.fst).Nodup := by
  refine List.pairwise_map.mpr (h.imp fun hlt heq => ?_)
  rw [heq, Std.ReflOrd.compare_self] at hlt
  cases hlt

@[simp] theorem find?_nil (key : κ) : find? key ([] : List (κ × ν)) = none := rfl

theorem find?_cons (key k : κ) (v : ν) (rest : List (κ × ν)) :
    find? key ((k, v) :: rest) = if compare key k = .eq then some v else find? key rest := by
  unfold find?
  rw [List.find?_cons]
  cases compare key k <;> rfl

theorem find?_eq_none_of_lt (h : ∀ e ∈ entries, compare key e.1 = .lt) :
    find? key entries = none := by
  unfold find?
  rw [Option.map_eq_none_iff, List.find?_eq_none]
  intro e he
  simp [h e he]

theorem find?_upsert_self [Std.TransOrd κ] (h : Ascending entries) :
    find? key (upsert key value entries) = some (value (find? key entries)) := by
  induction entries with
  | nil => simp [upsert, find?_cons]
  | cons entry rest ih =>
    obtain ⟨k, v⟩ := entry
    obtain ⟨hk, hrest⟩ := List.pairwise_cons.mp h
    unfold upsert
    split
    · next hlt =>
      -- the key belongs before all others, so there was no value at it
      have hnone : find? key rest = none :=
        find?_eq_none_of_lt fun e he => Std.TransCmp.lt_trans hlt (hk e he)
      simp [find?_cons, hlt, hnone]
    · next heq => simp [find?_cons, heq]
    · next hgt => simp [find?_cons, hgt, ih hrest]

theorem put_ne_nil (key : κ) (value : ν) (entries : List (κ × ν)) : put key value entries ≠ [] := by
  unfold put
  cases entries with
  | nil => simp [upsert]
  | cons entry rest =>
    unfold upsert
    split <;> simp

/-- A key that comes after all others is put at the end. -/
theorem put_of_lt [Std.OrientedOrd κ] (value : ν) (h : ∀ e ∈ entries, compare e.1 key = .lt) :
    put key value entries = entries ++ [(key, value)] := by
  unfold put
  induction entries with
  | nil => rfl
  | cons entry rest ih =>
    obtain ⟨hentry, hrest⟩ := List.forall_mem_cons.mp h
    rw [upsert, Std.OrientedCmp.gt_of_lt hentry]
    exact congrArg (entry :: ·) (ih hrest)

/-- The entries of a map, put in their order after smaller ones. -/
theorem foldl_put_of_ascending [Std.OrientedOrd κ] {known : List (κ × ν)}
    (h : Ascending (known ++ entries)) :
    entries.foldl (fun known e => put e.1 e.2 known) known = known ++ entries := by
  induction entries generalizing known with
  | nil => simp
  | cons entry rest ih =>
    have hlast : put entry.1 entry.2 known = known ++ [entry] :=
      put_of_lt entry.2 fun e he =>
        (List.pairwise_append.mp h).2.2 e he entry (List.mem_cons_self ..)
    rw [List.append_cons] at h
    rw [List.foldl_cons, hlast, ih h, List.append_cons known entry rest]

variable [Std.LawfulEqOrd κ]

theorem find?_upsert_of_ne (hne : other ≠ key) :
    find? other (upsert key value entries) = find? other entries := by
  have hnot {k : κ} (hk : key = k) : compare other k ≠ .eq :=
    fun heq => hne ((Std.LawfulEqOrd.eq_of_compare heq).trans hk.symm)
  induction entries with
  | nil => simp [upsert, find?, hnot rfl]
  | cons entry rest ih =>
    obtain ⟨k, v⟩ := entry
    unfold upsert
    split
    · rw [find?_cons, if_neg (hnot rfl)]
    · next heq =>
      have hk : key = k := Std.LawfulEqOrd.eq_of_compare heq
      rw [find?_cons, find?_cons, if_neg (hnot hk), if_neg (hnot hk)]
    · rw [find?_cons, find?_cons, ih]

theorem mem_keys_upsert :
    other ∈ (upsert key value entries).map Prod.fst ↔
      other = key ∨ other ∈ entries.map Prod.fst := by
  induction entries with
  | nil => simp [upsert]
  | cons entry rest ih =>
    obtain ⟨k, v⟩ := entry
    unfold upsert
    split
    · simp
    · next heq =>
      cases Std.LawfulEqOrd.eq_of_compare heq
      simp
    · rw [List.map_cons, List.mem_cons, ih, List.map_cons, List.mem_cons]
      exact or_left_comm

theorem ascending_upsert [Std.TransOrd κ] (h : Ascending entries) :
    Ascending (upsert key value entries) := by
  induction entries with
  | nil => exact List.pairwise_singleton ..
  | cons entry rest ih =>
    obtain ⟨k, v⟩ := entry
    obtain ⟨hk, hrest⟩ := List.pairwise_cons.mp h
    unfold upsert
    split
    · next hlt =>
      refine List.pairwise_cons.mpr ⟨fun e he => ?_, h⟩
      rcases List.mem_cons.mp he with rfl | he
      · exact hlt
      · exact Std.TransCmp.lt_trans hlt (hk e he)
    · exact List.pairwise_cons.mpr ⟨hk, hrest⟩
    · next hgt =>
      refine List.pairwise_cons.mpr ⟨fun e he => ?_, ih hrest⟩
      rcases mem_keys_upsert.mp (List.mem_map_of_mem he) with hkey | hkey
      · rw [hkey]
        exact Std.OrientedCmp.gt_iff_lt.mp hgt
      · obtain ⟨e', he', hsame⟩ := List.mem_map.mp hkey
        rw [← hsame]
        exact hk e' he'

theorem mem_put {value : ν} {e : κ × ν} (h : e ∈ put key value entries) :
    e = (key, value) ∨ e ∈ entries := by
  unfold put at h
  induction entries with
  | nil => exact .inl (List.mem_singleton.mp h)
  | cons entry rest ih =>
    obtain ⟨k, v⟩ := entry
    unfold upsert at h
    split at h
    · exact List.mem_cons.mp h
    · next heq =>
      cases Std.LawfulEqOrd.eq_of_compare heq
      exact (List.mem_cons.mp h).imp_right (List.mem_cons_of_mem _)
    · rcases List.mem_cons.mp h with rfl | h
      · exact .inr (List.mem_cons_self ..)
      · exact (ih h).imp_right (List.mem_cons_of_mem _)

/-- A map made of some entries holds no others. -/
theorem ofEntries_subset (entries : List (κ × ν)) : ofEntries entries ⊆ entries := by
  refine List.foldlRecOn (motive := fun (sorted : List (κ × ν)) => sorted ⊆ entries) _ _
    (List.nil_subset _) ?_
  intro sorted hsorted entry hentry e he
  rcases mem_put he with rfl | he
  · exact hentry
  · exact hsorted he

theorem ascending_ofEntries [Std.TransOrd κ] (entries : List (κ × ν)) :
    Ascending (ofEntries entries) := by
  refine List.foldlRecOn (motive := fun (sorted : List (κ × ν)) => Ascending sorted) _ _ .nil ?_
  intro sorted hsorted entry _
  exact ascending_upsert hsorted

/-- A value that is found stands in the map. -/
theorem mem_of_find? {v : ν} (h : find? key entries = some v) : (key, v) ∈ entries := by
  obtain ⟨entry, hentry, rfl⟩ := Option.map_eq_some_iff.mp h
  have hkey : key = entry.1 := Std.LawfulEqOrd.eq_of_compare (by simpa using List.find?_some hentry)
  rw [hkey]
  exact List.mem_of_find?_eq_some hentry

/-- In a map that has each key once, a value that stands in it is found. -/
theorem find?_of_mem {v : ν} (h : (entries.map Prod.fst).Nodup)
    (hmem : (key, v) ∈ entries) : find? key entries = some v := by
  induction entries with
  | nil => cases hmem
  | cons entry rest ih =>
    obtain ⟨k, w⟩ := entry
    obtain ⟨hk, hrest⟩ := List.nodup_cons.mp h
    rw [find?_cons]
    rcases List.mem_cons.mp hmem with he | hmem
    · cases he
      rw [if_pos Std.ReflOrd.compare_self]
    · have hne : compare key k ≠ .eq := fun heq =>
        hk (List.mem_map.mpr ⟨_, hmem, Std.LawfulEqOrd.eq_of_compare heq⟩)
      rw [if_neg hne]
      exact ih hrest hmem

end Maps

/-! ### Orders -/

section Orders
variable {α κ : Type} [LE κ] [DecidableLE κ] [Std.IsLinearPreorder κ] {key : α → κ}
  {R : α → α → Prop} {x : α} {xs : List α}

/-- Whether an element comes before another by its key or, where the keys are equal, in another
order. -/
def Before (key : α → κ) (R : α → α → Prop) (a b : α) : Prop :=
  key a ≤ key b ∧ (key b ≤ key a → R a b)

theorem pairwise_insertBy (hx : ∀ y ∈ xs, R x y) (h : xs.Pairwise (Before key R)) :
    (insertBy key x xs).Pairwise (Before key R) := by
  induction xs with
  | nil => exact List.pairwise_singleton ..
  | cons y rest ih =>
    obtain ⟨hy, hrest⟩ := List.pairwise_cons.mp h
    unfold insertBy
    split
    · next hle =>
      refine List.pairwise_cons.mpr ⟨fun z hz => ⟨?_, fun _ => hx z hz⟩, h⟩
      rcases List.mem_cons.mp hz with rfl | hz
      · exact hle
      · exact Std.le_trans hle (hy z hz).1
    · next hle =>
      have hafter : Before key R y x := ⟨Std.le_of_not_ge hle, fun h => absurd h hle⟩
      refine List.pairwise_cons.mpr ⟨fun z hz => ?_, ih (fun z hz => hx z (.tail y hz)) hrest⟩
      rcases List.mem_cons.mp ((insertBy_perm key x rest).mem_iff.mp hz) with rfl | hz
      · exact hafter
      · exact hy z hz

/-- Equal keys leave the elements in the order they were in. -/
theorem pairwise_orderBy (h : xs.Pairwise R) : (orderBy key xs).Pairwise (Before key R) := by
  induction xs with
  | nil => exact List.Pairwise.nil
  | cons x rest ih =>
    obtain ⟨hx, hrest⟩ := List.pairwise_cons.mp h
    exact pairwise_insertBy (fun y hy => hx y ((orderBy_perm key rest).mem_iff.mp hy)) (ih hrest)

end Orders

end PackageVet.Sorted
