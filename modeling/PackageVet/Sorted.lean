/-! Sets and maps kept as ascending lists.

`insert` and `upsert` keep a strictly ascending list strictly ascending, so a value stands in it
once and the list shows its elements in order. `orderBy` only puts the elements of a list in
order. -/
namespace PackageVet.Sorted

variable {α κ ν : Type} [Ord α] [Ord κ]

/-- The list with an element put in its place; the same list where it is already there. -/
def insert (x : α) : List α → List α
  | [] => [x]
  | y :: rest =>
    match compare x y with
    | .lt => x :: y :: rest
    | .eq => y :: rest
    | .gt => y :: insert x rest

def ofList (xs : List α) : List α := xs.foldl (fun sorted x => insert x sorted) []

/-- The entries with the value at a key computed from the value that was there, if any. -/
def upsert (key : κ) (value : Option ν → ν) : List (κ × ν) → List (κ × ν)
  | [] => [(key, value none)]
  | (k, v) :: rest =>
    match compare key k with
    | .lt => (key, value none) :: (k, v) :: rest
    | .eq => (k, value (some v)) :: rest
    | .gt => (k, v) :: upsert key value rest

def put (key : κ) (value : ν) (entries : List (κ × ν)) : List (κ × ν) :=
  upsert key (fun _ => value) entries

/-- The entries of a list in ascending order of keys; of two with one key, the later. -/
def ofEntries (entries : List (κ × ν)) : List (κ × ν) :=
  entries.foldl (fun sorted (k, v) => put k v sorted) []

/-- The value at a key. -/
def find? (key : κ) (entries : List (κ × ν)) : Option ν :=
  (entries.find? fun e => compare key e.1 == .eq).map Prod.snd

section Order
variable [LE κ] [DecidableLE κ]

/-- The list with an element put before the first one that does not come before it. -/
def insertBy (key : α → κ) (x : α) : List α → List α
  | [] => [x]
  | y :: rest => if key x ≤ key y then x :: y :: rest else y :: insertBy key x rest

/-- The elements of a list in ascending order of a key; those of one key stay in their order. -/
def orderBy (key : α → κ) (xs : List α) : List α := xs.foldr (insertBy key) []

omit [Ord α] [Ord κ] in
theorem insertBy_perm (key : α → κ) (x : α) (xs : List α) : (insertBy key x xs).Perm (x :: xs) := by
  induction xs with
  | nil => exact .refl _
  | cons y rest ih =>
    unfold insertBy
    split
    · exact .refl _
    · exact (ih.cons y).trans (.swap x y rest)

omit [Ord α] [Ord κ] in
theorem orderBy_perm (key : α → κ) (xs : List α) : (orderBy key xs).Perm xs := by
  induction xs with
  | nil => exact .refl _
  | cons x rest ih => exact (insertBy_perm key x _).trans (ih.cons x)

end Order

/-! ### Elements -/

theorem mem_insert [Std.LawfulEqOrd α] {x y : α} {xs : List α} :
    y ∈ insert x xs ↔ y = x ∨ y ∈ xs := by
  induction xs with
  | nil => exact List.mem_singleton.trans (by simp)
  | cons z rest ih =>
    unfold insert
    split
    · exact List.mem_cons
    · next heq =>
      cases Std.LawfulEqOrd.eq_of_compare heq
      exact ⟨.inr, fun h => h.elim (fun he => he ▸ List.mem_cons_self ..) fun h => h⟩
    · rw [List.mem_cons, ih, List.mem_cons]
      exact or_left_comm

/-- Whether an element is in the set at a key. -/
def HasAt (entries : List (κ × List α)) (key : κ) (x : α) : Prop :=
  ∃ xs, (key, xs) ∈ entries ∧ x ∈ xs

omit [Ord α] [Ord κ] in
theorem hasAt_cons {key k : κ} {x : α} {xs : List α} {entries : List (κ × List α)} :
    HasAt ((k, xs) :: entries) key x ↔ (key = k ∧ x ∈ xs) ∨ HasAt entries key x := by
  constructor
  · rintro ⟨ys, hmem, hx⟩
    rcases List.mem_cons.mp hmem with he | hrest
    · cases he
      exact .inl ⟨rfl, hx⟩
    · exact .inr ⟨ys, hrest, hx⟩
  · rintro (⟨rfl, hx⟩ | ⟨ys, hmem, hx⟩)
    · exact ⟨xs, List.mem_cons_self .., hx⟩
    · exact ⟨ys, List.mem_cons_of_mem _ hmem, hx⟩

/-- Putting one more element into the set at a key. -/
theorem hasAt_upsert_insert [Std.LawfulEqOrd α] [Std.LawfulEqOrd κ] {key k : κ} {x y : α}
    {entries : List (κ × List α)} :
    HasAt (upsert key (fun known => insert x (known.getD [])) entries) k y ↔
      (k = key ∧ y = x) ∨ HasAt entries k y := by
  induction entries with
  | nil => simp [upsert, hasAt_cons, insert]
  | cons entry rest ih =>
    obtain ⟨k', xs⟩ := entry
    unfold upsert
    split
    · simp [hasAt_cons, insert]
    · next heq =>
      cases Std.LawfulEqOrd.eq_of_compare heq
      rw [hasAt_cons, hasAt_cons, Option.getD_some, mem_insert, and_or_left, or_assoc]
    · rw [hasAt_cons, ih, hasAt_cons]
      exact or_left_comm

end PackageVet.Sorted
