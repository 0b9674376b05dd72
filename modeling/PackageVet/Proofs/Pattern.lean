import PackageVet.Pattern
import PackageVet.Proofs.Walk

/-! Ways in patterns, and the order that they give.

The triples of a pattern are the edges of a graph over its categories. The search of `hasPath` finds
exactly the ways in it (`hasPath_iff`), so that one pattern is subsumed by another when it names
categories of the other and asks for ways that the other has (`isSubsumedBy_iff`); that is a
preorder (`isSubsumedBy_refl`, `isSubsumedBy_trans`). -/
namespace PackageVet.Pattern

variable {p q : Pattern} {c other : Category} {t : Triple}

/-! ### Patterns made from a key -/

/-- What holds of every pattern that is made from a key. -/
structure WellFormed (p : Pattern) : Prop where
  nodup : p.categories.Nodup
  head : p.head ∈ p.categories
  ends : ∀ t ∈ p.triples, t.head ∈ p.categories ∧ t.tail ∈ p.categories

theorem mem_categories_addCategory :
    other ∈ (p.addCategory c).categories ↔ other ∈ p.categories ∨ other = c := by
  unfold addCategory
  split
  · next h => exact ⟨.inl, fun ho => ho.elim (fun hm => hm) fun he => he ▸ h⟩
  · simp

theorem nodup_categories_addCategory (h : p.categories.Nodup) :
    (p.addCategory c).categories.Nodup := by
  unfold addCategory
  split
  · exact h
  · next hnew =>
    refine List.nodup_append.mpr ⟨h, by simp, fun a ha b hb hab => hnew ?_⟩
    rw [← List.mem_singleton.mp hb, ← hab]
    exact ha

@[simp] theorem triples_addCategory (p : Pattern) (c : Category) :
    (p.addCategory c).triples = p.triples := by
  unfold addCategory
  split <;> rfl

@[simp] theorem head_addCategory (p : Pattern) (c : Category) :
    (p.addCategory c).head = p.head := by
  unfold addCategory
  split <;> rfl

theorem categories_addTriple (p : Pattern) (t : Triple) :
    (p.addTriple t).categories = ((p.addCategory t.head).addCategory t.tail).categories := by
  simp only [addTriple]
  split <;> rfl

theorem mem_categories_addTriple :
    other ∈ (p.addTriple t).categories ↔
      other ∈ p.categories ∨ other = t.head ∨ other = t.tail := by
  rw [categories_addTriple, mem_categories_addCategory, mem_categories_addCategory, or_assoc]

theorem mem_triples_addTriple {u : Triple} :
    u ∈ (p.addTriple t).triples ↔ u ∈ p.triples ∨ u = t := by
  simp only [addTriple, triples_addCategory]
  split
  · next h =>
    rw [triples_addCategory, triples_addCategory]
    exact ⟨.inl, fun hu => hu.elim (fun hm => hm) fun he => he ▸ h⟩
  · simp

@[simp] theorem head_addTriple (p : Pattern) (t : Triple) : (p.addTriple t).head = p.head := by
  have hhead : (p.addTriple t).head = ((p.addCategory t.head).addCategory t.tail).head := by
    simp only [addTriple]
    split <;> rfl
  rw [hhead, head_addCategory, head_addCategory]

/-- Adding a triple names its ends, so it needs nothing of the triple. -/
theorem wellFormed_addTriple (hnodup : p.categories.Nodup)
    (hhead : p.head ∈ (p.addTriple t).categories)
    (hends : ∀ u ∈ p.triples, u.head ∈ p.categories ∧ u.tail ∈ p.categories) :
    (p.addTriple t).WellFormed := by
  refine ⟨?_, by rwa [head_addTriple], fun u hu => ?_⟩
  · rw [categories_addTriple]
    exact nodup_categories_addCategory (nodup_categories_addCategory hnodup)
  · rw [mem_categories_addTriple, mem_categories_addTriple]
    rcases mem_triples_addTriple.mp hu with hold | rfl
    · exact ⟨.inl (hends u hold).1, .inl (hends u hold).2⟩
    · exact ⟨.inr (.inl rfl), .inr (.inr rfl)⟩

theorem wellFormed_ofKey (behavior description : String) (key : PatternKey)
    (others : List Triple) : (ofKey behavior description key others).WellFormed := by
  refine List.foldlRecOn (motive := WellFormed) others addTriple ?_ fun p h t _ =>
    wellFormed_addTriple h.nodup (mem_categories_addTriple.mpr (.inl h.head)) h.ends
  cases key with
  | single c =>
    exact ⟨by simp [addCategory], by simp [addCategory, head, PatternKey.head],
      by simp [addCategory]⟩
  | pair t =>
    refine wellFormed_addTriple (by simp) ?_ (by simp)
    exact mem_categories_addTriple.mpr (.inr (.inl rfl))

/-! ### Ways -/

/-- Whether a triple leads from a category to another on a way of a kind. -/
def Leads (p : Pattern) (kind : EdgeKind) (a b : Category) : Prop :=
  ∃ t ∈ p.triples, t.head = a ∧ t.tail = b ∧ kind.Admits t.kind

variable {kind : EdgeKind} {tail a b : Category} {steps : Nat} {seen stack : List Category}

theorem mem_next : b ∈ p.next kind a ↔ p.Leads kind a b := by
  simp only [next, follows, Leads, EdgeKind.Admits, List.mem_map, List.mem_filter, Bool.and_eq_true,
    Bool.or_eq_true, decide_eq_true_eq]
  grind

/-- The triples whose heads have not been seen. -/
def unseen (p : Pattern) (seen : List Category) : List Triple :=
  p.triples.filter fun t => t.head ∉ seen

/-- What goes on the stack for a category is paid for by the triples that start there. -/
theorem length_next_add_unseen (hc : c ∉ seen) :
    (p.next kind c).length + (p.unseen (c :: seen)).length ≤ (p.unseen seen).length := by
  have hnext : (p.next kind c).length ≤ (p.triples.filter fun t => t.head = c).length := by
    rw [next, List.length_map, ← List.countP_eq_length_filter, ← List.countP_eq_length_filter]
    exact List.countP_mono_left fun t _ ht => (Bool.and_eq_true_iff.mp ht).1
  have hall := length_filter_unseen Triple.head p.triples hc
  unfold unseen
  omega

theorem way_of_reachesFrom (h : p.reachesFrom tail kind steps seen stack = true) :
    ∃ c ∈ stack, Relation.TransGen (p.Leads kind) c tail := by
  fun_induction reachesFrom with
  | case1 => cases h
  | case2 => cases h
  | case3 steps seen c stack hc ih =>
    obtain ⟨d, hd, hway⟩ := ih h
    exact ⟨d, List.mem_cons_of_mem c hd, hway⟩
  | case4 steps seen c stack hc next ih =>
    rcases Bool.or_eq_true_iff.mp h with htail | hrest
    · exact ⟨c, List.mem_cons_self .., .single (mem_next.mp (List.contains_iff_mem.mp htail))⟩
    · obtain ⟨d, hd, hway⟩ := ih hrest
      rcases List.mem_append.mp hd with hnext | hstack
      · exact ⟨c, List.mem_cons_self .., .head (mem_next.mp hnext) hway⟩
      · exact ⟨d, List.mem_cons_of_mem c hstack, hway⟩

/-- A search that comes to its end has seen all that follows the stack. The steps do not run out
before, as each takes a category off the stack or triples out of the unseen ones. -/
theorem reachesFrom_exhausts (hsteps : stack.length + (p.unseen seen).length ≤ steps)
    (h : p.reachesFrom tail kind steps seen stack = false) :
    ∃ after, stack ⊆ after ∧ Exhausts (p.Leads kind) tail seen after := by
  fun_induction reachesFrom with
  | case1 seen stack =>
    have hstack : stack = [] := List.length_eq_zero_iff.mp (by omega)
    exact ⟨seen, by simp [hstack], .refl seen⟩
  | case2 _ seen => exact ⟨seen, by simp, .refl seen⟩
  | case3 steps seen c stack hc ih =>
    rw [List.length_cons] at hsteps
    obtain ⟨after, hsub, hexhausts⟩ := ih (by omega) h
    exact ⟨after, List.cons_subset.mpr ⟨hexhausts.explored.seen hc, hsub⟩, hexhausts⟩
  | case4 steps seen c stack hc next ih =>
    obtain ⟨htail, hrest⟩ := Bool.or_eq_false_iff.mp h
    have hpaid : next.length + (p.unseen (c :: seen)).length ≤ (p.unseen seen).length :=
      length_next_add_unseen hc
    rw [List.length_cons] at hsteps
    obtain ⟨after, hsub, hexhausts⟩ := ih (by rw [List.length_append]; omega) hrest
    obtain ⟨hnext, hstack⟩ := List.append_subset.mp hsub
    refine ⟨after, List.cons_subset.mpr ⟨hexhausts.explored.seen (List.mem_cons_self ..), hstack⟩,
      hexhausts.cons fun b hb => ?_⟩
    have hmem : b ∈ next := mem_next.mpr hb
    refine ⟨fun hbt => ?_, hnext hmem⟩
    rw [hbt] at hmem
    simp [hmem] at htail

theorem hasPath_iff :
    p.hasPath t = true ↔ Relation.TransGen (p.Leads t.kind) t.head t.tail := by
  constructor
  · intro h
    obtain ⟨c, hc, hway⟩ := way_of_reachesFrom h
    rwa [List.mem_singleton.mp hc] at hway
  · intro hway
    cases h : p.hasPath t with
    | true => rfl
    | false =>
      have hunseen : (p.unseen []).length ≤ p.triples.length := List.length_filter_le ..
      obtain ⟨after, hsub, hexhausts⟩ :=
        reachesFrom_exhausts (by rw [List.length_singleton]; omega) h
      exact absurd hway (hexhausts.not_way (hsub (List.mem_singleton_self _)))

/-! ### Subsumption -/

theorem isSubsumedBy_iff :
    p.isSubsumedBy q = true ↔ p.categories ⊆ q.categories ∧
      ∀ t ∈ p.triples, Relation.TransGen (q.Leads t.kind) t.head t.tail := by
  simp [isSubsumedBy, hasPath_iff, List.subset_def]

/-- Where every triple of a pattern has a way, every way in the pattern has one. -/
theorem way_of_triples {α : Type} {lead : EdgeKind → α → α → Prop}
    (hadmits : ∀ way kind a b, way.Admits kind → lead kind a b → lead way a b)
    (node : Category → α)
    (htriples : ∀ t ∈ p.triples, Relation.TransGen (lead t.kind) (node t.head) (node t.tail))
    (h : Relation.TransGen (p.Leads kind) a b) :
    Relation.TransGen (lead kind) (node a) (node b) := by
  refine Relation.TransGen.lift' node (fun a b hl => ?_) a b h
  obtain ⟨t, ht, rfl, rfl, hk⟩ := hl
  exact Relation.TransGen.mono (fun a b => hadmits kind t.kind a b hk) _ _ (htriples t ht)

theorem Leads.of_admits {way : EdgeKind} (hk : way.Admits kind) (h : p.Leads kind a b) :
    p.Leads way a b := by
  obtain ⟨t, ht, hhead, htail, ha⟩ := h
  exact ⟨t, ht, hhead, htail, hk.trans ha⟩

theorem isSubsumedBy_refl (p : Pattern) : p.isSubsumedBy p = true :=
  isSubsumedBy_iff.mpr ⟨List.Subset.refl _,
    fun t ht => .single ⟨t, ht, rfl, rfl, t.kind.admits_self⟩⟩

theorem isSubsumedBy_trans {p' : Pattern} (h : p.isSubsumedBy q = true)
    (h' : q.isSubsumedBy p' = true) : p.isSubsumedBy p' = true := by
  rw [isSubsumedBy_iff] at *
  refine ⟨List.Subset.trans h.1 h'.1, fun t ht => ?_⟩
  have hadmits (way kind : EdgeKind) (a b : Category) (hk : way.Admits kind)
      (hl : p'.Leads kind a b) : p'.Leads way a b := hl.of_admits hk
  exact way_of_triples hadmits (fun c => c) h'.2 (h.2 t ht)

end PackageVet.Pattern
