import Mathlib.Logic.Relation
import PackageVet.Behavior

/-! Walks along the edges of a graph.

A walk has one edge or more and names the nodes between its two ends. What may lead from a node to
the next is a parameter, so that the same walks serve behaviour graphs, reduced graphs and patterns;
in each of them a way of control goes over any edge and a way of data over edges of data alone
(`EdgeKind.Admits`). -/
namespace PackageVet

/-- A walk with the nodes between its ends, in their order. -/
inductive Walk {α : Type} (lead : α → α → Prop) : α → List α → α → Prop where
  | edge {s t : α} : lead s t → Walk lead s [] t
  | step {s n t : α} {rest : List α} : lead s n → Walk lead n rest t → Walk lead s (n :: rest) t

namespace Walk
variable {α : Type} {lead other : α → α → Prop} {s n t : α} {xs ys : List α}

theorem append (h : Walk lead s xs n) (h' : Walk lead n ys t) : Walk lead s (xs ++ n :: ys) t := by
  induction h with
  | edge hl => exact .step hl h'
  | step hl _ ih => exact .step hl (ih h')

/-- A node between the ends divides a walk in two. -/
theorem split (h : Walk lead s xs t) (hn : n ∈ xs) :
    ∃ before after, xs = before ++ n :: after ∧ Walk lead s before n ∧ Walk lead n after t := by
  induction h with
  | edge _ => cases hn
  | @step s m t rest hl hw ih =>
    rcases List.mem_cons.mp hn with rfl | hn
    · exact ⟨[], rest, rfl, .edge hl, hw⟩
    · obtain ⟨before, after, rfl, hb, ha⟩ := ih hn
      exact ⟨m :: before, after, rfl, .step hl hb, ha⟩

theorem mono (h : Walk lead s xs t) (hm : ∀ a b, lead a b → other a b) : Walk other s xs t := by
  induction h with
  | edge hl => exact .edge (hm _ _ hl)
  | step hl _ ih => exact .step (hm _ _ hl) ih

/-- Something leads to every node between the ends. -/
theorem target (h : Walk lead s xs t) (hn : n ∈ xs) : ∃ m, lead m n := by
  induction h with
  | edge _ => cases hn
  | @step s m t rest hl _ ih =>
    rcases List.mem_cons.mp hn with rfl | hn
    · exact ⟨s, hl⟩
    · exact ih hn

theorem way (h : Walk lead s xs t) : Relation.TransGen lead s t := by
  induction h with
  | edge hl => exact .single hl
  | step hl _ ih => exact .head hl ih

theorem of_way (h : Relation.TransGen lead s t) : ∃ xs, Walk lead s xs t := by
  induction h with
  | single hl => exact ⟨[], .edge hl⟩
  | tail _ hl ih =>
    obtain ⟨xs, hw⟩ := ih
    exact ⟨_, hw.append (.edge hl)⟩

/-- Between the same ends there is a walk that comes to each node once. -/
theorem simple (h : Walk lead s xs t) : ∃ ys, ys ⊆ xs ∧ ys.Nodup ∧ Walk lead s ys t := by
  induction h with
  | edge hl => exact ⟨[], List.Subset.refl _, List.nodup_nil, .edge hl⟩
  | @step s m t rest hl _ ih =>
    obtain ⟨ys, hsub, hnd, hw⟩ := ih
    by_cases hm : m ∈ ys
    · -- the walk comes back to `m`: what it does before that is left out
      obtain ⟨before, after, rfl, _, ha⟩ := hw.split hm
      have hafter : (m :: after).Nodup := (List.nodup_append.mp hnd).2.1
      refine ⟨m :: after, ?_, hafter, .step hl ha⟩
      intro x hx
      rcases List.mem_cons.mp hx with rfl | hx
      · exact List.mem_cons_self ..
      · exact List.mem_cons_of_mem _ (hsub (by simp [hx]))
    · exact ⟨m :: ys, List.cons_subset_cons m hsub, List.nodup_cons.mpr ⟨hm, hnd⟩, .step hl hw⟩

end Walk

/-! ### Searches with a set of seen nodes -/

/-- What a search has left to do once it has seen one more node: all that hangs on that node has
been taken off. -/
theorem length_filter_unseen {α β : Type} [DecidableEq β] (node : α → β) (xs : List α)
    {seen : List β} {n : β} (hn : n ∉ seen) :
    (xs.filter fun x => node x = n).length + (xs.filter fun x => node x ∉ n :: seen).length =
      (xs.filter fun x => node x ∉ seen).length := by
  induction xs with
  | nil => rfl
  | cons x rest ih =>
    by_cases hx : node x = n
    · subst hx
      simp [hn] at ih ⊢
      omega
    · by_cases hs : node x ∈ seen
      · simpa [hx, hs] using ih
      · simp [hx, hs] at ih ⊢
        omega

/-- What a search has done between two moments: all that the nodes seen since lead to has been seen
as well. -/
structure Explored {α : Type} (lead : α → α → Prop) (before after : List α) : Prop where
  seen : before ⊆ after
  closed : ∀ n ∈ after, n ∉ before → ∀ t, lead n t → t ∈ after

namespace Explored
variable {α : Type} {lead : α → α → Prop} {n t : α} {xs a b c : List α}

theorem refl (a : List α) : Explored lead a a :=
  ⟨List.Subset.refl a, fun _ hn hnot => absurd hn hnot⟩

theorem trans (h : Explored lead a b) (h' : Explored lead b c) : Explored lead a c := by
  refine ⟨List.Subset.trans h.seen h'.seen, fun n hn hnot t ht => ?_⟩
  by_cases hb : n ∈ b
  · exact h'.seen (h.closed n hb hnot t ht)
  · exact h'.closed n hn hb t ht

/-- One more node, from which the search has gone on. -/
theorem cons (h : Explored lead (n :: a) b) (hn : ∀ t, lead n t → t ∈ b) : Explored lead a b := by
  refine ⟨fun m hm => h.seen (List.mem_cons_of_mem n hm), fun m hm hnot t ht => ?_⟩
  by_cases hmn : m = n
  · exact hn t (hmn ▸ ht)
  · exact h.closed m hm (by simp [hmn, hnot]) t ht

/-- Once nothing is left to go on from, the end of every walk has been seen. -/
theorem mem_of_walk (h : Explored lead [] a) (hn : n ∈ a) (hw : Walk lead n xs t) : t ∈ a := by
  have hclosed (n : α) (hn : n ∈ a) (t : α) (hl : lead n t) : t ∈ a :=
    h.closed n hn List.not_mem_nil t hl
  induction hw with
  | edge hl => exact hclosed _ hn _ hl
  | step hl _ ih => exact ih (hclosed _ hn _ hl)

end Explored

/-- What a search without success has done: no node seen since leads to the one searched for. -/
structure Exhausts {α : Type} (lead : α → α → Prop) (tail : α) (before after : List α) : Prop where
  explored : Explored lead before after
  misses : ∀ n ∈ after, n ∉ before → ¬ lead n tail

namespace Exhausts
variable {α : Type} {lead : α → α → Prop} {tail n : α} {a b c : List α}

theorem refl (a : List α) : Exhausts lead tail a a :=
  ⟨.refl a, fun _ hn hnot => absurd hn hnot⟩

theorem trans (h : Exhausts lead tail a b) (h' : Exhausts lead tail b c) :
    Exhausts lead tail a c := by
  refine ⟨h.explored.trans h'.explored, fun n hn hnot => ?_⟩
  by_cases hb : n ∈ b
  · exact h.misses n hb hnot
  · exact h'.misses n hn hb

theorem cons (h : Exhausts lead tail (n :: a) b) (hn : ∀ t, lead n t → t ≠ tail ∧ t ∈ b) :
    Exhausts lead tail a b := by
  refine ⟨h.explored.cons fun t ht => (hn t ht).2, fun m hm hnot => ?_⟩
  by_cases hmn : m = n
  · exact fun hl => (hn tail (hmn ▸ hl)).1 rfl
  · exact h.misses m hm (by simp [hmn, hnot])

/-- Once nothing is left to go on from, there is no way to the node searched for: its last edge
would start at a node that has been seen. -/
theorem not_way (h : Exhausts lead tail [] a) (hn : n ∈ a) : ¬ Relation.TransGen lead n tail := by
  have hmiss (m : α) (hm : m ∈ a) : ¬ lead m tail := h.misses m hm List.not_mem_nil
  intro hway
  cases hway with
  | single hl => exact hmiss n hn hl
  | tail hway hl =>
    obtain ⟨xs, hw⟩ := Walk.of_way hway
    exact hmiss _ (h.explored.mem_of_walk hn hw) hl

end Exhausts

/-! ### Ways of a kind -/

/-- Whether a way of a kind may use an edge of a kind: any edge carries control on, and only data
carries data on. -/
def EdgeKind.Admits (way edge : EdgeKind) : Prop := way = .control ∨ edge = .data

theorem EdgeKind.control_admits (edge : EdgeKind) : EdgeKind.control.Admits edge := .inl rfl

theorem EdgeKind.data_admits {edge : EdgeKind} : EdgeKind.data.Admits edge ↔ edge = .data := by
  simp [EdgeKind.Admits]

theorem EdgeKind.admits_self (kind : EdgeKind) : kind.Admits kind := by
  cases kind <;> simp [EdgeKind.Admits]

theorem EdgeKind.Admits.trans {a b c : EdgeKind} (h : a.Admits b) (h' : b.Admits c) :
    a.Admits c := by
  rcases h with rfl | rfl
  · exact .inl rfl
  · exact .inr (data_admits.mp h')

theorem EdgeKind.admits_join {way a b : EdgeKind} :
    way.Admits (a.join b) ↔ way.Admits a ∨ way.Admits b := by
  cases way <;> cases a <;> cases b <;> simp [EdgeKind.Admits, EdgeKind.join]

namespace BehaviorGraph
variable {g : BehaviorGraph} {kind : EdgeKind} {s t : NodeId}

/-- Whether a way of a kind may go from a node straight to another. -/
def Leads (g : BehaviorGraph) (kind : EdgeKind) (s t : NodeId) : Prop :=
  ∃ edge, g.edgeKind? s t = some edge ∧ kind.Admits edge

theorem leads_data : g.Leads .data s t ↔ g.edgeKind? s t = some .data := by
  simp [Leads, EdgeKind.data_admits]

theorem leads_control : g.Leads .control s t ↔ t ∈ g.successors s := by
  have hkeys : t ∈ g.successors s ↔ (g.tags? s t).isSome = true :=
    Edges.mem_successors.trans (Table.contains_iff g.edges (s, t)).symm
  have hkind : (g.edgeKind? s t).isSome = (g.tags? s t).isSome := Option.isSome_map
  rw [hkeys, ← hkind, Option.isSome_iff_exists]
  simp [Leads, EdgeKind.control_admits]

theorem Leads.of_admits {way : EdgeKind} (hk : way.Admits kind) (h : g.Leads kind s t) :
    g.Leads way s t := by
  obtain ⟨edge, he, ha⟩ := h
  exact ⟨edge, he, hk.trans ha⟩

theorem Leads.control (h : g.Leads kind s t) : g.Leads .control s t :=
  h.of_admits (EdgeKind.control_admits kind)

end BehaviorGraph

end PackageVet
