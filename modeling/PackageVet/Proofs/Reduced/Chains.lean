import Mathlib.Data.List.Chain
import Mathlib.Logic.Function.Basic
import PackageVet.Proofs.Behavior

/-! Graphs whose nodes have been made into chains.

`parts` says which new nodes stand behind each node of a graph. In the graph of the chains there is
a link between any two neighbours of a chain, and what left a node before leaves the last node of
its chain (`Rerooted`). One more node at the end of a chain keeps that, whatever has been made of
the other nodes before (`Rerooted.extend`). Between the nodes that were there before, the graph of
the chains has the same ways (`Rerooted.way_iff`). -/
namespace PackageVet

/-! ### Neighbours in a list -/

theorem pair_infix_concat {α : Type} {l : List α} {a b n : α} :
    [a, b] <:+: l ++ [n] ↔ [a, b] <:+: l ∨ l.getLast? = some a ∧ b = n := by
  have hsuffix : [a, b] <:+ l ++ [n] ↔ l.getLast? = some a ∧ b = n := by
    rw [List.getLast?_eq_some_iff]
    constructor
    · rintro ⟨s, hs⟩
      have hsplit : (s ++ [a]) ++ [b] = l ++ [n] := by simpa using hs
      obtain ⟨hl, hb⟩ := List.append_inj' hsplit rfl
      exact ⟨⟨s, hl.symm⟩, List.singleton_inj.mp hb⟩
    · rintro ⟨⟨s, rfl⟩, rfl⟩
      exact ⟨s, by simp⟩
  rw [List.infix_concat_iff, hsuffix, or_comm]

/-- Nothing comes behind the last one of a list that has each once. -/
theorem getLast?_ne_of_pair {α : Type} {l : List α} {a b : α} (hl : l.Nodup)
    (hab : [a, b] <:+: l) : l.getLast? ≠ some a := by
  obtain ⟨before, after, rfl⟩ := hab
  intro hlast
  have htail : (b :: after).getLast? = some a := by
    simpa [List.getLast?_append, List.getLast?_cons] using hlast
  have hnodup : (before ++ a :: b :: after).Nodup := by simpa using hl
  have ha : a ∉ b :: after := (List.nodup_cons.mp (List.nodup_append.mp hnodup).2.1).1
  exact ha (List.mem_of_getLast? htail)

namespace BehaviorGraph
variable {g h : BehaviorGraph} {parts : NodeId → List NodeId} {kind : EdgeKind}
  {a b n u v w : NodeId} {tags : List String}

/-! ### Chains -/

/-- Whether an id stands somewhere in a graph, as a node or at an end of an edge. -/
def Has (g : BehaviorGraph) (id : NodeId) : Prop :=
  id ∈ g.nodes ∨ ∃ other, (g.tags? id other).isSome ∨ (g.tags? other id).isSome

theorem has_source (h : g.tags? a b = some tags) : g.Has a :=
  .inr ⟨b, .inl (by simp [h])⟩

theorem has_target (h : g.tags? a b = some tags) : g.Has b :=
  .inr ⟨a, .inr (by simp [h])⟩

theorem Leads.has_source (h : g.Leads kind a b) : g.Has a := by
  obtain ⟨tags, htags, -⟩ := leads_iff.mp h
  exact BehaviorGraph.has_source htags

theorem Leads.has_target (h : g.Leads kind a b) : g.Has b := by
  obtain ⟨tags, htags, -⟩ := leads_iff.mp h
  exact BehaviorGraph.has_target htags

/-- The end of a node's chain. -/
def lastPart (parts : NodeId → List NodeId) (v : NodeId) : NodeId := (parts v).getLastD v

theorem getLast?_chain (parts : NodeId → List NodeId) (v : NodeId) :
    (v :: parts v).getLast? = some (lastPart parts v) := by
  rw [lastPart, List.getLast?_cons, List.getLastD_eq_getLast?]

theorem lastPart_mem (parts : NodeId → List NodeId) (v : NodeId) :
    lastPart parts v ∈ v :: parts v :=
  List.mem_of_getLast? (getLast?_chain parts v)

/-- Whether a node comes right behind another in one of the chains. -/
def Neighbours (parts : NodeId → List NodeId) (a b : NodeId) : Prop :=
  ∃ v, [a, b] <:+: v :: parts v

/-- Whether new nodes are put behind nodes of a graph, each once and in one chain. -/
structure Chains (g : BehaviorGraph) (parts : NodeId → List NodeId) : Prop where
  fresh : ∀ v, ∀ n ∈ parts v, ¬ g.Has n
  nodup : ∀ v, (parts v).Nodup
  apart : ∀ u v, ∀ n ∈ parts u, n ∈ parts v → u = v
  heads : ∀ v, parts v ≠ [] → v ∈ g.nodes

namespace Chains
variable (hc : g.Chains parts)
include hc

theorem nodup_chain (hv : g.Has v) : (v :: parts v).Nodup :=
  List.nodup_cons.mpr ⟨fun hmem => hc.fresh v v hmem hv, hc.nodup v⟩

/-- A node is in one chain only. -/
theorem owner (hu : g.Has u) (hv : g.Has v) (hau : a ∈ u :: parts u) (hav : a ∈ v :: parts v) :
    u = v := by
  rcases List.mem_cons.mp hau with rfl | hau
  · exact (List.mem_cons.mp hav).resolve_right fun hmem => hc.fresh v a hmem hu
  · rcases List.mem_cons.mp hav with rfl | hav
    · exact absurd hv (hc.fresh u a hau)
    · exact hc.apart u v a hau hav

theorem lastPart_inj (hu : g.Has u) (hv : g.Has v) (he : lastPart parts u = lastPart parts v) :
    u = v :=
  hc.owner hu hv (lastPart_mem parts u) (he ▸ lastPart_mem parts v)

theorem neighbours (hab : Neighbours parts a b) :
    ∃ v, v ∈ g.nodes ∧ [a, b] <:+: v :: parts v ∧ a ∈ v :: parts v ∧ b ∈ parts v := by
  obtain ⟨v, hinfix⟩ := hab
  have hb : b ∈ parts v := by
    obtain ⟨before, after, he⟩ := hinfix
    cases before with
    | nil => simp [← (List.cons.inj he).2]
    | cons x before => simp [← (List.cons.inj he).2]
  exact ⟨v, hc.heads v (List.ne_nil_of_mem hb), hinfix, hinfix.subset (by simp), hb⟩

/-- Nothing comes behind the end of a chain. -/
theorem not_neighbours_lastPart (hu : g.Has u) : ¬ Neighbours parts (lastPart parts u) b := by
  intro hab
  obtain ⟨v, hv, hinfix, hmem, -⟩ := hc.neighbours hab
  obtain rfl := hc.owner hu (.inl hv) (lastPart_mem parts u) hmem
  exact getLast?_ne_of_pair (hc.nodup_chain hu) hinfix (getLast?_chain parts u)

end Chains

/-! ### One more node in a chain -/

/-- Chains of which one has a new end. -/
def extendParts (parts : NodeId → List NodeId) (v : NodeId) (ids : List NodeId) :
    NodeId → List NodeId :=
  Function.update parts v (parts v ++ ids)

@[simp] theorem extendParts_self (parts : NodeId → List NodeId) (v : NodeId) (ids : List NodeId) :
    extendParts parts v ids v = parts v ++ ids :=
  Function.update_self ..

theorem extendParts_of_ne (parts : NodeId → List NodeId) (ids : List NodeId) (h : u ≠ v) :
    extendParts parts v ids u = parts u :=
  Function.update_of_ne h ..

theorem extendParts_extendParts (parts : NodeId → List NodeId) (v : NodeId)
    (ids more : List NodeId) :
    extendParts (extendParts parts v ids) v more = extendParts parts v (ids ++ more) := by
  simp [extendParts]

/-- Whether an id may be put in as a new node. -/
def New (g : BehaviorGraph) (parts : NodeId → List NodeId) (n : NodeId) : Prop :=
  ¬ g.Has n ∧ ∀ u, n ∉ parts u

theorem New.not_mem_chain (hn : g.New parts n) (hu : g.Has u) : n ∉ u :: parts u := by
  intro hmem
  rcases List.mem_cons.mp hmem with rfl | hmem
  · exact hn.1 hu
  · exact hn.2 u hmem

theorem New.not_neighbours (hn : g.New parts n) (hc : g.Chains parts) : ¬ Neighbours parts n b := by
  intro hlink
  obtain ⟨v, hv, -, hmem, -⟩ := hc.neighbours hlink
  exact hn.not_mem_chain (.inl hv) hmem

theorem Chains.extend (hc : g.Chains parts) (hv : v ∈ g.nodes) (hn : g.New parts n) :
    g.Chains (extendParts parts v [n]) := by
  have hmem : ∀ u m, m ∈ extendParts parts v [n] u ↔ m ∈ parts u ∨ u = v ∧ m = n := by
    intro u m
    by_cases hu : u = v
    · simp [hu]
    · simp [extendParts_of_ne, hu]
  constructor
  · intro u m hm
    rcases (hmem u m).mp hm with hm | ⟨-, rfl⟩
    · exact hc.fresh u m hm
    · exact hn.1
  · intro u
    by_cases hu : u = v
    · subst hu
      rw [extendParts_self]
      exact nodup_concat (hc.nodup u) (hn.2 u)
    · rw [extendParts_of_ne parts [n] hu]
      exact hc.nodup u
  · intro u w m hmu hmw
    rcases (hmem u m).mp hmu with hu | ⟨hu, hm⟩ <;> rcases (hmem w m).mp hmw with hw | ⟨hw, hm'⟩
    · exact hc.apart u w m hu hw
    · exact absurd (hm' ▸ hu) (hn.2 u)
    · exact absurd (hm ▸ hw) (hn.2 w)
    · exact hu.trans hw.symm
  · intro u hu
    by_cases huv : u = v
    · exact huv ▸ hv
    · rw [extendParts_of_ne parts [n] huv] at hu
      exact hc.heads u hu

theorem lastPart_extendParts (parts : NodeId → List NodeId) (v n u : NodeId) :
    lastPart (extendParts parts v [n]) u = if u = v then n else lastPart parts u := by
  by_cases hu : u = v
  · simp [lastPart, hu]
  · simp [lastPart, extendParts_of_ne, hu]

theorem neighbours_extendParts :
    Neighbours (extendParts parts v [n]) a b ↔
      Neighbours parts a b ∨ a = lastPart parts v ∧ b = n := by
  have hself : [a, b] <:+: v :: extendParts parts v [n] v ↔
      [a, b] <:+: v :: parts v ∨ a = lastPart parts v ∧ b = n := by
    have hconcat := pair_infix_concat (l := v :: parts v) (a := a) (b := b) (n := n)
    simpa [getLast?_chain, eq_comm] using hconcat
  constructor
  · rintro ⟨u, hu⟩
    by_cases huv : u = v
    · subst huv
      exact (hself.mp hu).imp_left fun hold => ⟨u, hold⟩
    · rw [extendParts_of_ne parts [n] huv] at hu
      exact .inl ⟨u, hu⟩
  · rintro (⟨u, hu⟩ | hnew)
    · by_cases huv : u = v
      · subst huv
        exact ⟨u, hself.mpr (.inl hu)⟩
      · exact ⟨u, by rwa [extendParts_of_ne parts [n] huv]⟩
    · exact ⟨v, hself.mpr (.inr hnew)⟩

/-! ### Edges of the chains -/

/-- Whether the edges of a graph are links along the chains and the edges of another, which leave
the ends of the chains. -/
def Rerooted (g : BehaviorGraph) (parts : NodeId → List NodeId) (h : BehaviorGraph) : Prop :=
  ∀ a b tags, h.tags? a b = some tags ↔
    Neighbours parts a b ∧ tags = ["DDG"] ∨ ∃ u, a = lastPart parts u ∧ g.tags? u b = some tags

/-- Puts a node behind another. -/
def putBehind (g : BehaviorGraph) (previous id : NodeId) : BehaviorGraph :=
  ((g.addNode id).moveOutEdges previous id).addEdge previous id ["DDG"]

theorem WellFormed.putBehind (hg : g.WellFormed) (previous id : NodeId) :
    (g.putBehind previous id).WellFormed :=
  ((hg.addNode id).moveOutEdges previous id).addEdge previous id ["DDG"]

theorem WellFormed.tags?_putBehind (hg : g.WellFormed) {previous id : NodeId}
    (hne : id ≠ previous) (hid : ∀ b, g.tags? id b = none) (a b : NodeId) :
    (g.putBehind previous id).tags? a b =
      if a = previous ∧ b = id then some ["DDG"]
      else if a = id then g.tags? previous b
      else if a = previous then none else g.tags? a b := by
  have hmoved := (hg.addNode id).tags?_moveOutEdges hne (by simpa using hid)
  simp only [tags?_addNode] at hmoved
  have hgone : ((g.addNode id).moveOutEdges previous id).tags? previous id = none := by
    rw [hmoved, if_neg (Ne.symm hne), if_pos rfl]
  rw [BehaviorGraph.putBehind, tags?_addEdge, hgone, hmoved]
  rfl

namespace Rerooted
variable (hr : g.Rerooted parts h)
include hr

/-- The edges that leave the end of a chain are those that left its head. -/
theorem tags?_lastPart (hc : g.Chains parts) (hv : g.Has v) :
    h.tags? (lastPart parts v) b = some tags ↔ g.tags? v b = some tags := by
  rw [hr]
  constructor
  · rintro (⟨hlink, -⟩ | ⟨u, he, htags⟩)
    · exact absurd hlink (hc.not_neighbours_lastPart hv)
    · obtain rfl := hc.lastPart_inj hv (has_source htags) he
      exact htags
  · exact fun htags => .inr ⟨v, rfl, htags⟩

theorem tags?_new (hc : g.Chains parts) (hn : g.New parts n) : h.tags? n b = none := by
  rw [Option.eq_none_iff_forall_ne_some]
  intro tags htags
  rcases (hr n b tags).mp htags with ⟨hlink, -⟩ | ⟨u, rfl, hu⟩
  · exact hn.not_neighbours hc hlink
  · exact hn.not_mem_chain (has_source hu) (lastPart_mem parts u)

/-- A new node at the end of a chain takes over the edges that left it. -/
theorem extend (hc : g.Chains parts) (hh : h.WellFormed) (hv : v ∈ g.nodes)
    (hn : g.New parts n) :
    g.Rerooted (extendParts parts v [n]) (h.putBehind (lastPart parts v) n) := by
  have hne : n ≠ lastPart parts v := by
    intro he
    exact hn.not_mem_chain (.inl hv) (he ▸ lastPart_mem parts v)
  intro a b tags
  rw [hh.tags?_putBehind hne fun b => hr.tags?_new hc hn, neighbours_extendParts]
  simp only [lastPart_extendParts]
  by_cases hlink : a = lastPart parts v ∧ b = n
  · rw [if_pos hlink]
    constructor
    · rintro ⟨⟩
      exact .inl ⟨.inr hlink, rfl⟩
    · rintro (⟨-, rfl⟩ | ⟨u, -, htags⟩)
      · rfl
      · -- no edge led to the new node
        exact absurd (hlink.2 ▸ has_target htags) hn.1
  by_cases hnew : a = n
  · subst hnew
    rw [if_neg hlink, if_pos rfl, hr.tags?_lastPart hc (.inl hv)]
    constructor
    · exact fun htags => .inr ⟨v, (if_pos rfl).symm, htags⟩
    · rintro (⟨hlinked, -⟩ | ⟨u, he, htags⟩)
      · exact (hlinked.elim (hn.not_neighbours hc) hlink).elim
      · by_cases hu : u = v
        · exact hu ▸ htags
        · rw [if_neg hu] at he
          exact absurd (he ▸ lastPart_mem parts u) (hn.not_mem_chain (has_source htags))
  by_cases hlast : a = lastPart parts v
  · -- all that left the end of the chain has been moved
    rw [if_neg hlink, if_neg hnew, if_pos hlast]
    refine iff_of_false nofun ?_
    rintro (⟨hlinked, -⟩ | ⟨u, he, htags⟩)
    · exact hlinked.elim (hlast ▸ hc.not_neighbours_lastPart (.inl hv)) hlink
    · by_cases hu : u = v
      · exact hnew (he.trans (if_pos hu))
      · rw [if_neg hu, hlast] at he
        exact hu (hc.lastPart_inj (.inl hv) (has_source htags) he).symm
  · rw [if_neg hlink, if_neg hnew, if_neg hlast, hr]
    refine or_congr (and_congr_left fun _ => (or_iff_left hlink).symm)
      (exists_congr fun u => and_congr_left fun _ => ?_)
    by_cases hu : u = v
    · simp [hu, hnew, hlast]
    · simp [hu]

/-! ### Ways along the chains -/

theorem leads_iff : h.Leads kind a b ↔
    Neighbours parts a b ∨ ∃ u, a = lastPart parts u ∧ g.Leads kind u b := by
  -- a link is data, which every way may use
  have hdata : kind.Admits (EdgeKind.ofTags ["DDG"]) := .inr (by decide +kernel)
  rw [BehaviorGraph.leads_iff]
  simp only [BehaviorGraph.leads_iff, hr a b]
  constructor
  · rintro ⟨tags, ⟨hlink, -⟩ | ⟨u, he, htags⟩, hk⟩
    · exact .inl hlink
    · exact .inr ⟨u, he, tags, htags, hk⟩
  · rintro (hlink | ⟨u, he, tags, htags, hk⟩)
    · exact ⟨_, .inl ⟨hlink, rfl⟩, hdata⟩
    · exact ⟨tags, .inr ⟨u, he, htags⟩, hk⟩

theorem along_chain (kind : EdgeKind) (v : NodeId) :
    Relation.ReflTransGen (h.Leads kind) v (lastPart parts v) := by
  refine List.relationReflTransGen_of_exists_isChain_cons (parts v) ?_ ?_
  · rw [List.isChain_iff_forall_rel_of_append_cons_cons]
    intro a b before after he
    exact hr.leads_iff.mpr (.inl ⟨v, before, after, by simp [he]⟩)
  · rw [← Option.some.injEq, ← List.getLast?_eq_some_getLast, getLast?_chain]

/-- From anywhere in a chain there is a way on to a node that was there before only if there was one
from the head of the chain. -/
theorem way_of_chain (hc : g.Chains parts) (hw : g.Has w)
    (hway : Relation.TransGen (h.Leads kind) a w) (hu : g.Has u) (ha : a ∈ u :: parts u) :
    Relation.TransGen (g.Leads kind) u w := by
  induction hway using Relation.TransGen.head_induction_on generalizing u with
  | single hlead =>
    rcases hr.leads_iff.mp hlead with hlink | ⟨v, rfl, hv⟩
    · obtain ⟨v, -, -, -, hmem⟩ := hc.neighbours hlink
      exact absurd hw (hc.fresh v w hmem)
    · obtain rfl := hc.owner hu hv.has_source ha (lastPart_mem parts v)
      exact .single hv
  | head hlead _ ih =>
    rcases hr.leads_iff.mp hlead with hlink | ⟨v, rfl, hv⟩
    · obtain ⟨v, hv, -, hmem, hnext⟩ := hc.neighbours hlink
      obtain rfl := hc.owner hu (.inl hv) ha hmem
      exact ih hu (List.mem_cons_of_mem u hnext)
    · obtain rfl := hc.owner hu hv.has_source ha (lastPart_mem parts v)
      exact .head hv (ih hv.has_target (List.mem_cons_self ..))

/-- **Between the nodes that were there before, the chains have the same ways.** -/
theorem way_iff (hc : g.Chains parts) (hu : g.Has u) (hw : g.Has w) :
    Relation.TransGen (h.Leads kind) u w ↔ Relation.TransGen (g.Leads kind) u w := by
  constructor
  · exact fun hway => hr.way_of_chain hc hw hway hu (List.mem_cons_self ..)
  · have hstep (a b : NodeId) (hlead : g.Leads kind a b) : Relation.TransGen (h.Leads kind) a b :=
      .tail' (hr.along_chain kind a) (hr.leads_iff.mpr (.inr ⟨a, rfl, hlead⟩))
    exact fun hway => hway.lift' id hstep

end Rerooted

/-! ### Whole chains -/

/-- Whether a graph is another one with chains in place of its nodes. -/
structure OfChains (g : BehaviorGraph) (parts : NodeId → List NodeId) (h : BehaviorGraph) :
    Prop where
  chains : g.Chains parts
  edges : g.Rerooted parts h
  wellFormed : h.WellFormed

/-- Puts nodes behind another, one after the other. -/
def putAllBehind : BehaviorGraph → NodeId → List NodeId → BehaviorGraph
  | g, _, [] => g
  | g, previous, id :: rest => (g.putBehind previous id).putAllBehind id rest

theorem OfChains.extendAll {ids : List NodeId} (hg : g.OfChains parts h) (hv : v ∈ g.nodes)
    (hids : ids.Nodup) (hnew : ∀ n ∈ ids, g.New parts n) :
    g.OfChains (extendParts parts v ids) (h.putAllBehind (lastPart parts v) ids) := by
  induction ids generalizing parts h with
  | nil => simpa [extendParts, putAllBehind] using hg
  | cons n rest ih =>
    obtain ⟨hn, hrest⟩ := List.nodup_cons.mp hids
    have hone : g.New parts n := hnew n (List.mem_cons_self ..)
    have hstep : g.OfChains (extendParts parts v [n]) (h.putBehind (lastPart parts v) n) :=
      ⟨hg.chains.extend hv hone, hg.edges.extend hg.chains hg.wellFormed hv hone,
        hg.wellFormed.putBehind _ n⟩
    have hstill (m : NodeId) (hm : m ∈ rest) : g.New (extendParts parts v [n]) m := by
      obtain ⟨hfresh, hout⟩ := hnew m (List.mem_cons_of_mem n hm)
      refine ⟨hfresh, fun u => ?_⟩
      by_cases hu : u = v
      · have hne : m ≠ n := fun he => hn (he ▸ hm)
        simp [hu, hout, hne]
      · simp [extendParts_of_ne, hu, hout]
    have hall := ih hstep hrest hstill
    rwa [lastPart_extendParts, if_pos rfl, extendParts_extendParts] at hall

theorem withoutEdges_moveOutEdges (g : BehaviorGraph) (origin heir : NodeId) :
    (g.moveOutEdges origin heir).withoutEdges = g.withoutEdges :=
  List.foldlRecOn (motive := fun (h : BehaviorGraph) => h.withoutEdges = g.withoutEdges) _ _ rfl
    fun _ ih _ _ => ih

theorem withoutEdges_putAllBehind {ids : List NodeId} {previous : NodeId} (hids : ids.Nodup)
    (hnew : ∀ n ∈ ids, n ∉ g.nodes) :
    (g.putAllBehind previous ids).withoutEdges =
      { g.withoutEdges with nodes := g.nodes ++ ids } := by
  induction ids generalizing g previous with
  | nil => simp [putAllBehind, withoutEdges]
  | cons n rest ih =>
    obtain ⟨hn, hrest⟩ := List.nodup_cons.mp hids
    have hnode : (g.putBehind previous n).withoutEdges =
        { g.withoutEdges with nodes := g.nodes ++ [n] } := by
      refine (withoutEdges_moveOutEdges (g.addNode n) previous n).trans ?_
      simp [addNode, withoutEdges, hnew n]
    have hnodes : (g.putBehind previous n).nodes = g.nodes ++ [n] :=
      congrArg BehaviorGraph.nodes hnode
    have hall : ((g.putBehind previous n).putAllBehind n rest).withoutEdges =
        { (g.putBehind previous n).withoutEdges with
          nodes := (g.putBehind previous n).nodes ++ rest } := by
      refine ih hrest fun m hm => ?_
      have hne : m ≠ n := fun he => hn (he ▸ hm)
      simp [hnodes, hnew m (List.mem_cons_of_mem n hm), hne]
    rw [putAllBehind, hall, hnode, hnodes]
    simp

end BehaviorGraph

end PackageVet
