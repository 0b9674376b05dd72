import PackageVet.Proofs.Checked
import PackageVet.Proofs.Walk
import PackageVet.Reduced.Extract

/-! What the two searches of a reduction come to.

Whatever a search checks on its way, it comes to what it comes to without a check, or a check fails
(`comesTo_reducedM`).

Neither search looks at the reduced graph to decide where it goes next, so each is a list of finds
that are recorded one after another (`dataFrom_eq`, `controlFrom_eq`). The finds of the first are
exactly the routes of data without a repeated node (`mem_dataFinds`); the second finds every
sensitive node that some route leads to (`controlVisit_finds`). -/
namespace PackageVet

/-- A sensitive node that a search came to, and the nodes that it came over. -/
structure Find where
  target : NodeId
  category : Category
  path : List NodeId
  deriving DecidableEq, Repr

/-- Records data that goes from a node to a find. -/
def ReducedGraph.addData (start : NodeId) (r : ReducedGraph) (f : Find) : ReducedGraph :=
  (r.addNode f.target f.category).addEdge start f.target .data f.path

/-- Records that control goes from a node to a find, unless the two are linked. -/
def ReducedGraph.addControl (start : NodeId) (r : ReducedGraph) (f : Find) : ReducedGraph :=
  if (r.edge? start f.target).isSome then r
  else (r.addNode f.target f.category).addEdge start f.target .control f.path

namespace BehaviorGraph

/-- A walk over nodes that are not sensitive. -/
structure Route (g : BehaviorGraph) (category? : NodeId → Option Category) (kind : EdgeKind)
    (s : NodeId) (between : List NodeId) (t : NodeId) : Prop where
  walk : Walk (g.Leads kind) s between t
  plain : ∀ n ∈ between, category? n = none

variable {g : BehaviorGraph} {category? : NodeId → Option Category} {kind : EdgeKind}
  {start s n t current : NodeId} {between path seen : List NodeId} {depth : Nat} {f : Find}
  {m : Type → Type} [Monad m] [LawfulMonad m] {check : m PUnit}

theorem Route.edge (h : g.Leads kind s t) : g.Route category? kind s [] t :=
  ⟨.edge h, fun _ hn => nomatch hn⟩

theorem Route.cons (h : g.Leads kind s n) (hn : category? n = none)
    (hr : g.Route category? kind n between t) : g.Route category? kind s (n :: between) t :=
  ⟨.step h hr.walk, List.forall_mem_cons.mpr ⟨hn, hr.plain⟩⟩

theorem Route.of_admits {way : EdgeKind} (hk : way.Admits kind)
    (h : g.Route category? kind s between t) : g.Route category? way s between t :=
  ⟨h.walk.mono fun _ _ => Leads.of_admits hk, h.plain⟩

theorem Route.control (h : g.Route category? kind s between t) :
    g.Route category? .control s between t :=
  h.of_admits (EdgeKind.control_admits kind)

theorem Route.simple (h : g.Route category? kind s between t) :
    ∃ between, between.Nodup ∧ g.Route category? kind s between t := by
  obtain ⟨xs, hsub, hnd, hw⟩ := h.walk.simple
  exact ⟨xs, hnd, hw, fun n hn => h.plain n (hsub hn)⟩

/-- Nodes on a route without a repeated node are no more than the edges. -/
theorem Route.length_le (h : g.Route category? kind s between t) (hnd : between.Nodup) :
    between.length ≤ g.edgeCount := by
  apply Edges.length_le_size hnd
  intro n hn
  obtain ⟨m, hm⟩ := h.walk.target hn
  exact ⟨m, leads_control.mp hm.control⟩

/-! ### Data -/

/-- What a search for data finds from a node that it reached from `start` over `path`. -/
def dataFinds (g : BehaviorGraph) (category? : NodeId → Option Category) (start : NodeId) :
    Nat → List NodeId → NodeId → List Find
  | 0, _, _ => []
  | depth + 1, path, current =>
    (g.successors current).flatMap fun next =>
      if g.edgeKind? current next ≠ some .data then []
      else if next = start ∨ next ∈ path then []
      else match category? next with
        | some category => [⟨next, category, path⟩]
        | none => g.dataFinds category? start depth (path ++ [next]) next

/-- What a search for data does with one successor of a node. -/
def follow (g : BehaviorGraph) (category? : NodeId → Option Category) (start : NodeId) (depth : Nat)
    (path : List NodeId) (current : NodeId) (r : ReducedGraph) (next : NodeId) : ReducedGraph :=
  if g.edgeKind? current next ≠ some .data then r
  else if next = start ∨ next ∈ path then r
  else match category? next with
    | some category => (r.addNode next category).addEdge start next .data path
    | none => g.dataFrom category? start depth (path ++ [next]) next r

theorem dataFrom_succ (g : BehaviorGraph) (category? : NodeId → Option Category) (start : NodeId)
    (depth : Nat) (path : List NodeId) (current : NodeId) (r : ReducedGraph) :
    g.dataFrom category? start (depth + 1) path current r =
      (g.successors current).foldl (g.follow category? start depth path current) r := by
  rw [dataFrom, dataFromM, List.idRun_foldlM]
  rfl

theorem comesTo_dataFromM (r : ReducedGraph) :
    ComesTo check (g.dataFromM check category? start depth path current r)
      (g.dataFrom category? start depth path current r) := by
  induction depth generalizing path current r with
  | zero => exact comesTo_pure r
  | succ depth ih =>
    rw [dataFromM, dataFrom_succ]
    refine comesTo_foldlM (fun r next _ => ?_) r
    unfold follow
    split
    · exact comesTo_pure r
    · refine ComesTo.afterCheck ?_
      split
      · exact comesTo_pure r
      · cases category? next with
        | some category => exact comesTo_pure _
        | none => exact ih r

theorem dataFrom_eq (r : ReducedGraph) :
    g.dataFrom category? start depth path current r =
      (g.dataFinds category? start depth path current).foldl (.addData start) r := by
  induction depth generalizing path current r with
  | zero => rfl
  | succ depth ih =>
    rw [dataFrom_succ, dataFinds, List.foldl_flatMap]
    congr 1
    funext r next
    unfold follow
    split
    · rfl
    · split
      · rfl
      · cases category? next with
        | some category => rfl
        | none => exact ih r

/-- The finds are the routes that come to no node a second time, not even to one of `path`. -/
theorem mem_dataFinds :
    f ∈ g.dataFinds category? start depth path current ↔
      ∃ rest, f.path = path ++ rest ∧ rest.length < depth ∧
        g.Route category? .data current rest f.target ∧ rest.Nodup ∧
        (∀ n ∈ rest, n ∉ start :: path) ∧
        category? f.target = some f.category ∧ f.target ∉ start :: path := by
  induction depth generalizing path current with
  | zero => simp [dataFinds]
  | succ depth ih =>
    simp only [dataFinds, List.mem_flatMap]
    constructor
    · rintro ⟨next, -, hf⟩
      split at hf
      · cases hf
      · next hdata =>
        have hlead : g.Leads .data current next := leads_data.mpr (Classical.not_not.mp hdata)
        split at hf
        · cases hf
        · next hnew =>
          have hnext : next ∉ start :: path := by simpa using hnew
          split at hf
          · next category hc =>
            rw [List.mem_singleton] at hf
            subst hf
            exact ⟨[], by simp, by simp, .edge hlead, List.nodup_nil, by simp, hc, hnext⟩
          · next hc =>
            obtain ⟨rest, hpath, hlen, hroute, hnd, hfresh, hcat, htarget⟩ := ih.mp hf
            have hmore : start :: path ⊆ start :: (path ++ [next]) :=
              List.cons_subset_cons start (List.subset_append_left path [next])
            have hrest : next ∉ rest := fun hm => hfresh next hm (by simp)
            refine ⟨next :: rest, by simp [hpath], by simpa using hlen, hroute.cons hlead hc,
              List.nodup_cons.mpr ⟨hrest, hnd⟩, ?_, hcat, ?_⟩
            · exact List.forall_mem_cons.mpr ⟨hnext, fun n hn hm => hfresh n hn (hmore hm)⟩
            · exact fun hm => htarget (hmore hm)
    · rintro ⟨rest, hpath, hlen, hroute, hnd, hfresh, hcat, htarget⟩
      cases hroute.walk with
      | edge hlead =>
        have hnew : ¬ (f.target = start ∨ f.target ∈ path) := by simpa using htarget
        refine ⟨f.target, leads_control.mp hlead.control, ?_⟩
        rw [if_neg (not_not_intro (leads_data.mp hlead)), if_neg hnew, hcat]
        rw [List.append_nil] at hpath
        exact List.mem_singleton.mpr (by rw [← hpath])
      | @step _ next _ rest hlead hwalk =>
        have hnext := hfresh next (List.mem_cons_self ..)
        have hnew : ¬ (next = start ∨ next ∈ path) := by simpa using hnext
        refine ⟨next, leads_control.mp hlead.control, ?_⟩
        rw [if_neg (not_not_intro (leads_data.mp hlead)), if_neg hnew,
          hroute.plain next (List.mem_cons_self ..)]
        obtain ⟨hrest, hnd⟩ := List.nodup_cons.mp hnd
        refine ih.mpr ⟨rest, by simp [hpath], by simpa using hlen,
          ⟨hwalk, fun n hn => hroute.plain n (List.mem_cons_of_mem _ hn)⟩, hnd, ?_, hcat, ?_⟩
        · intro n hn hm
          have := hfresh n (List.mem_cons_of_mem _ hn)
          grind
        · have := hroute.plain next (List.mem_cons_self ..)
          grind

/-- From a sensitive node, the finds are the routes of data without a repeated node that lead to
another sensitive node. -/
theorem mem_dataFinds_start (hs : (category? start).isSome) :
    f ∈ g.dataFinds category? start (g.edgeCount + 1) [] start ↔
      g.Route category? .data start f.path f.target ∧ f.path.Nodup ∧
        category? f.target = some f.category ∧ f.target ≠ start := by
  rw [mem_dataFinds]
  constructor
  · rintro ⟨rest, hpath, -, hroute, hnd, -, hcat, htarget⟩
    rw [List.nil_append] at hpath
    subst hpath
    exact ⟨hroute, hnd, hcat, by simpa using htarget⟩
  · rintro ⟨hroute, hnd, hcat, htarget⟩
    refine ⟨f.path, rfl, Nat.lt_succ_of_le (hroute.length_le hnd), hroute, hnd, ?_, hcat,
      by simpa using htarget⟩
    intro n hn hm
    rw [List.mem_singleton.mp hm] at hn
    rw [hroute.plain start hn] at hs
    cases hs

/-! ### Control -/

/-- How far a search over all edges has come. -/
structure Visit where
  seen : List NodeId
  finds : List Find := []

/-- Comes to one node; `deeper` goes on from a node that is not sensitive. -/
def visitNode (category? : NodeId → Option Category) (path : List NodeId)
    (deeper : NodeId → List NodeId → Visit) (v : Visit) (next : NodeId) : Visit :=
  if next ∈ v.seen then v
  else match category? next with
    | some category => { seen := next :: v.seen, finds := v.finds ++ [⟨next, category, path⟩] }
    | none =>
      let below := deeper next (next :: v.seen)
      { seen := below.seen, finds := v.finds ++ below.finds }

/-- What a search over all edges sees and finds from a node that it reached over `path`. -/
def controlVisit (g : BehaviorGraph) (category? : NodeId → Option Category) :
    Nat → List NodeId → NodeId → List NodeId → Visit
  | 0, _, _, seen => { seen }
  | depth + 1, path, current, seen =>
    (g.successors current).foldl
      (visitNode category? path fun next => g.controlVisit category? depth (path ++ [next]) next)
      { seen }

/-- What a search over all edges does with one successor of a node. -/
def comeTo (g : BehaviorGraph) (category? : NodeId → Option Category) (start : NodeId) (depth : Nat)
    (path : List NodeId) (s : ControlSearch) (next : NodeId) : ControlSearch :=
  if next ∈ s.seen then s
  else
    let s := { s with seen := next :: s.seen }
    match category? next with
    | some category => s.record start next category path
    | none => g.controlFrom category? start depth (path ++ [next]) next s

theorem controlFrom_succ (g : BehaviorGraph) (category? : NodeId → Option Category) (start : NodeId)
    (depth : Nat) (path : List NodeId) (current : NodeId) (s : ControlSearch) :
    g.controlFrom category? start (depth + 1) path current s =
      (g.successors current).foldl (g.comeTo category? start depth path) s := by
  rw [controlFrom, controlFromM, List.idRun_foldlM]
  rfl

theorem comesTo_controlFromM (s : ControlSearch) :
    ComesTo check (g.controlFromM check category? start depth path current s)
      (g.controlFrom category? start depth path current s) := by
  induction depth generalizing path current s with
  | zero => exact comesTo_pure s
  | succ depth ih =>
    rw [controlFromM, controlFrom_succ]
    refine comesTo_foldlM (fun s next _ => ?_) s
    unfold comeTo
    split
    · exact comesTo_pure s
    · refine ComesTo.afterCheck ?_
      cases category? next with
      | some category => exact comesTo_pure _
      | none => exact ih _

theorem controlFrom_eq (s : ControlSearch) :
    g.controlFrom category? start depth path current s =
      { seen := (g.controlVisit category? depth path current s.seen).seen
        reduced := (g.controlVisit category? depth path current s.seen).finds.foldl
          (.addControl start) s.reduced } := by
  induction depth generalizing path current s with
  | zero => rfl
  | succ depth ih =>
    rw [controlFrom_succ, controlVisit]
    -- the two folds go side by side; the finds so far, recorded, are the reduced graph so far
    refine List.foldl_rel (r := fun (c : ControlSearch) (v : Visit) =>
      c = { seen := v.seen, reduced := v.finds.foldl (.addControl start) s.reduced }) rfl ?_
    rintro next - c v rfl
    simp only [visitNode, comeTo]
    split
    · rfl
    · cases hc : category? next with
      | some category =>
        simp only [List.foldl_append, List.foldl_cons, List.foldl_nil, ReducedGraph.addControl,
          ControlSearch.record]
        split <;> rfl
      | none =>
        simp only [ih, List.foldl_append]

/-- Where a search over all edges goes on from a node that it has come to. -/
def GoesOn (g : BehaviorGraph) (category? : NodeId → Option Category) (n t : NodeId) : Prop :=
  category? n = none ∧ t ∈ g.successors n

/-- What the search has done between two moments: it has gone on from the nodes seen since that are
not sensitive, and the others are finds. -/
structure Visit.Explores (g : BehaviorGraph) (category? : NodeId → Option Category)
    (before after : Visit) : Prop where
  seen : Explored (g.GoesOn category?) before.seen after.seen
  finds : before.finds ⊆ after.finds
  found : ∀ n ∈ after.seen, n ∉ before.seen → (category? n).isSome →
    ∃ f ∈ after.finds, f.target = n

theorem Visit.Explores.refl (v : Visit) : Visit.Explores g category? v v :=
  ⟨.refl _, List.Subset.refl _, fun _ hn hnot => absurd hn hnot⟩

theorem Visit.Explores.trans {u v w : Visit} (h : Visit.Explores g category? u v)
    (h' : Visit.Explores g category? v w) : Visit.Explores g category? u w := by
  refine ⟨h.seen.trans h'.seen, List.Subset.trans h.finds h'.finds, fun n hn hnot hsome => ?_⟩
  by_cases hv : n ∈ v.seen
  · obtain ⟨f, hf, rfl⟩ := h.found n hv hnot hsome
    exact ⟨f, h'.finds hf, rfl⟩
  · exact h'.found n hn hv hsome

/-- Coming to one node, if going on from there sees all that follows it. -/
theorem visitNode_explores (path : List NodeId) (deeper : NodeId → List NodeId → Visit) (v : Visit)
    (next : NodeId) (hdeeper : next ∉ v.seen → category? next = none →
      Visit.Explores g category? { seen := next :: v.seen } (deeper next (next :: v.seen)) ∧
        ∀ t ∈ g.successors next, t ∈ (deeper next (next :: v.seen)).seen) :
    Visit.Explores g category? v (visitNode category? path deeper v next) ∧
      next ∈ (visitNode category? path deeper v next).seen := by
  unfold visitNode
  split
  · next hn => exact ⟨.refl v, hn⟩
  · next hn =>
    split
    · next category hc =>
      refine ⟨⟨.cons (.refl _) ?_, List.subset_append_left .., ?_⟩, List.mem_cons_self ..⟩
      · rintro t ⟨hplain, -⟩
        rw [hc] at hplain
        cases hplain
      · intro n hm hnot _
        rcases List.mem_cons.mp hm with rfl | hm
        · exact ⟨_, List.mem_append_right _ (List.mem_singleton_self _), rfl⟩
        · exact absurd hm hnot
    · next hc =>
      obtain ⟨hbelow, hsucc⟩ := hdeeper hn hc
      refine ⟨⟨hbelow.seen.cons fun t ht => hsucc t ht.2, List.subset_append_left .., ?_⟩,
        hbelow.seen.seen (List.mem_cons_self ..)⟩
      intro n hm hnot hsome
      have hnn : n ≠ next := by
        rintro rfl
        rw [hc] at hsome
        cases hsome
      obtain ⟨f, hf, rfl⟩ := hbelow.found n hm (by simp [hnn, hnot]) hsome
      exact ⟨f, List.mem_append_right _ hf, rfl⟩

/-- The search sees everything that follows the node it sets out from. The nodes of `path` differ
and each ends an edge, so the depth is not used up before the edges are. -/
theorem controlVisit_explores (g : BehaviorGraph) (category? : NodeId → Option Category)
    (depth : Nat) (path : List NodeId) (current : NodeId) (seen : List NodeId)
    (hdepth : g.edgeCount < path.length + depth) (hnd : path.Nodup) (hseen : path ⊆ seen)
    (htarget : ∀ n ∈ path, ∃ m, n ∈ g.successors m) :
    Visit.Explores g category? { seen } (g.controlVisit category? depth path current seen) ∧
      ∀ t ∈ g.successors current, t ∈ (g.controlVisit category? depth path current seen).seen := by
  induction depth generalizing path current seen with
  | zero =>
    have hlen : path.length ≤ g.edgeCount := Edges.length_le_size hnd htarget
    omega
  | succ depth ih =>
    rw [controlVisit]
    -- along the successors: those still to come are edges from `current`
    suffices ∀ (nexts : List NodeId) (v : Visit), nexts ⊆ g.successors current → path ⊆ v.seen →
        let after := nexts.foldl (visitNode category? path fun next =>
          g.controlVisit category? depth (path ++ [next]) next) v
        Visit.Explores g category? v after ∧ ∀ t ∈ nexts, t ∈ after.seen from
      this _ _ (List.Subset.refl _) hseen
    intro nexts
    induction nexts with
    | nil => exact fun v _ _ => ⟨.refl v, fun _ ht => nomatch ht⟩
    | cons next nexts ihn =>
      intro v hsub hpath
      obtain ⟨hnext, hnexts⟩ := List.cons_subset.mp hsub
      obtain ⟨hstep, hmem⟩ := visitNode_explores path
        (fun next => g.controlVisit category? depth (path ++ [next]) next) v next (by
          intro hnot _
          apply ih
          · simp only [List.length_append, List.length_singleton]
            omega
          · exact List.nodup_append.mpr ⟨hnd, by simp, by
              rintro a ha b hb rfl
              exact hnot (hpath (List.mem_singleton.mp hb ▸ ha))⟩
          · exact List.append_subset.mpr ⟨fun n hn => List.mem_cons_of_mem _ (hpath hn), by simp⟩
          · intro n hn
            rcases List.mem_append.mp hn with hn | hn
            · exact htarget n hn
            · rw [List.mem_singleton.mp hn]
              exact ⟨current, hnext⟩)
      obtain ⟨hrest, hall⟩ := ihn (visitNode category? path _ v next) hnexts
        (List.Subset.trans hpath hstep.seen.seen)
      refine ⟨hstep.trans hrest, fun t ht => ?_⟩
      rcases List.mem_cons.mp ht with rfl | ht
      · exact hrest.seen.seen hmem
      · exact hall t ht

/-- Each find was seen for the first time, at the end of a route. -/
theorem controlVisit_sound (g : BehaviorGraph) (category? : NodeId → Option Category) (depth : Nat)
    (path : List NodeId) (current : NodeId) (seen : List NodeId) :
    seen ⊆ (g.controlVisit category? depth path current seen).seen ∧
      ∀ f ∈ (g.controlVisit category? depth path current seen).finds, ∃ rest,
        f.path = path ++ rest ∧ g.Route category? .control current rest f.target ∧
          category? f.target = some f.category ∧ f.target ∉ seen := by
  induction depth generalizing path current seen with
  | zero => exact ⟨List.Subset.refl _, fun _ hf => nomatch hf⟩
  | succ depth ih =>
    rw [controlVisit]
    refine List.foldlRecOn (motive := fun v : Visit => seen ⊆ v.seen ∧ ∀ f ∈ v.finds, ∃ rest,
      f.path = path ++ rest ∧ g.Route category? .control current rest f.target ∧
        category? f.target = some f.category ∧ f.target ∉ seen) _ _
      ⟨List.Subset.refl _, fun _ hf => nomatch hf⟩ ?_
    rintro v ⟨hseen, hfinds⟩ next hnext
    have hlead : g.Leads .control current next := leads_control.mpr hnext
    unfold visitNode
    split
    · exact ⟨hseen, hfinds⟩
    · next hnew =>
      split
      · next category hc =>
        refine ⟨fun n hn => List.mem_cons_of_mem _ (hseen hn), fun f hf => ?_⟩
        rcases List.mem_append.mp hf with hf | hf
        · exact hfinds f hf
        · rw [List.mem_singleton] at hf
          subst hf
          exact ⟨[], by simp, .edge hlead, hc, fun hm => hnew (hseen hm)⟩
      · next hc =>
        obtain ⟨hbelow, hsound⟩ := ih (path ++ [next]) next (next :: v.seen)
        refine ⟨fun n hn => hbelow (List.mem_cons_of_mem _ (hseen hn)), fun f hf => ?_⟩
        rcases List.mem_append.mp hf with hf | hf
        · exact hfinds f hf
        · obtain ⟨rest, hpath, hroute, hcat, htarget⟩ := hsound f hf
          exact ⟨next :: rest, by simp [hpath], hroute.cons hlead hc, hcat,
            fun hm => htarget (List.mem_cons_of_mem _ (hseen hm))⟩

theorem controlVisit_start_sound
    (hf : f ∈ (g.controlVisit category? depth [] start [start]).finds) :
    g.Route category? .control start f.path f.target ∧
      category? f.target = some f.category ∧ f.target ≠ start := by
  obtain ⟨rest, hpath, hroute, hcat, htarget⟩ :=
    (controlVisit_sound g category? depth [] start [start]).2 f hf
  rw [List.nil_append] at hpath
  subst hpath
  exact ⟨hroute, hcat, by simpa using htarget⟩

/-- The search goes on along a route from a node that is not sensitive. -/
theorem Route.goesOn (h : g.Route category? .control n between t) (hn : category? n = none) :
    Walk (g.GoesOn category?) n between t := by
  obtain ⟨hwalk, hplain⟩ := h
  induction hwalk with
  | edge hl => exact .edge ⟨hn, leads_control.mp hl⟩
  | step hl _ ih =>
    obtain ⟨hm, hrest⟩ := List.forall_mem_cons.mp hplain
    exact .step ⟨hn, leads_control.mp hl⟩ (ih hm hrest)

/-- Once everything that follows `start` has been seen, so has the end of every route. -/
theorem Visit.Explores.seen_of_route {v : Visit}
    (h : Visit.Explores g category? { seen := [start] } v)
    (hstart : ∀ m ∈ g.successors start, m ∈ v.seen)
    (hroute : g.Route category? .control start between t) : t ∈ v.seen := by
  cases hroute.walk with
  | edge hl => exact hstart t (leads_control.mp hl)
  | step hl hw =>
    obtain ⟨hm, hrest⟩ := List.forall_mem_cons.mp hroute.plain
    have hall := h.seen.cons fun t ht => hstart t ht.2
    exact hall.mem_of_walk (hstart _ (leads_control.mp hl)) (Route.goesOn ⟨hw, hrest⟩ hm)

/-- Every other sensitive node at the end of a route is found. -/
theorem controlVisit_finds (hroute : g.Route category? .control start between t)
    (hsome : (category? t).isSome) (hne : t ≠ start) :
    ∃ f ∈ (g.controlVisit category? (g.edgeCount + 1) [] start [start]).finds, f.target = t := by
  obtain ⟨hexplores, hstart⟩ := controlVisit_explores g category? (g.edgeCount + 1) [] start
    [start] (by simp) List.nodup_nil (by simp) (by simp)
  exact hexplores.found t (hexplores.seen_of_route hstart hroute) (by simpa using hne) hsome

/-! ### Both searches -/

theorem comesTo_searchFromM (c : Category) (r : ReducedGraph) :
    ComesTo check (g.searchFromM check category? start c r) (g.searchFrom category? start c r) :=
  (comesTo_dataFromM _).bind ((comesTo_controlFromM _).bind (comesTo_pure _))

theorem reduced_eq (g : BehaviorGraph) (arena : Arena) :
    g.reduced arena = g.nodes.foldl (fun r start =>
      match g.categoryOf? arena start with
      | some c => g.searchFrom (g.categoryOf? arena) start c r
      | none => r) {} := by
  rw [reduced, reducedM, List.idRun_foldlM]
  rfl

/-- **The checks of a reduction do not change what it comes to.** -/
theorem comesTo_reducedM (g : BehaviorGraph) (arena : Arena) :
    ComesTo check (g.reducedM check arena) (g.reduced arena) := by
  rw [reducedM, reduced_eq]
  refine comesTo_foldlM (fun r start _ => ?_) _
  cases g.categoryOf? arena start with
  | some c => exact comesTo_searchFromM c r
  | none => exact comesTo_pure r

theorem reduce_unlimited {σ : Type} (g : BehaviorGraph) (arena : Arena) :
    g.reduce arena (.unlimited : Deadline σ) = pure (g.reduced arena) :=
  (comesTo_reducedM g arena).eq_pure

theorem eq_reduced_of_reduce {σ : Type} {arena : Arena} {deadline : Deadline σ} {x x' : σ}
    {r : ReducedGraph} (h : (g.reduce arena deadline).run x = (.ok r, x')) :
    r = g.reduced arena :=
  (comesTo_reducedM g arena).eq_of_run h

end BehaviorGraph

end PackageVet
