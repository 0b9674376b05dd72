import PackageVet.Proofs.Build.OwnReturns

/-! What keeps a function from being put in.

A function of the same file that is called by its name is put in, unless a frame of that name is
open in the file. From fresh names on, the open frames are the root and those of the units that are
being put in around the call. So the function is put in where none of these was entered under its
name in its file, and nowhere else: the call is linked to it, it is part of the graph, and it is
noted at the call (`function_put_in_unless_opened`).

The root has a name too: a function of that name is never put in (`rootNamed_left_out`). -/
namespace PackageVet.Building
open BehaviorGraph
open JavaScript (CallShape)

variable {σ : Type} {c : BuildContext σ} {u callee : CodeUnit} {node : ProgramNode}
  {s : BuildState} {services : σ}

/-! ### The call -/

/-- Whether a call, by its name, is one of a function that a unit declares. -/
structure CallsFunction (c : BuildContext σ) (s : BuildState) (node : ProgramNode)
    (callee : CodeUnit) : Prop where
  named : isCallName node.name = true
  notRequire : node.name ≠ "require"
  bare : ∃ name, CallShape.ofCode node.code = .bare name
  found : ∃ i, s.lookup? node.file node.name node.line = some i ∧ i.kind = .functionDeclare ∧
    i.declaration = some callee.id
  known : c.index.get? callee.id = some callee
  /-- The code does not say that it goes elsewhere. -/
  target : ∀ target, c.code.callTarget? node.id = some target → target.id = callee.id

/-- What is to be put in at a call of a function, by whether a frame of its name is open. -/
def called? (s : BuildState) (node : ProgramNode) (callee : CodeUnit) : Option Inlining :=
  if s.isOpen node.file node.name then none else some (.function callee node.file node.name)

theorem run_functionCall (h : c.index.get? callee.id = some callee) :
    (functionCall c node callee.id).run (s, services) =
      (.ok (called? s node callee), s, services) := by
  unfold functionCall called?
  rw [h]
  dsimp only
  rw [run_state_bind]
  split <;> rfl

theorem CallsFunction.run_bareCall (h : CallsFunction c s node callee) :
    ∃ s', (bareCall c node).run (s, services) = (.ok (called? s node callee), s', services) := by
  obtain ⟨i, hfound, hkind, hdeclared⟩ := h.found
  unfold bareCall
  dsimp only
  rw [run_lookup?_bind, hfound]
  dsimp only
  rw [hkind]
  dsimp only
  rw [setCallKind, run_change_bind, hdeclared]
  refine ⟨s.updateNode node.id fun n => { n with callKind := some .functionCall }, ?_⟩
  cases htarget : c.code.callTarget? node.id with
  | none => exact run_functionCall h.known
  | some target =>
    dsimp only
    rw [if_pos (h.target target htarget)]
    exact run_functionCall h.known

/-- A function that is called by its name is put in, unless a frame of the name is open. -/
theorem CallsFunction.run_operation (h : CallsFunction c s node callee) (former : Option NodeId)
    (g : BehaviorGraph) :
    ∃ g' s', (operation c u node former g).run (s, services) =
      (.ok (g', called? s node callee), s', services) := by
  obtain ⟨name, hbare⟩ := h.bare
  obtain ⟨g₁, hop⟩ := operation_call c u node g former h.named h.notRequire
  rw [hop]
  unfold invoke
  rw [setCallKind, run_change_bind, hbare]
  dsimp only
  -- what kind of call it is does not matter to names and frames
  let marked := s.updateNode node.id fun n => { n with callKind := some .call }
  have hmarked : CallsFunction c marked node callee := { h with found := h.found }
  obtain ⟨s', hcalled⟩ : ∃ s', (bareCall c node).run (marked, services) =
      (.ok (called? marked node callee), s', services) := hmarked.run_bareCall
  obtain ⟨g₂, hargs⟩ := run_connectArguments_bind c u node none g₁ (fun _ => _) marked services
  rw [hargs, Effect.run_bind, hcalled]
  exact ⟨g₂, s', rfl⟩

/-! ### Putting the function in -/

variable {code : CodeGraph} {arena : Arena} (hloaded : Loaded code c.index.units arena)
include hloaded

/-- What is left of a function that was put in at a call of a unit: an edge of data, its entrance,
and what is noted at the call. -/
theorem putIn_function {depth : Nat} {n : NodeId} {file name : String} {g g' : BehaviorGraph}
    {t t' : BuildState × σ} (hover : t.1.Over arena) (hu : u ∈ c.index.units) (hn : n ∈ u.nodes)
    (hcallee : c.index.get? callee.id = some callee)
    (h : (putIn (buildWithin c depth) n g (some (.function callee file name))).run t =
      (.ok g', t')) :
    (∃ tags, g'.tags? n callee.id = some tags ∧ "DDG" ∈ tags) ∧ callee.id ∈ g'.nodes ∧
    ∃ link, t'.1.callee? n = some link ∧ link.entrance = callee.id := by
  obtain ⟨graph, after, hgraph, rfl, rfl⟩ := putIn_eq_ok h
  have hentered := hover.enter (.function callee file name)
  have hentrance := (returns_of_buildWithin hloaded hentered hcallee hgraph).1
  have hstart := id_mem_nodes_of_buildWithin hcallee hgraph
  refine ⟨?_, ?_, ?_⟩
  · have hedge : (g.addEdge n graph.entrance ["DDG"]).tags? n callee.id =
        some (mergeTags ((g.tags? n callee.id).getD []) ["DDG"]) := by
      rw [hentrance, tags?_addEdge, if_pos ⟨rfl, rfl⟩]
    obtain ⟨tags, htags, hmore⟩ := (partOf_join_left _ graph).edges _ _ _ hedge
    exact ⟨tags, htags, hmore (mem_mergeTags.mpr (.inr (List.mem_singleton_self _)))⟩
  · by_cases hthere : graph.entrance ∈ g.nodes
    · rw [hentrance] at hthere
      exact (partOf_join_left _ graph).nodes hthere
    · exact ((partOf_putIn g graph n "DDG").2 hthere).nodes hstart
  · have hleft := (leaves_buildWithin (stable_over arena) c depth callee.id).state_of_run hgraph
      hentered
    obtain ⟨known, hknown, -⟩ :=
      hloaded.known (hleft.leave (.function callee file name)) hu hn
    refine ⟨graph.link, ?_, hentrance⟩
    rw [BuildState.callee?_updateNode, if_pos rfl, hknown]
    rfl

/-- What is left of the function in the graph with which the walk goes on after the call. -/
theorem VisitsCall.left_of_function {depth : Nat} {n : NodeId} {file name : String}
    {m m' : Moment σ} {former : Option NodeId} {g₁ : BehaviorGraph} {x : σ} {s₁ : BuildState × σ}
    (hvisit : VisitsCall m n former node) (hu : u ∈ c.index.units) (hn : n ∈ u.nodes)
    (hover : s₁.1.Over arena) (hcallee : c.index.get? callee.id = some callee)
    (htime : InTime c m.services x)
    (hop : (operation c u node former (m.graph.addNode n)).run (m.state, x) =
      (.ok (g₁, some (.function callee file name)), s₁))
    (hgoes : Goes c (buildWithin c depth) u m m') :
    (∃ tags, m'.graph.tags? n callee.id = some tags ∧ "DDG" ∈ tags) ∧
    callee.id ∈ m'.graph.nodes ∧
    ∃ g₂ s₂, (putIn (buildWithin c depth) n g₁ (some (.function callee file name))).run s₁ =
        (.ok g₂, s₂) ∧
      (∃ link, s₂.1.callee? n = some link ∧ link.entrance = callee.id) ∧
      (lambdaArgument? c node = none → m'.state = s₂.1) := by
  obtain ⟨x', g₁', called?', s₁', g₂, s₂, htime', hop', hput, hlambda⟩ := hvisit.parts hgoes
  cases htime.unique htime'
  cases hop.symm.trans hop'
  obtain ⟨⟨tags, htags, htag⟩, hnode, hlink⟩ := putIn_function hloaded hover hu hn hcallee hput
  -- a lambda that is given to the function is put in afterwards, and takes nothing away
  have hpart := (keeps_putIn stable_sameCode (leaves_buildWithin stable_sameCode c depth) n g₂
    (lambdaArgument? c node)).value _ _ _ (congrArg Prod.fst hlambda)
  obtain ⟨more, hmore, hsub⟩ := hpart.edges _ _ _ htags
  refine ⟨⟨more, hmore, hsub htag⟩, hpart.nodes hnode, g₂, s₂, hput, hlink, fun hnone => ?_⟩
  rw [hnone] at hlambda
  exact congrArg (Prod.fst ∘ Prod.snd) hlambda.symm

/-- The names under which no function of a file is put in: that of the root, and those under which
units around were entered in the file. -/
def Opened (around : List Inlining) (file name : String) : Prop :=
  name = "program" ∨ ∃ i ∈ around, i.frame? = some (file, name)

/-- In every build from fresh names on, however deep it is under way, a function that is called by
its name is put in, unless its name is opened in its file. Where the walk goes on after a call at
which it is put in, an edge of data leads to the function, its entrance is in the graph, and it is
noted at the call. -/
theorem function_put_in_unless_opened (hover : s.Over arena) {id n : NodeId}
    {around : List Inlining} {b : Ongoing σ} {m : Moment σ} {former : Option NodeId}
    (hb : Underway c id (s.initializeScopes c.index c.sources) services around b)
    (hm : b.Passes c m) (hvisit : VisitsCall m n former node)
    (hcalls : CallsFunction c m.state node callee) (x : σ) :
    ∃ g₁ i? s₁, (operation c b.unit node former (m.graph.addNode n)).run (m.state, x) =
        (.ok (g₁, i?), s₁) ∧
      (Opened around node.file node.name → i? = none) ∧
      (¬ Opened around node.file node.name → i? = some (.function callee node.file node.name) ∧
        ∀ m', InTime c m.services x → Goes c (buildWithin c b.depth) b.unit m m' →
          (∃ tags, m'.graph.tags? n callee.id = some tags ∧ "DDG" ∈ tags) ∧
          callee.id ∈ m'.graph.nodes ∧
          ∃ g₂ s₂, (putIn (buildWithin c b.depth) n g₁ i?).run s₁ = (.ok g₂, s₂) ∧
            (∃ link, s₂.1.callee? n = some link ∧ link.entrance = callee.id) ∧
            (lambdaArgument? c node = none → m'.state = s₂.1)) := by
  have hopened : m.state.isOpen node.file node.name = true ↔
      Opened around node.file node.name := by
    rw [hb.isOpen_iff hm, BuildState.isOpen_initializeScopes]
    exact or_comm
  obtain ⟨g₁, s₁, hop⟩ := hcalls.run_operation former (m.graph.addNode n) (u := b.unit)
  refine ⟨g₁, _, _, hop, fun h => if_pos (hopened.mpr h), fun h => ?_⟩
  have hcalled : called? m.state node callee = some (.function callee node.file node.name) :=
    if_neg (hopened.not.mpr h)
  rw [hcalled] at hop ⊢
  refine ⟨rfl, fun m' htime hgoes => ?_⟩
  have hu := UnitIndex.mem_units_of_get? hb.get?_unit
  have hn : n ∈ b.unit.nodes :=
    hloaded.mem_of_reaches hu ((reaches_of_going hm).2 _ (List.mem_of_mem_head? hvisit.top))
  have hstart : (s.initializeScopes c.index c.sources).Over arena := by
    intro n hn
    rw [BuildState.arena_initializeScopes]
    exact hover n hn
  have henters : Enters c (buildWithin c b.depth) b.unit m _ (s₁, x) :=
    .called hvisit htime hop
  have hthere : s₁.Over arena :=
    (Carried.of_stable (stable_over arena)).enters henters (hb.over hstart hm)
  exact hvisit.left_of_function hloaded hu hn hthere hcalls.known htime hop hgoes

omit hloaded

/-! ### A function with the name of the root -/

/-- A function that the top level calls by its name. -/
def calling (name : String) : Sample where
  code := .sketch
    [(1, "METHOD", [("NAME", ":program"), ("FILENAME", "index.js")]),
      (2, "CALL", [("NAME", name), ("CODE", name ++ "()")]),
      (10, "METHOD", [("NAME", name), ("FILENAME", "index.js")]),
      (11, "CALL", [("NAME", "send"), ("CODE", "send()")])] []
  exports := ["digraph \x7b 1 -> 2 [label=CFG] \x7d", "digraph \x7b 10 -> 11 [label=CFG] \x7d"]

/-- Whether, at a moment, the top level comes to the call of the function. -/
def ComesToCall (name : String) (m : Moment Unit) (node : ProgramNode) : Prop :=
  m.stack.head? = some (2, some 1) ∧ 2 ∉ m.visited ∧ m.state.arena.get? 2 = some node ∧
  node.entrance = false ∧ node.kind = "CALL" ∧ node.name = name ∧
  CallShape.ofCode node.code = .bare name ∧ (calling name).code.callTarget? node.id = none ∧
  ∃ i ∈ m.state.lookup? node.file node.name node.line,
    i.kind = .functionDeclare ∧ i.declaration = some 10

instance (name : String) (m : Moment Unit) (node : ProgramNode) :
    Decidable (ComesToCall name m node) :=
  inferInstanceAs (Decidable (_ ∧ _ ∧ _ ∧ _ ∧ _ ∧ _ ∧ _ ∧ _ ∧ _))

theorem ComesToCall.visits {name : String} {m : Moment Unit} {node : ProgramNode}
    (h : ComesToCall name m node) : VisitsCall m 2 (some 1) node := by
  obtain ⟨htop, hfirst, hknown, hinside, hkind, -⟩ := h
  exact ⟨htop, hfirst, hknown, hinside, hkind⟩

theorem ComesToCall.calls {name : String} {m : Moment Unit} {node : ProgramNode}
    (h : ComesToCall name m node) (hname : isCallName name = true) (hrequire : name ≠ "require")
    (hunit : (calling name).hasUnit 10 = true) :
    CallsFunction (calling name).context m.state node ((calling name).unit 10) := by
  obtain ⟨-, -, -, -, -, rfl, hbare, htarget, i, hfound, hkind, hdeclared⟩ := h
  have hid := Sample.id_unit hunit
  have hdeclares := hdeclared.trans (congrArg some hid.symm)
  refine ⟨hname, hrequire, ⟨_, hbare⟩, ⟨i, hfound, hkind, hdeclares⟩, ?_, ?_⟩
  · rw [hid]
    exact Sample.get?_unit hunit
  · intro target heq
    cases htarget.symm.trans heq

/-- The build of the top level, which is under way alone. -/
def atTopLevel (p : Sample) : Ongoing Unit :=
  ⟨p.unit 1, maxDepth p.context - 1, p.state, ()⟩

theorem underway_atTopLevel {p : Sample} (h : p.hasUnit 1 = true) :
    Underway p.context 1 p.state () [] (atTopLevel p) :=
  .outermost (Sample.get?_unit h)

theorem computed_callingStart :
    (calling "start").hasUnit 1 = true ∧ (calling "start").hasUnit 10 = true ∧
    ∃ m ∈ (calling "start").moment? 1 1, ∃ node ∈ m.state.arena.get? 2,
      ComesToCall "start" m node ∧
      (m.next? (calling "start").context (inner (calling "start").context)
        ((calling "start").unit 1)).isSome = true := by
  decide +kernel

theorem function_put_in_unless_opened_start :
    ∃ m node m', (atTopLevel (calling "start")).Passes (calling "start").context m ∧
      VisitsCall m 2 (some 1) node ∧
      CallsFunction (calling "start").context m.state node ((calling "start").unit 10) ∧
      Goes (calling "start").context (inner (calling "start").context) ((calling "start").unit 1)
        m m' ∧
      (∃ tags, m'.graph.tags? 2 10 = some tags ∧ "DDG" ∈ tags) ∧ 10 ∈ m'.graph.nodes := by
  obtain ⟨htop, hunit, m, hm, node, -, hcomes, hnext⟩ := computed_callingStart
  obtain ⟨m', hm'⟩ := Option.isSome_iff_exists.mp hnext
  have hgoes := goes_of_next? hm'
  have hpasses : (atTopLevel (calling "start")).Passes (calling "start").context m :=
    Sample.passes hm
  have hcalls := hcomes.calls (by decide) (by decide) hunit
  have hname : node.name = "start" := hcomes.2.2.2.2.2.1
  have hclosed : ¬ Opened [] node.file node.name := by
    simp [Opened, hname]
  obtain ⟨g₁, i?, s₁, -, -, hput⟩ := function_put_in_unless_opened (Sample.loaded htop)
    (s := { arena := (calling "start").read.2 }) (fun _ _ => rfl) (underway_atTopLevel htop)
    hpasses hcomes.visits hcalls ()
  obtain ⟨hedge, hnode, -⟩ := (hput hclosed).2 m' rfl hgoes
  rw [Sample.id_unit hunit] at hedge hnode
  exact ⟨m, node, m', hpasses, hcomes.visits, hcalls, hgoes, hedge, hnode⟩

def rootNamedGraph : BehaviorGraph where
  entrance := 1
  nodes := [1, 2]
  edges := ⟨[((1, 2), ["CFG"])]⟩

theorem computed_rootNamed :
    (calling "program").hasUnit 1 = true ∧ (calling "program").hasUnit 10 = true ∧
    (calling "program").graph? 1 = some rootNamedGraph ∧
    ∃ m ∈ (calling "program").moment? 1 1, ∃ node ∈ m.state.arena.get? 2,
      ComesToCall "program" m node := by
  decide +kernel

/-- A function that has the name of the root is called while only the top level is being built, and
is not put in. -/
theorem rootNamed_left_out :
    Loaded (calling "program").code (calling "program").context.index.units
      (calling "program").read.2 ∧
    Underway (calling "program").context 1 (calling "program").state () []
      (atTopLevel (calling "program")) ∧
    (∃ m node, (atTopLevel (calling "program")).Passes (calling "program").context m ∧
      VisitsCall m 2 (some 1) node ∧
      CallsFunction (calling "program").context m.state node ((calling "program").unit 10)) ∧
    (calling "program").graph? 1 = some rootNamedGraph ∧ rootNamedGraph.hasEdge 2 10 = false ∧
    10 ∉ rootNamedGraph.nodes := by
  obtain ⟨htop, hunit, hgraph, m, hm, node, -, hcomes⟩ := computed_rootNamed
  exact ⟨Sample.loaded htop, underway_atTopLevel htop,
    ⟨m, node, Sample.passes hm, hcomes.visits, hcomes.calls (by decide) (by decide) hunit⟩, hgraph,
    by decide, by decide⟩

end PackageVet.Building
