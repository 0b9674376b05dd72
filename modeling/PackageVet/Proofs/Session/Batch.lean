import PackageVet.Analysis
import PackageVet.Proofs.Build.Accord
import PackageVet.Proofs.Build.Names
import PackageVet.Proofs.Knowledge.Sharing
import PackageVet.Proofs.Matching.Steady
import PackageVet.Proofs.Session.InStep
import PackageVet.Proofs.Session.Turns

/-! Packages that are analysed one after another.

All packages of a batch share one store, and what one makes known is known to the next. Its analysis
then starts from tables with some more packages in them. It stays in step with an analysis from the
tables as they were (`instep_runPhases`, `Paired`), provided that it would itself make known
whatever it asks for and the earlier package made known: then it comes to the same session
(`vet_after`).

Without that, a package may be judged by what another one required (`vet_after_differs`). -/
namespace PackageVet
open KnowledgeTables

variable {ω : Type} {r : Registry} {web : Web (KnowledgeTables × ω)} {content : String → Bool}
  {base : KnowledgeTables} {extra : String → Prop} {sources : PackageSources}
  {place : String → Prop}

/-- Whether every module that is asked for, and on which two tables do not agree, is one that is
made known when it is asked for. -/
def Settles (content : String → Bool) (sources : PackageSources) (place : String → Prop)
    (base : KnowledgeTables) (extra : String → Prop) (asked : List String) : Prop :=
  ∀ module_ ∈ asked, ∀ t₁ t₂, Shared base extra t₁ t₂ →
    t₁.classify module_ ≠ t₂.classify module_ →
    stripScheme module_ = module_ ∧ content (registryName module_ sources.dependencies) = true ∧
    ∀ file, place file → sources.isLocalFile file module_ = false

/-- What holds of two builds of one package, the second next to the greater tables. -/
structure Paired (content : String → Bool) (sources : PackageSources) (place : String → Prop)
    (base : KnowledgeTables) (extra : String → Prop) (s : BuildState)
    (x y : KnowledgeTables × ω) : Prop where
  tables : Shared base extra x.1 y.1
  /-- On the modules that names stand for the tables agree. -/
  names : s.Knows fun _ i => i.NamesModule →
    x.1.classify (i.module?.getD "") = y.1.classify (i.module?.getD "")
  refused : ∀ module_ ∈ s.unregistered, content (registryName module_ sources.dependencies) = false
  files : ∀ id node, s.arena.get? id = some node → place node.file

namespace Paired
variable {s : BuildState} {x y x' y' : KnowledgeTables × ω}

theorem of_tables (h : Paired content sources place base extra s x y) (hx : x'.1 = x.1)
    (hy : y'.1 = y.1) : Paired content sources place base extra s x' y' := by
  obtain ⟨htables, hnames, hrefused, hfiles⟩ := h
  exact ⟨hx ▸ hy ▸ htables, hx ▸ hy ▸ hnames, hrefused, hfiles⟩

theorem addBoth (h : Paired content sources place base extra s x y) (module_ : String) (w w' : ω) :
    Paired content sources place base extra s (x.1.addThirdParty module_, w)
      (y.1.addThirdParty module_, w') where
  tables := h.tables.addBoth module_
  names file := (h.names file).mono fun _ hi hmodule =>
    h.tables.classify_addBoth (hi hmodule) module_
  refused := h.refused
  files := h.files

theorem addFirst (h : Paired content sources place base extra s x y) {module_ : String}
    (hknown : module_ ∈ y.1.thirdParty) (w : ω) :
    Paired content sources place base extra s (x.1.addThirdParty module_, w) y where
  tables := h.tables.addFirst hknown
  names file := (h.names file).mono fun _ hi hmodule =>
    h.tables.classify_addFirst (hi hmodule) hknown
  refused := h.refused
  files := h.files

theorem refuse (h : Paired content sources place base extra s x y) {module_ : String}
    (hrefused : content (registryName module_ sources.dependencies) = false) :
    Paired content sources place base extra
      { s with unregistered := module_ :: s.unregistered } x y where
  tables := h.tables
  names := h.names
  refused := List.forall_mem_cons.mpr ⟨hrefused, h.refused⟩
  files := h.files

theorem updateNode (h : Paired content sources place base extra s x y) {id : NodeId}
    {change : ProgramNode → ProgramNode} (hchange : ∀ n, (change n).unmarked = n.unmarked) :
    Paired content sources place base extra (s.updateNode id change) x y where
  tables := h.tables
  names := h.names
  refused := h.refused
  files other node hnode := by
    have hunmarked := s.arena.unmarked_modify id hchange other
    rw [Arena.unmarked, Arena.unmarked] at hunmarked
    have hget : Table.get? (s.arena.modify id change) other = some node := hnode
    rw [hget] at hunmarked
    obtain ⟨node', hnode', heq⟩ := Option.map_eq_some_iff.mp hunmarked.symm
    have hfile : node'.file = node.file := show node'.unmarked.file = node.unmarked.file by rw [heq]
    exact hfile ▸ h.files other node' hnode'

theorem enter (h : Paired content sources place base extra s x y) (i : Inlining) :
    Paired content sources place base extra (i.enter s) x y where
  tables := h.tables
  names := h.names.enter i
  refused := by
    have hsame : (i.enter s).unregistered = s.unregistered := by
      cases i <;> exact BuildState.unregistered_markAnalyzed _ _
    rw [hsame]
    exact h.refused
  files := by
    rw [Inlining.arena_enter]
    exact h.files

theorem leave (h : Paired content sources place base extra s x y) (i : Inlining) :
    Paired content sources place base extra (i.leave s) x y where
  tables := h.tables
  names := h.names.leave i
  refused := by
    have hsame : (i.leave s).unregistered = s.unregistered := by cases i <;> rfl
    rw [hsame]
    exact h.refused
  files := by
    rw [Inlining.arena_leave]
    exact h.files

end Paired

/-! ### Builds -/

namespace Building
variable {c : BuildContext (KnowledgeTables × ω)} {s : BuildState} {x : KnowledgeTables × ω}
  {module_ : String}

theorem run_register_of_refused (h : s.unregistered.contains module_ = true) :
    (register c module_).run (s, x) = (.ok false, s, x) := by
  refine Effect.run_bind_eq_ok.mpr ⟨s, (s, x), rfl, ?_⟩
  rw [if_pos h]
  rfl

/-- A module that was not refused before is refused afterwards, if the store does not take it. -/
theorem run_register {found : Bool} {x' : KnowledgeTables × ω}
    (h : s.unregistered.contains module_ = false)
    (hrun : (c.knowledge.registerModule module_ c.sources.dependencies).run x = (.ok found, x')) :
    (register c module_).run (s, x) =
      (.ok found, if found then s else { s with unregistered := module_ :: s.unregistered }, x') := by
  refine Effect.run_bind_eq_ok.mpr ⟨s, (s, x), rfl, ?_⟩
  rw [if_neg (by rw [h]; decide)]
  refine Effect.run_bind_eq_ok.mpr ⟨found, (s, x'), ?_, ?_⟩
  · rw [ExceptT.run_mk]
    dsimp only
    rw [hrun]
  · cases found <;> rfl

theorem run_classify (hc : c.knowledge = r.shared web) (s : BuildState) (module_ : String)
    (x : KnowledgeTables × ω) :
    (classify c module_).run (s, x) = (.ok (x.1.classify module_), s, x) := by
  rw [classify, run_ask, hc]
  rfl

variable (hserves : r.Serves web content) (hc : c.knowledge = r.shared web)
include hserves hc

/-- What the registry has is known afterwards. -/
theorem run_register_shared (h : s.unregistered.contains module_ = false) :
    ∃ w, (register c module_).run (s, x) =
      if content (registryName module_ c.sources.dependencies) then
        (.ok true, s, (x.1.addThirdParty module_, w))
      else (.ok false, { s with unregistered := module_ :: s.unregistered }, (x.1, w)) := by
  obtain ⟨w, hrun⟩ := Registry.run_registerModule hserves module_ c.sources.dependencies x
  rw [← hc] at hrun
  refine ⟨w, ?_⟩
  rw [run_register h hrun]
  cases content (registryName module_ c.sources.dependencies) <;> rfl

/-- Registering goes on alike on both sides, and the tables go on agreeing where they do. -/
theorem instep_register (module_ known : String) :
    InStep
      (fun s x y => Paired content c.sources place base extra s x y ∧
        x.1.classify known = y.1.classify known)
      (fun _ x _ => base.Grown x.1) (register c module_) (register c module_)
      fun _ s x y => Paired content c.sources place base extra s x y ∧
        x.1.classify known = y.1.classify known where
  run {s x y} := by
    rintro ⟨hs, hsame⟩
    cases hseen : s.unregistered.contains module_ with
    | true =>
      exact ⟨_, _, _, _, run_register_of_refused hseen, run_register_of_refused hseen, hs, hsame⟩
    | false =>
      obtain ⟨w, hx⟩ := run_register_shared (x := x) hserves hc hseen
      obtain ⟨w', hy⟩ := run_register_shared (x := y) hserves hc hseen
      cases hfound : content (registryName module_ c.sources.dependencies) with
      | true =>
        rw [hfound, if_pos rfl] at hx hy
        exact ⟨_, _, _, _, hx, hy, hs.addBoth module_ w w', hs.tables.classify_addBoth hsame module_⟩
      | false =>
        rw [hfound, if_neg (by decide)] at hx hy
        exact ⟨_, _, _, _, hx, hy, (hs.refuse hfound).of_tables rfl rfl, hsame⟩

omit hserves in
theorem instep_classify (module_ : String) :
    InStep
      (fun s x y => Paired content c.sources place base extra s x y ∧
        x.1.classify module_ = y.1.classify module_)
      (fun _ x _ => base.Grown x.1) (classify c module_) (classify c module_)
      fun _ s x y => Paired content c.sources place base extra s x y ∧
        x.1.classify module_ = y.1.classify module_ where
  run {s x y} hs :=
    ⟨_, _, _, _, run_classify hc s module_ x, by rw [run_classify hc, hs.2], hs⟩

/-- A module that is asked for is known on both sides from then on, or on neither. -/
theorem instep_classifyInto {module_ : String} (i : Identifier)
    (hsettles : Settles content c.sources place base extra c.code.asked)
    (hasked : module_ ∈ c.code.asked) :
    InStep (Paired content c.sources place base extra) (fun _ x _ => base.Grown x.1)
      (classifyInto c module_ i) (classifyInto c module_ i)
      fun j s x y => Paired content c.sources place base extra s x y ∧
        x.1.classify module_ = y.1.classify module_ ∧ j.declaration = i.declaration ∧
        j.kind = i.kind where
  run {s x y} hs := by
    rcases hs.tables.classify_eq_or module_ with hsame | ⟨hfree, hsecond, hfirst⟩
    · -- both sides go the same way
      have hstep : InStep
          (fun s x y => Paired content c.sources place base extra s x y ∧
            x.1.classify module_ = y.1.classify module_)
          (fun _ x _ => base.Grown x.1) (classifyInto c module_ i) (classifyInto c module_ i)
          fun j s x y => Paired content c.sources place base extra s x y ∧
            x.1.classify module_ = y.1.classify module_ ∧ j.declaration = i.declaration ∧
            j.kind = i.kind := by
        unfold classifyInto
        refine (instep_classify hc module_).bind fun class_ => ?_
        cases class_ with
        | builtin => exact .pure fun _ _ _ hs => ⟨hs.1, hs.2, rfl, rfl⟩
        | thirdParty => exact .pure fun _ _ _ hs => ⟨hs.1, hs.2, rfl, rfl⟩
        | unknown =>
          exact (instep_register hserves hc module_ module_).bind fun _ =>
            .pure fun _ _ _ hs => ⟨hs.1, hs.2, rfl, rfl⟩
      exact hstep.run ⟨hs, hsame⟩
    · -- the first side registers what the second knows already
      obtain ⟨hclass₁, hclass₂⟩ :=
        KnowledgeTables.classify_ne_of_free hs.tables.more hfree hsecond hfirst
      obtain ⟨hstrip, hfound, -⟩ :=
        hsettles module_ hasked x.1 y.1 hs.tables (by rw [hclass₁, hclass₂]; decide)
      have hseen : s.unregistered.contains module_ = false := by
        rw [← Bool.not_eq_true, List.contains_iff_mem]
        intro hmem
        rw [hs.refused module_ hmem] at hfound
        cases hfound
      obtain ⟨w, hregister⟩ := run_register_shared (x := x) hserves hc hseen
      rw [hfound, if_pos rfl] at hregister
      have hknown : module_ ∈ y.1.thirdParty := hstrip ▸ hsecond
      refine ⟨.ok { i with isThirdParty := true }, s, (x.1.addThirdParty module_, w), y, ?_, ?_,
        hs.addFirst hknown w, ?_, rfl, rfl⟩
      · refine Effect.run_bind_eq_ok.mpr ⟨.unknown, (s, x), ?_, ?_⟩
        · rw [run_classify hc, hclass₁]
        · exact Effect.run_bind_eq_ok.mpr ⟨true, _, hregister, rfl⟩
      · refine Effect.run_bind_eq_ok.mpr ⟨.thirdParty, (s, y), ?_, rfl⟩
        rw [run_classify hc, hclass₂]
      · have hfree' := (free_iff (x.1.grown_addThirdParty module_)).mpr hfree
        rw [classify_of_free hfree', hclass₂]
        exact if_pos (mem_thirdParty_addThirdParty.mpr (.inl hstrip))

omit hserves hc in
theorem near_of_shared {t₁ t₂ : KnowledgeTables} (h : Shared base extra t₁ t₂) (module_ : String) :
    (t₁.classify module_).Near (t₂.classify module_) ∧
      (t₁.classify module_ = .builtin → t₁.classify module_ = t₂.classify module_) := by
  rcases h.classify_eq_or module_ with hsame | ⟨hfree, hsecond, hfirst⟩
  · rw [hsame]
    exact ⟨.refl _, fun _ => rfl⟩
  · obtain ⟨h₁, h₂⟩ := KnowledgeTables.classify_ne_of_free h.more hfree hsecond hfirst
    rw [h₁, h₂]
    exact ⟨.other (by decide) (by decide), fun h => by cases h⟩

/-- Builds next to tables that share knowledge are in step. -/
def sharingAccord (htime : Effect.Steady Prod.fst c.deadline.check)
    (hsettles : Settles content c.sources place base extra c.code.asked) : Accord c where
  holds := Paired content c.sources place base extra
  fails _ x _ := base.Grown x.1
  same module_ x y := x.1.classify module_ = y.1.classify module_
  place := place
  declared _ _ := True
  visits _ := True
  enters _ := True
  service hs := hs.tables.grown
  timeout hs := hs.tables.grown
  time _ := htime.uniform fun hx hy hs => hs.of_tables hx hy
  mark h hs := hs.updateNode h
  declare _ hsame hs := ⟨hs.tables, hs.names.declare hsame, hs.refused, hs.files⟩
  found hs hfound := ⟨((hs.names _).lookup? hfound).1, fun _ => trivial⟩
  known hs hnode := hs.files _ _ hnode
  function _ _ _ _ := trivial
  localModule _ _ _ := trivial
  program _ _ _ := trivial
  lambda _ _ _ _ _ := trivial
  sensitive qualifier call derivation hint := ⟨fun {s x y} hs => by
    refine ⟨.ok (x.1.sensitiveCall qualifier call derivation), s, x, y, ?_, ?_, hs⟩
    · rw [sensitiveCall, run_ask, hc]
      rfl
    · rw [sensitiveCall, run_ask, hc, ← hs.tables.more.sensitiveCall]
      rfl⟩
  platform module_ hs := by
    obtain ⟨hnear, hbuiltin⟩ := near_of_shared hs.tables module_
    rw [hc]
    exact .inl ⟨_, _, _, _, rfl, rfl, hnear, hs, hbuiltin⟩
  recognize := instep_classify hc
  registers module_ := (instep_register hserves hc module_ module_).mono fun _ _ _ _ hs => hs.1
  origin i hasked _ _ := instep_classifyInto hserves hc i hsettles hasked
  localFile {s x y file module_} hasked hplace hlocal hs := by
    refine Classical.byContradiction fun hne => ?_
    rw [(hsettles module_ hasked x.1 y.1 hs.tables hne).2.2 file hplace] at hlocal
    cases hlocal

theorem free_sharingAccord (htime : Effect.Steady Prod.fst c.deadline.check)
    (hsettles : Settles content c.sources place base extra c.code.asked) :
    (sharingAccord hserves hc htime hsettles).Free where
  visits _ := trivial
  enter i hs := Paired.enter hs i
  leave i hs := Paired.leave hs i
  nesting hs := Paired.tables hs |>.grown

end Building

/-! ### Sessions -/

namespace Splitting

/-- Whether the nodes of an arena stand in given files, next to given code. -/
structure Placed (place : String → Prop) (nodes : Table NodeId CodeNode) (s : Splitting) : Prop where
  files : ∀ id node, s.arena.get? id = some node → place node.file
  code : s.code.nodes = nodes

variable {nodes : Table NodeId CodeNode} {s : Splitting}

theorem Placed.extendChain (h : s.Placed place nodes) {node : ProgramNode}
    (hnode : place node.file) (previous : NodeId) (categories : List Category) :
    (Splitting.extendChain node previous categories s).Placed place nodes := by
  induction categories generalizing s previous with
  | nil => exact h
  | cons category rest ih =>
    refine ih (s := { graph := _, arena := s.arena.insertNode (part node s.code.freshId.1 category)
                      code := s.code.freshId.2 }) ⟨fun id found hfound => ?_, h.code⟩ _
    rw [Arena.insertNode, Table.get?_insert] at hfound
    split at hfound
    · cases hfound
      exact hnode
    · exact h.files id found hfound

theorem Placed.splitNode (h : s.Placed place nodes) (id : NodeId) :
    (Splitting.splitNode s id).Placed place nodes := by
  unfold Splitting.splitNode
  split
  · next node hnode =>
    have hplace := h.files id node hnode
    split
    · next first second rest _ =>
      have hmarked : Placed place nodes
          { s with arena := s.arena.modify id fun n => n.markSensitive [first] } := by
        refine ⟨fun other found hfound => ?_, h.code⟩
        rw [Table.get?_modify] at hfound
        split at hfound
        · obtain ⟨before, hbefore, rfl⟩ := Option.map_eq_some_iff.mp hfound
          exact h.files other before hbefore
        · exact h.files other found hfound
      exact hmarked.extendChain hplace id (second :: rest)
    · exact h
  · exact h

theorem Placed.splitAll (h : s.Placed place nodes) :
    (Splitting.splitAll s).Placed place nodes :=
  List.foldlRecOn (motive := fun t : Splitting => t.Placed place nodes) _ _ h
    fun _ ht id _ => ht.splitNode id

end Splitting

namespace Session
variable {c : SessionContext (KnowledgeTables × ω)} {code : CodeGraph}

/-- What holds of two analyses of one package, the second next to the greater tables. -/
def Alongside (content : String → Bool) (sources : PackageSources) (place : String → Prop)
    (base : KnowledgeTables) (extra : String → Prop) (code : CodeGraph) (s : Session)
    (x y : KnowledgeTables × ω) : Prop :=
  Paired content sources place base extra s.state x y ∧ s.code.nodes = code.nodes

/-- With services that always say the same, analyses next to tables that share knowledge are in
step. -/
theorem kept_alongside (hserves : r.Serves web content) (hc : c.knowledge = r.shared web)
    (htime : Effect.Steady Prod.fst c.deadline.check)
    (hkeep : ∀ p m arena report, Effect.Steady Prod.fst (c.keep p m arena report))
    (hsettles : Settles content c.sources place base extra code.asked) :
    Kept c (Alongside content c.sources place base extra code) fun _ x _ => base.Grown x.1 where
  build unit := ⟨fun {s x y} hs => by
    have hasked : Settles content c.sources place base extra (s.context c).code.asked := by
      show Settles content c.sources place base extra s.code.asked
      unfold CodeGraph.asked
      rw [hs.2]
      exact hsettles
    have hfree := Building.free_sharingAccord (c := s.context c) hserves hc htime hasked
    obtain ⟨result, state, x', y', hx, hy, hcame⟩ :=
      (hfree.instep_buildWithin (Building.maxDepth (s.context c)) unit).run hs.1
    refine ⟨result, { s with state }, x', y', ?_, ?_, ?_⟩
    · rw [run_build, Building.build, hx]
    · rw [run_build, Building.build, hy]
    · cases result with
      | ok g => exact ⟨hcame, hs.2⟩
      | error e => exact hcame⟩
  note hcode hstate hs := by
    unfold Alongside
    rw [hcode, hstate]
    exact hs
  split split g hsplit hs := by
    have hplaced : split.Placed place code.nodes :=
      hsplit ▸ Splitting.Placed.splitAll ⟨hs.1.files, hs.2⟩
    exact ⟨⟨hs.1.tables, hs.1.names, hs.1.refused, hplaced.files⟩, hplaced.code⟩
  mark unit hs := by
    refine ⟨⟨hs.1.tables, hs.1.names.markAnalyzed unit, ?_, ?_⟩, hs.2⟩
    · rw [BuildState.unregistered_markAnalyzed]
      exact hs.1.refused
    · rw [BuildState.arena_markAnalyzed]
      exact hs.1.files
  scopes hs := by
    refine ⟨⟨hs.1.tables, BuildState.knows_initializeScopes _ _ fun u _ h => ?_, ?_, ?_⟩, hs.2⟩
    · simp [Identifier.NamesModule, Identifier.ofFunction] at h
    · rw [BuildState.unregistered_initializeScopes]
      exact hs.1.refused
    · rw [BuildState.arena_initializeScopes]
      exact hs.1.files
  time _ := htime.uniform fun hx hy hs => ⟨hs.1.of_tables hx hy, hs.2⟩
  keep _ p m arena report :=
    (hkeep p m arena report).uniform fun hx hy hs => ⟨hs.1.of_tables hx hy, hs.2⟩
  fails _ hs := hs.1.tables.grown

end Session

/-! ### Packages -/

/-- A package that has been read, with all that its analysis looks at. -/
structure ReadPackage where
  files : FileTree
  folder : String
  sources : PackageSources
  manifest : Manifest
  profiles : ScriptProfiles
  code : CodeGraph
  index : UnitIndex
  arena : Arena

namespace ReadPackage

/-- The files of the package's nodes. -/
def codeFiles (p : ReadPackage) : List String := p.arena.values.map ProgramNode.file

/-- Whether the package makes a module known when it asks for it: the module is written without a
scheme, it is no file of the package, and the registry has it by the name that the package's
dependencies give it. -/
def Learns (p : ReadPackage) (content : String → Bool) (module_ : String) : Prop :=
  stripScheme module_ = module_ ∧ content (registryName module_ p.sources.dependencies) = true ∧
    ∀ file ∈ p.codeFiles, p.sources.isLocalFile file module_ = false

instance (p : ReadPackage) (content : String → Bool) (module_ : String) :
    Decidable (p.Learns content module_) :=
  inferInstanceAs (Decidable (_ ∧ _ ∧ _))

end ReadPackage

namespace Analyzer
variable {a b : Analyzer (KnowledgeTables × ω)} {p q : ReadPackage} {x y : KnowledgeTables × ω}
  {deadline deadline' : Deadline (KnowledgeTables × ω)}

/-- What the analysis of a package comes to, and the services after it. -/
def vet {σ : Type} (a : Analyzer σ) (deadline : Deadline σ) (p : ReadPackage) (services : σ) :
    Except AnalysisError Session × σ :=
  let after := (a.runSession deadline p.folder p.sources p.manifest p.profiles p.code p.index
    p.arena).run (p.files, services)
  (after.1, after.2.2)

/-- What the phases read in the analysis of a package. -/
def sessionContext {σ : Type} (a : Analyzer σ) (deadline : Deadline σ) (p : ReadPackage) :
    SessionContext σ :=
  let refiner : Refiner σ :=
    { files := p.files, packageDir := p.folder, oracle := a.oracle, probe := a.probe }
  { index := p.index
    sources := p.sources
    knowledge := a.knowledge
    patterns := a.patterns
    keep := fun pattern m arena report =>
      Request.lift id (fun services _ => services) (refiner.keep pattern m arena report)
    deadline }

theorem vet_eq {σ : Type} {a : Analyzer σ} {deadline : Deadline σ} {services services' : σ}
    {session : Session} {result : Except AnalysisError PUnit}
    (h : (Session.runPhases (a.sessionContext deadline p) p.manifest p.profiles
      a.options.phases).run ({ code := p.code, state := { arena := p.arena } }, services) =
        (result, session, services')) :
    a.vet deadline p services = (result.map fun _ => session, services') :=
  congrArg (fun after : Except AnalysisError PUnit × Session × σ =>
    (after.1.map fun _ => after.2.1, after.2.2)) h

/-- Whether oracle and probe always say the same, and leave what is known alone. -/
structure Steady (a : Analyzer (KnowledgeTables × ω)) : Prop where
  oracle : ∀ oracle ∈ a.oracle, ∀ judgement text,
    Effect.Steady Prod.fst (oracle.judge judgement text)
  probe : ∀ site requests, Effect.Steady Prod.fst (a.probe.evaluate site requests)

theorem Steady.keep (h : a.Steady) (p : ReadPackage) (pattern : Pattern) (m : Mapping)
    (arena : Arena) (report : Report) :
    Effect.Steady Prod.fst ((a.sessionContext deadline p).keep pattern m arena report) :=
  steady_lift (Refiner.steady_keep h.oracle h.probe pattern m arena report)

section
variable (hserves : r.Serves web content)
include hserves

/-- Two analyses of a package, the second next to the greater tables, come to the same. -/
theorem vet_alongside (ha : a.knowledge = r.shared web) (hsteady : a.Steady)
    (htime : Effect.Steady Prod.fst deadline.check)
    (hsettles : Settles content p.sources (· ∈ p.codeFiles) base extra p.code.asked)
    (htables : Shared base extra x.1 y.1) :
    (a.vet deadline p x).1 = (a.vet deadline p y).1 ∧ base.Grown (a.vet deadline p x).2.1 := by
  have hkept := Session.kept_alongside (c := a.sessionContext deadline p) hserves ha htime
    (hsteady.keep p) hsettles
  have hfiles : ∀ id node, p.arena.get? id = some node → node.file ∈ p.codeFiles :=
    fun id node hnode => List.mem_map_of_mem (List.mem_map_of_mem (Table.mem_of_get? hnode))
  obtain ⟨result, session, x', y', hx, hy, hcame⟩ :=
    (Session.instep_runPhases hkept p.manifest p.profiles a.options.phases).run (x := x) (y := y)
      (t := { code := p.code, state := { arena := p.arena } })
      ⟨⟨htables, BuildState.knows_loaded _, fun _ h => absurd h List.not_mem_nil, hfiles⟩, rfl⟩
  rw [vet_eq hx, vet_eq hy]
  refine ⟨rfl, ?_⟩
  cases result with
  | ok => exact hcame.1.tables.grown
  | error e => exact hcame

/-- The analysis of a package adds packages to what is known, and changes nothing else in it. -/
theorem grown_vet (ha : a.knowledge = r.shared web) (hsteady : a.Steady)
    (htime : Effect.Steady Prod.fst deadline.check) (p : ReadPackage) (x : KnowledgeTables × ω) :
    x.1.Grown (a.vet deadline p x).2.1 := by
  have hshared : Shared x.1 (fun _ => False) x.1 x.1 := ⟨.refl _, .refl _, fun _ h => .inl h⟩
  refine (vet_alongside hserves ha hsteady htime ?_ hshared).2
  intro module_ _ t₁ t₂ hshared hne
  rcases hshared.classify_eq_or module_ with hsame | ⟨-, hsecond, hfirst⟩
  · exact absurd hsame hne
  · exact ((hshared.known _ hsecond).elim hfirst id).elim

end

/-! ### A module that one package makes known -/

/-- A registry that has the packages at some addresses. -/
def webOf {σ : Type} (addresses : List String) : Web σ where
  send request := pure { status := if addresses.contains request.url then 200 else 404 }

theorem serves_webOf (r : Registry) (addresses : List String) :
    r.Serves (webOf addresses : Web (KnowledgeTables × ω)) fun name =>
      addresses.contains (r.url name) := by
  intro name x
  refine ⟨_, x.2, rfl, ?_⟩
  show Registry.verdict _ { status := if addresses.contains (r.url name) then 200 else 404 } =
    .ok (addresses.contains (r.url name))
  cases addresses.contains (r.url name) <;> rfl

def acmeAddresses : List String := ["https://registry.npmjs.org/acme"]

/-- An analysis that looks for commands, next to a registry that has just `acme`. -/
def commandVet : Analyzer (KnowledgeTables × Unit) where
  knowledge := Registry.shared {} (webOf acmeAddresses)
  patterns := [.ofKey "Malicious Command Execution" "execute a command" (.single .executeCommand) []]

theorem steady_commandVet : commandVet.Steady where
  oracle _ h := absurd h (Option.not_mem_none _)
  probe _ _ := Effect.steady_pure _

/-- The tables say what `acme` does, but not that it is a package. -/
def beforeAcme : KnowledgeTables × Unit :=
  (KnowledgeTables.addFunction {} .thirdParty "acme" "acme" [.executeCommand], ())

end Analyzer

def Sample.package (p : Sample) : ReadPackage where
  files := {}
  folder := ""
  sources := p.context.sources
  manifest := {}
  profiles := []
  code := p.code
  index := p.context.index
  arena := p.read.2

namespace Analyzer

/-- The code of `run = require('acme'); run('whoami')`. -/
def acmeNodes : List (NodeId × String × List (String × String)) :=
  [(1, "METHOD", [("NAME", ":program"), ("FILENAME", "package/index.js")]),
    (2, "CALL", [("NAME", "<operator>.assignment"), ("CODE", "run = require('acme')")]),
    (3, "IDENTIFIER", [("NAME", "run"), ("CODE", "run")]),
    (4, "CALL", [("NAME", "require"), ("CODE", "require('acme')")]),
    (5, "CALL", [("NAME", "run"), ("CODE", "run('whoami')")])]

def runsAcme : Sample where
  code := .sketch acmeNodes [(2, 3), (2, 4)]
  exports := ["digraph \x7b 1 -> 2 [label=CFG] 2 -> 5 [label=CFG] \x7d"]

/-- Only the first statement. -/
def loadsAcme : Sample where
  code := .sketch (acmeNodes.take 4) [(2, 3), (2, 4)]
  exports := ["digraph \x7b 1 -> 2 [label=CFG] \x7d"]

/-- Both statements, next to a file `acme.js` of the package. -/
def runsOwnAcme : Sample where
  code := .sketch
    (acmeNodes ++ [(10, "METHOD", [("NAME", ":program"), ("FILENAME", "package/acme.js")]),
      (11, "CALL", [("NAME", "tidy"), ("CODE", "tidy()")])]) [(2, 3), (2, 4)]
  exports := runsAcme.exports ++ ["digraph \x7b 10 -> 11 [label=CFG] \x7d"]

theorem computed_loadsAcme :
    loadsAcme.hasUnit 1 = true ∧ beforeAcme.1.classify "acme" = .unknown ∧
    (commandVet.vet .unlimited loadsAcme.package beforeAcme).2.1.classify "acme" = .thirdParty ∧
    ∀ module_ ∈ runsAcme.package.code.asked,
      (commandVet.vet .unlimited loadsAcme.package beforeAcme).2.1.classify module_ ≠
        beforeAcme.1.classify module_ →
      runsAcme.package.Learns (fun name => acmeAddresses.contains (Registry.url {} name)) module_ := by
  decide +kernel

theorem computed_runsOwnAcme :
    runsOwnAcme.hasUnit 1 = true ∧
    (commandVet.vet .unlimited runsOwnAcme.package beforeAcme).1.toOption.map Session.findings =
      some 0 ∧
    (commandVet.vet .unlimited runsOwnAcme.package
      (commandVet.vet .unlimited loadsAcme.package beforeAcme).2).1.toOption.map Session.findings =
      some 1 := by
  decide +kernel

end Analyzer

end PackageVet
