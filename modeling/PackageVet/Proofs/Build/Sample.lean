import PackageVet.Proofs.Build.Moments

/-! Small packages.

A `Sample` is given by its code and by the texts of its exports. Nothing outside of it is known, so
what a build of one of its units gives can be computed (`Sample.graph?`). A sample that can be read
is a loaded package like any other (`Sample.loaded`, `Sample.over_state`, `Sample.run`). -/
namespace PackageVet

/-- A store that knows no module and registers none. -/
def KnowledgeStore.silent {σ : Type} : KnowledgeStore σ where
  classify _ := pure .unknown
  sensitiveCall _ _ _ _ := pure []
  registerModule _ _ := pure false

/-- Code as its nodes, each with its kind and attributes, and the links from parents to
children. -/
def CodeGraph.sketch (nodes : List (NodeId × String × List (String × String)))
    (children : List (NodeId × NodeId)) : CodeGraph :=
  let g := nodes.foldl (fun g (id, kind, attributes) =>
    g.insertNode { id, kind, attributes := ⟨attributes⟩ }) {}
  children.foldl (fun g (parent, child) => g.insertEdge parent child .child) g

structure Sample where
  code : CodeGraph
  exports : List String

namespace Sample
variable {p : Sample} {id : NodeId}

def read (p : Sample) : List CodeUnit × Arena := (readUnits? p.code p.exports).getD ([], {})

def context (p : Sample) : BuildContext Unit where
  code := p.code
  index := { units := p.read.1 }
  sources := .ofFiles (p.read.1.map CodeUnit.file) []
  knowledge := .silent

/-- The state in which only the functions of the files are known. -/
def state (p : Sample) : BuildState :=
  BuildState.initializeScopes { arena := p.read.2 } p.context.index p.context.sources

def unit (p : Sample) (id : NodeId) : CodeUnit :=
  (p.context.index.get? id).getD
    { id, name := "", fullName := "", file := "", kind := .function, nodes := [], edges := {} }

def graph? (p : Sample) (id : NodeId) : Option BehaviorGraph :=
  ((Building.build p.context id).run (p.state, ())).1.toOption

/-- Whether all exports can be read, and one of them is of a unit. -/
def hasUnit (p : Sample) (id : NodeId) : Bool :=
  (readUnits? p.code p.exports).isSome && (p.context.index.get? id).isSome

theorem loaded (h : p.hasUnit id = true) :
    Loaded p.code p.context.index.units p.read.2 := by
  obtain ⟨after, hread⟩ := Option.isSome_iff_exists.mp (Bool.and_eq_true_iff.mp h).1
  have hloaded := loaded_of_readUnits? hread
  show Loaded p.code p.read.1 p.read.2
  rw [read, hread]
  exact hloaded

theorem get?_unit (h : p.hasUnit id = true) : p.context.index.get? id = some (p.unit id) := by
  obtain ⟨u, hu⟩ := Option.isSome_iff_exists.mp (Bool.and_eq_true_iff.mp h).2
  rw [unit, hu]
  rfl

theorem id_unit (h : p.hasUnit id = true) : (p.unit id).id = id :=
  UnitIndex.id_of_get? (get?_unit h)

theorem over_state (p : Sample) : p.state.Over p.read.2 := fun _ _ => by
  rw [state, BuildState.arena_initializeScopes]

theorem run {g : BehaviorGraph} (h : p.graph? id = some g) :
    ∃ s', (Building.build p.context id).run (p.state, ()) = (.ok g, s', ()) := by
  obtain ⟨⟨s', _⟩, hrun⟩ := Effect.run_of_toOption h
  exact ⟨s', hrun⟩

/-- A moment of the build of a unit, by its number. -/
def moment? (p : Sample) (id : NodeId) : Nat → Option (Building.Moment Unit)
  | 0 => some (.start (p.unit id) p.state ())
  | n + 1 =>
    (p.moment? id n).bind (Building.Moment.next? p.context (Building.inner p.context) (p.unit id))

theorem passes {n : Nat} {m : Building.Moment Unit} (h : p.moment? id n = some m) :
    Building.Passes p.context (p.unit id) p.state () m := by
  induction n generalizing m with
  | zero =>
    cases h
    exact .refl
  | succ n ih =>
    obtain ⟨m₀, hm₀, hnext⟩ := Option.bind_eq_some_iff.mp h
    exact (ih hm₀).tail (Building.goes_of_next? hnext)

end Sample

end PackageVet
