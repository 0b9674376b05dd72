import PackageVet.Dot.Reader

/-! The ends of an edge that was read are nodes.

A statement adds the ends of its edges as nodes, and no node goes away (`closed_addStatement`).
A token of a text adds a statement or leaves the graph as it is (`graph_step`), so what statements
keep holds of every graph that was read (`parse_induction`); in particular, such a graph has the
ends of all its edges (`closed_of_parse`). -/
namespace PackageVet.Dot

namespace Graph
variable {g : Graph}

/-- Whether both ends of every edge are nodes. -/
def Closed (g : Graph) : Prop :=
  ∀ e ∈ g.edges, e.source ∈ g.nodes.keys ∧ e.target ∈ g.nodes.keys

theorem mem_keys_touch {id other : String} :
    other ∈ (g.touch id).nodes.keys ↔ other ∈ g.nodes.keys ∨ other = id := by
  unfold touch
  split
  · next h =>
    have hid : id ∈ g.nodes.keys := (Table.contains_iff g.nodes id).mp h
    exact ⟨.inl, fun ho => ho.elim (fun hm => hm) fun he => he ▸ hid⟩
  · rw [Table.keys_insert]
    split
    · next h => exact ⟨.inl, fun ho => ho.elim (fun hm => hm) fun he => he ▸ h⟩
    · simp

@[simp] theorem edges_touch (g : Graph) (id : String) : (g.touch id).edges = g.edges := by
  unfold touch
  split <;> rfl

theorem closed_addNode (h : g.Closed) (id : String) (attributes : List (String × String)) :
    (g.addNode id attributes).Closed := by
  have hkeys (other : String) (ho : other ∈ g.nodes.keys) :
      other ∈ (g.addNode id attributes).nodes.keys := by
    simp only [addNode, Table.keys_insert]
    split
    · exact ho
    · exact List.mem_append_left _ ho
  exact fun e he => (h e he).imp (hkeys _) (hkeys _)

theorem closed_addEdge (h : g.Closed) (source target : String)
    (attributes : List (String × String)) : (g.addEdge source target attributes).Closed := by
  intro e he
  simp only [addEdge, edges_touch, List.mem_append, List.mem_singleton] at he
  simp only [addEdge, mem_keys_touch]
  rcases he with he | rfl
  · exact (h e he).imp (fun hs => .inl (.inl hs)) fun ht => .inl (.inl ht)
  · exact ⟨.inl (.inr rfl), .inr rfl⟩

theorem closed_addChain (h : g.Closed) (attributes : List (String × String)) (ids : List String) :
    (g.addChain attributes ids).Closed := by
  fun_induction addChain g attributes ids with
  | case1 g source target rest ih => exact ih (closed_addEdge h source target attributes)
  | case2 => exact h

theorem closed_addStatement (h : g.Closed) (ids : List String)
    (attributes : List (String × String)) : (g.addStatement ids attributes).Closed := by
  unfold addStatement
  split
  · exact closed_addNode h _ attributes
  · exact closed_addChain h attributes ids

end Graph

namespace Reader
variable {r r' : Reader} {token : Token} {depth : Nat}

theorem graph_atStatement (h : r.atStatement depth token = .ok r') : r'.graph = r.graph := by
  unfold atStatement expect at h
  split at h
  · split at h <;> (cases h; rfl)
  · cases h; rfl
  · cases h; rfl
  · split at h <;> (cases h; rfl)
  · cases h

theorem graph_atAttribute {subject : Subject} {attributes : List (String × String)}
    (h : r.atAttribute depth subject attributes token = .ok r') : r'.graph = r.graph := by
  unfold atAttribute expect at h
  split at h
  · cases h; rfl
  · cases h; rfl
  · cases h; rfl
  · cases h

/-- Whether a graph is another one, perhaps with one more statement. -/
def Extends (g g' : Graph) : Prop :=
  g' = g ∨ ∃ ids attributes, g' = g.addStatement ids attributes

theorem extends_close (r : Reader) (subject : Subject) (attributes : List (String × String)) :
    Extends r.graph (r.close subject attributes).graph := by
  cases subject with
  | defaults => exact .inl rfl
  | statement ids => exact .inr ⟨_, _, rfl⟩

theorem graph_atChain {ids : List String} (h : r.atChain depth ids token = .ok r') :
    Extends r.graph r'.graph := by
  unfold atChain at h
  split at h
  · cases h; exact .inl rfl
  · cases h; exact .inl rfl
  · cases h; exact .inl rfl
  · rw [graph_atStatement h]
    exact extends_close r _ _

/-- A token that is only expected adds nothing. -/
theorem graph_expect {expecting : Expecting} (h : r.expect expecting = .ok r') :
    Extends r.graph r'.graph := by
  cases h
  exact .inl rfl

theorem graph_step (h : r.step token = .ok r') : Extends r.graph r'.graph := by
  unfold step at h
  cases he : r.expecting <;> rw [he] at h <;> dsimp only at h
  case keyword strict =>
    split at h
    · split at h
      · exact graph_expect h
      · split at h
        · exact graph_expect h
        · cases h
    · cases h
  case name =>
    split at h
    · exact graph_expect h
    · exact graph_expect h
    · cases h
  case opening =>
    split at h
    · exact graph_expect h
    · cases h
  case statement => exact .inl (graph_atStatement h)
  case afterId =>
    split at h
    · split at h
      · exact graph_expect h
      · exact graph_atChain h
    · exact graph_expect h
    · exact graph_atChain h
  case subgraphName =>
    split at h
    · exact graph_expect h
    · exact graph_expect h
    · exact .inl (graph_atStatement h)
  case subgraphBody =>
    split at h
    · exact graph_expect h
    · exact .inl (graph_atStatement h)
  case assigned =>
    split at h
    · exact graph_expect h
    · cases h
  case chain => exact graph_atChain h
  case suffix =>
    split at h
    · exact graph_expect h
    · exact graph_atChain h
  case edgeTarget =>
    split at h
    · exact graph_expect h
    · cases h
  case attributeKey => exact .inl (graph_atAttribute h)
  case afterKey =>
    split at h
    · exact graph_expect h
    · exact .inl (graph_atAttribute h)
  case attributeValue =>
    split at h
    · exact graph_expect h
    · cases h
  case afterList subject attributes =>
    split at h
    · exact graph_expect h
    · rw [graph_atStatement h]
      exact extends_close r subject attributes
  case nothing => cases h

/-- Reading ends with the graph so far. -/
theorem graph_finish {g : Graph} (h : r.finish = .ok g) : g = r.graph := by
  unfold finish at h
  cases he : r.expecting <;> rw [he] at h <;> cases h
  rfl

/-- What every statement keeps, reading keeps. -/
theorem run_induction {P : Graph → Prop}
    (hstatement : ∀ g ids attributes, P g → P (g.addStatement ids attributes)) {lastLine : Nat}
    {lexemes : List Lexeme} (hr : P r.graph) (h : r.run lastLine lexemes = .ok r') :
    P r'.graph := by
  fun_induction run r lastLine lexemes with
  | case1 =>
    cases h
    exact hr
  | case2 r lexeme rest r₁ hstep ih =>
    refine ih ?_ h
    rcases graph_step hstep with hsame | ⟨ids, attributes, hmore⟩
    · rwa [hsame]
    · rw [hmore]
      exact hstatement r.graph ids attributes hr
  | case3 => cases h

end Reader

namespace Graph

/-- What holds of the empty graph and is kept by every statement holds of a graph that was read. -/
theorem parse_induction {P : Graph → Prop} (hempty : P {})
    (hstatement : ∀ g ids attributes, P g → P (g.addStatement ids attributes)) {text : String}
    {g : Graph} (h : Graph.parse text = .ok g) : P g := by
  unfold Graph.parse at h
  cases hscan : scan text with
  | error e => rw [hscan] at h; cases h
  | ok lexemes =>
    rw [hscan] at h
    change Graph.ofLexemes lexemes = .ok g at h
    unfold Graph.ofLexemes at h
    split at h
    · cases h
    · next r hrun =>
      have hread : P r.graph := Reader.run_induction hstatement hempty hrun
      split at h
      · next g' hfinish =>
        cases h
        rwa [Reader.graph_finish hfinish]
      · cases h

theorem closed_of_parse {text : String} {g : Graph} (h : Graph.parse text = .ok g) : g.Closed :=
  parse_induction (P := Closed) (fun _ he => nomatch he)
    (fun _ ids attributes hg => closed_addStatement hg ids attributes) h

end Graph

end PackageVet.Dot
