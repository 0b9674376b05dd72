import Mathlib.Data.List.Infix
import PackageVet.Proofs.Dot.Ends

/-! Documents of the DOT language, how they are written, and the graph that they describe.

A `Document` is what exports are made of: nodes and chains of edges with lists of attributes,
default attributes and assignments, in blocks of any depth. Its marks can be written with any gaps
between them (`Document.render`).

The graph of a document is given by what it says of nodes and edges, in order (`graphOf`): the nodes
as they first appear, each with the last values of its attributes, and an edge for each two
neighbours of a chain. Adding statement by statement comes to this graph (`foldl_addStatement`). -/
namespace PackageVet.Dot

/-! ### Marks -/

/-- What default attributes are for. -/
inductive Defaults where
  | node
  | edge
  | graph
  deriving DecidableEq, Repr

/-- What is written without quotes. -/
inductive Word where
  | digraph
  | subgraph
  | defaults (subject : Defaults)
  deriving DecidableEq, Repr

def Word.text : Word → String
  | .digraph => "digraph"
  | .subgraph => "subgraph"
  | .defaults .node => "node"
  | .defaults .edge => "edge"
  | .defaults .graph => "graph"

inductive Separator where
  | comma
  | semicolon
  deriving DecidableEq, Repr

/-- A token as it is written. -/
inductive Mark where
  | word (w : Word)
  | quoted (text : String)
  | openBrace
  | closeBrace
  | openBracket
  | closeBracket
  | equals
  | arrow
  | separator (s : Separator)
  deriving DecidableEq, Repr

/-- A text between quotes: a quote or a backslash has a backslash before it. -/
def escape : List Char → List Char
  | [] => []
  | c :: rest => if c = '"' ∨ c = '\\' then '\\' :: c :: escape rest else c :: escape rest

namespace Mark

def token : Mark → Token
  | .word w => .id w.text
  | .quoted text => .id text
  | .openBrace => .openBrace
  | .closeBrace => .closeBrace
  | .openBracket => .openBracket
  | .closeBracket => .closeBracket
  | .equals => .equals
  | .arrow => .edge
  | .separator _ => .separator

def write : Mark → List Char
  | .word w => w.text.toList
  | .quoted text => '"' :: (escape text.toList ++ ['"'])
  | .openBrace => ['{']
  | .closeBrace => ['}']
  | .openBracket => ['[']
  | .closeBracket => [']']
  | .equals => ['=']
  | .arrow => ['-', '>']
  | .separator .comma => [',']
  | .separator .semicolon => [';']

def isWord : Mark → Bool
  | .word _ => true
  | _ => false

end Mark

/-! ### Gaps -/

/-- A blank character, or a block comment. -/
inductive Piece where
  | blank (c : Char) (isBlank : Text.isBlank c = true)
  | comment (body : List Char) (isOpen : ¬ ['*', '/'] <:+: body)

def Piece.write : Piece → List Char
  | .blank c _ => [c]
  | .comment body _ => '/' :: '*' :: (body ++ ['*', '/'])

/-- What stands between two marks. -/
abbrev Gap := List Piece

namespace Gap

def write (g : Gap) : List Char := g.flatMap Piece.write

/-- Whether a word ends at a gap. Blanks beyond ASCII are letters of a word that they follow. -/
def EndsWord : Gap → Prop
  | .blank c _ :: _ => c.toNat < 128
  | _ => True

end Gap

/-- The text of some marks, the `i`th of them with the `i`th gap after it. -/
def spell : (Nat → Gap) → List Mark → List Char
  | _, [] => []
  | layout, m :: rest => m.write ++ ((layout 0).write ++ spell (fun i => layout (i + 1)) rest)

/-! ### Documents -/

/-- The name of a node; the other names begin a statement of another kind. -/
structure Name where
  text : String
  isFree : text ∉ ["subgraph", "node", "edge", "graph"]

/-- A number is a name. -/
def Name.ofDigits (text : String) (h : text.toList.all Char.isDigit = true) : Name where
  text
  isFree hmem := by
    simp only [List.mem_cons, List.not_mem_nil, or_false] at hmem
    rcases hmem with rfl | rfl | rfl | rfl <;> exact absurd h (by decide)

/-- What an attribute list is made of. -/
inductive Entry where
  | pair (key value : String)
  | separator (s : Separator)

namespace Entry

def marks : Entry → List Mark
  | .pair key value => [.quoted key, .equals, .quoted value]
  | .separator s => [.separator s]

def pair? : Entry → Option (String × String)
  | .pair key value => some (key, value)
  | .separator _ => none

end Entry

abbrev AttributeList := List Entry

namespace AttributeList

def marks (l : AttributeList) : List Mark :=
  .openBracket :: (l.flatMap Entry.marks ++ [.closeBracket])

def pairs (l : AttributeList) : List (String × String) := l.filterMap Entry.pair?

end AttributeList

/-- A statement; a node or a chain may have any number of attribute lists. -/
inductive Statement where
  | node (id : Name) (lists : List AttributeList)
  | chain (first second : Name) (more : List Name) (lists : List AttributeList)
  | defaults (subject : Defaults) (list : AttributeList) (more : List AttributeList)
  | assignment (key value : String) (isFree : key ≠ "subgraph")

/-- What a statement says of the graph: a node, or the nodes of a chain, and the attributes. -/
structure Content where
  ids : List String
  attributes : List (String × String)

namespace Statement

def marks : Statement → List Mark
  | .node id lists => .quoted id.text :: lists.flatMap AttributeList.marks
  | .chain first second more lists =>
    .quoted first.text :: (second :: more).flatMap (fun id => [.arrow, .quoted id.text]) ++
      lists.flatMap AttributeList.marks
  | .defaults subject list more =>
    .word (.defaults subject) :: (list :: more).flatMap AttributeList.marks
  | .assignment key value _ => [.quoted key, .equals, .quoted value]

def contents : Statement → List Content
  | .node id lists => [⟨[id.text], lists.flatMap AttributeList.pairs⟩]
  | .chain first second more lists =>
    [⟨first.text :: second.text :: more.map Name.text, lists.flatMap AttributeList.pairs⟩]
  | .defaults .. => []
  | .assignment .. => []

end Statement

/-- How a block begins. -/
inductive Heading where
  | bare
  | subgraph (name : Option String)

def Heading.marks : Heading → List Mark
  | .bare => [.openBrace]
  | .subgraph none => [.word .subgraph, .openBrace]
  | .subgraph (some name) => [.word .subgraph, .quoted name, .openBrace]

/-- Statements and blocks one after another, with separators anywhere between them. -/
inductive Body where
  | done
  | separator (s : Separator) (rest : Body)
  | statement (s : Statement) (rest : Body)
  | block (heading : Heading) (inner rest : Body)

namespace Body

def marks : Body → List Mark
  | .done => []
  | .separator s rest => .separator s :: rest.marks
  | .statement s rest => s.marks ++ rest.marks
  | .block heading inner rest =>
    heading.marks ++ (inner.marks ++ .closeBrace :: rest.marks)

/-- What the statements of all blocks say, in order. -/
def contents : Body → List Content
  | .done => []
  | .separator _ rest => rest.contents
  | .statement s rest => s.contents ++ rest.contents
  | .block _ inner rest => inner.contents ++ rest.contents

end Body

structure Document where
  name : Option String := none
  body : Body

namespace Document

def marks (d : Document) : List Mark :=
  .word .digraph :: ((d.name.map Mark.quoted).toList ++
    .openBrace :: (d.body.marks ++ [.closeBrace]))

/-- The text of a document, with a gap before it and one after each mark. -/
def render (d : Document) (lead : Gap) (layout : Nat → Gap) : String :=
  String.ofList (lead.write ++ spell layout d.marks)

end Document

/-! ### The graph of a document -/

/-- The last value that is given for a key. -/
def lastValue (key : String) (attributes : List (String × String)) : String :=
  (attributes.reverse.lookup key).getD ""

end PackageVet.Dot

namespace PackageVet.Table
variable {κ ν : Type}

/-- The table that has a value for each of some keys. -/
def ofKeys (keys : List κ) (value : κ → ν) : Table κ ν := ⟨keys.map fun key => (key, value key)⟩

@[simp] theorem keys_ofKeys (keys : List κ) (value : κ → ν) : (ofKeys keys value).keys = keys := by
  simp [ofKeys, Table.keys, Function.comp_def]

variable [DecidableEq κ]

theorem get?_ofKeys (keys : List κ) (value : κ → ν) (key : κ) :
    (ofKeys keys value).get? key = if key ∈ keys then some (value key) else none := by
  unfold ofKeys get?
  induction keys with
  | nil => rfl
  | cons k rest ih =>
    rw [List.map_cons, find?, ih]
    by_cases h : k = key
    · simp [h]
    · simp [h, Ne.symm h]

/-- A value takes the place of the old one, or comes last. -/
theorem insert_ofKeys {keys : List κ} (hkeys : keys.Nodup) (value : κ → ν) (key : κ) (v : ν) :
    (ofKeys keys value).insert key v =
      ofKeys (if key ∈ keys then keys else keys ++ [key])
        (fun k => if k = key then v else value k) := by
  unfold ofKeys insert
  congr 1
  induction keys with
  | nil => simp [put]
  | cons k rest ih =>
    obtain ⟨hk, hrest⟩ := List.nodup_cons.mp hkeys
    by_cases h : k = key
    · subst h
      have hothers : ∀ other ∈ rest, other ≠ k := fun other hother he => hk (he ▸ hother)
      simp only [List.map_cons, put, if_true, List.mem_cons_self, List.cons.injEq, true_and]
      exact List.map_congr_left fun other hother => by rw [if_neg (hothers other hother)]
    · rw [List.map_cons, put, if_neg h, ih hrest]
      by_cases hmem : key ∈ rest <;> simp [hmem, h, Ne.symm h]

end PackageVet.Table

namespace PackageVet.Dot

/-- Attributes as a table: the keys as they first appear, each with the value given last. -/
def settled (attributes : List (String × String)) : Table String String :=
  .ofKeys (attributes.map Prod.fst).eraseDups fun key => lastValue key attributes

/-- The attributes in the statements of a node. -/
def givenTo (id : String) (contents : List Content) : List (String × String) :=
  contents.flatMap fun c => if c.ids = [id] then c.attributes else []

/-- An edge for each two neighbours. -/
def Content.edges (c : Content) : List Edge :=
  (c.ids.zip c.ids.tail).map fun ends => ⟨ends.1, ends.2, c.attributes⟩

/-- The graph that statements describe. -/
def graphOf (contents : List Content) : Graph where
  nodes := .ofKeys (contents.flatMap Content.ids).eraseDups fun id => settled (givenTo id contents)
  edges := contents.flatMap Content.edges

def Document.graph (d : Document) : Graph := graphOf d.body.contents

section Graphs
variable {α : Type} [DecidableEq α]

theorem eraseDups_concat (l : List α) (a : α) :
    (l ++ [a]).eraseDups = if a ∈ l then l.eraseDups else l.eraseDups ++ [a] := by
  rw [List.eraseDups_append]
  by_cases h : a ∈ l <;> simp [List.removeAll, List.eraseDups_cons, h]

theorem nodup_eraseDups (l : List α) : l.eraseDups.Nodup := by
  induction l using List.reverseRecOn with
  | nil => simp
  | append_singleton l a ih =>
    rw [eraseDups_concat]
    split
    · exact ih
    · next h =>
      rw [List.nodup_append]
      refine ⟨ih, by simp, ?_⟩
      intro b hb c hc he
      rw [List.mem_singleton.mp hc] at he
      exact h (List.mem_eraseDups.mp (he ▸ hb))

end Graphs

/-! ### Adding statements -/

attribute [ext] Graph

theorem settled_concat (attributes : List (String × String)) (key value : String) :
    settled (attributes ++ [(key, value)]) = (settled attributes).insert key value := by
  unfold settled
  rw [Table.insert_ofKeys (nodup_eraseDups _), List.map_append, List.map_cons, List.map_nil,
    eraseDups_concat]
  simp only [List.mem_eraseDups]
  congr 1
  funext k
  by_cases h : k = key
  · simp [lastValue, h]
  · have hne : (k == key) = false := beq_false_of_ne h
    simp [lastValue, List.lookup_cons, hne, h]

theorem settled_append (attributes more : List (String × String)) :
    settled (attributes ++ more) =
      more.foldl (fun table (key, value) => table.insert key value) (settled attributes) := by
  induction more generalizing attributes with
  | nil => simp
  | cons pair rest ih =>
    obtain ⟨key, value⟩ := pair
    show _ = rest.foldl _ ((settled attributes).insert key value)
    rw [← settled_concat, ← ih, List.append_assoc, List.singleton_append]

namespace Graph
variable {g : Graph} {mentioned : List String} {attributesOf : String → Table String String}

/-- Whether the nodes of a graph are the names that were mentioned so far. A name that was not has
no attributes yet. -/
structure Mentions (g : Graph) (mentioned : List String)
    (attributesOf : String → Table String String) : Prop where
  nodes : g.nodes = .ofKeys mentioned.eraseDups attributesOf
  fresh : ∀ id ∉ mentioned, attributesOf id = {}

theorem Mentions.contains_iff (h : g.Mentions mentioned attributesOf) (id : String) :
    g.nodes.contains id = true ↔ id ∈ mentioned := by
  rw [Table.contains_iff, h.nodes, Table.keys_ofKeys, List.mem_eraseDups]

theorem Mentions.touch_eq (h : g.Mentions mentioned attributesOf) {id : String}
    (hid : id ∈ mentioned) : g.touch id = g :=
  if_pos ((h.contains_iff id).mpr hid)

theorem Mentions.touch (h : g.Mentions mentioned attributesOf) (id : String) :
    (g.touch id).Mentions (mentioned ++ [id]) attributesOf := by
  refine ⟨?_, fun other hother => h.fresh other fun hmem => hother (List.mem_append_left _ hmem)⟩
  rw [eraseDups_concat]
  by_cases hid : id ∈ mentioned
  · rw [h.touch_eq hid, if_pos hid, h.nodes]
  · have hnew : ¬ g.nodes.contains id = true := fun hknown => hid ((h.contains_iff id).mp hknown)
    rw [Graph.touch, if_neg hnew, h.nodes, Table.insert_ofKeys (nodup_eraseDups _)]
    simp only [List.mem_eraseDups, if_neg hid]
    congr 1
    funext other
    split
    · next he => rw [he, h.fresh id hid]
    · rfl

theorem Mentions.addEdge (h : g.Mentions mentioned attributesOf) (source target : String)
    (attributes : List (String × String)) :
    (g.addEdge source target attributes).Mentions (mentioned ++ [source] ++ [target])
      attributesOf :=
  ⟨((h.touch source).touch target).nodes, ((h.touch source).touch target).fresh⟩

/-- A chain mentions its names, the first of which is known. -/
theorem Mentions.addChain {first : String} (h : g.Mentions (mentioned ++ [first]) attributesOf)
    (attributes : List (String × String)) (more : List String) :
    (g.addChain attributes (first :: more)).Mentions (mentioned ++ first :: more) attributesOf := by
  induction more generalizing g mentioned first with
  | nil => exact h
  | cons second rest ih =>
    have hedge : (g.addEdge first second attributes).Mentions (mentioned ++ [first] ++ [second])
        attributesOf := by
      refine ⟨?_, (h.touch second).fresh⟩
      show ((g.touch first).touch second).nodes = _
      rw [h.touch_eq (by simp)]
      exact (h.touch second).nodes
    have hnext := ih hedge
    rw [List.append_assoc, List.singleton_append] at hnext
    exact hnext

theorem edges_addChain (g : Graph) (attributes : List (String × String)) (ids : List String) :
    (g.addChain attributes ids).edges = g.edges ++ Content.edges ⟨ids, attributes⟩ := by
  fun_induction addChain g attributes ids with
  | case1 g source target rest ih =>
    rw [ih]
    simp [addEdge, Content.edges]
  | case2 ids g hshort =>
    rcases ids with _ | ⟨first, _ | ⟨second, rest⟩⟩
    · simp [Content.edges]
    · simp [Content.edges]
    · exact (hshort first second rest rfl).elim

end Graph

theorem givenTo_concat (id : String) (contents : List Content) (c : Content) :
    givenTo id (contents ++ [c]) =
      givenTo id contents ++ if c.ids = [id] then c.attributes else [] := by
  simp [givenTo]

theorem givenTo_eq_nil {id : String} {contents : List Content}
    (h : id ∉ contents.flatMap Content.ids) : givenTo id contents = [] := by
  refine List.flatMap_eq_nil_iff.mpr fun c hc => if_neg fun hids => h ?_
  exact List.mem_flatMap.mpr ⟨c, hc, by rw [hids]; exact List.mem_singleton_self id⟩

theorem mentions_graphOf (contents : List Content) :
    (graphOf contents).Mentions (contents.flatMap Content.ids)
      fun id => settled (givenTo id contents) where
  nodes := rfl
  fresh id hid := by rw [givenTo_eq_nil hid]; rfl

theorem attributes_graphOf (contents : List Content) (id : String) :
    ((graphOf contents).attributes? id).getD {} = settled (givenTo id contents) := by
  unfold Graph.attributes?
  rw [(mentions_graphOf contents).nodes, Table.get?_ofKeys]
  split
  · rfl
  · next hid => exact ((mentions_graphOf contents).fresh id (by simpa using hid)).symm

theorem graphOf_node (contents : List Content) (id : String) (attributes : List (String × String)) :
    graphOf (contents ++ [⟨[id], attributes⟩]) = (graphOf contents).addNode id attributes := by
  dsimp only [Graph.addNode]
  rw [attributes_graphOf, ← settled_append]
  have hnodes : (graphOf (contents ++ [⟨[id], attributes⟩])).nodes =
      (graphOf contents).nodes.insert id (settled (givenTo id contents ++ attributes)) := by
    show Table.ofKeys _ _ = (Table.ofKeys _ _).insert id _
    rw [Table.insert_ofKeys (nodup_eraseDups _), List.flatMap_append, List.flatMap_singleton,
      eraseDups_concat]
    simp only [List.mem_eraseDups]
    congr 1
    funext other
    rw [givenTo_concat]
    by_cases h : other = id
    · simp [h]
    · simp [h, Ne.symm h]
  have hedges : (graphOf (contents ++ [⟨[id], attributes⟩])).edges = (graphOf contents).edges := by
    simp [graphOf, Content.edges]
  exact Graph.ext hnodes hedges

theorem graphOf_chain (contents : List Content) (first second : String) (more : List String)
    (attributes : List (String × String)) :
    graphOf (contents ++ [⟨first :: second :: more, attributes⟩]) =
      (graphOf contents).addChain attributes (first :: second :: more) := by
  have hchain := ((mentions_graphOf contents).addEdge first second attributes).addChain attributes
  have hnodes : (graphOf (contents ++ [⟨first :: second :: more, attributes⟩])).nodes =
      ((graphOf contents).addChain attributes (first :: second :: more)).nodes := by
    rw [Graph.addChain, (hchain more).nodes]
    show Table.ofKeys _ _ = _
    congr 1
    · simp
    · funext id
      simp [givenTo_concat]
  have hedges : (graphOf (contents ++ [⟨first :: second :: more, attributes⟩])).edges =
      ((graphOf contents).addChain attributes (first :: second :: more)).edges := by
    rw [Graph.edges_addChain]
    simp [graphOf]
  exact Graph.ext hnodes hedges

/-- One more statement. -/
theorem graphOf_concat (contents : List Content) (c : Content) :
    graphOf (contents ++ [c]) = (graphOf contents).addStatement c.ids c.attributes := by
  obtain ⟨ids, attributes⟩ := c
  rcases ids with _ | ⟨first, _ | ⟨second, more⟩⟩
  · simp [graphOf, givenTo, Content.edges, Graph.addStatement, Graph.addChain]
  · exact graphOf_node contents first attributes
  · exact graphOf_chain contents first second more attributes

/-- Statements added one after another come to the graph that they describe. -/
theorem foldl_addStatement (contents : List Content) :
    contents.foldl (fun g c => g.addStatement c.ids c.attributes) {} = graphOf contents := by
  induction contents using List.reverseRecOn with
  | nil => rfl
  | append_singleton contents c ih => rw [List.foldl_concat, ih, graphOf_concat]

end PackageVet.Dot
