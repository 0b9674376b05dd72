import PackageVet.Proofs.Dot.Scanning

/-! Reading a document gives its graph.

A statement ends where the next one begins, so after it the reader is still within it. But what it
does with the beginning of a statement, a brace or a separator is what it would do between
statements, with the statement added to the graph (`Awaits`). From there a statement, a block and
the whole body of a document are read in turn (`feed_body`). -/
namespace PackageVet.Dot

theorem Name.ne_subgraph (id : Name) : id.text ≠ "subgraph" := fun h => id.isFree (by simp [h])

/-- One more statement. -/
def Graph.addContent (g : Graph) (c : Content) : Graph := g.addStatement c.ids c.attributes

namespace Reader
variable {r r' : Reader} {depth : Nat} {g : Graph}

/-- Reads written marks, whatever lines they are on. -/
def feed (r : Reader) : List Mark → Except Fault Reader
  | [] => .ok r
  | m :: rest => (r.step m.token).bind fun r => r.feed rest

theorem feed_append (r : Reader) (a b : List Mark) :
    r.feed (a ++ b) = (r.feed a).bind fun r => r.feed b := by
  induction a generalizing r with
  | nil => rfl
  | cons m rest ih =>
    simp only [List.cons_append, feed]
    cases r.step m.token with
    | error fault => rfl
    | ok r => exact ih r

theorem feed_cons {m : Mark} (h : r.step m.token = .ok r') (rest : List Mark) :
    r.feed (m :: rest) = r'.feed rest := by
  rw [feed, h]
  rfl

theorem feed_append_of_eq_ok {a : List Mark} (h : r.feed a = .ok r') (b : List Mark) :
    r.feed (a ++ b) = r'.feed b := by
  rw [feed_append, h]
  rfl

/-- Tokens are read as the marks that they stand for. -/
theorem run_of_feed {marks : List Mark} {lexemes : List Lexeme} (h : r.feed marks = .ok r')
    (hmarks : lexemes.map Lexeme.token = marks.map Mark.token) (lastLine : Nat) :
    r.run lastLine lexemes = .ok r' := by
  induction marks generalizing r lexemes with
  | nil =>
    cases List.map_eq_nil_iff.mp hmarks
    cases h
    rfl
  | cons m rest ih =>
    obtain ⟨lexeme, later, rfl, hlexeme, hlater⟩ := List.map_eq_cons_iff.mp hmarks
    rw [feed] at h
    rw [run, hlexeme]
    cases hstep : r.step m.token with
    | error fault =>
      rw [hstep] at h
      cases h
    | ok next =>
      rw [hstep] at h
      exact ih h hlater

/-! ### Between statements -/

/-- Whether a token can come after a statement. -/
def endsStatement : Token → Bool
  | .id _ | .openBrace | .closeBrace | .separator => true
  | _ => false

/-- Whether a reader takes what comes after a statement as a reader between statements does. -/
def Awaits (r : Reader) (depth : Nat) (g : Graph) : Prop :=
  ∀ t, endsStatement t = true → r.step t = step ⟨.statement depth, g⟩ t

theorem awaits_statement : Awaits ⟨.statement depth, g⟩ depth g := fun _ _ => rfl

/-- What the reader was within does not matter once a statement is added. -/
theorem awaits_of_atStatement {within : Expecting}
    (hid : ∀ text, r.step (.id text) = atStatement ⟨within, g⟩ depth (.id text))
    (hopen : r.step .openBrace = atStatement ⟨within, g⟩ depth .openBrace)
    (hclose : r.step .closeBrace = atStatement ⟨within, g⟩ depth .closeBrace)
    (hseparator : r.step .separator = atStatement ⟨within, g⟩ depth .separator) :
    r.Awaits depth g := by
  intro t ht
  cases t with
  | id text => exact hid text
  | openBrace => exact hopen
  | closeBrace =>
    rw [hclose]
    cases depth <;> rfl
  | separator => exact hseparator
  | _ => cases ht

theorem awaits_afterId (id : String) :
    Awaits ⟨.afterId depth id, g⟩ depth (g.addContent ⟨[id], []⟩) :=
  awaits_of_atStatement (fun _ => rfl) rfl rfl rfl

theorem awaits_chain (ids : List String) :
    Awaits ⟨.chain depth ids.reverse, g⟩ depth (g.addContent ⟨ids, []⟩) := by
  nth_rewrite 2 [← List.reverse_reverse ids]
  exact awaits_of_atStatement (fun _ => rfl) rfl rfl rfl

theorem awaits_afterLists (ids : List String) (attributes : List (String × String)) :
    Awaits ⟨.afterList depth (.statement ids.reverse) attributes.reverse, g⟩ depth
      (g.addContent ⟨ids, attributes⟩) := by
  nth_rewrite 2 [← List.reverse_reverse ids, ← List.reverse_reverse attributes]
  exact awaits_of_atStatement (fun _ => rfl) rfl rfl rfl

theorem awaits_afterDefaults (attributes : List (String × String)) :
    Awaits ⟨.afterList depth .defaults attributes, g⟩ depth g :=
  awaits_of_atStatement (fun _ => rfl) rfl rfl rfl

/-! ### Attribute lists -/

theorem feed_entries (l : AttributeList) (subject : Subject) (attributes : List (String × String)) :
    feed ⟨.attributeKey depth subject attributes, g⟩ (l.flatMap Entry.marks) =
      .ok ⟨.attributeKey depth subject (l.pairs.reverse ++ attributes), g⟩ := by
  induction l generalizing attributes with
  | nil => rfl
  | cons entry rest ih =>
    cases entry with
    | pair key value =>
      have hpairs : AttributeList.pairs (.pair key value :: rest) =
          (key, value) :: AttributeList.pairs rest := rfl
      rw [hpairs, List.reverse_cons, List.append_assoc]
      exact ih ((key, value) :: attributes)
    | separator s => exact ih attributes

theorem feed_list {l : AttributeList} {subject : Subject} {attributes : List (String × String)}
    (h : r.step .openBracket = .ok ⟨.attributeKey depth subject attributes, g⟩) :
    r.feed l.marks = .ok ⟨.afterList depth subject (l.pairs.reverse ++ attributes), g⟩ := by
  rw [AttributeList.marks, feed_cons h, feed_append_of_eq_ok (feed_entries l subject attributes)]
  rfl

theorem feed_lists (lists : List AttributeList) (subject : Subject)
    (attributes : List (String × String)) :
    feed ⟨.afterList depth subject attributes, g⟩ (lists.flatMap AttributeList.marks) =
      .ok ⟨.afterList depth subject
        ((lists.flatMap AttributeList.pairs).reverse ++ attributes), g⟩ := by
  induction lists generalizing attributes with
  | nil => rfl
  | cons l rest ih =>
    have hlist : feed ⟨.afterList depth subject attributes, g⟩ l.marks =
        .ok ⟨.afterList depth subject (l.pairs.reverse ++ attributes), g⟩ := feed_list rfl
    rw [List.flatMap_cons, List.flatMap_cons, feed_append_of_eq_ok hlist, ih, List.reverse_append,
      List.append_assoc]

/-- One attribute list at least. -/
theorem feed_first_lists {subject : Subject} (l : AttributeList) (more : List AttributeList)
    (hopen : r.step .openBracket = .ok ⟨.attributeKey depth subject [], g⟩) :
    r.feed ((l :: more).flatMap AttributeList.marks) =
      .ok ⟨.afterList depth subject ((l :: more).flatMap AttributeList.pairs).reverse, g⟩ := by
  rw [List.flatMap_cons, feed_append_of_eq_ok (feed_list hopen), feed_lists]
  simp

/-- The attribute lists of a node or a chain, of which there may be none. -/
theorem feed_own_lists {ids : List String} (lists : List AttributeList)
    (hopen : r.step .openBracket = .ok ⟨.attributeKey depth (.statement ids.reverse) [], g⟩)
    (hnone : r.Awaits depth (g.addContent ⟨ids, []⟩)) :
    ∃ r', r.feed (lists.flatMap AttributeList.marks) = .ok r' ∧
      r'.Awaits depth (g.addContent ⟨ids, lists.flatMap AttributeList.pairs⟩) := by
  cases lists with
  | nil => exact ⟨r, rfl, hnone⟩
  | cons l more => exact ⟨_, feed_first_lists l more hopen, awaits_afterLists ids _⟩

/-! ### Statements -/

theorem feed_chain (ids : List String) (more : List Name) :
    feed ⟨.chain depth ids, g⟩ (more.flatMap fun id => [.arrow, .quoted id.text]) =
      .ok ⟨.chain depth ((more.map Name.text).reverse ++ ids), g⟩ := by
  induction more generalizing ids with
  | nil => rfl
  | cons id rest ih =>
    rw [List.map_cons, List.reverse_cons, List.append_assoc]
    exact ih (id.text :: ids)

/-- The names of a chain after the first one. -/
theorem feed_names (first second : Name) (more : List Name) :
    feed ⟨.afterId depth first.text, g⟩
        ((second :: more).flatMap fun id => [.arrow, .quoted id.text]) =
      .ok ⟨.chain depth (first.text :: second.text :: more.map Name.text).reverse, g⟩ := by
  have hreverse : (first.text :: second.text :: more.map Name.text).reverse =
      (more.map Name.text).reverse ++ [second.text, first.text] := by simp
  rw [hreverse]
  exact feed_chain [second.text, first.text] more

/-- The name that a statement begins with. -/
theorem step_first (h : r.Awaits depth g) {text : String} (hfree : text ≠ "subgraph") :
    r.step (.id text) = .ok ⟨.afterId depth text, g⟩ := by
  rw [h (.id text) rfl]
  exact if_neg hfree

/-- A list after the name of a node is a list of the node. -/
theorem step_bracket (id : Name) :
    step ⟨.afterId depth id.text, g⟩ .openBracket =
      .ok ⟨.attributeKey depth (.statement [id.text]) [], g⟩ := by
  have hnot : ¬ (id.text = "node" ∨ id.text = "edge" ∨ id.text = "graph") := by
    intro h
    exact id.isFree (by simp only [List.mem_cons, List.not_mem_nil, or_false]; exact .inr h)
  exact if_neg hnot

theorem step_defaults (subject : Defaults) :
    step ⟨.afterId depth (Word.defaults subject).text, g⟩ .openBracket =
      .ok ⟨.attributeKey depth .defaults [], g⟩ := by
  cases subject <;> rfl

theorem feed_statement (s : Statement) (h : r.Awaits depth g) :
    ∃ r', r.feed s.marks = .ok r' ∧ r'.Awaits depth (s.contents.foldl Graph.addContent g) := by
  cases s with
  | node id lists =>
    rw [Statement.marks, feed_cons (step_first h id.ne_subgraph)]
    exact feed_own_lists lists (step_bracket id) (awaits_afterId id.text)
  | chain first second more lists =>
    rw [Statement.marks, List.cons_append, feed_cons (step_first h first.ne_subgraph),
      feed_append_of_eq_ok (feed_names first second more)]
    exact feed_own_lists lists rfl (awaits_chain _)
  | defaults subject l more =>
    have hword : (Word.defaults subject).text ≠ "subgraph" := by cases subject <;> decide
    rw [Statement.marks, feed_cons (step_first h hword),
      feed_first_lists l more (step_defaults subject)]
    exact ⟨_, rfl, awaits_afterDefaults _⟩
  | assignment key value hfree =>
    rw [Statement.marks, feed_cons (step_first h hfree)]
    exact ⟨_, rfl, awaits_statement⟩

/-! ### Blocks -/

theorem feed_heading (heading : Heading) (h : r.Awaits depth g) :
    r.feed heading.marks = .ok ⟨.statement (depth + 1), g⟩ := by
  have hword : r.step (.id "subgraph") = .ok ⟨.subgraphName depth, g⟩ := h (.id "subgraph") rfl
  rcases heading with _ | _ | name
  · rw [Heading.marks, feed_cons (h .openBrace rfl)]
    rfl
  · rw [Heading.marks, feed_cons hword]
    rfl
  · rw [Heading.marks, feed_cons hword]
    rfl

theorem feed_body (b : Body) (h : r.Awaits depth g) :
    ∃ r', r.feed b.marks = .ok r' ∧ r'.Awaits depth (b.contents.foldl Graph.addContent g) := by
  induction b generalizing r depth g with
  | done => exact ⟨r, rfl, h⟩
  | separator s rest ih =>
    rw [Body.marks, feed_cons (h .separator rfl)]
    exact ih awaits_statement
  | statement s rest ih =>
    obtain ⟨r₁, hfirst, hawaits⟩ := feed_statement s h
    rw [Body.marks, feed_append_of_eq_ok hfirst, Body.contents, List.foldl_append]
    exact ih hawaits
  | block heading inner rest ihinner ihrest =>
    have hstart : Awaits ⟨.statement (depth + 1), g⟩ (depth + 1) g := awaits_statement
    obtain ⟨r₁, hinner, hawaits⟩ := ihinner hstart
    rw [Body.marks, feed_append_of_eq_ok (feed_heading heading h), feed_append_of_eq_ok hinner,
      feed_cons (hawaits .closeBrace rfl), Body.contents, List.foldl_append]
    exact ihrest awaits_statement

theorem step_digraph : step {} (.id "digraph") = .ok ⟨.name, {}⟩ := by
  have hstrict : isKeyword "digraph" "strict" = false := by decide +kernel
  have hdigraph : isKeyword "digraph" "digraph" = true := by decide +kernel
  show (if (!false && isKeyword "digraph" "strict") = true then _
    else if (isKeyword "digraph" "digraph" || _) = true then expect {} .name else _) = _
  rw [hstrict, hdigraph]
  rfl

/-- A document is read to its end. -/
theorem feed_document (d : Document) : feed {} d.marks = .ok ⟨.nothing, d.graph⟩ := by
  have hname (rest : List Mark) :
      feed ⟨.name, {}⟩ ((d.name.map Mark.quoted).toList ++ .openBrace :: rest) =
        feed ⟨.statement 0, {}⟩ rest := by
    cases d.name <;> rfl
  have hstart : Awaits ⟨.statement 0, {}⟩ 0 {} := awaits_statement
  obtain ⟨r, hbody, hawaits⟩ := feed_body d.body hstart
  rw [Document.marks, feed_cons step_digraph, hname, feed_append_of_eq_ok hbody,
    feed_cons (hawaits .closeBrace rfl)]
  show Except.ok (Reader.mk .nothing (d.body.contents.foldl Graph.addContent {})) = _
  rw [Document.graph, ← foldl_addStatement]
  rfl

end Reader

/-! ### Documents -/

theorem AttributeList.isWord_marks {l : AttributeList} {m : Mark} (h : m ∈ l.marks) :
    m.isWord = false := by
  rw [marks, List.mem_cons, List.mem_append, List.mem_singleton, List.mem_flatMap] at h
  rcases h with rfl | ⟨entry, -, hm⟩ | rfl
  · rfl
  · cases entry with
    | pair key value =>
      simp only [Entry.marks, List.mem_cons, List.not_mem_nil, or_false] at hm
      rcases hm with rfl | rfl | rfl <;> rfl
    | separator s =>
      rw [List.mem_singleton.mp hm]
      rfl
  · rfl

theorem spaced_lists (lists : List AttributeList) : Spaced (lists.flatMap AttributeList.marks) := by
  apply spaced_of_none
  intro m hm
  obtain ⟨l, -, hm⟩ := List.mem_flatMap.mp hm
  exact AttributeList.isWord_marks hm

theorem Statement.spaced_marks (s : Statement) : Spaced s.marks := by
  cases s with
  | node id lists => exact .cons rfl (spaced_lists lists)
  | chain first second more lists =>
    refine Spaced.append (.cons rfl (spaced_of_none fun m hm => ?_)) (spaced_lists lists)
    obtain ⟨id, -, hm⟩ := List.mem_flatMap.mp hm
    simp only [List.mem_cons, List.not_mem_nil, or_false] at hm
    rcases hm with rfl | rfl <;> rfl
  | defaults subject l more => exact .word rfl (spaced_lists (l :: more))
  | assignment key value _ => exact .cons rfl (.cons rfl (.cons rfl trivial))

theorem Heading.spaced_marks (heading : Heading) : Spaced heading.marks := by
  rcases heading with _ | _ | name
  · exact .cons rfl trivial
  · exact .word rfl (.cons rfl trivial)
  · exact .word rfl (.cons rfl (.cons rfl trivial))

theorem Body.spaced_marks (b : Body) : Spaced b.marks := by
  induction b with
  | done => trivial
  | separator s rest ih => exact .cons rfl ih
  | statement s rest ih => exact s.spaced_marks.append ih
  | block heading inner rest ihinner ihrest =>
    exact heading.spaced_marks.append (ihinner.append (.cons rfl ihrest))

theorem Document.spaced_marks (d : Document) : Spaced d.marks := by
  have hbody : Spaced (.openBrace :: (d.body.marks ++ [.closeBrace])) :=
    .cons rfl (d.body.spaced_marks.append (.cons rfl trivial))
  unfold marks
  cases d.name with
  | none => exact .word rfl hbody
  | some name => exact .word rfl (.cons rfl hbody)

/-- A document that is written with any gaps between its marks is read as the graph that it
describes. Only where a gap begins with a blank beyond ASCII it may not follow a word. -/
theorem parse_render (d : Document) (lead : Gap) (layout : Nat → Gap)
    (hlayout : ∀ i w, d.marks[i]? = some (.word w) → (layout i).EndsWord) :
    Graph.parse (d.render lead layout) = .ok d.graph := by
  obtain ⟨lexemes, hscan, hlexemes⟩ := scan_spell d.spaced_marks lead hlayout
  have hrun := Reader.run_of_feed (Reader.feed_document d) hlexemes (lastLine lexemes)
  unfold Graph.parse Document.render
  rw [hscan]
  show Graph.ofLexemes lexemes = _
  unfold Graph.ofLexemes
  rw [hrun]
  rfl

/-! ### Gaps that are read, and one that is not -/

/-- A blank beyond ASCII. -/
def wideBlank : Piece := .blank '\u00a0' (by decide)

/-- A node that is given an attribute in two places, the second of them in a block of a block. -/
def nested : Document where
  name := some "export"
  body :=
    .statement (.defaults .node [.pair "shape" "box"] [])
      (.separator .semicolon
        (.statement (.node (.ofDigits "1" (by decide)) [[.pair "NAME" "a", .pair "CODE" "\\\"\n"]])
          (.block (.subgraph (some "part"))
            (.statement (.chain (.ofDigits "2" (by decide)) (.ofDigits "1" (by decide))
                [.ofDigits "30" (by decide)]
                [[.pair "label" "CFG", .separator .comma], [.pair "label" ""]])
              (.block .bare
                (.statement (.assignment "rank" "same" (by decide))
                  (.statement (.node (.ofDigits "1" (by decide)) [[.pair "NAME" "b"]]) .done))
                .done))
            .done)))

/-- A comment that ends in two stars, and a blank. -/
def starred : Gap := [.comment ['/', '*'] (by decide), wideBlank]

/-- The text and the graph of `nested`. -/
theorem parse_render_nested :
    (∀ (i : Nat) (w : Word), nested.marks[i]? = some (.word w) → starred.EndsWord) ∧
    Graph.parse (nested.render starred fun _ => starred) =
      .ok {
        nodes := ⟨[("1", ⟨[("NAME", "b"), ("CODE", "\\\"\n")]⟩), ("2", {}), ("30", {})]⟩
        edges := [⟨"2", "1", [("label", "CFG"), ("label", "")]⟩,
          ⟨"1", "30", [("label", "CFG"), ("label", "")]⟩] } := by
  have hlayout : ∀ (i : Nat) (w : Word), nested.marks[i]? = some (.word w) → starred.EndsWord :=
    fun _ _ _ => trivial
  refine ⟨hlayout, (parse_render nested starred (fun _ => starred) hlayout).trans ?_⟩
  decide +kernel

def oneNode : Document where
  body := .statement (.node (.ofDigits "1" (by decide)) []) .done

/-- A blank beyond ASCII that follows the first word is read as a letter of it. -/
theorem parse_blank_after_word :
    Graph.parse (oneNode.render [] fun i => if i = 0 then [wideBlank] else []) =
      .error { message := "expected 'digraph', found 'digraph\u00a0'", line := 1 } ∧
    oneNode.graph = { nodes := ⟨[("1", {})]⟩ } := by
  decide +kernel

end PackageVet.Dot
