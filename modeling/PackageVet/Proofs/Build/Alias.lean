import PackageVet.Proofs.Build.Names
import PackageVet.Proofs.Build.Sample

/-! Methods called on a copy of a name.

An assignment `y = x` lets `y` stand for what `x` stands for. While both names keep their meaning, a
call `y.m(…)` comes to the same as the call `x.m(…)` in its place: the same marks and the same unit
to be put in, or the same error (`copy_resolves_alike`).

One thing is not copied: the categories of the call that made an object. Where the object comes from
another package they are the hint with which its methods are looked up, so a method called on a copy
goes unnoticed (`copied_client_unnoticed`). -/
namespace PackageVet
open JavaScript (CallShape)

/-- Whether the methods of what a name stands for are looked up with a hint. -/
def Identifier.HasHint (i : Identifier) : Prop :=
  i.kind = .returnObject ∧ i.origin = some .thirdParty ∧
    (Category.firstInterest? i.createdBy).isSome = true

/-- Whether a text is a call of a method of a name. -/
def CallsMethod (text object method : String) : Prop :=
  CallShape.ofCode text = .member object method ∨
    CallShape.ofCode text = .partialMember object method

/-- A node with another text. -/
def ProgramNode.saying (n : ProgramNode) (text : String) : ProgramNode :=
  { n with code? := some text }

/-- An identifier that was declared just now is what its name stands for. -/
theorem BuildState.lookup?_declare_self (s : BuildState) (i : Identifier) {line : Nat}
    (hline : i.line ≤ line) : (s.declare i).lookup? i.file i.name line = some i := by
  rw [BuildState.lookup?, BuildState.declare, BuildState.scope_setScope, if_pos rfl]
  obtain ⟨inner, root⟩ := s.scope i.file
  cases inner <;> simp [Scope.declare, Scope.lookup?, Scope.frames, Scope.Frame.lookup?, hline]

namespace Building
variable {σ : Type} {c : BuildContext σ} {u v : CodeUnit} {node call : ProgramNode}
  {g : BehaviorGraph} {s t : BuildState} {services : σ} {found : Identifier}

/-- What a call comes to, apart from the graph. -/
def resolved (m : Building σ (BehaviorGraph × Option Inlining)) :
    Building σ (Option Inlining) := do
  return (← m).2

/-! ### The assignment -/

/-- What is declared where a name is assigned to another. -/
def copyAt (node : ProgramNode) (left : String) (found : Identifier) : Identifier :=
  Identifier.resolveFrom
    { name := left, line := node.line, node := some node.id, file := node.file } found

/-- Assigning a name to another declares a copy of what the first stands for. -/
theorem run_operation_name {left right : CodeNode} {rest : List CodeNode} (former : Option NodeId)
    (hname : node.name = "<operator>.assignment")
    (hchildren : c.code.children node.id = left :: right :: rest)
    (hkind : right.kind = "IDENTIFIER")
    (hfound : s.lookup? node.file (right.code?.getD "") node.line = some found) :
    ∃ g' marked, (operation c u node former g).run (s, services) =
      (.ok (g', none),
        BuildState.declare marked (copyAt node (left.code?.getD "") found), services) := by
  have hassigned : ∃ g' marked, (assignment c u node former g).run (s, services) =
      (.ok g', BuildState.declare marked (copyAt node (left.code?.getD "") found), services) := by
    unfold assignment
    rw [hchildren]
    dsimp only
    rw [setCallKind, run_change_bind, hkind, if_neg (by decide)]
    unfold assignValue
    simp only [hkind]
    unfold assignName
    dsimp only
    rw [bind_assoc, run_lookup?_bind]
    have hsame : (s.updateNode node.id fun n => { n with callKind := some .assignment }).lookup?
        node.file (right.code?.getD "") node.line = some found := hfound
    rw [hsame]
    exact ⟨_, _, rfl⟩
  obtain ⟨g', marked, hrun⟩ := hassigned
  unfold operation
  simp only [hname]
  rw [Effect.run_bind, hrun]
  cases former <;> exact ⟨_, marked, rfl⟩

/-! ### The call -/

theorem run_memberCall_found {object : String}
    (h : t.lookup? call.file object call.line = some found) :
    (resolved (memberCall c v call object g)).run (t, services) =
      (if found.source = "this" then pure none else knownMember c call found).run
        (t, services) := by
  unfold resolved memberCall
  rw [bind_assoc]
  obtain ⟨g', hargs⟩ := run_connectArguments_bind c v call (some object) g (fun _ => _) t services
  rw [hargs, bind_assoc, run_lookup?_bind, h]
  dsimp only
  split
  · rfl
  · simp only [bind_assoc, pure_bind, bind_pure]

/-- A call of a method comes to nothing where the node has another name, or where what the method is
called on is `this`. -/
theorem run_operation_method {text object method : String} (former : Option NodeId)
    (hname : isCallName call.name = true) (hrequire : call.name ≠ "require")
    (htext : CallsMethod text object method)
    (hfound : t.lookup? call.file object call.line = some found) :
    (resolved (operation c v (call.saying text) former g)).run (t, services) =
      (if (method ≠ call.name ∨ object = "this") ∨ found.source = "this" then pure none
        else knownMember c call found).run
        (t.updateNode call.id fun n => { n with callKind := some .call }, services) := by
  obtain ⟨g', hop⟩ := operation_call c v (call.saying text) g former hname hrequire
  have hshape : invoke c v (call.saying text) g' = (do
      setCallKind call.id .call
      if method ≠ call.name || object = "this" then return (g', none)
      else memberCall c v (call.saying text) object g') := by
    unfold invoke
    have hcode : (call.saying text).code = text := rfl
    rw [hcode]
    rcases htext with hmember | hmember <;> rw [hmember] <;> rfl
  let marked := t.updateNode call.id fun n => { n with callKind := some .call }
  have hmember : (resolved (memberCall c v (call.saying text) object g')).run (marked, services) =
      (if found.source = "this" then pure none else knownMember c (call.saying text) found).run
        (marked, services) := run_memberCall_found hfound
  rw [hop, hshape, resolved, bind_assoc, setCallKind, run_change_bind]
  by_cases hskip : method ≠ call.name ∨ object = "this"
  · rw [if_pos (by simpa using hskip), if_pos (.inl hskip)]
    rfl
  · rw [if_neg (by simpa using hskip)]
    refine hmember.trans ?_
    by_cases hthis : found.source = "this"
    · rw [if_pos hthis, if_pos (.inr hthis)]
    · rw [if_neg hthis, if_neg (not_or.mpr ⟨hskip, hthis⟩)]
      rfl

/-- What a name stands for says what its methods are, but for a hint. -/
theorem knownMember_resolveFrom (i : Identifier) (hi : i.createdBy = []) (h : ¬ found.HasHint) :
    knownMember c call (i.resolveFrom found) = knownMember c call found := by
  unfold knownMember
  cases hkind : found.kind with
  | returnObject =>
    simp only [Identifier.resolveFrom, hkind]
    cases hfull : found.fullName with
    | none => rfl
    | some fullName =>
      cases horigin : found.origin with
      | none => rfl
      | some derivation =>
        cases derivation with
        | builtin => rfl
        | thirdParty =>
          have hnone : Category.firstInterest? found.createdBy = none := by
            simpa [Identifier.HasHint, hkind, horigin] using h
          dsimp only
          unfold markHinted
          rw [hnone, hi]
          rfl
  | _ => simp only [Identifier.resolveFrom, hkind]

/-- Without its hint, a method is not looked up. -/
theorem knownMember_of_hasHint (i : Identifier) (hi : i.createdBy = []) (h : found.HasHint) :
    knownMember c call (i.resolveFrom found) = pure none := by
  obtain ⟨hkind, horigin, -⟩ := h
  unfold knownMember
  simp only [Identifier.resolveFrom, hkind, horigin]
  cases found.fullName with
  | none => rfl
  | some fullName =>
    dsimp only
    unfold markHinted
    rw [hi]
    rfl

/-! ### The assignment and the call -/

/-- Where a name was assigned to another, and both still stand for what they stood for then, a
method called on either comes to the same, for every knowledge store: the state and the services are
the same afterwards, and so is the unit that is to be put in, or the error. Only where methods are
looked up with a hint, one that is called on the copy comes to nothing. -/
theorem copy_resolves_alike {left right : CodeNode} {rest : List CodeNode} {x y : String}
    (former : Option NodeId) (hname : node.name = "<operator>.assignment")
    (hchildren : c.code.children node.id = left :: right :: rest)
    (hkind : right.kind = "IDENTIFIER") (hleft : left.code?.getD "" = y)
    (hright : right.code?.getD "" = x) (hfound : s.lookup? node.file x node.line = some found)
    (hy : y ≠ "this") (hx : found.source = "this" → x = "this") :
    ∃ g' s', (operation c u node former g).run (s, services) = (.ok (g', none), s', services) ∧
      ∀ (v : CodeUnit) (call : ProgramNode) (t : BuildState) (later : σ), call.file = node.file →
        node.line ≤ call.line → isCallName call.name = true → call.name ≠ "require" →
        t.lookup? node.file y call.line = s'.lookup? node.file y call.line →
        t.lookup? node.file x call.line = some found →
        ∀ yText xText method yFormer xFormer yGraph xGraph, CallsMethod yText y method →
          CallsMethod xText x method →
          (¬ found.HasHint →
            (resolved (operation c v (call.saying yText) yFormer yGraph)).run (t, later) =
              (resolved (operation c v (call.saying xText) xFormer xGraph)).run (t, later)) ∧
          (found.HasHint →
            (resolved (operation c v (call.saying yText) yFormer yGraph)).run (t, later) =
              (.ok none, t.updateNode call.id fun n => { n with callKind := some .call },
                later)) := by
  subst hleft hright
  obtain ⟨g', marked, hrun⟩ := run_operation_name former hname hchildren hkind hfound
  refine ⟨g', _, hrun, ?_⟩
  intro v call t later hfile hline hcall hrequire hcopy horiginal yText xText method yFormer xFormer
    yGraph xGraph hyText hxText
  have hdeclared := marked.lookup?_declare_self (copyAt node (left.code?.getD "") found) hline
  have hcopied : t.lookup? call.file (left.code?.getD "") call.line =
      some (copyAt node (left.code?.getD "") found) := by
    rw [hfile, hcopy]
    exact hdeclared
  have hnamed : found.name = right.code?.getD "" :=
    (Scope.All.lookup? (P := fun _ => True) (fun _ _ _ _ => trivial) hfound).2
  -- a copy comes from its original, which is `this` only where a method of it is not looked at
  have hsource : (copyAt node (left.code?.getD "") found).source = right.code?.getD "" := hnamed
  have hskip : ((method ≠ call.name ∨ left.code?.getD "" = "this") ∨ right.code?.getD "" = "this") ↔
      (method ≠ call.name ∨ right.code?.getD "" = "this") ∨ found.source = "this" := by
    constructor
    · rintro ((h | h) | h)
      · exact .inl (.inl h)
      · exact absurd h hy
      · exact .inl (.inr h)
    · rintro ((h | h) | h)
      · exact .inl (.inl h)
      · exact .inr h
      · exact .inr (hx h)
  rw [run_operation_method yFormer hcall hrequire hyText hcopied,
    run_operation_method xFormer hcall hrequire hxText (hfile ▸ horiginal), hsource, copyAt]
  constructor
  · intro hhint
    rw [knownMember_resolveFrom _ rfl hhint]
    simp only [hskip]
  · intro hhint
    rw [knownMember_of_hasHint _ rfl hhint, ite_self]
    rfl

/-! ### A module and a client -/

/-- `axios = require('axios'); client = axios(config);`, then `copy` is assigned a name, and a
method is called. -/
def copied (source text : String) : Sample where
  code := .sketch
    [(1, "METHOD", [("NAME", ":program"), ("FILENAME", "index.js")]),
      (2, "CALL", [("NAME", "<operator>.assignment")]),
      (3, "CALL", [("NAME", "axios"), ("CODE", "axios(config)"), ("ORDER", "2")]),
      (4, "CALL", [("NAME", "<operator>.assignment")]),
      (5, "CALL", [("NAME", "<operator>.assignment")]),
      (6, "CALL", [("NAME", "get"), ("CODE", text)]),
      (21, "IDENTIFIER", [("CODE", "axios"), ("ORDER", "1")]),
      (22, "CALL", [("NAME", "require"), ("CODE", "require('axios')"), ("ORDER", "2")]),
      (41, "IDENTIFIER", [("CODE", "client"), ("ORDER", "1")]),
      (51, "IDENTIFIER", [("CODE", "copy"), ("ORDER", "1")]),
      (52, "IDENTIFIER", [("CODE", source), ("ORDER", "2")])]
    [(2, 21), (2, 22), (4, 41), (4, 3), (5, 51), (5, 52)]
  exports := ["digraph \x7b 1 -> 2 -> 3 -> 4 -> 5 -> 6 [label=CFG] \x7d"]

def copiedModule : Sample := copied "axios" "copy.get(url)"

/-- The state after the assignment to `copy`. -/
def afterCopy (m : Moment Unit) (node : ProgramNode) : BuildState :=
  ((operation copiedModule.context (copiedModule.unit 1) node none m.graph).run
    (m.state, ())).2.1

theorem computed_copiedModule :
    copiedModule.code.children 5 =
      [⟨51, "IDENTIFIER", ⟨[("CODE", "copy"), ("ORDER", "1")]⟩⟩,
        ⟨52, "IDENTIFIER", ⟨[("CODE", "axios"), ("ORDER", "2")]⟩⟩] ∧
    CallShape.ofCode "copy.get(url)" = .member "copy" "get" ∧
    CallShape.ofCode "axios.get(url)" = .member "axios" "get" ∧
    ∃ m ∈ copiedModule.moment? 1 4, ∃ node ∈ m.state.arena.get? 5,
      ∃ call ∈ m.state.arena.get? 6, ∃ found ∈ m.state.lookup? node.file "axios" node.line,
        node.id = 5 ∧ node.name = "<operator>.assignment" ∧ found.kind = .require ∧
        found.source = "axios" ∧ call.file = node.file ∧ node.line ≤ call.line ∧
        isCallName call.name = true ∧ call.name ≠ "require" ∧
        (afterCopy m node).lookup? node.file "axios" call.line = some found := by
  decide +kernel

/-- A method of a copy of a module. -/
theorem copy_resolves_alike_copiedModule :
    ∃ m ∈ copiedModule.moment? 1 4, ∃ node ∈ m.state.arena.get? 5,
      ∃ call ∈ m.state.arena.get? 6, ∃ found ∈ m.state.lookup? node.file "axios" node.line,
        found.kind = .require ∧
        (afterCopy m node).lookup? node.file "axios" call.line = some found ∧
        (resolved (operation copiedModule.context (copiedModule.unit 1)
            (call.saying "copy.get(url)") none m.graph)).run (afterCopy m node, ()) =
          (resolved (operation copiedModule.context (copiedModule.unit 1)
            (call.saying "axios.get(url)") none m.graph)).run (afterCopy m node, ()) := by
  obtain ⟨hchildren, hcopy, haxios, m, hm, node, hnode, call, hcall, found, hfound, hid, hname,
    hkind, hsource, hfile, hline, hcalled, hrequire, hstill⟩ := computed_copiedModule
  rw [← hid] at hchildren
  have hhint : ¬ found.HasHint := by
    rintro ⟨hobject, -⟩
    rw [hkind] at hobject
    cases hobject
  have hself : found.source = "this" → "axios" = "this" := hsource.symm.trans
  obtain ⟨g', s', hrun, hall⟩ := copy_resolves_alike (c := copiedModule.context)
    (u := copiedModule.unit 1) (g := m.graph) (x := "axios") (y := "copy") none hname hchildren rfl
    (by decide) (by decide) hfound (by decide) hself
  have hafter : s' = afterCopy m node := by rw [afterCopy, hrun]
  subst hafter
  exact ⟨m, hm, node, hnode, call, hcall, found, hfound, hkind, hstill,
    (hall _ call _ () hfile hline hcalled hrequire rfl hstill _ _ _ _ _ _ _ (.inl hcopy)
      (.inl haxios)).1 hhint⟩

/-- A store that knows one package, which makes requests. -/
def requestStore : KnowledgeStore Unit := KnowledgeTables.store fun _ =>
  { thirdParty := ["axios"]
    functions := ⟨[((.thirdParty, "axios", "axios"), [.httpRequest]),
      ((.thirdParty, "axios", "get"), [.httpRequest])]⟩ }

/-- What a build notes of the call of the method. -/
def callMarks? (p : Sample) : Option (Option String × Option Derivation × Option (List Category)) :=
  match (build { p.context with knowledge := requestStore } 1).run (p.state, ()) with
  | (.ok _, s, _) => (s.arena.get? 6).map fun n => (n.fullName, n.derivation, n.sensitivity)
  | (.error _, _) => none

theorem computed_copied :
    (copied "client" "copy.get(url)").hasUnit 1 = true ∧
    callMarks? (copied "client" "client.get(url)") =
      some (some "axios.get", some .thirdParty, some [.httpRequest]) ∧
    callMarks? (copied "client" "copy.get(url)") = some (none, none, none) := by
  decide +kernel

/-- A request is noticed where it is made through a client, and not where it is made through a copy
of the client. -/
theorem copied_client_unnoticed :
    Loaded (copied "client" "copy.get(url)").code
      (copied "client" "copy.get(url)").context.index.units
      (copied "client" "copy.get(url)").read.2 ∧
    callMarks? (copied "client" "client.get(url)") =
      some (some "axios.get", some .thirdParty, some [.httpRequest]) ∧
    callMarks? (copied "client" "copy.get(url)") = some (none, none, none) := by
  obtain ⟨hunit, horiginal, hcopy⟩ := computed_copied
  exact ⟨Sample.loaded hunit, horiginal, hcopy⟩

end Building

end PackageVet
