import PackageVet.Scope.Resolver

/-! Scopes as a plain stack of frames.

Seen from outside, the frames of a file are a stack that is never empty (`FrameStack`): a name goes
to the end of the first frame, and the last frame cannot be taken away. There are two ways to keep
such a stack. A resolver keeps all frames that were ever made, with links between them
(`ScopeResolver`). A scope keeps the open ones alone, the root apart from the others and the newest
name first (`Scope`). Every change does to either what it does to the stack
(`Scope.stack_apply`, `ScopeResolver.stack_apply`): frames that were closed stay behind in a
resolver, but no link leads to them (`FrameArena.chain_congr`).

So after every run of declarations, openings, closings and resets the three agree on how many frames
are open, on their names and on what each name stands for, and what happens between the opening of a
frame and its closing is gone afterwards (`run_agrees`). -/
namespace PackageVet

/-- One change to the frames of a file. -/
inductive ScopeStep where
  | declare (i : Identifier)
  | push (name : String)
  | pop
  | reset

/-- Whether every frame that is opened is closed again, and no other. -/
inductive ScopeStep.Balanced : List ScopeStep → Prop where
  | nil : Balanced []
  | declare (i : Identifier) {rest : List ScopeStep} : Balanced rest → Balanced (.declare i :: rest)
  | frame (name : String) {inside rest : List ScopeStep} : Balanced inside → Balanced rest →
      Balanced (.push name :: inside ++ .pop :: rest)

/-! ### The stack -/

/-- Frames on top of one another, each with its name and its declarations, the oldest first. There
is always a first frame. -/
structure FrameStack where
  top : String × List Identifier
  below : List (String × List Identifier) := []

/-- Whether a declaration is of a name and not after a line. -/
def Identifier.Answers (i : Identifier) (name : String) (line : Nat) : Prop :=
  i.name = name ∧ i.line ≤ line

/-- Whether a declaration is the last one in a list of those that are of a name and not after a
line. -/
def LastAnswer (declared : List Identifier) (name : String) (line : Nat) (i : Identifier) : Prop :=
  i.Answers name line ∧
    ∃ older newer, declared = older ++ i :: newer ∧ ∀ j ∈ newer, ¬ j.Answers name line

namespace FrameStack
open ScopeStep

/-- A root with nothing in it. -/
def root : FrameStack := { top := ("program", []) }

def frames (a : FrameStack) : List (String × List Identifier) := a.top :: a.below

def declare (a : FrameStack) (i : Identifier) : FrameStack :=
  { a with top := (a.top.1, a.top.2 ++ [i]) }

def push (a : FrameStack) (name : String) : FrameStack := { top := (name, []), below := a.frames }

def pop (a : FrameStack) : FrameStack :=
  match a.below with
  | [] => a
  | next :: rest => { top := next, below := rest }

def apply (a : FrameStack) : ScopeStep → FrameStack
  | .declare i => a.declare i
  | .push name => a.push name
  | .pop => a.pop
  | .reset => root

def run (a : FrameStack) (steps : List ScopeStep) : FrameStack := steps.foldl apply a

theorem run_append (a : FrameStack) (first second : List ScopeStep) :
    a.run (first ++ second) = (a.run first).run second := List.foldl_append

/-- Whether a name stands for a declaration: the last answer of the first frame that has one. -/
def Shows (a : FrameStack) (name : String) (line : Nat) (i : Identifier) : Prop :=
  ∃ inside frame outside, a.frames = inside ++ frame :: outside ∧
    (∀ f ∈ inside, ∀ j ∈ f.2, ¬ j.Answers name line) ∧ LastAnswer frame.2 name line i

/-- What a name stands for. -/
def lookup? (a : FrameStack) (name : String) (line : Nat) : Option Identifier :=
  a.frames.findSome? fun frame =>
    frame.2.reverse.find? fun i => i.name = name && i.line ≤ line

theorem find?_reverse_eq_some {declared : List Identifier} {name : String} {line : Nat}
    {i : Identifier} :
    declared.reverse.find? (fun i => i.name = name && i.line ≤ line) = some i ↔
      LastAnswer declared name line i := by
  rw [List.find?_eq_some_iff_append]
  simp only [Bool.and_eq_true, decide_eq_true_eq, LastAnswer, Identifier.Answers]
  refine and_congr_right fun _ => ?_
  constructor
  · rintro ⟨newer, older, hsplit, hnewer⟩
    refine ⟨older.reverse, newer.reverse, ?_, fun j hj => ?_⟩
    · rw [← List.reverse_reverse declared, hsplit]
      simp
    · simpa [Decidable.imp_iff_not_or] using hnewer j (List.mem_reverse.mp hj)
  · rintro ⟨older, newer, hsplit, hnewer⟩
    refine ⟨newer.reverse, older.reverse, by simp [hsplit], fun j hj => ?_⟩
    simpa [Decidable.imp_iff_not_or] using hnewer j (List.mem_reverse.mp hj)

theorem lookup?_iff_shows {a : FrameStack} {name : String} {line : Nat} {i : Identifier} :
    a.lookup? name line = some i ↔ a.Shows name line i := by
  rw [lookup?, List.findSome?_eq_some_iff, Shows]
  constructor
  · rintro ⟨inside, frame, outside, hsplit, hfound, hinside⟩
    refine ⟨inside, frame, outside, hsplit, fun f hf => ?_, find?_reverse_eq_some.mp hfound⟩
    simpa [Identifier.Answers] using hinside f hf
  · rintro ⟨inside, frame, outside, hsplit, hinside, hlast⟩
    refine ⟨inside, frame, outside, hsplit, find?_reverse_eq_some.mpr hlast, fun f hf => ?_⟩
    simpa [Identifier.Answers] using hinside f hf

/-- Balanced steps reach no further than into the first frame, and that one stays. -/
theorem run_balanced {steps : List ScopeStep} (h : Balanced steps) (name : String)
    (declared : List Identifier) (below : List (String × List Identifier)) :
    ∃ more, run { top := (name, declared), below } steps = { top := (name, more), below } := by
  induction h generalizing name declared below with
  | nil => exact ⟨declared, rfl⟩
  | declare i _ ih => exact ih name (declared ++ [i]) below
  | @frame inner inside rest _ _ hinside hrest =>
    obtain ⟨more, hrun⟩ := hinside inner [] ((name, declared) :: below)
    have hsplit : run { top := (name, declared), below } (.push inner :: inside ++ .pop :: rest) =
        ((run { top := (inner, []), below := (name, declared) :: below } inside).apply .pop).run
          rest :=
      run_append { top := (inner, []), below := (name, declared) :: below } inside (.pop :: rest)
    rw [hsplit, hrun]
    exact hrest name declared below

/-- Nothing is left of what is done in a frame of its own. -/
theorem run_enclosed (a : FrameStack) (name : String) {inside : List ScopeStep}
    (h : Balanced inside) : a.run (.push name :: inside ++ [.pop]) = a := by
  obtain ⟨more, hrun⟩ := run_balanced h name [] a.frames
  have hsplit : a.run (.push name :: inside ++ [.pop]) =
      (run { top := (name, []), below := a.frames } inside).apply .pop :=
    run_append (a.push name) inside [.pop]
  rw [hsplit, hrun]
  rfl

end FrameStack

/-! ### A scope as a stack -/

/-- A frame with its declarations, the oldest first. -/
def Frame.plain (f : Frame) : String × List Identifier := (f.name, f.declared.reverse)

namespace Scope

def apply (s : Scope) : ScopeStep → Scope
  | .declare i => s.declare i
  | .push name => s.push name
  | .pop => s.pop
  | .reset => empty

def run (s : Scope) (steps : List ScopeStep) : Scope := steps.foldl apply s

def stack (s : Scope) : FrameStack :=
  match s.inner with
  | [] => { top := s.root.plain }
  | frame :: rest => { top := frame.plain, below := (rest ++ [s.root]).map Frame.plain }

theorem frames_stack (s : Scope) : s.stack.frames = s.frames.map Frame.plain := by
  obtain ⟨inner, root⟩ := s
  cases inner <;> rfl

theorem stack_declare (s : Scope) (i : Identifier) : (s.declare i).stack = s.stack.declare i := by
  obtain ⟨inner, root⟩ := s
  cases inner with
  | nil => simp [declare, stack, FrameStack.declare, Frame.plain]
  | cons frame rest => simp [declare, stack, FrameStack.declare, Frame.plain]

theorem stack_push (s : Scope) (name : String) : (s.push name).stack = s.stack.push name := by
  rw [FrameStack.push, frames_stack]
  rfl

theorem stack_pop (s : Scope) : s.pop.stack = s.stack.pop := by
  obtain ⟨inner, root⟩ := s
  cases inner with
  | nil => rfl
  | cons frame rest => cases rest <;> rfl

/-- One change of a scope is that of its stack. -/
theorem stack_apply (s : Scope) (step : ScopeStep) : (s.apply step).stack = s.stack.apply step := by
  cases step with
  | declare i => exact s.stack_declare i
  | push name => exact s.stack_push name
  | pop => exact s.stack_pop
  | reset => rfl

theorem stack_run (s : Scope) (steps : List ScopeStep) :
    (s.run steps).stack = s.stack.run steps := by
  induction steps generalizing s with
  | nil => rfl
  | cons step rest ih =>
    show ((s.apply step).run rest).stack = (s.stack.apply step).run rest
    rw [ih, stack_apply]

theorem depth_eq (s : Scope) : s.depth = s.stack.frames.length := by
  rw [frames_stack, List.length_map]
  rfl

theorem isOpen_iff_mem (s : Scope) (name : String) :
    s.isOpen name = true ↔ name ∈ s.stack.frames.map Prod.fst := by
  rw [frames_stack, List.map_map]
  simp [isOpen, Frame.plain]

theorem lookup?_eq (s : Scope) (name : String) (line : Nat) :
    s.lookup? name line = s.stack.lookup? name line := by
  rw [lookup?, FrameStack.lookup?, frames_stack, List.findSome?_map]
  simp [Function.comp_def, Frame.plain, Frame.lookup?]

end Scope

/-! ### A resolver as a stack -/

/-- A frame without its link. -/
def LinkedFrame.plain (f : LinkedFrame) : String × List Identifier := (f.name, f.identifiers)

namespace FrameArena
variable {a b : FrameArena} {id : Nat}

/-- The frames around a frame. -/
def around (a : FrameArena) (id : Nat) (h : id < a.frames.size) : List LinkedFrame :=
  (a.chain id h).tail

theorem chain_eq (a : FrameArena) (h : id < a.frames.size) :
    a.chain id h = a.frames[id] :: a.around id h := by
  unfold around
  rw [chain, List.tail_cons]

theorem around_of_none (h : id < a.frames.size) (hlink : a.frames[id].enclosing = none) :
    a.around id h = [] := by
  unfold around
  rw [chain, List.tail_cons]
  split
  · rfl
  · next outer hsome => rw [hlink] at hsome; cases hsome

theorem around_of_some {outer : Nat} (h : id < a.frames.size)
    (hlink : a.frames[id].enclosing = some outer) (houter : outer < a.frames.size) :
    a.around id h = a.chain outer houter := by
  unfold around
  rw [chain, List.tail_cons]
  split
  · next hnone => rw [hlink] at hnone; cases hnone
  · next other hsome =>
    cases hlink.symm.trans hsome
    rfl

/-- Frames that were made later are on no chain. -/
theorem chain_congr (ha : id < a.frames.size) (hb : id < b.frames.size)
    (h : ∀ i (hi : i < a.frames.size) (hi' : i < b.frames.size), i ≤ id →
      a.frames[i] = b.frames[i]) : a.chain id ha = b.chain id hb := by
  induction id using Nat.strongRecOn with
  | ind id ih =>
    have hsame := h id ha hb (Nat.le_refl id)
    rw [chain_eq, chain_eq, hsame]
    congr 1
    cases hlink : b.frames[id].enclosing with
    | none => rw [around_of_none ha (hsame ▸ hlink), around_of_none hb hlink]
    | some outer =>
      have hless := b.earlier id hb outer hlink
      have hna : outer < a.frames.size := Nat.lt_trans hless ha
      have hnb : outer < b.frames.size := Nat.lt_trans hless hb
      rw [around_of_some ha (hsame ▸ hlink) hna, around_of_some hb hlink hnb]
      exact ih outer hless hna hnb fun i hi hi' hle =>
        h i hi hi' (Nat.le_trans hle (Nat.le_of_lt hless))

/-- A declaration goes into no frame around the one it is made in. -/
theorem around_declare (a : FrameArena) (i : Identifier) (h : id < a.frames.size)
    (h' : id < (a.declare id i).frames.size) :
    (a.declare id i).around id h' = a.around id h := by
  have hlink : (a.declare id i).frames[id].enclosing = a.frames[id].enclosing := by
    simp [declare, Array.getElem_modify]
  cases hnext : a.frames[id].enclosing with
  | none => rw [around_of_none h' (hlink.trans hnext), around_of_none h hnext]
  | some outer =>
    have hless := a.earlier id h outer hnext
    have houter : outer < a.frames.size := Nat.lt_trans hless h
    have houter' : outer < (a.declare id i).frames.size := Nat.lt_trans hless h'
    rw [around_of_some h' (hlink.trans hnext) houter', around_of_some h hnext houter]
    refine chain_congr houter' houter fun j _ _ hle => ?_
    have hne : id ≠ j := by omega
    simp [declare, Array.getElem_modify, hne]

theorem around_alloc (a : FrameArena) (name : String) (h : id < a.frames.size)
    (hlinked : ∀ outer, some id = some outer → outer < a.frames.size)
    (h' : a.frames.size < (a.alloc name (some id) hlinked).frames.size) :
    (a.alloc name (some id) hlinked).around a.frames.size h' = a.chain id h := by
  have hlink : (a.alloc name (some id) hlinked).frames[a.frames.size].enclosing = some id := by
    simp [alloc]
  rw [around_of_some h' hlink (Nat.lt_trans h h')]
  refine chain_congr _ h fun j _ hj _ => ?_
  simp [alloc, Array.getElem_push_lt hj]

/-- The open frames from one on, as a stack. -/
def stack (a : FrameArena) (id : Nat) (h : id < a.frames.size) : FrameStack where
  top := a.frames[id].plain
  below := (a.around id h).map LinkedFrame.plain

theorem frames_stack (a : FrameArena) (h : id < a.frames.size) :
    (a.stack id h).frames = (a.chain id h).map LinkedFrame.plain := by
  rw [chain_eq, List.map_cons]
  rfl

theorem stack_declare (a : FrameArena) (i : Identifier) (h : id < a.frames.size)
    (h' : id < (a.declare id i).frames.size) :
    (a.declare id i).stack id h' = (a.stack id h).declare i := by
  have hframe : (a.declare id i).frames[id].plain =
      (a.frames[id].plain.1, a.frames[id].plain.2 ++ [i]) := by
    simp [declare, Array.getElem_modify, LinkedFrame.plain]
  unfold stack
  rw [hframe, around_declare a i h]
  rfl

theorem stack_alloc (a : FrameArena) (name : String) (h : id < a.frames.size)
    (hlinked : ∀ outer, some id = some outer → outer < a.frames.size)
    (h' : a.frames.size < (a.alloc name (some id) hlinked).frames.size) :
    (a.alloc name (some id) hlinked).stack a.frames.size h' = (a.stack id h).push name := by
  have hframe : (a.alloc name (some id) hlinked).frames[a.frames.size].plain = (name, []) := by
    simp [alloc, LinkedFrame.plain]
  unfold stack
  rw [hframe, around_alloc a name h, FrameStack.push, ← frames_stack]
  rfl

/-- A frame without a link is the last one. -/
theorem pop_stack_of_none (h : id < a.frames.size) (hlink : a.frames[id].enclosing = none) :
    (a.stack id h).pop = a.stack id h := by
  unfold stack
  rw [around_of_none h hlink]
  rfl

theorem pop_stack_of_some {outer : Nat} (h : id < a.frames.size)
    (hlink : a.frames[id].enclosing = some outer) (houter : outer < a.frames.size) :
    (a.stack id h).pop = a.stack outer houter := by
  unfold stack
  rw [around_of_some h hlink houter, chain_eq]
  rfl

end FrameArena

namespace ScopeResolver
open ScopeStep

def apply (r : ScopeResolver) : ScopeStep → ScopeResolver
  | .declare i => r.declare i
  | .push name => r.push name
  | .pop => r.pop
  | .reset => r.reset

def run (r : ScopeResolver) (steps : List ScopeStep) : ScopeResolver := steps.foldl apply r

def stack (r : ScopeResolver) : FrameStack := r.arena.stack r.top r.topIn

theorem frames_stack (r : ScopeResolver) : r.stack.frames = r.frames.map LinkedFrame.plain :=
  r.arena.frames_stack r.topIn

theorem stack_new (file : String) : (new file).stack = .root := by
  unfold stack FrameArena.stack
  rw [FrameArena.around_of_none _ (by simp [new, FrameArena.alloc])]
  rfl

theorem stack_pop (r : ScopeResolver) : r.pop.stack = r.stack.pop := by
  have htop := r.topIn
  unfold pop
  split
  · next hroot =>
    exact (FrameArena.pop_stack_of_none htop ((r.linked r.top htop).mpr hroot)).symm
  · next hroot =>
    cases hlink : r.arena.frames[r.top].enclosing with
    | none => exact absurd ((r.linked r.top htop).mp hlink) hroot
    | some outer =>
      have houter : outer < r.arena.frames.size :=
        Nat.lt_trans (r.arena.earlier r.top htop outer hlink) htop
      rw [stack, stack, FrameArena.pop_stack_of_some htop hlink houter]
      simp [hlink]

/-- One change of a resolver is that of its stack. -/
theorem stack_apply (r : ScopeResolver) (step : ScopeStep) :
    (r.apply step).stack = r.stack.apply step := by
  cases step with
  | declare i => exact r.arena.stack_declare i r.topIn _
  | push name => exact r.arena.stack_alloc name r.topIn (fun _ h => Option.some.inj h ▸ r.topIn) _
  | pop => exact r.stack_pop
  | reset => exact stack_new r.file

theorem stack_run (r : ScopeResolver) (steps : List ScopeStep) :
    (r.run steps).stack = r.stack.run steps := by
  induction steps generalizing r with
  | nil => rfl
  | cons step rest ih =>
    show ((r.apply step).run rest).stack = (r.stack.apply step).run rest
    rw [ih, stack_apply]

theorem depth_eq (r : ScopeResolver) : r.depth = r.stack.frames.length := by
  rw [frames_stack, List.length_map]
  rfl

theorem isOpen_iff_mem (r : ScopeResolver) (name : String) :
    r.isOpen name = true ↔ name ∈ r.stack.frames.map Prod.fst := by
  rw [frames_stack, List.map_map]
  simp [isOpen, LinkedFrame.plain]

theorem lookup?_eq (r : ScopeResolver) (name : String) (line : Nat) :
    r.lookup? name line = r.stack.lookup? name line := by
  rw [lookup?, FrameStack.lookup?, frames_stack, List.findSome?_map]
  rfl

/-- Whatever is done to the frames of a file, the links between them, the scope and the stack agree
on the number of open frames, on their names, and on what every name stands for at every line. Steps
enclosed in a frame change nothing that can be looked up. -/
theorem run_agrees (file : String) (steps : List ScopeStep) :
    let r := (new file).run steps
    let s := Scope.empty.run steps
    let a := FrameStack.root.run steps
    (r.depth = a.frames.length ∧ s.depth = r.depth) ∧
    (∀ name, (r.isOpen name = true ↔ name ∈ a.frames.map Prod.fst) ∧
      s.isOpen name = r.isOpen name) ∧
    (∀ name line, (∀ i, r.lookup? name line = some i ↔ a.Shows name line i) ∧
      s.lookup? name line = r.lookup? name line) ∧
    ∀ frame inside, Balanced inside → ∀ name line,
      ((new file).run (steps ++ (.push frame :: inside ++ [.pop]))).lookup? name line =
        r.lookup? name line := by
  intro r s a
  have hr : r.stack = a := by rw [stack_run, stack_new]
  have hs : s.stack = a := Scope.stack_run Scope.empty steps
  have hopen (name : String) : s.isOpen name = true ↔ r.isOpen name = true := by
    rw [s.isOpen_iff_mem, r.isOpen_iff_mem, hr, hs]
  refine ⟨⟨?_, ?_⟩, fun name => ⟨?_, Bool.eq_iff_iff.mpr (hopen name)⟩,
    fun name line => ⟨fun i => ?_, ?_⟩, fun frame inside hinside name line => ?_⟩
  · rw [r.depth_eq, hr]
  · rw [s.depth_eq, r.depth_eq, hr, hs]
  · rw [r.isOpen_iff_mem, hr]
  · rw [r.lookup?_eq, hr]
    exact FrameStack.lookup?_iff_shows
  · rw [s.lookup?_eq, r.lookup?_eq, hr, hs]
  · rw [lookup?_eq, lookup?_eq, stack_run, FrameStack.run_append, stack_new,
      FrameStack.run_enclosed _ frame hinside, hr]

/-- Two closings too many, a name in the root, and then a frame in which another of the name is
declared: inside a name stands for the newer one, and afterwards for the one in the root. -/
theorem run_agrees_shadowed :
    let outer : Identifier := { name := "x", line := 1, file := "a.js" }
    let shadow : Identifier := { name := "x", line := 2, file := "a.js" }
    let before : List ScopeStep := [.push "f", .pop, .pop, .pop, .declare outer]
    let inside : List ScopeStep := [.declare shadow, .push "g", .pop]
    Balanced inside ∧
    ((new "a.js").run (before ++ .push "f" :: inside)).lookup? "x" 5 = some shadow ∧
    ((new "a.js").run (before ++ (.push "f" :: inside ++ [.pop]))).lookup? "x" 5 = some outer := by
  intro outer shadow before inside
  have hinside : Balanced inside := .declare shadow (.frame "g" .nil .nil)
  refine ⟨hinside, ?_, ?_⟩
  · rw [← ((run_agrees "a.js" (before ++ .push "f" :: inside)).2.2.1 "x" 5).2]
    decide
  · rw [(run_agrees "a.js" before).2.2.2 "f" inside hinside,
      ← ((run_agrees "a.js" before).2.2.1 "x" 5).2]
    decide

end ScopeResolver

end PackageVet
