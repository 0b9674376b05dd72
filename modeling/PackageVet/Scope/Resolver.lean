import PackageVet.Scope

/-! The frames of a source file as they are kept.

Frames are made one after another and none is taken away: closing a frame moves the top to the
frame around it, and what was declared in it can no longer be reached. Each frame but the root has a
link to the frame around it, which was made before it. So the links from the top come to an end, and
the frames on the way are those that are open (`FrameArena.chain`). -/
namespace PackageVet

/-- A frame with its link; the newest declaration stands last. -/
structure LinkedFrame where
  name : String
  enclosing : Option Nat := none
  identifiers : List Identifier := []
  deriving DecidableEq, Repr

/-- Frames by their numbers. A link leads to a frame that was made before. -/
structure FrameArena where
  frames : Array LinkedFrame := #[]
  earlier : ∀ i (h : i < frames.size) outer, frames[i].enclosing = some outer → outer < i := by simp

namespace FrameArena

/-- The arena with one frame more, whose number is the size before. -/
def alloc (a : FrameArena) (name : String) (enclosing : Option Nat)
    (h : ∀ outer, enclosing = some outer → outer < a.frames.size) : FrameArena where
  frames := a.frames.push { name, enclosing }
  earlier i hi outer hlink := by
    rw [Array.getElem_push] at hlink
    split at hlink
    · exact a.earlier i _ outer hlink
    · have hlast : i = a.frames.size := by simp only [Array.size_push] at hi; omega
      exact hlast ▸ h outer hlink

/-- The arena with a declaration put into one of its frames. -/
def declare (a : FrameArena) (id : Nat) (i : Identifier) : FrameArena where
  frames := a.frames.modify id fun frame =>
    { frame with identifiers := frame.identifiers ++ [i] }
  earlier i hi outer hlink := by
    rw [Array.getElem_modify] at hlink
    split at hlink
    · exact a.earlier i _ outer hlink
    · exact a.earlier i _ outer hlink

/-- A frame and those around it, from the inside out. -/
def chain (a : FrameArena) (id : Nat) (h : id < a.frames.size) : List LinkedFrame :=
  a.frames[id] ::
    match hlink : a.frames[id].enclosing with
    | none => []
    | some outer =>
      have hearlier : outer < id := a.earlier id h outer hlink
      a.chain outer (Nat.lt_trans hearlier h)
termination_by id

end FrameArena

/-- The frames of a file, with the numbers of the root and of the innermost open frame. Only the
root has no link. -/
structure ScopeResolver where
  file : String
  arena : FrameArena
  root : Nat
  top : Nat
  rootIn : root < arena.frames.size
  topIn : top < arena.frames.size
  linked : ∀ i (h : i < arena.frames.size), arena.frames[i].enclosing = none ↔ i = root

namespace ScopeResolver

/-- A root with nothing in it. -/
def new (file : String) : ScopeResolver where
  file
  arena := FrameArena.alloc {} "program" none nofun
  root := 0
  top := 0
  rootIn := by simp [FrameArena.alloc]
  topIn := by simp [FrameArena.alloc]
  linked i h := by
    have hroot : i = 0 := by simpa [FrameArena.alloc] using h
    simp [FrameArena.alloc, hroot]

def declare (r : ScopeResolver) (i : Identifier) : ScopeResolver :=
  { r with
    arena := r.arena.declare r.top i
    rootIn := by simpa [FrameArena.declare] using r.rootIn
    topIn := by simpa [FrameArena.declare] using r.topIn
    linked := by
      intro id h
      have hid : id < r.arena.frames.size := by simpa [FrameArena.declare] using h
      rw [← r.linked id hid]
      simp only [FrameArena.declare, Array.getElem_modify]
      split <;> rfl }

def push (r : ScopeResolver) (name : String) : ScopeResolver :=
  { r with
    arena := r.arena.alloc name (some r.top) fun _ h => Option.some.inj h ▸ r.topIn
    top := r.arena.frames.size
    rootIn := by
      have := r.rootIn
      simp only [FrameArena.alloc, Array.size_push]
      omega
    topIn := by simp [FrameArena.alloc]
    linked := by
      intro id h
      have hroot := r.rootIn
      simp only [FrameArena.alloc, Array.getElem_push]
      split
      · next hid => exact r.linked id hid
      · next hid =>
        have hne : id ≠ r.root := by omega
        simp [hne] }

def pop (r : ScopeResolver) : ScopeResolver :=
  if r.top = r.root then r
  else
    let frame := getElem r.arena.frames r.top r.topIn
    { r with
      top := frame.enclosing.getD r.root
      topIn := by
        cases hlink : frame.enclosing with
        | none => exact r.rootIn
        | some outer => exact Nat.lt_trans (r.arena.earlier r.top r.topIn outer hlink) r.topIn }

def reset (r : ScopeResolver) : ScopeResolver := new r.file

/-- The open frames, the innermost one first. -/
def frames (r : ScopeResolver) : List LinkedFrame := r.arena.chain r.top r.topIn

/-- The newest declaration of a name, not after a line, in the innermost frame that has one. -/
def lookup? (r : ScopeResolver) (name : String) (line : Nat) : Option Identifier :=
  r.frames.findSome? fun frame =>
    frame.identifiers.reverse.find? fun i => i.name = name && i.line ≤ line

def isOpen (r : ScopeResolver) (name : String) : Bool := r.frames.any fun frame => frame.name = name

def depth (r : ScopeResolver) : Nat := r.frames.length

end ScopeResolver

end PackageVet
