import CodeAtlas.Geometry.Vec

/-!
What part of the plane the window shows: a pan and a zoom, and a timed transition that brings a
point to the middle. Moving by hand ends a transition.
-/
namespace CodeAtlas

/-- A point of the plane is at `origin + pan + point * zoom` on the screen. -/
structure Transform (α : Type) where
  pan : Vec α
  zoom : α
  deriving DecidableEq

namespace Transform

variable {α : Type} [Scalar α]

def identity : Transform α := ⟨Vec.zero, Scalar.one⟩

def minZoom : α := Scalar.decimal 5 2

def maxZoom : α := Scalar.ofNat 6

def toScreen (t : Transform α) (origin world : Vec α) : Vec α :=
  origin + t.pan + world.scale t.zoom

def toWorld (t : Transform α) (origin screen : Vec α) : Vec α :=
  (screen - origin - t.pan).shrink t.zoom

/-- Zooms so that the point under `anchor` stays there. -/
def zoomAbout (t : Transform α) (origin anchor : Vec α) (factor : α) : Transform α :=
  let world := t.toWorld origin anchor
  let zoom := Scalar.clamp minZoom maxZoom (t.zoom * factor)
  ⟨anchor - origin - world.scale zoom, zoom⟩

def between (a b : Transform α) (share : α) : Transform α :=
  ⟨a.pan + (b.pan - a.pan).scale share, a.zoom + (b.zoom - a.zoom) * share⟩

end Transform

structure Transition (τ α : Type) where
  start : Transform α
  goal : Transform α
  startedAt : τ

structure Camera (τ α : Type) where
  transform : Transform α
  transition : Option (Transition τ α)

namespace Camera

variable {τ α : Type} [Scalar τ] [Scalar α] [Rounds τ α]

def duration : τ := Scalar.decimal 75 2

def closeZoom : α := Scalar.decimal 15 1

def ease (t : α) : α :=
  if Scalar.lt t (Scalar.decimal 5 1) then Scalar.ofNat 4 * t * t * t
  else
    let r := -Scalar.ofNat 2 * t + Scalar.ofNat 2
    Scalar.one - r * r * r / Scalar.ofNat 2

def initial : Camera τ α := ⟨.identity, none⟩

def isMoving (c : Camera τ α) : Bool := c.transition.isSome

def panBy (c : Camera τ α) (delta : Vec α) : Camera τ α :=
  ⟨{ c.transform with pan := c.transform.pan + delta }, none⟩

def zoomAbout (c : Camera τ α) (origin anchor : Vec α) (factor : α) : Camera τ α :=
  ⟨c.transform.zoomAbout origin anchor factor, none⟩

def reset (_ : Camera τ α) : Camera τ α := initial

/-- Starts a transition that ends with a point in the middle of the viewport. -/
def recenter (c : Camera τ α) (world viewport : Vec α) (now : τ) : Camera τ α :=
  let zoom := Scalar.min (Scalar.max c.transform.zoom closeZoom) Transform.maxZoom
  let goal := ⟨viewport.scale (Scalar.decimal 5 1) - world.scale zoom, zoom⟩
  { c with transition := some ⟨c.transform, goal, now⟩ }

def tick (c : Camera τ α) (now : τ) : Camera τ α :=
  match c.transition with
  | none => c
  | some t =>
    let elapsed := Scalar.max (now - t.startedAt) Scalar.zero
    if Scalar.le duration elapsed then ⟨t.goal, none⟩
    else { c with transform := t.start.between t.goal (ease (Rounds.round (elapsed / duration))) }

end Camera

end CodeAtlas
