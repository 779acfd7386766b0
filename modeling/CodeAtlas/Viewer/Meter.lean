import CodeAtlas.Decimal.Fixed
import CodeAtlas.Geometry.Scalar

/-!
How many frames a second are drawn: now, and on average over the last ones.
-/
namespace CodeAtlas

structure FrameMeter where
  current : Float32 := 0.0
  /-- The rates of the last frames, the oldest first. -/
  samples : List Float32 := []

namespace FrameMeter

def window : Nat := 180

def epsilon : Float32 := 1.0 / 8388608.0

/-- A frame that took so many seconds. One that took no time does not count. -/
def tick (seconds : Float32) (m : FrameMeter) : FrameMeter :=
  if seconds ≤ epsilon then m
  else
    let rate := Scalar.clamp 0.0 1000.0 (1.0 / seconds)
    let samples := m.samples ++ [rate]
    ⟨rate, samples.drop (samples.length - window)⟩

def average (m : FrameMeter) : Float32 :=
  m.samples.foldl (· + ·) 0.0 / Float32.ofNat m.samples.length

def text? (m : FrameMeter) : Option String :=
  if m.samples.isEmpty then none
  else
    let rate := Decimal.fixed32 0 m.current
    let average := Decimal.fixed32 1 m.average
    let duration := Decimal.fixed32 1 (1000.0 / Scalar.max m.current epsilon)
    some s!"FPS {rate} | avg {average} | {duration} ms"

end FrameMeter

end CodeAtlas
