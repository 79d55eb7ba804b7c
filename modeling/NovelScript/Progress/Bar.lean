import NovelScript.Number.Arith
import NovelScript.Text.Pad
/-!
# Animated progress bars

A progress bar shows a fraction as a row of full and empty cells followed by the percentage.
It does not jump to a new fraction: the shown fraction follows the target on a critically
damped spring of angular frequency 18 per second, stepped at sixty frames a second. Each
frame moves the shown fraction and its velocity by the spring's four coefficients; the bar
stops animating once the shown fraction is within 0.001 of the target and its velocity is below
0.01.

All arithmetic is binary64, each operation rounded to nearest, so that the cells and the
percentage are those of a program computing in doubles.

The row has the bar's width less the five columns of ` NNN%`; the full cells are the row's
length times the fraction, rounded half away from zero and kept within the row, and the
percentage is the fraction, clamped to [0, 1], in hundredths rounded to an integer.
-/

namespace NovelScript.Progress

open Binary

/-- The four coefficients that take a displacement from the target and a velocity one step
on. -/
structure Spring where
  posPos : Bits
  posVel : Bits
  velPos : Bits
  velVel : Bits

namespace Spring

/-- The critically damped spring of angular frequency `freq` stepped by `dt` seconds. -/
def critical (dt freq : Bits) : Spring :=
  let expTerm := expSmall (mul (neg freq) dt)
  let timeExp := mul dt expTerm
  let timeExpFreq := mul timeExp freq
  ⟨add timeExpFreq expTerm, timeExp, mul (neg freq) timeExpFreq, add (neg timeExpFreq) expTerm⟩

/-- One step of the spring: the new position and velocity for a target. -/
def step (s : Spring) (pos vel target : Bits) : Bits × Bits :=
  let off := sub pos target
  (add (add (mul off s.posPos) (mul vel s.posVel)) target, add (mul off s.velPos) (mul vel s.velVel))

end Spring

/-- The spring of every bar: frequency 18, one sixtieth of a second (in whole nanoseconds)
per frame. -/
def barSpring : Spring := Spring.critical (ratio 16666666 1000000000) (ofNat 18)

/-- A progress bar: its width in columns, the fraction shown, its velocity, and the target. -/
structure Bar where
  width : Int := 76
  shown : Bits := 0
  velocity : Bits := 0
  target : Bits := 0

namespace Bar

/-- `x` kept within [0, 1]. -/
def clamp (x : Bits) : Bits :=
  if lt (ofNat 1) x then ofNat 1 else if lt 0 x then x else 0

/-- The bar heading for a new target, clamped to [0, 1]. -/
def setTarget (b : Bar) (p : Bits) : Bar := { b with target := clamp p }

/-- Whether the bar is still moving towards its target. -/
def animating (b : Bar) : Bool :=
  let dist := abs (sub b.shown b.target)
  !(lt dist (ratio 1 1000) && lt b.velocity (ratio 1 100))

/-- The bar after one frame of its spring. -/
def frame (b : Bar) : Bar :=
  let (shown, velocity) := barSpring.step b.shown b.velocity b.target
  { b with shown := shown, velocity := velocity }

/-- The percentage text ` NNN%` of a fraction. -/
def percentText (p : Bits) : String :=
  " " ++ Pad.left (fixed (mul (clamp p) (ofNat 100)) 0) 3 ++ "%"

/-- The bar drawn at fraction `p`. -/
def viewAt (b : Bar) (p : Bits) : String :=
  let cells := max 0 (b.width - 5)
  let full := max 0 (min cells (roundAway (mul (ofNat cells.toNat) p)))
  String.ofList (List.replicate full.toNat '█') ++
    String.ofList (List.replicate (cells - full).toNat '░') ++ percentText p

/-- The bar drawn at the fraction it shows. -/
def view (b : Bar) : String := b.viewAt b.shown

end Bar

end NovelScript.Progress
