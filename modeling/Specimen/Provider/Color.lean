import Specimen.Numeral
import Specimen.Random.Range

/-!
# Specimen.Provider.Color

Random colours as six hexadecimal digits. A colour is drawn by hue, saturation and value from
a source of its own, the generator xoshiro256++, and converted to red, green and blue in single
precision.
-/

namespace Specimen.Provider.Color

/-- The state of a xoshiro256++ generator. -/
structure Xoshiro where
  s0 : UInt64
  s1 : UInt64
  s2 : UInt64
  s3 : UInt64

namespace Xoshiro

/-- Rotates a number to the left. -/
def rotate (value count : UInt64) : UInt64 := (value <<< count) ||| (value >>> (64 - count))

/-- A number of the generator splitmix64: a mix of its counter. -/
def mixed (counter : UInt64) : UInt64 :=
  let z := (counter ^^^ (counter >>> 30)) * 0xbf58476d1ce4e5b9
  let z := (z ^^^ (z >>> 27)) * 0x94d049bb133111eb
  z ^^^ (z >>> 31)

/-- The state of a seed. -/
def ofSeed (seed : UInt64) : Xoshiro :=
  let step : UInt64 := 0x9e3779b97f4a7c15
  ⟨mixed (seed + step), mixed (seed + 2 * step), mixed (seed + 3 * step), mixed (seed + 4 * step)⟩

/-- The next number. -/
def next : StateM Xoshiro Nat := fun s =>
  let result := rotate (s.s0 + s.s3) 23 + s.s0
  let s2 := s.s2 ^^^ s.s0
  let s3 := s.s3 ^^^ s.s1
  let s1 := s.s1 ^^^ s2
  let s0 := s.s0 ^^^ s3
  (result.toNat, ⟨s0, s1, s2 ^^^ (s.s1 <<< 17), rotate s3 45⟩)

end Xoshiro

/-- A share of the full brightness as two hexadecimal digits. -/
def channel (share : Float32) : String := Numeral.hexByte (share * 255.0).toUInt8.toNat

/-- The colour of a hue in degrees, and of a saturation and a value in percent. -/
def ofHue (hue saturation value : Nat) : String :=
  let degrees := if hue = 0 then 1 else if hue = 360 then 359 else hue
  let h := Float32.ofNat degrees / 360.0
  let s := Float32.ofNat saturation / 100.0
  let v := Float32.ofNat value / 100.0
  let sector := (h * 6.0).toUInt8
  let f := h * 6.0 - sector.toFloat32
  let p := v * (1.0 - s)
  let q := v * (1.0 - f * s)
  let t := v * (1.0 - (1.0 - f) * s)
  let (red, green, blue) :=
    match sector with
    | 0 => (v, t, p)
    | 1 => (q, v, p)
    | 2 => (p, v, t)
    | 3 => (p, q, v)
    | 4 => (t, p, v)
    | _ => (v, p, q)
  "#" ++ channel red ++ channel green ++ channel blue

/-- A random colour. -/
def drawFrom : StateM Xoshiro String := do
  let hue ← Random.below 64 Xoshiro.next 361
  let saturation ← Random.below 64 Xoshiro.next 100
  let value ← Random.below 64 Xoshiro.next 100
  return ofHue hue saturation value

/-- A random colour; its generator is seeded from the source, of which one more word is used up. -/
def draw {σ : Type} [Random.Source σ] : Random.Draw σ String := do
  let seed ← Random.draw64
  let _ ← Random.word
  return (drawFrom.run (Xoshiro.ofSeed seed.toUInt64)).1

end Specimen.Provider.Color
