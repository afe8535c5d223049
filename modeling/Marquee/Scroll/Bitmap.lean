import Marquee.Number.Scalar

/-! Bitmaps: composed content, of which a window as wide as the viewport is shown. -/

namespace Marquee

open Number

structure Rgb where
  red : UInt8
  green : UInt8
  blue : UInt8
  deriving DecidableEq, Repr, Inhabited

namespace Rgb

def black : Rgb := ⟨0, 0, 0⟩

def bytes (p : Rgb) : List UInt8 :=
  [p.red, p.green, p.blue]

def ofBytes : List UInt8 → List Rgb
  | r :: g :: b :: rest => ⟨r, g, b⟩ :: ofBytes rest
  | _ => []

end Rgb

structure Bitmap where
  width : Nat
  height : Nat
  pixels : Array Rgb
  deriving DecidableEq

namespace Bitmap

def blank (width height : Nat) : Bitmap where
  width
  height
  pixels := Array.replicate (width * height) Rgb.black

/-- The most bytes that one piece of memory has room for. -/
def mostBytes : Nat := Nat.pow 2 63 - 1

def blank? (width height : Nat) : Option Bitmap :=
  if width * height * 3 ≤ mostBytes then some (blank width height) else none

def ofData? (width height : Nat) (data : List UInt8) : Option Bitmap :=
  if data.length = width * height * 3 then some ⟨width, height, (Rgb.ofBytes data).toArray⟩
  else none

def data (b : Bitmap) : List UInt8 :=
  b.pixels.toList.flatMap Rgb.bytes

def pixel? (b : Bitmap) (x y : Nat) : Option Rgb :=
  if x < b.width ∧ y < b.height then b.pixels[y * b.width + x]? else none

def setPixel (b : Bitmap) (x y : Nat) (colour : Rgb) : Bitmap :=
  if x < b.width ∧ y < b.height then
    { b with pixels := b.pixels.setIfInBounds (y * b.width + x) colour }
  else b

def copy? (source : Array Rgb) (start : Nat) (target : Array Rgb) (place count : Nat) :
    Option (Array Rgb) :=
  if h : start + count ≤ source.size ∧ place + count ≤ target.size then
    some (Nat.fold count (fun i hi t => t.setIfInBounds (place + i) source[start + i]) target)
  else none

/--
Row `y` of a frame, filled from place `x` on with the columns from `column` on. They are copied in
runs: up to the right edge, and from there with the head of the row again or not at all.
-/
def fillRow? (b : Bitmap) (wide : 0 < b.width) (wrap : Bool) (viewport y x column : Nat)
    (frame : Array Rgb) : Option (Array Rgb) :=
  if x < viewport then
    if column < b.width then
      let run := min (b.width - column) (viewport - x)
      match copy? b.pixels (y * b.width + column) frame (y * viewport + x) run with
      | none => none
      | some frame => fillRow? b wide wrap viewport y (x + run) (column + run) frame
    else if wrap then fillRow? b wide wrap viewport y x 0 frame
    else some frame
  else some frame
termination_by (viewport - x, column)

/-- The first column shown at a position: the nearest one, as far as 64 bits count. -/
def column {α : Type} [Scalar α] (position : α) : Nat :=
  if Scalar.isFinite position then min (Scalar.nearest position) (Nat.pow 2 64 - 1) else 0

/-- What is seen through a viewport at `position`; nothing if there is no room for it or a copy was
refused. If there is no column, no row is looked at. -/
def visible? {α : Type} [Scalar α] (b : Bitmap) (position : α) (viewport : Nat) (wrap : Bool) :
    Option Bitmap :=
  match blank? viewport b.height with
  | none => none
  | some frame =>
    if h : b.width = 0 ∨ viewport = 0 then some frame
    else
      let start := if wrap then column position % b.width else column position
      let filled := (List.range b.height).foldlM
        (fun pixels y => b.fillRow? (by omega) wrap viewport y 0 start pixels) frame.pixels
      filled.map fun pixels => { frame with pixels }

end Bitmap

end Marquee
