import Marquee.Proofs.Scroll.Viewport

/-! Bitmaps are painted dot by dot: a dot within the bitmap changes the pixel at its place and no other, and
one outside changes nothing. -/

namespace Marquee

structure Dot where
  x : Nat
  y : Nat
  colour : Rgb

def Dot.isAt (x y : Nat) (dot : Dot) : Bool :=
  dot.x = x ∧ dot.y = y

def Dot.isInside (width height : Nat) (dot : Dot) : Bool :=
  dot.x < width ∧ dot.y < height

namespace Rgb

lemma flatMap_ofBytes {data : List UInt8} {n : Nat} (h : data.length = n * 3) :
    (ofBytes data).flatMap bytes = data := by
  induction n generalizing data with
  | zero =>
    rw [List.length_eq_zero_iff.mp (h.trans (Nat.zero_mul 3))]
    rfl
  | succ n ih =>
    obtain ⟨r, g, b, rest, rfl⟩ : ∃ r g b rest, data = r :: g :: b :: rest := by
      match data, h with
      | [], h | [_], h | [_, _], h => simp only [List.length_cons, List.length_nil] at h; omega
      | r :: g :: b :: rest, _ => exact ⟨r, g, b, rest, rfl⟩
    have shorter : rest.length = n * 3 := by simpa [Nat.succ_mul] using h
    rw [ofBytes, List.flatMap_cons, ih shorter]
    rfl

lemma drop_flatMap_bytes (pixels : List Rgb) (n : Nat) :
    (pixels.flatMap bytes).drop (n * 3) = (pixels.drop n).flatMap bytes := by
  induction n generalizing pixels with
  | zero => rw [Nat.zero_mul, List.drop_zero, List.drop_zero]
  | succ n ih =>
    cases pixels with
    | nil => simp
    | cons p rest =>
      rw [List.drop_succ_cons, ← ih, List.flatMap_cons, Nat.succ_mul, Nat.add_comm, ← List.drop_drop]
      rfl

end Rgb

namespace Bitmap

variable {b : Bitmap} {width height x y x' y' : Nat} {data : List UInt8}

inductive Made : Nat → Nat → List UInt8 → Bitmap → Prop
  | blank (width height : Nat) :
    Made width height (List.replicate (width * height * 3) 0) (blank width height)
  | ofData {width height : Nat} {data : List UInt8} {b : Bitmap} (accepted : ofData? width height data = some b) :
    Made width height data b

def paint (b : Bitmap) (dots : List Dot) : Bitmap :=
  dots.foldl (fun b dot => b.setPixel dot.x dot.y dot.colour) b

def lastColour? (dots : List Dot) (x y : Nat) : Option Rgb :=
  (dots.filter (Dot.isAt x y)).getLast?.map Dot.colour

def bytesAt (width : Nat) (data : List UInt8) (x y : Nat) : List UInt8 :=
  (data.drop ((y * width + x) * 3)).take 3

structure Sized (width height : Nat) (b : Bitmap) : Prop where
  width_eq : b.width = width
  height_eq : b.height = height
  full : b.pixels.size = width * height

lemma place_inj (hx : x < width) (hx' : x' < width) (same : y * width + x = y' * width + x') :
    x = x' ∧ y = y' := by
  have column : x = x' := by
    rw [← Nat.mul_add_mod_of_lt (a := y) hx, same, Nat.mul_add_mod_of_lt hx']
  subst column
  exact ⟨rfl, Nat.eq_of_mul_eq_mul_right (Nat.zero_lt_of_lt hx) (Nat.add_right_cancel same)⟩

lemma Made.data_eq (h : Made width height data b) : b.data = data := by
  cases h with
  | blank =>
    rw [Bitmap.data, Bitmap.blank, Array.toList_replicate, List.flatMap_replicate]
    exact List.flatten_replicate_replicate (m := 3)
  | ofData accepted =>
    rw [ofData?] at accepted
    split at accepted
    next length =>
      cases accepted
      exact Rgb.flatMap_ofBytes length
    next => cases accepted

lemma Made.sized (h : Made width height data b) : b.Sized width height := by
  have size : b.pixels.size * 3 = data.length := b.length_data.symm.trans (congrArg List.length h.data_eq)
  cases h with
  | blank => exact ⟨rfl, rfl, Array.size_replicate⟩
  | ofData accepted =>
    rw [ofData?] at accepted
    split at accepted
    next length =>
      cases accepted
      exact ⟨rfl, rfl, Nat.eq_of_mul_eq_mul_right (by decide) (size.trans length)⟩
    next => cases accepted

namespace Sized

variable (h : b.Sized width height)
include h

lemma pixel?_of_lt (hx : x < width) (hy : y < height) : b.pixel? x y = b.pixels[y * width + x]? := by
  rw [pixel?_eq (h.width_eq ▸ hx) (h.height_eq ▸ hy), h.width_eq]

lemma exists_pixel (hx : x < width) (hy : y < height) :
    ∃ room : y * width + x < b.pixels.size, b.pixel? x y = some b.pixels[y * width + x] :=
  have room : y * width + x < b.pixels.size := h.full ▸ place_lt hx hy
  ⟨room, (h.pixel?_of_lt hx hy).trans (Array.getElem?_eq_getElem room)⟩

lemma pixel?_eq_none_iff : b.pixel? x y = none ↔ width ≤ x ∨ height ≤ y := by
  by_cases inside : x < width ∧ y < height
  · obtain ⟨room, found⟩ := h.exists_pixel inside.1 inside.2
    rw [found]
    exact iff_of_false nofun (by omega)
  · rw [pixel?, h.width_eq, h.height_eq, if_neg inside]
    exact iff_of_true rfl (by omega)

lemma bytes_pixel? (hx : x < width) (hy : y < height) :
    (b.pixel? x y).map Rgb.bytes = some (bytesAt width b.data x y) := by
  obtain ⟨room, found⟩ := h.exists_pixel hx hy
  rw [found, bytesAt, data, Rgb.drop_flatMap_bytes, List.drop_eq_getElem_cons (by simpa using room)]
  rfl

lemma setPixel (x y : Nat) (colour : Rgb) : (b.setPixel x y colour).Sized width height := by
  rw [Bitmap.setPixel]
  split
  next => exact ⟨h.width_eq, h.height_eq, Array.size_setIfInBounds.trans h.full⟩
  next => exact h

lemma setPixel_outside (outside : ¬ (x < width ∧ y < height)) (colour : Rgb) : b.setPixel x y colour = b :=
  if_neg (by rwa [h.width_eq, h.height_eq])

lemma pixel?_setPixel (hx : x < width) (hy : y < height) (x' y' : Nat) (colour : Rgb) :
    (b.setPixel x' y' colour).pixel? x y = if x' = x ∧ y' = y then some colour else b.pixel? x y := by
  by_cases inside : x' < width ∧ y' < height
  · have written : b.setPixel x' y' colour =
        { b with pixels := b.pixels.setIfInBounds (y' * width + x') colour } := by
      rw [Bitmap.setPixel, if_pos (by rwa [h.width_eq, h.height_eq]), h.width_eq]
    rw [(h.setPixel x' y' colour).pixel?_of_lt hx hy, written, Array.getElem?_setIfInBounds,
      h.pixel?_of_lt hx hy]
    by_cases here : x' = x ∧ y' = y
    · obtain ⟨rfl, rfl⟩ := here
      have room : y' * width + x' < b.pixels.size := h.full ▸ place_lt hx hy
      rw [if_pos rfl, if_pos room, if_pos ⟨rfl, rfl⟩]
    · -- Another pixel has another place, as both are within their rows.
      rw [if_neg here, if_neg fun same => here (place_inj inside.1 hx same)]
  · rw [h.setPixel_outside inside, if_neg (by rintro ⟨rfl, rfl⟩; exact inside ⟨hx, hy⟩)]

end Sized

lemma paint_concat (b : Bitmap) (dots : List Dot) (dot : Dot) :
    b.paint (dots ++ [dot]) = (b.paint dots).setPixel dot.x dot.y dot.colour := by
  rw [paint, List.foldl_append]
  rfl

lemma lastColour?_concat (dots : List Dot) (dot : Dot) (x y : Nat) :
    lastColour? (dots ++ [dot]) x y =
      if dot.x = x ∧ dot.y = y then some dot.colour else lastColour? dots x y := by
  rw [lastColour?, List.filter_append]
  split
  next here =>
    have taken : dot.isAt x y = true := decide_eq_true here
    rw [List.filter_cons_of_pos taken, List.filter_nil, List.getLast?_concat]
    rfl
  next elsewhere =>
    have left : ¬ dot.isAt x y = true := mt of_decide_eq_true elsewhere
    rw [List.filter_cons_of_neg left, List.filter_nil, List.append_nil]
    rfl

lemma Sized.paint (h : b.Sized width height) (dots : List Dot) : (b.paint dots).Sized width height := by
  induction dots using List.reverseRecOn with
  | nil => exact h
  | append_singleton dots dot ih =>
    rw [paint_concat]
    exact ih.setPixel ..

lemma Sized.pixel?_paint (h : b.Sized width height) (hx : x < width) (hy : y < height) (dots : List Dot) :
    (b.paint dots).pixel? x y = (lastColour? dots x y).or (b.pixel? x y) := by
  induction dots using List.reverseRecOn with
  | nil => rfl
  | append_singleton dots dot ih =>
    rw [paint_concat, (h.paint dots).pixel?_setPixel hx hy, lastColour?_concat, ih]
    split <;> rfl

lemma Sized.paint_inside (h : b.Sized width height) (dots : List Dot) :
    b.paint (dots.filter (Dot.isInside width height)) = b.paint dots := by
  induction dots using List.reverseRecOn with
  | nil => rfl
  | append_singleton dots dot ih =>
    rw [List.filter_append, paint_concat]
    by_cases inside : dot.isInside width height = true
    · rw [List.filter_cons_of_pos inside, List.filter_nil, paint_concat, ih]
    · rw [List.filter_cons_of_neg inside, List.filter_nil, List.append_nil, ih,
        (h.paint dots).setPixel_outside (mt decide_eq_true inside)]

/-- However a bitmap of this size was made and painted, it keeps its size, and each of its pixels has the
colour of the last dot at its place, or of its bytes at first if there was none. -/
theorem pixels_show_last_dots (made : Made width height data b) (dots : List Dot) :
    let painted := b.paint dots
    b.data = data ∧ painted.data.length = width * height * 3 ∧
    (∀ x y, painted.pixel? x y = none ↔ width ≤ x ∨ height ≤ y) ∧
    (∀ x < width, ∀ y < height,
      (b.pixel? x y).map Rgb.bytes = some (bytesAt width data x y) ∧
      (painted.pixel? x y).map Rgb.bytes = some (bytesAt width painted.data x y) ∧
      painted.pixel? x y = (lastColour? dots x y).or (b.pixel? x y)) ∧
    painted = b.paint (dots.filter (Dot.isInside width height)) := by
  intro painted
  have before := made.sized
  have after := before.paint dots
  refine ⟨made.data_eq, ?_, fun x y => after.pixel?_eq_none_iff, fun x hx y hy => ?_,
    (before.paint_inside dots).symm⟩
  · rw [length_data, after.full]
  · exact ⟨made.data_eq ▸ before.bytes_pixel? hx hy, after.bytes_pixel? hx hy, before.pixel?_paint hx hy dots⟩

def square : Bitmap where
  width := 2
  height := 2
  pixels := #[⟨1, 2, 3⟩, ⟨4, 5, 6⟩, ⟨7, 8, 9⟩, ⟨10, 11, 12⟩]

def strokes : List Dot :=
  [⟨1, 0, ⟨255, 0, 0⟩⟩, ⟨1, 0, ⟨0, 255, 0⟩⟩, ⟨2, 0, ⟨0, 0, 255⟩⟩]

theorem square_shows_last_strokes :
    ofData? 2 2 [1, 2, 3, 4, 5, 6, 7, 8, 9, 10, 11, 12] = some square ∧
    (square.paint strokes).data.length = 12 ∧ (square.paint strokes).pixel? 2 0 = none ∧
    (square.paint strokes).pixel? 1 0 = some ⟨0, 255, 0⟩ ∧ (square.paint strokes).pixel? 0 1 = some ⟨7, 8, 9⟩ := by
  have accepted : ofData? 2 2 [1, 2, 3, 4, 5, 6, 7, 8, 9, 10, 11, 12] = some square := by decide
  obtain ⟨-, length, outside, inside, -⟩ := pixels_show_last_dots (.ofData accepted) strokes
  obtain ⟨-, -, green⟩ := inside 1 (by decide) 0 (by decide)
  obtain ⟨-, -, kept⟩ := inside 0 (by decide) 1 (by decide)
  exact ⟨accepted, length, (outside 2 0).mpr (.inl (by decide)), green, kept⟩

end Bitmap

end Marquee
