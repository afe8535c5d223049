import Marquee.Proofs.Time
import Marquee.Scroll.Bitmap

/-! What is seen through a viewport: the runs that are copied into a row of the frame make up the row of the
bitmap from the first column on, and no copy reaches beyond the bitmap or the frame. -/

namespace Marquee

namespace Number

def roundAway (q : ℚ) : ℤ :=
  if 0 ≤ q then ⌊q + 1 / 2⌋ else ⌈q - 1 / 2⌉

lemma roundAway_nonpos {q : ℚ} (h : q ≤ 0) : roundAway q ≤ 0 := by
  rw [roundAway]
  split
  next low =>
    obtain rfl := le_antisymm h low
    decide +kernel
  next => exact Int.ceil_le.mpr (by push_cast; linarith)

lemma roundQuotient_upward_eq {num den : Nat} (hd : 0 < den) :
    roundQuotient .upward num den = (2 * num + den) / (2 * den) := by
  have split := Nat.div_add_mod num den
  have rest := Nat.mod_lt num hd
  rw [roundQuotient]
  generalize num / den = whole at split ⊢
  generalize num % den = r at split rest ⊢
  have sum : 2 * num + den = 2 * den * whole + (2 * r + den) := by rw [← split]; ring
  rw [sum, Nat.mul_add_div (by omega)]
  -- What is left of the quotient is one from half of `den` on.
  rcases Nat.lt_or_ge (2 * r) den with down | up
  · rw [Nat.div_eq_of_lt (by omega), if_neg (by omega), if_neg (by omega)]
    rfl
  · rw [Nat.div_eq_of_lt_le (k := 1) (by omega) (by omega)]
    rcases Nat.eq_or_lt_of_le up with half | more
    · rw [if_neg (by omega), if_pos half.symm]
    · rw [if_pos more]

lemma roundQuotient_upward_eq_roundAway (num : Nat) {den : Nat} (hd : 0 < den) :
    (roundQuotient .upward num den : ℤ) = roundAway (num / den) := by
  have sum : (num : ℚ) / den + 1 / 2 = ((2 * num + den : Nat) : ℚ) / ((2 * den : Nat) : ℚ) := by
    have : (den : ℚ) ≠ 0 := Nat.cast_ne_zero.mpr hd.ne'
    push_cast
    field_simp
  rw [roundAway, if_pos (by positivity), sum, Rat.floor_natCast_div_natCast, roundQuotient_upward_eq hd,
    Int.natCast_ediv]

end Number

namespace Bitmap

open Number

/-- The first column at a position: none is before the first one, and 64 bits count them. -/
def firstColumn (position : Float) : Nat :=
  match (Scalar.ofFloat position : Exact) with
  | .finite q => min (max 0 (roundAway q)).toNat (2 ^ 64 - 1)
  | _ => 0

lemma nearest_eq {position : Float} {q : ℚ} (h : (Scalar.ofFloat position : Exact) = .finite q) :
    Scalar.nearest position = (max 0 (roundAway q)).toNat := by
  have value : Exact.ofBinary64 (Binary64.ofFloat position) = .finite q := h
  change (if Binary64.isNegative position then 0 else Binary64.nearest .upward 1 position) = _
  rw [Binary64.isNegative, Binary64.nearest]
  cases hx : Binary64.ofFloat position with
  | nan | infinite => simp [hx, Exact.ofBinary64] at value
  | finite negative m e =>
    rw [hx] at value
    obtain rfl : Exact.ofParts negative m e = q := Exact.finite.inj value
    cases negative with
    | true =>
      have below : Exact.ofParts true m e ≤ 0 := neg_nonpos.mpr (by positivity)
      rw [max_eq_left (roundAway_nonpos below)]
      rfl
    | false =>
      have rounded := roundQuotient_upward_eq_roundAway (Binary64.quotient m e).1
        (Binary64.quotient_den_pos m e)
      change roundQuotient .upward ((Binary64.quotient m e).1 * 1) (Binary64.quotient m e).2 =
        (max 0 (roundAway ((Binary64.quotient m e).1 / (Binary64.quotient m e).2))).toNat
      rw [← rounded, max_eq_right (Int.natCast_nonneg _), Int.toNat_natCast, Nat.mul_one]

lemma column_eq_firstColumn (position : Float) : column position = firstColumn position := by
  have real : (Scalar.isFinite position = true) ↔ ∃ q, (Scalar.ofFloat position : Exact) = .finite q :=
    isFinite_iff_exact
  rw [column, firstColumn]
  cases exact : (Scalar.ofFloat position : Exact) with
  | finite q => rw [if_pos (real.mpr ⟨q, exact⟩), nearest_eq exact]; rfl
  | nan | infinite => rw [if_neg (by simp [real, exact])]

lemma row_le {width height y : Nat} (hy : y < height) : y * width + width ≤ width * height := by
  rw [← Nat.succ_mul, Nat.mul_comm width]
  exact Nat.mul_le_mul_right width hy

lemma place_lt {width height x y : Nat} (hx : x < width) (hy : y < height) : y * width + x < width * height :=
  Nat.lt_of_lt_of_le (Nat.add_lt_add_left hx _) (row_le hy)

lemma fold_setIfInBounds {α : Type} (place : Nat) (target : Array α) (n : Nat) (value : (i : Nat) → i < n → α)
    (room : place + n ≤ target.size) :
    let filled := Nat.fold n (fun i hi t => t.setIfInBounds (place + i) (value i hi)) target
    filled.size = target.size ∧ ∀ j, filled[j]? =
      if h : place ≤ j ∧ j < place + n then some (value (j - place) (by omega)) else target[j]? := by
  induction n with
  | zero =>
    refine ⟨rfl, fun j => ?_⟩
    rw [dif_neg (by omega), Nat.fold_zero]
  | succ n ih =>
    obtain ⟨size, before⟩ := ih (fun i hi => value i (by omega)) (by omega)
    rw [Nat.fold_succ]
    refine ⟨Array.size_setIfInBounds.trans size, fun j => ?_⟩
    rw [Array.getElem?_setIfInBounds, size, before]
    rcases Nat.lt_trichotomy j (place + n) with old | rfl | beyond
    · rw [if_neg (by omega)]
      by_cases inside : place ≤ j
      · rw [dif_pos ⟨inside, old⟩, dif_pos ⟨inside, by omega⟩]
      · rw [dif_neg (by omega), dif_neg (by omega)]
    · rw [if_pos rfl, if_pos (by omega), dif_pos (by omega)]
      simp
    · rw [if_neg (by omega), dif_neg (by omega), dif_neg (by omega)]

lemma copy?_eq_some (source : Array Rgb) (start : Nat) (target : Array Rgb) (place count : Nat)
    (available : start + count ≤ source.size) (room : place + count ≤ target.size) :
    ∃ t, copy? source start target place count = some t ∧ t.size = target.size ∧
      ∀ j, t[j]? = if place ≤ j ∧ j < place + count then source[start + (j - place)]? else target[j]? := by
  obtain ⟨size, pixels⟩ := fold_setIfInBounds place target count
    (fun i hi => source[start + i]) room
  refine ⟨_, dif_pos ⟨available, room⟩, size, fun j => ?_⟩
  rw [pixels j]
  split
  · rw [Array.getElem?_eq_getElem (by omega)]
  · rfl

def shown? (b : Bitmap) (wrap : Bool) (y column : Nat) : Option Rgb :=
  b.pixel? (if wrap then column % b.width else column) y

variable {b : Bitmap} {wrap : Bool} {viewport x y column : Nat}

lemma pixel?_eq (hx : x < b.width) (hy : y < b.height) : b.pixel? x y = b.pixels[y * b.width + x]? :=
  if_pos ⟨hx, hy⟩

lemma shown?_of_lt (h : column < b.width) : b.shown? wrap y column = b.pixel? column y := by
  rw [shown?, Nat.mod_eq_of_lt h, ite_self]

lemma shown?_around (k : Nat) : b.shown? true y (b.width + k) = b.shown? true y k := by
  rw [shown?, shown?, if_pos rfl, if_pos rfl, Nat.add_mod_left]

lemma shown?_beyond (h : b.width ≤ column) : b.shown? false y column = none :=
  if_neg (by simp [h.not_gt])

structure FillsRow (b : Bitmap) (wrap : Bool) (viewport y x column : Nat) (before after : Array Rgb) : Prop where
  size : after.size = before.size
  pixels : ∀ j, after[j]? =
    if y * viewport + x ≤ j ∧ j < y * viewport + viewport then
      (b.shown? wrap y (column + (j - (y * viewport + x)))).or before[j]?
    else before[j]?

lemma FillsRow.run {before middle after : Array Rgb} {run : Nat} (hy : y < b.height)
    (rows : y * b.width + b.width ≤ b.pixels.size) (within : column + run ≤ b.width)
    (size : middle.size = before.size)
    (copied : ∀ j, middle[j]? =
      if y * viewport + x ≤ j ∧ j < y * viewport + x + run then
        b.pixels[y * b.width + column + (j - (y * viewport + x))]?
      else before[j]?)
    (fits : x + run ≤ viewport) (rest : b.FillsRow wrap viewport y (x + run) (column + run) middle after) :
    b.FillsRow wrap viewport y x column before after := by
  refine ⟨rest.size.trans size, fun j => ?_⟩
  rw [rest.pixels, copied]
  by_cases inside : y * viewport + x ≤ j ∧ j < y * viewport + viewport
  · rw [if_pos inside]
    obtain ⟨k, rfl⟩ := Nat.exists_eq_add_of_le inside.1
    rw [Nat.add_sub_cancel_left]
    by_cases early : k < run
    · -- The rest of the row leaves the run alone, and all of the run is in the bitmap.
      rw [if_neg (by omega), if_pos (by omega), shown?_of_lt (by omega), pixel?_eq (by omega) hy,
        Nat.add_assoc, Array.getElem?_eq_getElem (by omega), Option.some_or]
    · rw [if_pos (by omega), if_neg (by omega)]
      congr 2
      omega
  · rw [if_neg (by omega), if_neg (by omega), if_neg inside]

lemma fillsRow_of_not_lt {frame : Array Rgb} (h : ¬ x < viewport) :
    b.FillsRow wrap viewport y x column frame frame :=
  ⟨rfl, fun j => (if_neg (by omega)).symm⟩

lemma fillsRow_beyond {frame : Array Rgb} (h : b.width ≤ column) :
    b.FillsRow false viewport y x column frame frame := by
  refine ⟨rfl, fun j => ?_⟩
  rw [shown?_beyond (by omega), Option.none_or, ite_self]

lemma FillsRow.around {before after : Array Rgb} (h : b.FillsRow true viewport y x 0 before after) :
    b.FillsRow true viewport y x b.width before after := by
  refine ⟨h.size, fun j => ?_⟩
  rw [h.pixels, shown?_around, Nat.zero_add]

lemma fillRow?_eq_some (wide : 0 < b.width) (hy : y < b.height)
    (rows : y * b.width + b.width ≤ b.pixels.size) (frame : Array Rgb)
    (places : y * viewport + viewport ≤ frame.size) (within : wrap → column ≤ b.width) :
    ∃ t, b.fillRow? wide wrap viewport y x column frame = some t ∧
      b.FillsRow wrap viewport y x column frame t := by
  fun_induction fillRow? b wide wrap viewport y x column frame with
  | case1 x column frame short inside run refused =>
    -- No run reaches beyond its row on either side.
    obtain ⟨t, copied, -⟩ := copy?_eq_some b.pixels (y * b.width + column) frame
      (y * viewport + x) run (by omega) (by omega)
    cases refused.symm.trans copied
  | case2 x column frame short inside run middle copied ih =>
    obtain ⟨t, made, size, pixels⟩ := copy?_eq_some b.pixels (y * b.width + column) frame
      (y * viewport + x) run (by omega) (by omega)
    obtain rfl : middle = t := Option.some.inj (copied.symm.trans made)
    obtain ⟨after, filled, rest⟩ := ih (size ▸ places) (fun _ => by omega)
    exact ⟨after, filled, rest.run hy rows (by omega) size pixels (by omega)⟩
  | case3 x column frame short beyond wraps ih =>
    subst wraps
    obtain ⟨after, filled, rest⟩ := ih places fun _ => Nat.zero_le _
    obtain rfl : column = b.width := Nat.le_antisymm (within rfl) (Nat.le_of_not_lt beyond)
    exact ⟨after, filled, rest.around⟩
  | case4 x column frame short beyond stops =>
    obtain rfl := Bool.eq_false_iff.mpr stops
    exact ⟨frame, rfl, fillsRow_beyond (Nat.le_of_not_lt beyond)⟩
  | case5 x column frame done => exact ⟨frame, rfl, fillsRow_of_not_lt done⟩

structure FillsRows (b : Bitmap) (wrap : Bool) (viewport start n : Nat) (before after : Array Rgb) : Prop where
  size : after.size = before.size
  filled : ∀ y < n, ∀ x < viewport,
    after[y * viewport + x]? = (b.shown? wrap y (start + x)).or before[y * viewport + x]?
  kept : ∀ j, n * viewport ≤ j → after[j]? = before[j]?

lemma FillsRows.row {before middle after : Array Rgb} {start n : Nat}
    (h : b.FillsRows wrap viewport start n before middle) (row : b.FillsRow wrap viewport n 0 start middle after) :
    b.FillsRows wrap viewport start (n + 1) before after := by
  refine ⟨row.size.trans h.size, fun y hy x hx => ?_, fun j hj => ?_⟩
  · rw [row.pixels]
    rcases Nat.eq_or_lt_of_le (Nat.le_of_lt_succ hy) with rfl | earlier
    · rw [if_pos (by omega), h.kept _ (Nat.le_add_right _ _), Nat.add_zero, Nat.add_sub_cancel_left]
    · have above : y * viewport + x < n * viewport := Nat.mul_comm viewport n ▸ place_lt hx earlier
      rw [if_neg (by omega), h.filled y earlier x hx]
  · rw [Nat.succ_mul] at hj
    rw [row.pixels, if_neg (by omega), h.kept j (by omega)]

lemma fillRows_eq_some (wide : 0 < b.width) (full : b.pixels.size = b.width * b.height) (frame : Array Rgb)
    (room : frame.size = viewport * b.height) {start : Nat} (within : wrap → start ≤ b.width)
    {n : Nat} (hn : n ≤ b.height) :
    ∃ t, (List.range n).foldlM (fun pixels y => b.fillRow? wide wrap viewport y 0 start pixels) frame = some t ∧
      b.FillsRows wrap viewport start n frame t := by
  induction n with
  | zero => exact ⟨frame, rfl, rfl, fun _ h => absurd h (Nat.not_lt_zero _), fun _ _ => rfl⟩
  | succ n ih =>
    obtain ⟨middle, made, rows⟩ := ih (by omega)
    obtain ⟨after, filled, row⟩ : ∃ t, b.fillRow? wide wrap viewport n 0 start middle = some t ∧
        b.FillsRow wrap viewport n 0 start middle t :=
      fillRow?_eq_some wide hn (full ▸ row_le hn) middle (by rw [rows.size, room]; exact row_le hn) within
    refine ⟨after, ?_, rows.row row⟩
    rw [List.range_succ, List.foldlM_append, made]
    exact (bind_pure _).trans filled

structure ShownFrom (b : Bitmap) (wrap : Bool) (viewport column : Nat) (frame : Bitmap) : Prop where
  width : frame.width = viewport
  height : frame.height = b.height
  size : frame.pixels.size = viewport * b.height
  pixel : ∀ x < viewport, ∀ y < b.height, frame.pixel? x y = (b.shown? wrap y (column + x)).or (some .black)

lemma pixels_blank {width height : Nat} (hx : x < width) (hy : y < height) :
    (blank width height).pixels[y * width + x]? = some .black := by
  rw [blank, Array.getElem?_replicate, if_pos (place_lt hx hy)]

lemma shown?_mod (k : Nat) : b.shown? true y (column % b.width + k) = b.shown? true y (column + k) := by
  rw [shown?, shown?, if_pos rfl, if_pos rfl, Nat.mod_add_mod]

lemma visible?_eq_none {α : Type} [Scalar α] (large : mostBytes < viewport * b.height * 3) (position : α)
    (wrap : Bool) : b.visible? position viewport wrap = none := by
  rw [visible?, blank?, if_neg (Nat.not_le_of_lt large)]

lemma visible?_eq_some {α : Type} [Scalar α] (full : b.pixels.size = b.width * b.height) (position : α)
    (small : viewport * b.height * 3 ≤ mostBytes) (wrap : Bool) :
    ∃ frame, b.visible? position viewport wrap = some frame ∧
      b.ShownFrom wrap viewport (Bitmap.column position) frame := by
  rw [visible?, blank?, if_pos small]
  dsimp only
  split
  next empty =>
    refine ⟨_, rfl, rfl, rfl, Array.size_replicate, fun x hx y hy => ?_⟩
    have none : b.shown? wrap y (Bitmap.column position + x) = none := if_neg (by omega)
    rw [pixel?_eq (b := blank viewport b.height) hx hy, none, Option.none_or]
    exact pixels_blank hx hy
  next room =>
    have wide : 0 < b.width := by omega
    let start := if wrap then Bitmap.column position % b.width else Bitmap.column position
    have within : wrap → start ≤ b.width := fun wraps => by
      rw [show start = Bitmap.column position % b.width from if_pos wraps]
      exact (Nat.mod_lt _ wide).le
    obtain ⟨pixels, filled, rows⟩ := fillRows_eq_some wide full (blank viewport b.height).pixels
      Array.size_replicate within (Nat.le_refl b.height)
    refine ⟨⟨viewport, b.height, pixels⟩, congrArg (Option.map _) filled, rfl, rfl,
      rows.size.trans Array.size_replicate, fun x hx y hy => ?_⟩
    have same : b.shown? wrap y (start + x) = b.shown? wrap y (Bitmap.column position + x) := by
      cases wrap with
      | true => exact shown?_mod x
      | false => rfl
    rw [pixel?_eq (b := ⟨viewport, b.height, pixels⟩) hx hy]
    exact (rows.filled y hy x hx).trans (by rw [same, pixels_blank hx hy])

lemma pixel?_or (full : b.pixels.size = b.width * b.height) (hx : x < b.width) (hy : y < b.height)
    (other : Option Rgb) : (b.pixel? x y).or other = b.pixel? x y := by
  have room : y * b.width + x < b.pixels.size := full ▸ place_lt hx hy
  rw [pixel?_eq hx hy, Array.getElem?_eq_getElem room, Option.some_or]

lemma length_data (b : Bitmap) : b.data.length = b.pixels.size * 3 := by
  simp [data, List.length_flatMap, Rgb.bytes]

def ramp : Bitmap where
  width := 3
  height := 2
  pixels := ((List.range 6).map fun i => ⟨i.toUInt8, 0, 0⟩).toArray

def pole : Bitmap where
  width := 0
  height := 4294967295
  pixels := #[]

end Bitmap

end Marquee
