import Mathlib.Data.List.Rotate
import Mathlib.Order.Bounds.Defs
import Marquee.Proofs.Number.Exact
import Marquee.Scroll.Smoother

/-! Over fractions the smoother answers with the mean of the last samples, which lies between the least and
the greatest of them. -/

namespace Marquee

open Number

inductive SmootherCall
  | push (sample : Rat)
  | clear

namespace Smoother

section Ring

variable {α : Type} {s : Smoother α} {xs : List α} {i n : Nat}

def window (capacity : Nat) (xs : List α) (x : α) : List α :=
  xs.drop (xs.length + 1 - capacity) ++ [x]

def held (s : Smoother α) : List α :=
  (s.slots.toList.take s.size).rotate s.next

def Filling (s : Smoother α) : Prop :=
  s.size < s.capacity → s.next = s.size

lemma take_succ_set (h : i < xs.length) (x : α) : (xs.set i x).take (i + 1) = xs.take i ++ [x] := by
  rw [List.take_succ_eq_append_getElem (by simpa using h), List.getElem_set_self,
    List.take_set_of_le (le_refl i)]

lemma rotate_set (h : i < xs.length) (x : α) :
    (xs.set i x).rotate (i + 1) = (xs.rotate i).drop 1 ++ [x] := by
  rw [List.rotate_eq_drop_append_take (by simpa using h), List.rotate_eq_drop_append_take h.le,
    take_succ_set h, List.drop_set_of_lt (Nat.lt_succ_self i), List.drop_eq_getElem_cons h,
    ← List.append_assoc]
  rfl

lemma rotate_length_mod (h : xs.length ≤ n) : xs.rotate (xs.length % n) = xs := by
  rcases h.lt_or_eq with below | rfl
  · rw [Nat.mod_eq_of_lt below, List.rotate_length]
  · rw [Nat.mod_self, List.rotate_zero]

lemma length_held (s : Smoother α) : s.held.length = s.size := by
  rw [held, List.length_rotate, List.length_take, Vector.length_toList, min_eq_left s.fits]

lemma held_of_full (full : s.size = s.capacity) : s.held = s.slots.toList.rotate s.next := by
  rw [held, List.take_of_length_le (by simp [full])]

lemma held_of_filling (h : s.Filling) (room : s.size < s.capacity) :
    s.held = s.slots.toList.take s.size := by
  have length : s.next = (s.slots.toList.take s.size).length := by simpa [s.fits] using h room
  rw [held, length, List.rotate_length]

variable [Scalar α]

lemma held_store_full (full : s.size = s.capacity) (x : α) :
    (s.store x).held = s.held.drop 1 ++ [x] := by
  have length : (s.slots.toList.set s.next x).length = s.capacity := by simp
  rw [held_of_full (s := s.store x) full, held_of_full full,
    ← rotate_set (by simp) x, ← List.rotate_mod _ (s.next + 1), length]
  simp [store, Vector.toList_set]

lemma held_store_room (h : s.Filling) (room : s.size < s.capacity) (x : α) :
    ({ s with size := s.size + 1, fits := room }.store x).held = s.held ++ [x] := by
  have longer : (s.held ++ [x]).length = s.size + 1 := by simp [length_held]
  have turned : (s.held ++ [x]).rotate ((s.size + 1) % s.capacity) = s.held ++ [x] := by
    rw [← longer, rotate_length_mod (longer.trans_le room)]
  rw [← turned, held_of_filling h room, ← take_succ_set (by simpa using room)]
  simp [held, store, h room, Vector.toList_set]

lemma held_push_single (single : s.capacity = 1) (x : α) : (s.push x).held = [x] := by
  obtain ⟨old, only⟩ : ∃ old, s.slots.toList = [old] := List.length_eq_one_iff.mp (by simp [single])
  rw [push, if_pos single, held]
  simp [Vector.toList_set, only]

lemma makeRoom_capacity (s : Smoother α) : s.makeRoom.capacity = s.capacity := by
  unfold makeRoom
  split <;> rfl

lemma settle_capacity (s : Smoother α) : s.settle.capacity = s.capacity := by
  unfold settle
  split <;> rfl

lemma push_capacity (s : Smoother α) (sample : α) : (s.push sample).capacity = s.capacity := by
  unfold push
  split
  · rfl
  · exact (settle_capacity _).trans (makeRoom_capacity s)

end Ring

section Fractions

variable {s : Smoother Exact} {qs : List Rat} {x low high : Rat}

structure Holds (s : Smoother Exact) (qs : List Rat) : Prop where
  filling : s.Filling
  held : s.held = qs.map .finite
  sum : s.sum = .finite qs.sum

lemma holds_empty (capacity : Nat) (positive : 0 < capacity) :
    (empty capacity positive : Smoother Exact).Holds [] :=
  ⟨fun _ => rfl, by simp [Smoother.held, empty], rfl⟩

lemma Holds.length (h : s.Holds qs) : qs.length = s.size := by
  rw [← length_held, h.held, List.length_map]

lemma mem_window {capacity : Nat} {y : Rat} (h : y ∈ window capacity qs x) : y ∈ qs ∨ y = x := by
  rcases List.mem_append.mp h with old | new
  · exact .inl (List.mem_of_mem_drop old)
  · exact .inr (List.mem_singleton.mp new)

lemma window_ne_nil (capacity : Nat) : window capacity qs x ≠ [] :=
  List.append_ne_nil_of_right_ne_nil _ (List.cons_ne_nil x [])

lemma total_map (qs : List Rat) : total (qs.map .finite) = (.finite qs.sum : Exact) := by
  have running (ys : List Rat) (x : Rat) :
      (ys.map Exact.finite).foldl (· + ·) (.finite x) = .finite (x + ys.sum) := by
    induction ys generalizing x with
    | nil => simp
    | cons y ys ih =>
      rw [List.map_cons, List.foldl_cons, Exact.add_finite, ih, List.sum_cons, add_assoc]
  cases qs with
  | nil => rfl
  | cons x xs => exact running xs x

lemma Holds.mean (h : s.Holds qs) : s.mean = .finite (qs.sum / qs.length) := by
  rw [Smoother.mean, h.sum, ← h.length]
  split
  -- Of no samples the mean is zero, and so is a quotient by zero.
  next none => simp [none]
  next some => exact Exact.div_finite ..

lemma Holds.settle (h : s.Holds qs) : s.settle.Holds qs := by
  unfold Smoother.settle
  split
  next begun =>
    have inOrder : s.held = s.slots.toList.take s.size := by
      rw [Smoother.held, begun, List.rotate_zero]
    exact ⟨h.filling, h.held, by rw [← inOrder, h.held, total_map]⟩
  · exact h

lemma Holds.store_room (h : s.Holds qs) (room : s.size < s.capacity) :
    ({ s with size := s.size + 1, fits := room }.store (.finite x)).Holds (qs ++ [x]) := by
  refine ⟨fun more => ?_, ?_, ?_⟩
  · have begun : (s.next.val + 1) % s.capacity = (s.size + 1) % s.capacity := by rw [h.filling room]
    exact begun.trans (Nat.mod_eq_of_lt more)
  · rw [held_store_room h.filling room, h.held, List.map_append, List.map_singleton]
  · simp [store, h.sum]

lemma Holds.store_full (h : s.Holds qs) (full : s.size = s.capacity) :
    ({ s with sum := s.sum - s.slots[s.next] }.store (.finite x)).Holds (qs.drop 1 ++ [x]) := by
  obtain ⟨oldest, rest, rfl⟩ : ∃ oldest rest, qs = oldest :: rest :=
    List.exists_cons_of_length_pos (by rw [h.length, full]; exact s.next.pos)
  have first : s.slots[s.next] = .finite oldest := by
    have head : s.held.head? = s.slots.toList[s.next.val]? := by
      rw [held_of_full full, List.head?_rotate (by simp)]
    rw [h.held] at head
    simpa using head.symm
  refine ⟨fun more => absurd more full.not_lt, ?_, ?_⟩
  · have dropped : s.held.drop 1 ++ [.finite x] = (rest ++ [x]).map .finite := by simp [h.held]
    exact (held_store_full (s := { s with sum := _ }) full _).trans dropped
  · simp [store, h.sum, first, Exact.sub_finite]

theorem Holds.push (h : s.Holds qs) (x : Rat) :
    (s.push (.finite x)).Holds (window s.capacity qs x) := by
  rw [window, h.length]
  by_cases single : s.capacity = 1
  · -- A single slot is written without regard to what it held, and the ring does not turn.
    have last : qs.drop (s.size + 1 - s.capacity) ++ [x] = [x] := by
      rw [single, Nat.add_sub_cancel, List.drop_of_length_le h.length.le, List.nil_append]
    rw [last]
    refine ⟨fun more => ?_, held_push_single single _, ?_⟩
    · rw [push_capacity, single, ← length_held, held_push_single single] at more
      exact absurd more (Nat.lt_irrefl 1)
    · rw [Smoother.push, if_pos single, List.sum_singleton]
  · rcases s.fits.lt_or_eq with room | full
    · have free : s.makeRoom = { s with size := s.size + 1, fits := room } := dif_neg room.ne
      rw [Smoother.push, if_neg single, free, Nat.sub_eq_zero_of_le room]
      exact (h.store_room room).settle
    · have freed : s.makeRoom = { s with sum := s.sum - s.slots[s.next] } := dif_pos full
      have one : s.size + 1 - s.capacity = 1 := by omega
      rw [Smoother.push, if_neg single, freed, one]
      exact (h.store_full full).settle

theorem Holds.smoothed (h : s.Holds qs) (x : Rat) :
    s.smoothed (.finite x) =
      .finite ((window s.capacity qs x).sum / (window s.capacity qs x).length) := by
  unfold Smoother.smoothed
  split
  next single =>
    have all : qs.length + 1 - s.capacity = qs.length := by omega
    simp [window, all]
  next several => exact (h.push x).mean

lemma mean_between (nonempty : qs ≠ []) (above : ∀ y ∈ qs, low ≤ y) (below : ∀ y ∈ qs, y ≤ high) :
    low ≤ qs.sum / qs.length ∧ qs.sum / qs.length ≤ high := by
  have positive : (0 : Rat) < qs.length := Nat.cast_pos.mpr (List.length_pos_of_ne_nil nonempty)
  rw [le_div_iff₀ positive, div_le_iff₀ positive, mul_comm low, mul_comm high, ← nsmul_eq_mul,
    ← nsmul_eq_mul]
  exact ⟨List.card_nsmul_le_sum qs low above, List.sum_le_card_nsmul qs high below⟩

theorem Holds.smoothed_between (h : s.Holds qs) (above : ∀ y ∈ qs, low ≤ y) (below : ∀ y ∈ qs, y ≤ high)
    (hlow : low ≤ x) (hhigh : x ≤ high) :
    ∃ q, s.smoothed (.finite x) = .finite q ∧ low ≤ q ∧ q ≤ high := by
  refine ⟨_, h.smoothed x, mean_between (window_ne_nil _) ?_ ?_⟩
  · rintro y hy
    rcases mem_window hy with old | rfl
    exacts [above y old, hlow]
  · rintro y hy
    rcases mem_window hy with old | rfl
    exacts [below y old, hhigh]

end Fractions

section Calls

variable {capacity : Nat} {calls : List SmootherCall}

def after (capacity : Nat) : List SmootherCall → Smoother Exact
  | [] => new capacity
  | .push sample :: earlier => (after capacity earlier).push (.finite sample)
  | .clear :: earlier => (after capacity earlier).clear

def pushed : List SmootherCall → List Rat
  | [] | .clear :: _ => []
  | .push sample :: earlier => sample :: pushed earlier

def recent (capacity : Nat) (calls : List SmootherCall) : List Rat :=
  (pushed calls).take (max 1 (min capacity longest))

def average (qs : List Rat) : Rat :=
  qs.sum / qs.length

lemma recent_eq_nil (none : pushed calls = []) : recent capacity calls = [] := by
  rw [recent, none, List.take_nil]

lemma window_reverse (positive : 0 < capacity) (qs : List Rat) (x : Rat) :
    window capacity (qs.take capacity).reverse x = ((x :: qs).take capacity).reverse := by
  obtain ⟨fewer, rfl⟩ : ∃ fewer, capacity = fewer + 1 := Nat.exists_eq_succ_of_ne_zero positive.ne'
  rw [window, List.drop_reverse, List.take_take, List.take_succ_cons, List.reverse_cons,
    List.length_reverse, List.length_take]
  congr 2
  rw [List.take_eq_take_iff]
  omega

lemma after_capacity (capacity : Nat) (calls : List SmootherCall) :
    (after capacity calls).capacity = max 1 (min capacity longest) := by
  induction calls with
  | nil => rfl
  | cons call earlier ih =>
    cases call with
    | push sample => exact (push_capacity _ _).trans ih
    | clear => exact ih

theorem after_holds (capacity : Nat) (calls : List SmootherCall) :
    (after capacity calls).Holds (recent capacity calls).reverse := by
  induction calls with
  | nil =>
    rw [recent_eq_nil rfl]
    exact holds_empty _ _
  | cons call earlier ih =>
    cases call with
    | push sample =>
      have pushed := ih.push sample
      rw [after_capacity, recent, window_reverse (Nat.le_max_left 1 _)] at pushed
      exact pushed
    | clear =>
      rw [recent_eq_nil rfl]
      exact holds_empty _ _

lemma smoothed_eq_mean (capacity : Nat) (calls : List SmootherCall) (sample : Rat) :
    (after capacity calls).smoothed (.finite sample) = (after capacity (.push sample :: calls)).mean := by
  have holds := after_holds capacity calls
  rw [holds.smoothed]
  exact (holds.push sample).mean.symm

/-- However often it has been filled and cleared, the smoother answers with the mean of the samples that
count, as if it were taken anew each time. -/
theorem mean_of_recent_samples (capacity : Nat) (calls : List SmootherCall) :
    let s := after capacity calls
    s.capacity = max 1 (min capacity longest) ∧
    s.size = min (pushed calls).length s.capacity ∧
    s.held = (recent capacity calls).reverse.map .finite ∧
    s.sum = .finite (recent capacity calls).sum ∧
    s.mean = .finite (average (recent capacity calls)) ∧
    (∀ sample, s.smoothed (.finite sample) = .finite (average (recent capacity (.push sample :: calls)))) ∧
    (pushed calls = [] → s.mean = .finite 0) ∧
    (∀ least greatest, IsLeast {q | q ∈ recent capacity calls} least →
      IsGreatest {q | q ∈ recent capacity calls} greatest →
      least ≤ average (recent capacity calls) ∧ average (recent capacity calls) ≤ greatest) := by
  have holds (calls : List SmootherCall) := after_holds capacity calls
  have mean (calls : List SmootherCall) :
      (after capacity calls).mean = .finite (average (recent capacity calls)) := by
    rw [(holds calls).mean, List.sum_reverse, List.length_reverse, average]
  refine ⟨after_capacity capacity calls, ?_, (holds calls).held, ?_, mean calls, fun sample => ?_,
    fun none => ?_, fun least greatest isLeast isGreatest => ?_⟩
  · rw [← (holds calls).length, List.length_reverse, recent, List.length_take, after_capacity, min_comm]
  · rw [(holds calls).sum, List.sum_reverse]
  · rw [smoothed_eq_mean, mean]
  · rw [mean, recent_eq_nil none, average, List.sum_nil, zero_div]
  · exact mean_between (List.ne_nil_of_mem isLeast.1) (fun _ hq => isLeast.2 hq) fun _ hq => isGreatest.2 hq

def fiveSamples : List SmootherCall :=
  [.push 4, .push 3, .push 2, .push 1, .clear, .push 9]

theorem last_three_samples_count :
    (after 3 fiveSamples).mean = .finite 3 ∧ (after 3 fiveSamples).size = 3 ∧
      (after 3 (.clear :: fiveSamples)).mean = .finite 0 ∧ (2 : Rat) ≤ 3 := by
  obtain ⟨capacity, size, -, -, mean, -, -, between⟩ := mean_of_recent_samples 3 fiveSamples
  have samples : recent 3 fiveSamples = [4, 3, 2] := rfl
  have three : average [4, 3, 2] = 3 := by norm_num [average]
  rw [samples, three] at mean between
  rw [capacity] at size
  refine ⟨mean, size, ?_, (between 2 4 ?_ ?_).1⟩
  · exact (mean_of_recent_samples 3 (.clear :: fiveSamples)).2.2.2.2.2.2.1 rfl
  · simp [IsLeast, lowerBounds]
    norm_num
  · simp [IsGreatest, upperBounds]
    norm_num

end Calls

end Smoother

end Marquee
