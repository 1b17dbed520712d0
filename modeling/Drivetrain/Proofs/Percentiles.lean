/-
What a report tells of the durations that were recorded.

A timing keeps no durations, only how many fell into each bucket, and so it tells a duration by the
end of its bucket.  Buckets are ordered as durations are.  So the ends that were counted, in
ascending order, are the durations in ascending order with each one moved to the end of its bucket,
and what is told of a rank is told of the very duration of that rank.  One duration is told too
short: the longest that sixty-four bits hold, whose bucket ends one before it.

Recordings may come from many holders of one timing and in pieces, since each holder counts in
several places one after the other.  No piece minds what was counted before it, so the pieces come
to the same report in whatever order they are taken.

Main definitions:

* `Drivetrain.Tally.ends` — the ends of buckets that were counted, as often as they were;
* `Drivetrain.Timing.recordAll` — a timing after a series of durations;
* `Drivetrain.Timing.Piece`, `Drivetrain.Timing.takeAll` — what a recording does at once, and a
  timing after pieces of recordings;
* `Drivetrain.Timing.Tells` — **what is told of the duration of a rank**.

Main results:

* `Drivetrain.Bucket.high_mono`, `Drivetrain.Bucket.le_high`, `Drivetrain.Bucket.high_le` — ends of
  buckets against durations;
* `Drivetrain.Timing.rank_eq_ceil` — the rank of a share is the exact one for as many cycles as a
  machine runs in its life;
* `Drivetrain.Timing.recorded_recordAll` — what a timing holds after a series of durations;
* `Drivetrain.Timing.report_consistent` — **the report**, of any durations and in any order;
* `Drivetrain.Timing.longest_told_short` — the one duration that is told too short.
-/

import Mathlib
import Drivetrain.Proofs.Nearest
import Drivetrain.Timing

set_option relaxedAutoImplicit false
set_option autoImplicit false

namespace Drivetrain

/-! ### Buckets -/

namespace Bucket

theorem longest_eq : longest = 2 ^ 64 - 1 := rfl

/-- Where a bucket would end if durations went on without bound. -/
def fence (duration : ℕ) : ℕ := low duration + 2 ^ shift duration

theorem low_eq (d : ℕ) : low d = d / 2 ^ shift d * 2 ^ shift d := by
  rw [low, Nat.shiftLeft_eq, Nat.shiftRight_eq_div_pow]

theorem fence_eq (d : ℕ) : fence d = (d / 2 ^ shift d + 1) * 2 ^ shift d := by
  rw [fence, low_eq, Nat.add_mul, Nat.one_mul]

theorem high_eq (d : ℕ) : high d = min (fence d) longest - 1 := rfl

theorem lt_fence (d : ℕ) : d < fence d := by
  rw [fence_eq]
  exact Nat.lt_mul_of_div_lt (Nat.lt_succ_self _) (Nat.two_pow_pos _)

theorem fence_le (d : ℕ) : fence d ≤ d + 2 ^ shift d := by
  rw [fence, low_eq]
  exact Nat.add_le_add_right (Nat.div_mul_le_self ..) _

/-- Buckets follow one another. -/
theorem fence_mono {c d : ℕ} (h : c ≤ d) : fence c ≤ fence d := by
  rcases (Rounding.lower_mono precision h).lt_or_eq with narrower | same
  · -- the bucket of the longer one is wider, and begins after all of the narrower ones
    have below : c / 2 ^ shift c + 1 ≤ 2 ^ precision := by
      rw [Nat.succ_le_iff, Nat.div_lt_iff_lt_mul (Nat.two_pow_pos _)]
      exact Rounding.lt_two_pow_lower precision c
    calc fence c = (c / 2 ^ shift c + 1) * 2 ^ shift c := fence_eq c
      _ ≤ 2 ^ 11 * 2 ^ shift c := Nat.mul_le_mul_right _ below
      _ = 2 ^ 10 * 2 ^ (shift c + 1) := by ring
      _ ≤ 2 ^ 10 * 2 ^ shift d :=
          Nat.mul_le_mul_left _ (Nat.pow_le_pow_right two_pos narrower)
      _ ≤ d := Rounding.two_pow_le_of_lower 10 (Nat.zero_lt_of_lt narrower)
      _ ≤ fence d := (lt_fence d).le
  · have same : shift c = shift d := same
    rw [fence_eq, fence_eq, same]
    exact Nat.mul_le_mul_right _ (Nat.succ_le_succ (Nat.div_le_div_right h))

/-- **A longer duration has no earlier bucket.** -/
theorem high_mono {c d : ℕ} (h : c ≤ d) : high c ≤ high d :=
  Nat.sub_le_sub_right (min_le_min_right _ (fence_mono h)) 1

theorem high_lt_longest (d : ℕ) : high d < longest := by
  have := lt_fence d
  rw [high_eq, longest_eq]
  omega

/-- **A bucket does not end before the durations in it**, but for the longest of all. -/
theorem le_high {d : ℕ} (h : d < longest) : d ≤ high d := by
  have := lt_fence d
  rw [high_eq]
  omega

theorem high_longest : high longest + 1 = longest := by decide +kernel

/-- **A bucket ends at most a thousandth after the durations in it.** -/
theorem high_le (d : ℕ) : 1000 * high d ≤ 1001 * d := by
  have ends := fence_le d
  have begins := lt_fence d
  have width : shift d = 0 ∨ 2 ^ 10 * 2 ^ shift d ≤ d := Rounding.lower_eq_zero_or 10 d
  rw [high_eq]
  rcases width with own | narrow
  · rw [own] at ends
    omega
  · omega

end Bucket

/-! ### Tallies -/

namespace Tally

/-- The ends of buckets that were counted, as often as they were. -/
def ends (t : Tally) : List ℕ := t.flatMap fun b => List.replicate b.2 b.1

/-- The buckets are in order, and none is there twice. -/
def Ascending (t : Tally) : Prop := t.Pairwise fun a b => a.1 < b.1

theorem ends_cons (b : ℕ × ℕ) (t : Tally) : ends (b :: t) = List.replicate b.2 b.1 ++ ends t := rfl

theorem length_ends (t : Tally) : t.ends.length = t.total := by
  induction t with
  | nil => rfl
  | cons b rest ih => rw [ends_cons, List.length_append, List.length_replicate, ih, total_cons]

/-- One more duration is one more end. -/
theorem ends_add (high : ℕ) (t : Tally) : (t.add high).ends.Perm (high :: t.ends) := by
  induction t with
  | nil => exact .refl _
  | cons b rest ih =>
    obtain ⟨h, n⟩ := b
    unfold add
    split_ifs with below here
    · exact .refl _
    · rw [here]
      exact .refl _
    · exact (ih.append_left _).trans List.perm_middle

theorem fst_of_mem_add {high : ℕ} {t : Tally} {b : ℕ × ℕ} (h : b ∈ t.add high) :
    b.1 = high ∨ ∃ c ∈ t, b.1 = c.1 := by
  induction t with
  | nil => exact .inl (by rw [List.mem_singleton.1 h])
  | cons c rest ih =>
    obtain ⟨k, n⟩ := c
    unfold add at h
    split_ifs at h with below here
    · rcases List.mem_cons.1 h with rfl | h
      · exact .inl rfl
      · exact .inr ⟨b, h, rfl⟩
    · rcases List.mem_cons.1 h with rfl | h
      · exact .inl here.symm
      · exact .inr ⟨b, List.mem_cons_of_mem _ h, rfl⟩
    · rcases List.mem_cons.1 h with rfl | h
      · exact .inr ⟨(k, n), List.mem_cons_self, rfl⟩
      · rcases ih h with eq | ⟨c, mem, eq⟩
        · exact .inl eq
        · exact .inr ⟨c, List.mem_cons_of_mem _ mem, eq⟩

theorem Ascending.add {t : Tally} (high : ℕ) (asc : t.Ascending) : (t.add high).Ascending := by
  induction t with
  | nil => exact List.pairwise_singleton _ _
  | cons c rest ih =>
    obtain ⟨k, n⟩ := c
    obtain ⟨first, others⟩ := List.pairwise_cons.1 asc
    unfold Tally.add
    split_ifs with below here
    · refine List.pairwise_cons.2 ⟨fun b hb => ?_, asc⟩
      rcases List.mem_cons.1 hb with rfl | hb
      · exact below
      · exact below.trans (first b hb)
    · exact List.pairwise_cons.2 ⟨first, others⟩
    · refine List.pairwise_cons.2 ⟨fun b hb => ?_, ih others⟩
      rcases fst_of_mem_add hb with eq | ⟨c, mem, eq⟩
      · show k < b.1
        omega
      · exact (first c mem).trans_eq eq.symm

/-- Of buckets in order the ends are in order. -/
theorem Ascending.ends {t : Tally} (asc : t.Ascending) : t.ends.Pairwise (· ≤ ·) := by
  refine List.pairwise_flatMap.2 ⟨fun b _ => List.pairwise_replicate.2 (.inr le_rfl), ?_⟩
  refine asc.imp fun {a b} lt x hx y hy => ?_
  rw [List.eq_of_mem_replicate hx, List.eq_of_mem_replicate hy]
  exact lt.le

theorem atRank_nil (rank : ℕ) : atRank rank [] = 0 := rfl

/-- **What stands at a rank** is found by counting through the ends. -/
theorem atRank_eq {t : Tally} {rank e : ℕ} (positive : 0 < rank)
    (h : t.ends[rank - 1]? = some e) : t.atRank rank = e := by
  induction t generalizing rank with
  | nil => cases h
  | cons b rest ih =>
    obtain ⟨k, n⟩ := b
    rw [ends_cons, List.getElem?_append, List.length_replicate] at h
    unfold atRank
    split_ifs with here
    · rw [if_pos (by omega), List.getElem?_replicate, if_pos (by omega)] at h
      exact Option.some.inj h
    · rw [if_neg (by omega)] at h
      refine ih (by omega) ?_
      rwa [Nat.sub_right_comm]

/-- **It does not matter which of two durations comes first.** -/
theorem add_comm (a b : ℕ) (t : Tally) : (t.add a).add b = (t.add b).add a := by
  induction t with
  | nil => grind [add]
  | cons c rest ih =>
    -- either one is before the first bucket, in it or after it; only if both are after it does the
    -- rest come in
    grind [add]

end Tally

/-! ### Ranks -/

namespace Share

/-- **A share of so many in a hundred**, rounded down by less than a tenth of a unit. -/
structure IsPercent (s : Share) (percent : ℕ) : Prop where
  part : percent ≤ 99
  le : 100 * s.units ≤ percent * whole
  lt : percent * whole < 100 * s.units + 10

theorem isPercent_half : half.IsPercent 50 := by constructor <;> decide

theorem isPercent_ninetyNine : ninetyNine.IsPercent 99 := by constructor <;> decide

theorem whole_eq : whole = 2 ^ 53 := rfl

end Share

namespace Timing

theorem rank_eq (s : Share) (n : ℕ) :
    rank s n = max 1 (Rounding.up (Rounding.machine (Rounding.machine n * s.units)) Share.whole) :=
  rfl

theorem rank_pos (s : Share) (n : ℕ) : 0 < rank s n := le_max_left 1 _

/-- A larger share has no lower rank. -/
theorem rank_mono {s s' : Share} (h : s.units ≤ s'.units) (n : ℕ) : rank s n ≤ rank s' n :=
  max_le_max_left 1 (Rounding.up_mono _ (Rounding.machine_mono (Nat.mul_le_mul_left _ h)))

/-- **The rank of a share is one of the ranks that there are**, however its product is rounded. -/
theorem rank_le {s : Share} {percent n : ℕ} (share : s.IsPercent percent) (positive : 0 < n) :
    rank s n ≤ n := by
  refine max_le positive ((Rounding.up_le_iff (by decide)).2 ?_)
  have count := Nat.mul_le_mul_right s.units (Rounding.machine_le n)
  have product := Rounding.machine_le (Rounding.machine n * s.units)
  have units : 100 * s.units ≤ 99 * 2 ^ 53 := share.le.trans (Nat.mul_le_mul_right _ share.part)
  have bound : 100 * (n * s.units) ≤ n * (99 * 2 ^ 53) := by
    rw [Nat.mul_left_comm]
    exact Nat.mul_le_mul_left n units
  rw [Nat.mul_right_comm, Nat.mul_right_comm n] at count
  rw [Share.whole_eq]
  omega

/-- **The rank of a share is the exact one**, of any number of cycles that a loop comes to: a
thousand a second make `2 ^ 46` in two thousand years. -/
theorem rank_eq_ceil {s : Share} {percent n : ℕ} (share : s.IsPercent percent)
    (few : n ≤ 2 ^ 46) : rank s n = max 1 ⌈(percent / 100 * n : ℚ)⌉₊ := by
  have held : Rounding.machine n = n := Rounding.machine_eq_self (few.trans_lt (by decide))
  have exact : (percent / 100 * n : ℚ) = (percent * n : ℕ) / (100 : ℕ) := by
    push_cast
    ring
  -- the product is short of the exact one by less than a tenth of a unit for each cycle
  have low : 100 * (n * s.units) ≤ percent * n * 2 ^ 53 := by
    have := Nat.mul_le_mul_left n share.le
    rw [Share.whole_eq] at this
    linarith
  have high : percent * n * 2 ^ 53 ≤ 100 * (n * s.units) + 10 * n := by
    have := Nat.mul_le_mul_left n share.lt.le
    rw [Share.whole_eq] at this
    linarith
  have size : percent * n ≤ 99 * n := Nat.mul_le_mul_right n share.part
  rw [rank_eq, held, exact, ← Rounding.up_eq_ceil _ (by decide)]
  refine congrArg (max 1) (eq_of_forall_ge_iff fun k => ?_)
  rw [Rounding.up_le_iff (by decide), Rounding.up_le_iff (by decide), Share.whole_eq]
  constructor
  · -- rounding does not take it past a rank, which would be a hundredth of a whole away
    intro le
    have product := Rounding.le_machine (n * s.units)
    omega
  · intro le
    rcases Nat.lt_or_ge k (2 ^ 53) with small | large
    · rw [← Rounding.machine_mul_two_pow small 53]
      exact Rounding.machine_mono (by omega)
    · have product := Rounding.machine_le (n * s.units)
      omega

theorem rank_half {n : ℕ} (few : n ≤ 2 ^ 46) : rank .half n = max 1 ⌈(1 / 2 * n : ℚ)⌉₊ := by
  rw [rank_eq_ceil Share.isPercent_half few]
  norm_num

theorem rank_ninetyNine {n : ℕ} (few : n ≤ 2 ^ 46) :
    rank .ninetyNine n = max 1 ⌈(99 / 100 * n : ℚ)⌉₊ := by
  rw [rank_eq_ceil Share.isPercent_ninetyNine few]
  norm_num

/-- Of twice as many cycles a product can be rounded to the whole number below it. -/
example : rank .ninetyNine 142159079146799 + 1 =
    max 1 ⌈(99 / 100 * 142159079146799 : ℚ)⌉₊ := by
  decide +kernel

/-! ### Recordings -/

/-- A timing after a series of durations. -/
def recordAll (t : Timing) (durations : List ℕ) : Timing := durations.foldl record t

theorem wrap_of_lt {d : ℕ} (h : d < UInt64.size) : wrap d = d := Nat.mod_eq_of_lt h

theorem wrap_le (d : ℕ) : wrap d ≤ Bucket.longest :=
  Nat.le_sub_one_of_lt (Nat.mod_lt d (by decide))

/-- Of no durations a quantile is zero. -/
theorem quantile_new (period : ℕ) (share : Share) : (new period).quantile share = 0 :=
  Tally.atRank_nil _

/-- **What a timing holds after a series of durations.** -/
structure Recorded (period : ℕ) (durations : List ℕ) (t : Timing) : Prop where
  period_eq : t.period = wrap period
  ascending : t.tally.Ascending
  ends : t.tally.ends.Perm (durations.map fun d => Bucket.high (wrap d))
  longest : ∀ d ∈ durations, wrap d ≤ t.longest
  bounded : t.longest ≤ Bucket.longest
  ticks : t.ticks = durations.length
  overruns : t.overruns = durations.countP fun d => wrap period < wrap d

namespace Recorded

variable {period : ℕ} {durations : List ℕ} {t : Timing}

theorem new (period : ℕ) : Recorded period [] (new period) where
  period_eq := rfl
  ascending := .nil
  ends := .refl _
  longest := nofun
  bounded := Nat.zero_le _
  ticks := rfl
  overruns := rfl

/-- One more duration is held with those before it. -/
theorem record (h : Recorded period durations t) (d : ℕ) :
    Recorded period (durations ++ [d]) (t.record d) where
  period_eq := h.period_eq
  ascending := h.ascending.add _
  ends := by
    rw [List.map_append]
    exact (Tally.ends_add ..).trans ((h.ends.cons _).trans (List.perm_append_singleton _ _).symm)
  longest := by
    intro e he
    rcases List.mem_append.1 he with he | he
    · exact (h.longest e he).trans (le_max_left ..)
    · rw [List.mem_singleton.1 he]
      exact le_max_right ..
  bounded := max_le h.bounded (wrap_le d)
  ticks := by
    rw [List.length_append]
    exact congrArg (· + 1) h.ticks
  overruns := by
    rw [List.countP_append, List.countP_singleton, ← h.overruns, ← h.period_eq]
    simp only [Timing.record, decide_eq_true_eq]
    split_ifs <;> rfl

end Recorded

/-- **A series of durations is held as it was recorded.** -/
theorem recorded_recordAll (period : ℕ) (durations : List ℕ) :
    Recorded period durations ((new period).recordAll durations) := by
  induction durations using List.reverseRecOn with
  | nil => exact .new period
  | append_singleton before d ih =>
    rw [recordAll, List.foldl_append]
    exact ih.record d

/-! ### Pieces of recordings -/

/-- **What a recording does at once.**  It counts a bucket, a cycle and, if it took longer than the
period, an overrun; another holder may do a piece of its own in between. -/
inductive Piece where
  | bucket (duration : ℕ)
  | tick
  | overrun (duration : ℕ)

/-- A timing after a piece of a recording. -/
def take (t : Timing) : Piece → Timing
  | .bucket d =>
      { t with tally := t.tally.add (Bucket.high (wrap d)), longest := max t.longest (wrap d) }
  | .tick => { t with ticks := t.ticks + 1 }
  | .overrun d => { t with overruns := if t.period < wrap d then t.overruns + 1 else t.overruns }

/-- A timing after pieces of recordings. -/
def takeAll (t : Timing) (pieces : List Piece) : Timing := pieces.foldl take t

/-- The pieces of the recording of a duration. -/
def pieces (duration : ℕ) : List Piece := [.bucket duration, .tick, .overrun duration]

theorem record_eq_takeAll (t : Timing) (d : ℕ) : t.record d = t.takeAll (pieces d) := rfl

theorem recordAll_eq_takeAll (t : Timing) (durations : List ℕ) :
    t.recordAll durations = t.takeAll (durations.flatMap pieces) := by
  rw [takeAll, List.foldl_flatMap]
  exact congrArg (durations.foldl · t) (funext₂ record_eq_takeAll)

/-- **No piece minds what was counted before it.** -/
theorem take_comm (t : Timing) (p q : Piece) : (t.take p).take q = (t.take q).take p := by
  cases p with
  | bucket c =>
      cases q with
      | bucket d => simp only [take, Tally.add_comm (Bucket.high (wrap c)), max_right_comm]
      | tick => rfl
      | overrun d => rfl
  | tick => cases q <;> rfl
  | overrun c =>
      cases q with
      | bucket d => rfl
      | tick => rfl
      | overrun d =>
          by_cases hc : t.period < wrap c <;> by_cases hd : t.period < wrap d <;>
            simp only [take, hc, hd, if_true, if_false]

/-- **The pieces of a series of recordings come to the series**, in whatever order. -/
theorem takeAll_eq_recordAll (t : Timing) {durations : List ℕ} {taken : List Piece}
    (h : taken.Perm (durations.flatMap pieces)) : t.takeAll taken = t.recordAll durations := by
  rw [recordAll_eq_takeAll]
  exact h.foldl_eq' (fun p _ q _ t => take_comm t p q) t

/-- The order of a series does not matter. -/
theorem recordAll_perm (t : Timing) {durations others : List ℕ} (h : others.Perm durations) :
    t.recordAll others = t.recordAll durations := by
  rw [recordAll_eq_takeAll t others]
  exact t.takeAll_eq_recordAll (h.flatMap_right pieces)

/-! ### The report -/

/-- The durations in ascending order. -/
abbrev sorted (durations : List ℕ) : List ℕ := durations.insertionSort (· ≤ ·)

/-- **What is told of the duration of a rank**: it is not below it and at most a thousandth above,
but the longest duration of all is told one too short. -/
def Tells (durations : List ℕ) (rank told : ℕ) : Prop :=
  ∃ d, (sorted durations)[rank - 1]? = some d ∧
    (if d = Bucket.longest then told + 1 = d else d ≤ told) ∧ 1000 * told ≤ 1001 * d

namespace Recorded

variable {period : ℕ} {durations : List ℕ} {t : Timing}

/-- **The ends that were counted are those of the durations, in order.** -/
theorem ends_eq (h : Recorded period durations t) (short : ∀ d ∈ durations, d < UInt64.size) :
    t.tally.ends = (sorted durations).map Bucket.high := by
  have ends : (durations.map fun d => Bucket.high (wrap d)) = durations.map Bucket.high :=
    List.map_congr_left fun d hd => congrArg Bucket.high (wrap_of_lt (short d hd))
  have counted : t.tally.ends.Perm ((sorted durations).map Bucket.high) := by
    have order := (List.perm_insertionSort (· ≤ ·) durations).symm.map Bucket.high
    exact (h.ends.trans (.of_eq ends)).trans order
  have ordered := (List.pairwise_insertionSort (· ≤ ·) durations).map (S := (· ≤ ·)) Bucket.high
    fun _ _ => Bucket.high_mono
  exact counted.eq_of_pairwise' h.ascending.ends ordered

theorem total_eq (h : Recorded period durations t) : t.tally.total = durations.length := by
  rw [← Tally.length_ends, h.ends.length_eq, List.length_map]

/-- **What stands at a rank of the tally is the end of the bucket of the duration of that rank.** -/
theorem quantile_eq (h : Recorded period durations t) (short : ∀ d ∈ durations, d < UInt64.size)
    {share : Share} {d : ℕ}
    (ranked : (sorted durations)[rank share durations.length - 1]? = some d) :
    t.quantile share = Bucket.high d := by
  rw [quantile, h.total_eq]
  refine Tally.atRank_eq (rank_pos ..) ?_
  rw [h.ends_eq short, List.getElem?_map, ranked]
  rfl

/-- **The maximum is not below any bucket that was counted.** -/
theorem high_le_maximum (h : Recorded period durations t) {d : ℕ} (mem : d ∈ durations)
    (short : d < UInt64.size) : Bucket.high d ≤ t.maximum := by
  have le := h.longest d mem
  rw [wrap_of_lt short] at le
  unfold maximum
  split_ifs with longest
  · rw [longest]
    exact (Bucket.high_lt_longest d).le
  · exact Bucket.high_mono le

theorem le_maximum (h : Recorded period durations t) {d : ℕ} (mem : d ∈ durations)
    (short : d < UInt64.size) : d ≤ t.maximum := by
  have le := h.longest d mem
  rw [wrap_of_lt short] at le
  unfold maximum
  split_ifs with longest
  · exact le
  · exact le.trans (Bucket.le_high (lt_of_le_of_ne h.bounded longest))

theorem overruns_eq (h : Recorded period durations t) (bounded : period < UInt64.size)
    (short : ∀ d ∈ durations, d < UInt64.size) :
    t.overruns = durations.countP (period < ·) := by
  refine h.overruns.trans (List.countP_congr fun d hd => ?_)
  rw [wrap_of_lt bounded, wrap_of_lt (short d hd)]

/-- **Where there was an overrun the maximum is above the period.** -/
theorem period_lt_maximum (h : Recorded period durations t) (bounded : period < UInt64.size)
    (short : ∀ d ∈ durations, d < UInt64.size) (overrun : 0 < t.overruns) :
    period < t.maximum := by
  rw [h.overruns_eq bounded short, List.countP_pos_iff] at overrun
  obtain ⟨d, mem, late⟩ := overrun
  exact (of_decide_eq_true late).trans_le (h.le_maximum mem (short d mem))

/-- A duration that has the rank of a share was recorded. -/
theorem exists_ranked {share : Share} {percent : ℕ} (hundredths : share.IsPercent percent)
    (nonempty : durations ≠ []) :
    ∃ d ∈ durations, (sorted durations)[rank share durations.length - 1]? = some d := by
  have positive := rank_pos share durations.length
  have le := rank_le hundredths (List.length_pos_iff.2 nonempty)
  have inside : rank share durations.length - 1 < (sorted durations).length := by
    rw [List.length_insertionSort]
    omega
  refine ⟨_, ?_, List.getElem?_eq_getElem inside⟩
  exact (List.mem_insertionSort _).1 (List.getElem_mem inside)

/-- **A quantile tells the duration of its rank.** -/
theorem tells_quantile (h : Recorded period durations t)
    (short : ∀ d ∈ durations, d < UInt64.size) {share : Share} {percent : ℕ}
    (hundredths : share.IsPercent percent) (nonempty : durations ≠ []) :
    Tells durations (rank share durations.length) (t.quantile share) := by
  obtain ⟨d, mem, ranked⟩ := exists_ranked hundredths nonempty
  rw [h.quantile_eq short ranked]
  refine ⟨d, ranked, ?_, Bucket.high_le d⟩
  split_ifs with longest
  · rw [longest]
    exact Bucket.high_longest
  · exact Bucket.le_high (lt_of_le_of_ne (Nat.le_sub_one_of_lt (short d mem)) longest)

/-- **Of two shares the larger one has no shorter quantile.** -/
theorem quantile_mono (h : Recorded period durations t)
    (short : ∀ d ∈ durations, d < UInt64.size) (nonempty : durations ≠ []) {share share' : Share}
    {percent percent' : ℕ} (hundredths : share.IsPercent percent)
    (hundredths' : share'.IsPercent percent') (le : share.units ≤ share'.units) :
    t.quantile share ≤ t.quantile share' := by
  obtain ⟨c, -, ranked⟩ := exists_ranked hundredths nonempty
  obtain ⟨d, -, ranked'⟩ := exists_ranked hundredths' nonempty
  rw [h.quantile_eq short ranked, h.quantile_eq short ranked']
  obtain ⟨_, rfl⟩ := List.getElem?_eq_some_iff.1 ranked
  obtain ⟨_, rfl⟩ := List.getElem?_eq_some_iff.1 ranked'
  exact Bucket.high_mono (List.sortedLE_insertionSort.getElem_le_getElem_of_le
    (Nat.sub_le_sub_right (rank_mono le durations.length) 1))

/-- **No quantile is above the maximum.** -/
theorem quantile_le_maximum (h : Recorded period durations t)
    (short : ∀ d ∈ durations, d < UInt64.size) (nonempty : durations ≠ []) {share : Share}
    {percent : ℕ} (hundredths : share.IsPercent percent) : t.quantile share ≤ t.maximum := by
  obtain ⟨d, mem, ranked⟩ := exists_ranked hundredths nonempty
  rw [h.quantile_eq short ranked]
  exact h.high_le_maximum mem (short d mem)

end Recorded

/-- Median, 99th percentile and maximum are in order, also where nothing was recorded. -/
theorem report_ordered {durations : List ℕ} (period : ℕ)
    (short : ∀ d ∈ durations, d < UInt64.size) :
    ((new period).recordAll durations).report.p50 ≤
        ((new period).recordAll durations).report.p99 ∧
      ((new period).recordAll durations).report.p99 ≤
        ((new period).recordAll durations).report.max := by
  have h := recorded_recordAll period durations
  rcases eq_or_ne durations [] with rfl | nonempty
  · exact ⟨(quantile_new period .half).trans_le (Nat.zero_le _),
      (quantile_new period .ninetyNine).trans_le (Nat.zero_le _)⟩
  · have larger : Share.half.units ≤ Share.ninetyNine.units := by decide
    exact ⟨h.quantile_mono short nonempty Share.isPercent_half Share.isPercent_ninetyNine larger,
      h.quantile_le_maximum short nonempty Share.isPercent_ninetyNine⟩

/-- **The report of a timing**, of any durations that sixty-four bits hold, and in any order.

It depends on nothing but the durations and how often each was recorded, also where the recordings
of many holders came in pieces between one another.  Cycles and overruns are counted exactly.  The
median is not above the 99th percentile nor that above the maximum, and the maximum is not below any
duration.  Median and percentile tell the durations of their ranks, and these ranks are the exact
ones for any number of cycles that a loop comes to. -/
theorem report_consistent {period : ℕ} {durations : List ℕ} (bounded : period < UInt64.size)
    (short : ∀ d ∈ durations, d < UInt64.size) :
    let report := ((new period).recordAll durations).report
    let cycles := durations.length
    (∀ others, others.Perm durations → ((new period).recordAll others).report = report) ∧
      (∀ taken, taken.Perm (durations.flatMap pieces) →
        ((new period).takeAll taken).report = report) ∧
      report.ticks = cycles ∧
      report.overruns = durations.countP (period < ·) ∧
      (report.p50 ≤ report.p99 ∧ report.p99 ≤ report.max) ∧
      (∀ d ∈ durations, d ≤ report.max) ∧
      (0 < report.overruns → period < report.max) ∧
      (durations ≠ [] →
        Tells durations (rank .half cycles) report.p50 ∧
          Tells durations (rank .ninetyNine cycles) report.p99) ∧
      (cycles ≤ 2 ^ 46 →
        rank .half cycles = max 1 ⌈(1 / 2 * cycles : ℚ)⌉₊ ∧
          rank .ninetyNine cycles = max 1 ⌈(99 / 100 * cycles : ℚ)⌉₊) := by
  intro report cycles
  have h := recorded_recordAll period durations
  refine ⟨fun others perm => ?_, fun taken perm => ?_, h.ticks, h.overruns_eq bounded short,
    report_ordered period short, fun d mem => h.le_maximum mem (short d mem),
    h.period_lt_maximum bounded short, fun nonempty => ?_,
    fun few => ⟨rank_half few, rank_ninetyNine few⟩⟩
  · rw [recordAll_perm _ perm]
  · rw [takeAll_eq_recordAll _ perm]
  · exact ⟨h.tells_quantile short Share.isPercent_half nonempty,
      h.tells_quantile short Share.isPercent_ninetyNine nonempty⟩

/-- Four cycles, one of which took as long as sixty-four bits hold. -/
def stalled : List ℕ := [5, 3000, Bucket.longest, 5]

/-- Whoever recorded them, and in whatever pieces, a period of a microsecond was overrun twice and
the longest cycle is told one too short by the percentile, and exactly by the maximum. -/
theorem report_consistent_of_stalled :
    (1000 < UInt64.size ∧ ∀ d ∈ stalled, d < UInt64.size) ∧
      (∀ taken, taken.Perm (stalled.flatMap pieces) → ((new 1000).takeAll taken).report =
        ⟨5, Bucket.longest - 1, Bucket.longest, 4, 2⟩) ∧
      Tells stalled 2 5 ∧ Tells stalled 4 (Bucket.longest - 1) := by
  have bounded : 1000 < UInt64.size := by decide
  have short : ∀ d ∈ stalled, d < UInt64.size := by decide
  obtain ⟨-, pieces, -, -, -, -, -, tells, -⟩ := report_consistent bounded short
  have report : ((new 1000).recordAll stalled).report =
      ⟨5, Bucket.longest - 1, Bucket.longest, 4, 2⟩ := by decide +kernel
  have ranks : rank .half 4 = 2 ∧ rank .ninetyNine 4 = 4 := by decide +kernel
  refine ⟨⟨bounded, short⟩, fun taken perm => (pieces taken perm).trans report, ?_⟩
  have cycles : stalled.length = 4 := rfl
  have told := tells (by decide)
  rwa [report, cycles, ranks.1, ranks.2] at told

/-- **The longest duration is told too short**: recorded alone it has every rank, and median and
percentile are below it. -/
theorem longest_told_short :
    let report := ((new Bucket.longest).recordAll [Bucket.longest]).report
    Bucket.longest < UInt64.size ∧
      (sorted [Bucket.longest])[max 1 ⌈(1 / 2 * 1 : ℚ)⌉₊ - 1]? = some Bucket.longest ∧
      (sorted [Bucket.longest])[max 1 ⌈(99 / 100 * 1 : ℚ)⌉₊ - 1]? = some Bucket.longest ∧
      ¬ Bucket.longest ≤ report.p50 ∧ ¬ Bucket.longest ≤ report.p99 := by
  decide +kernel

end Timing

end Drivetrain
