/-
How long the cycles of a loop take.

Durations are counted in buckets that are exact below `2 ^ 11` nanoseconds and keep the eleven
leading bits beyond, so a bucket is never wider than a thousandth of what it holds.

* `Drivetrain.Bucket` — the durations that are counted as one;
* `Drivetrain.Tally` — how many durations fell into each bucket;
* `Drivetrain.Share` — a share of all durations;
* `Drivetrain.Timing` — a tally with the count of cycles and of those longer than the period;
* `Drivetrain.Timing.report` — median, 99th percentile and maximum.
-/

import Drivetrain.Rounding

set_option relaxedAutoImplicit false
set_option autoImplicit false

namespace Drivetrain

/-! ### Buckets -/

namespace Bucket

/-- Leading bits that a bucket keeps. -/
def precision : Nat := 11

/-- How many low bits the bucket of a duration drops. -/
def shift (duration : Nat) : Nat := duration.log2 + 1 - precision

/-- The shortest duration that is counted with the given one. -/
def low (duration : Nat) : Nat := duration >>> shift duration <<< shift duration

/-- The longest duration of all, which has all of sixty-four bits. -/
def longest : Nat := UInt64.size - 1

/-- Where the durations begin that are longer than those counted with the given one, as far as
there are any. -/
def next (duration : Nat) : Nat := min (low duration + Nat.pow 2 (shift duration)) longest

/-- **The end of the bucket of a duration**, one short of where the next one begins.  The last
bucket, which no other follows, therefore ends one short of the longest duration of all. -/
def high (duration : Nat) : Nat := next duration - 1

end Bucket

/-! ### The tally -/

/-- **How many durations fell into each bucket**: the longest duration of the bucket and the count,
in ascending order. -/
abbrev Tally := List (Nat × Nat)

namespace Tally

/-- One more duration in the bucket that ends at `high`. -/
def add (high : Nat) : Tally → Tally
  | [] => [(high, 1)]
  | (h, n) :: rest =>
      if high < h then (high, 1) :: (h, n) :: rest
      else if high = h then (h, n + 1) :: rest
      else (h, n) :: add high rest

/-- How many durations were counted. -/
def total (t : Tally) : Nat := t.foldr (fun bucket n => bucket.2 + n) 0

/-- The end of the first bucket at which at least `rank` durations have been passed, zero if there
is none. -/
def atRank (rank : Nat) : Tally → Nat
  | [] => 0
  | (h, n) :: rest => if rank ≤ n then h else atRank (rank - n) rest

theorem total_cons (b : Nat × Nat) (t : Tally) : total (b :: t) = b.2 + total t := rfl

/-- Every duration is counted once. -/
theorem total_add (high : Nat) (t : Tally) : (t.add high).total = t.total + 1 := by
  induction t with
  | nil => rfl
  | cons b rest ih =>
    obtain ⟨h, n⟩ := b
    unfold add
    split
    · simp only [total_cons]
      omega
    · split
      · simp only [total_cons]
        omega
      · rw [total_cons, total_cons, ih]
        omega

end Tally

/-! ### Shares -/

/-- **A share of all durations**, as a machine number below one holds it. -/
structure Share where
  /-- How many units of the last place the share has. -/
  units : Nat
  deriving Repr, DecidableEq

namespace Share

def whole : Nat := 9007199254740992

def half : Share := ⟨4503599627370496⟩

/-- 99 of 100, to the nearest unit. -/
def ninetyNine : Share := ⟨8917127262193582⟩

end Share

/-! ### Reports -/

/-- What is reported of the cycles so far; durations in nanoseconds. -/
structure TimingReport where
  /-- The median duration. -/
  p50 : Nat
  /-- The duration that 99 of 100 cycles did not pass. -/
  p99 : Nat
  max : Nat
  ticks : Nat
  /-- How many of them took longer than the period. -/
  overruns : Nat
  deriving Repr, DecidableEq

/-- **The durations of a loop's cycles.** -/
structure Timing where
  /-- The period that a cycle should not pass. -/
  period : Nat
  /-- The durations, by bucket. -/
  tally : Tally
  /-- The longest duration so far, zero before the first. -/
  longest : Nat
  ticks : Nat
  /-- How many of them took longer than the period. -/
  overruns : Nat
  deriving Repr

namespace Timing

/-- Durations are held in sixty-four bits, and wrap there. -/
def wrap (nanoseconds : Nat) : Nat := nanoseconds % UInt64.size

def new (period : Nat) : Timing := ⟨wrap period, [], 0, 0, 0⟩

/-- **One more cycle.** -/
def record (t : Timing) (duration : Nat) : Timing :=
  { t with
    tally := t.tally.add (Bucket.high (wrap duration))
    longest := max t.longest (wrap duration)
    ticks := t.ticks + 1
    overruns := if t.period < wrap duration then t.overruns + 1 else t.overruns }

/-- **The rank of a share** among a number of durations, at least the first.  The product of share
and count is that of machine numbers. -/
def rank (share : Share) (count : Nat) : Nat :=
  Nat.max 1 (Rounding.up (Rounding.machine (Rounding.machine count * share.units)) Share.whole)

/-- The duration that a share of all durations did not pass. -/
def quantile (t : Timing) (share : Share) : Nat := t.tally.atRank (rank share t.tally.total)

/-- The end of the bucket of the longest duration; the longest duration of all is told as it is. -/
def maximum (t : Timing) : Nat :=
  if t.longest = Bucket.longest then t.longest else Bucket.high t.longest

/-- **The report.** -/
def report (t : Timing) : TimingReport where
  p50 := t.quantile .half
  p99 := t.quantile .ninetyNine
  max := t.maximum
  ticks := t.ticks
  overruns := t.overruns

end Timing

end Drivetrain
