/-
Settling as an unbroken streak of checks.

A settling remembers one error and one instant, and answers each check from these two.  What it
answers is said here of the whole history: a loop has settled when all checks since some earlier
one, long enough ago, found error and change within the tolerances.

The instant that is remembered is that of the oldest check of the newest unbroken streak.  Any other
check of the streak is later, so if one of them is long enough ago the oldest is.

Main definitions:

* `Drivetrain.Settling.Check`, `Drivetrain.Settling.Operation` — one check of an error, and what can
  be done to a settling;
* `Drivetrain.Settling.replay`, `Drivetrain.Settling.checksIn` — the settling after a history, and
  the checks that a history has since its last reset, both with the newest first;
* `Drivetrain.Settling.WithinAt` — whether the check of an age was within the tolerances;
* `Drivetrain.Settling.streak` — the newest checks as far back as they are without a break.

Main results:

* `Drivetrain.Settling.lt_length_streak_iff` — how far back a streak goes;
* `Drivetrain.Settling.recalls_replay` — a settling **recalls its history**;
* `Drivetrain.Settling.settled_iff_held` — a check reports **exactly when the tolerances held** for
  the settle time.
-/

import Drivetrain.Proofs.Magnitude
import Drivetrain.Settle

set_option relaxedAutoImplicit false
set_option autoImplicit false

namespace Drivetrain.Settling

variable {α : Type}

/-! ### Histories -/

/-- **One check** of an error at an instant. -/
structure Check (α : Type) where
  error : α
  time : Nat

/-- **What can be done to a settling.** -/
inductive Operation (α : Type) where
  | check (made : Check α)
  | reset

/-- The checks of a history since its last reset. -/
def checksIn : List (Operation α) → List (Check α)
  | [] => []
  | .reset :: _ => []
  | .check made :: past => made :: checksIn past

variable [Scalar α]

/-- The settling after an operation. -/
def after (s : Settling α) : Operation α → Settling α
  | .check made => (s.check made.error made.time).2
  | .reset => s.reset

/-- **The settling after a history**, the newest operation of which is its head. -/
def replay (s : Settling α) : List (Operation α) → Settling α
  | [] => s
  | o :: past => (s.replay past).after o

/-! ### Checks by age -/

/-- The error of the check of an age, the newest being of age zero.  Before the first check it is
zero. -/
def errorAt (checks : List (Check α)) (age : Nat) : α := (checks[age]?.map Check.error).getD 0

/-- Whether the check of an age was not outside the tolerances. -/
def InsideAt (settings : SettleSettings α) (checks : List (Check α)) (age : Nat) : Prop :=
  ∃ c, checks[age]? = some c ∧
    outside settings c.error (c.error - errorAt checks (age + 1)) = false

/-- **Whether the check of an age was within the tolerances**: its error, and the change from the
error of the check before it. -/
def WithinAt (settings : SettleSettings α) (checks : List (Check α)) (age : Nat) : Prop :=
  ∃ c, checks[age]? = some c ∧ Scalar.abs c.error ≤ settings.error ∧
    Scalar.abs (c.error - errorAt checks (age + 1)) ≤ settings.derivative

section Streaks

variable {settings : SettleSettings α} {checks : List (Check α)} {c : Check α}

theorem insideAt_zero_iff :
    InsideAt settings (c :: checks) 0 ↔
      outside settings c.error (c.error - errorAt checks 0) = false := by
  simp [InsideAt, errorAt]

/-- A newer check makes the others older by one. -/
theorem insideAt_succ_iff {age : Nat} :
    InsideAt settings (c :: checks) (age + 1) ↔ InsideAt settings checks age := by
  simp [InsideAt, errorAt]

theorem forall_insideAt_succ_iff {age : Nat} :
    (∀ i ≤ age + 1, InsideAt settings (c :: checks) i) ↔
      outside settings c.error (c.error - errorAt checks 0) = false ∧
        ∀ i ≤ age, InsideAt settings checks i := by
  constructor
  · intro h
    refine ⟨insideAt_zero_iff.1 (h 0 (Nat.zero_le _)), ?_⟩
    exact fun i hi => insideAt_succ_iff.1 (h (i + 1) (Nat.succ_le_succ hi))
  · rintro ⟨newest, earlier⟩ i hi
    cases i with
    | zero => exact insideAt_zero_iff.2 newest
    | succ i => exact insideAt_succ_iff.2 (earlier i (Nat.le_of_succ_le_succ hi))

/-- **The newest checks as far back as they are within the tolerances** without a break. -/
def streak (settings : SettleSettings α) : List (Check α) → List (Check α)
  | [] => []
  | c :: earlier =>
      if outside settings c.error (c.error - errorAt earlier 0) then []
      else c :: streak settings earlier

theorem streak_of_outside
    (h : outside settings c.error (c.error - errorAt checks 0) = true) :
    streak settings (c :: checks) = [] :=
  if_pos h

theorem streak_of_inside
    (h : outside settings c.error (c.error - errorAt checks 0) = false) :
    streak settings (c :: checks) = c :: streak settings checks :=
  if_neg (ne_true_of_eq_false h)

theorem isPrefix_streak (settings : SettleSettings α) (checks : List (Check α)) :
    streak settings checks <+: checks := by
  induction checks with
  | nil => exact List.prefix_rfl
  | cons c earlier ih =>
      cases h : outside settings c.error (c.error - errorAt earlier 0) with
      | true => rw [streak_of_outside h]; exact List.nil_prefix
      | false => rw [streak_of_inside h]; exact List.cons_prefix_cons.2 ⟨rfl, ih⟩

/-- **A streak goes back to a check exactly if that and all newer ones are within the
tolerances.** -/
theorem lt_length_streak_iff {age : Nat} :
    age < (streak settings checks).length ↔ ∀ i ≤ age, InsideAt settings checks i := by
  induction checks generalizing age with
  | nil =>
      refine iff_of_false (Nat.not_lt_zero _) fun h => ?_
      obtain ⟨c, hc, -⟩ := h 0 (Nat.zero_le _)
      cases hc
  | cons c earlier ih =>
      cases h : outside settings c.error (c.error - errorAt earlier 0) with
      | true =>
          rw [streak_of_outside h]
          refine iff_of_false (Nat.not_lt_zero _) fun all => ?_
          exact absurd (insideAt_zero_iff.1 (all 0 (Nat.zero_le _))) (ne_false_of_eq_true h)
      | false =>
          rw [streak_of_inside h, List.length_cons]
          cases age with
          | zero =>
              refine iff_of_true (Nat.succ_pos _) fun i hi => ?_
              rw [Nat.le_zero.1 hi]
              exact insideAt_zero_iff.2 h
          | succ age =>
              rw [forall_insideAt_succ_iff, Nat.add_lt_add_iff_right, ih]
              exact (and_iff_right h).symm

/-- The oldest check of a streak, by its age. -/
theorem exists_age_of_getLast? {oldest : Check α}
    (h : (streak settings checks).getLast? = some oldest) :
    ∃ age, checks[age]? = some oldest ∧ age + 1 = (streak settings checks).length := by
  have some : 0 < (streak settings checks).length := by
    rw [List.length_pos_iff]
    intro none
    rw [none] at h
    cases h
  have within : (streak settings checks).length - 1 < (streak settings checks).length :=
    Nat.sub_lt some Nat.one_pos
  refine ⟨(streak settings checks).length - 1, ?_, Nat.sub_add_cancel some⟩
  rw [List.getLast?_eq_getElem?, List.getElem?_eq_getElem within,
    (isPrefix_streak settings checks).getElem within] at h
  rwa [List.getElem?_eq_getElem]

/-- Checks whose times do not go back. -/
def Timely (checks : List (Check α)) : Prop :=
  checks.Pairwise fun later earlier => earlier.time ≤ later.time

/-- No check of a streak is earlier than the oldest. -/
theorem Timely.exists_oldest (timely : Timely checks) {age : Nat} {first : Check α}
    (hf : checks[age]? = some first) (reaches : age < (streak settings checks).length) :
    ∃ oldest, (streak settings checks).getLast? = some oldest ∧ oldest.time ≤ first.time := by
  have nonempty := List.ne_nil_of_length_pos (Nat.zero_lt_of_lt reaches)
  obtain ⟨oldest, ho⟩ : ∃ oldest, (streak settings checks).getLast? = some oldest :=
    ⟨_, List.getLast?_eq_some_getLast nonempty⟩
  obtain ⟨last, hl, length⟩ := exists_age_of_getLast? ho
  refine ⟨oldest, ho, ?_⟩
  obtain ⟨ha, rfl⟩ := List.getElem?_eq_some_iff.1 hf
  obtain ⟨hb, rfl⟩ := List.getElem?_eq_some_iff.1 hl
  have older : age ≤ last := by omega
  rcases older.eq_or_lt with rfl | older
  · exact le_rfl
  · exact List.pairwise_iff_getElem.1 timely age last ha hb older

end Streaks

/-! ### What a settling recalls -/

/-- **A settling that recalls its checks**: the error of the newest, and when the streak began. -/
structure Recalls (settings : SettleSettings α) (checks : List (Check α)) (s : Settling α) :
    Prop where
  tolerances : s.settings = settings
  lastError : s.lastError = errorAt checks 0
  enteredAt : s.enteredAt = (streak settings checks).getLast?.map Check.time

namespace Recalls

variable {settings : SettleSettings α} {checks : List (Check α)} {s : Settling α} {c : Check α}

/-- A check outside the tolerances ends the streak. -/
theorem check_outside (h : Recalls settings checks s)
    (far : outside settings c.error (c.error - errorAt checks 0) = true) :
    s.check c.error c.time = (false, { s with lastError := c.error, enteredAt := none }) := by
  obtain ⟨rfl, lastError, -⟩ := h
  rw [← lastError] at far
  simp only [Settling.check, far, if_true]

/-- A check within the tolerances that begins a streak only starts the timer. -/
theorem check_first (h : Recalls settings checks s)
    (near : outside settings c.error (c.error - errorAt checks 0) = false)
    (ended : (streak settings checks).getLast? = none) :
    s.check c.error c.time =
      (false, { s with lastError := c.error, enteredAt := some c.time }) := by
  obtain ⟨rfl, lastError, enteredAt⟩ := h
  rw [ended, Option.map_none] at enteredAt
  rw [← lastError] at near
  simp only [Settling.check, near, enteredAt, Bool.false_eq_true, if_false]

/-- A check that goes on with a streak compares its time with that of the oldest check of it. -/
theorem check_later (h : Recalls settings checks s) {oldest : Check α}
    (near : outside settings c.error (c.error - errorAt checks 0) = false)
    (going : (streak settings checks).getLast? = some oldest) :
    s.check c.error c.time =
      (decide (Time.ofMilliseconds settings.milliseconds ≤ c.time - oldest.time),
        { s with lastError := c.error }) := by
  obtain ⟨rfl, lastError, enteredAt⟩ := h
  rw [going, Option.map_some] at enteredAt
  rw [← lastError] at near
  simp only [Settling.check, near, enteredAt, Bool.false_eq_true, if_false]

/-- **A settling recalls one more check.** -/
theorem check (h : Recalls settings checks s) (c : Check α) :
    Recalls settings (c :: checks) (s.check c.error c.time).2 := by
  cases far : outside settings c.error (c.error - errorAt checks 0) with
  | true =>
      rw [h.check_outside far]
      exact ⟨h.tolerances, rfl, by rw [streak_of_outside far]; rfl⟩
  | false =>
      cases going : (streak settings checks).getLast? with
      | none =>
          rw [h.check_first far going]
          refine ⟨h.tolerances, rfl, ?_⟩
          rw [streak_of_inside far, List.getLast?_eq_none_iff.1 going]
          rfl
      | some oldest =>
          rw [h.check_later far going]
          refine ⟨h.tolerances, rfl, ?_⟩
          dsimp only
          rw [h.enteredAt, streak_of_inside far, List.getLast?_cons, going]
          rfl

/-- **A check reports exactly if it goes on with a streak that is old enough.** -/
theorem report_iff (h : Recalls settings checks s) (c : Check α) :
    (s.check c.error c.time).1 = true ↔
      outside settings c.error (c.error - errorAt checks 0) = false ∧
        ∃ oldest, (streak settings checks).getLast? = some oldest ∧
          Time.ofMilliseconds settings.milliseconds ≤ c.time - oldest.time := by
  cases far : outside settings c.error (c.error - errorAt checks 0) with
  | true =>
      rw [h.check_outside far]
      exact iff_of_false Bool.false_ne_true fun held => nomatch held.1
  | false =>
      cases going : (streak settings checks).getLast? with
      | none =>
          rw [h.check_first far going]
          refine iff_of_false Bool.false_ne_true ?_
          rintro ⟨-, oldest, ⟨⟩, -⟩
      | some oldest =>
          rw [h.check_later far going, decide_eq_true_iff]
          constructor
          · exact fun old => ⟨rfl, oldest, rfl, old⟩
          · rintro ⟨-, _, ⟨⟩, old⟩
            exact old

/-- **A check reports exactly if the tolerances held** since an earlier one, long enough ago. -/
theorem report_iff_held (h : Recalls settings checks s) (timely : Timely (c :: checks)) :
    (s.check c.error c.time).1 = true ↔
      ∃ age first, 0 < age ∧ (c :: checks)[age]? = some first ∧
        first.time + Time.ofMilliseconds settings.milliseconds ≤ c.time ∧
          ∀ i ≤ age, InsideAt settings (c :: checks) i := by
  obtain ⟨since, timely⟩ := List.pairwise_cons.1 timely
  rw [h.report_iff]
  constructor
  · rintro ⟨near, oldest, going, old⟩
    obtain ⟨age, ho, length⟩ := exists_age_of_getLast? going
    have past := since oldest (List.mem_of_getElem? ho)
    refine ⟨age + 1, oldest, Nat.succ_pos _, ho, by omega, ?_⟩
    exact forall_insideAt_succ_iff.2 ⟨near, lt_length_streak_iff.1 (by omega)⟩
  · rintro ⟨age, first, positive, hf, old, inside⟩
    obtain ⟨age, rfl⟩ := Nat.exists_eq_add_one.2 positive
    obtain ⟨near, inside⟩ := forall_insideAt_succ_iff.1 inside
    obtain ⟨oldest, ho, least⟩ :=
      Timely.exists_oldest timely hf (lt_length_streak_iff.2 inside)
    exact ⟨near, oldest, ho, by omega⟩

end Recalls

theorem recalls_nil {s : Settling α} {settings : SettleSettings α} (same : s.settings = settings)
    (lastError : s.lastError = 0) (enteredAt : s.enteredAt = none) : Recalls settings [] s :=
  ⟨same, lastError, enteredAt⟩

/-- **A new settling recalls whatever is done to it.** -/
theorem recalls_replay (settings : SettleSettings α) (past : List (Operation α)) :
    Recalls settings (checksIn past) ((new settings).replay past) := by
  induction past with
  | nil => exact recalls_nil rfl rfl rfl
  | cons o past ih =>
      cases o with
      | check made => exact ih.check made
      | reset => exact recalls_nil ih.tolerances rfl rfl

/-! ### Tolerances of machine numbers -/

section Tolerances

variable {settings : SettleSettings Float} {checks : List (Check Float)}

/-- Between numbers a check is within the tolerances unless it is outside. -/
theorem outside_eq_false_iff (error : settings.error.isNaN = false)
    (derivative : settings.derivative.isNaN = false) {e change : Float} (he : e.isNaN = false)
    (hc : change.isNaN = false) :
    outside settings e change = false ↔
      Scalar.abs e ≤ settings.error ∧ Scalar.abs change ≤ settings.derivative := by
  have he' : (Scalar.abs e).isNaN = false := (Machine.isNaN_abs_eq e).trans he
  have hc' : (Scalar.abs change).isNaN = false := (Machine.isNaN_abs_eq change).trans hc
  rw [outside, Bool.or_eq_false_iff, decide_eq_false_iff_not, decide_eq_false_iff_not,
    Machine.not_lt error he', Machine.not_lt derivative hc']

theorem isFinite_errorAt (finite : ∀ c ∈ checks, c.error.isFinite = true) (age : Nat) :
    (errorAt checks age).isFinite = true := by
  rw [errorAt]
  cases h : checks[age]? with
  | none => decide +kernel
  | some c => exact finite c (List.mem_of_getElem? h)

/-- Of finite errors a check is within the tolerances unless it is outside. -/
theorem insideAt_iff_withinAt (error : settings.error.isNaN = false)
    (derivative : settings.derivative.isNaN = false)
    (finite : ∀ c ∈ checks, c.error.isFinite = true) {age : Nat} :
    InsideAt settings checks age ↔ WithinAt settings checks age := by
  refine exists_congr fun c => and_congr_right fun hc => ?_
  obtain ⟨a, ha⟩ := Machine.exists_value? (finite c (List.mem_of_getElem? hc))
  obtain ⟨b, hb⟩ := Machine.exists_value? (isFinite_errorAt finite (age + 1))
  have number : c.error.isNaN = false := (Machine.holds_of_value? ha).isNaN
  exact outside_eq_false_iff error derivative number ((Machine.isNaN_sub hb).trans number)

end Tolerances

/-! ### The theorem -/

/-- **A check reports exactly when the tolerances held for the settle time**, of a settling with any
history: when there is a check before it, and as long before it as the settle time, since which
every check was within the tolerances, that one and this one included.

The checks are those since the last reset, if there was one.  Errors are finite, tolerances may be
infinite, and times do not go back. -/
theorem settled_iff_held {settings : SettleSettings Float} (error : settings.error.isNaN = false)
    (derivative : settings.derivative.isNaN = false) (past : List (Operation Float))
    (next : Check Float) (finite : ∀ c ∈ next :: checksIn past, c.error.isFinite = true)
    (timely : Timely (next :: checksIn past)) :
    (((new settings).replay past).check next.error next.time).1 = true ↔
      ∃ age first, 0 < age ∧ (next :: checksIn past)[age]? = some first ∧
        first.time + Time.ofMilliseconds settings.milliseconds ≤ next.time ∧
          ∀ i ≤ age, WithinAt settings (next :: checksIn past) i := by
  rw [(recalls_replay settings past).report_iff_held timely]
  simp only [insideAt_iff_withinAt error derivative finite]

/-- An error that came within tolerance too fast at first, on a loop that was reset before. -/
def steadied : List (Operation Float) :=
  [.check ⟨9, Time.ofMilliseconds 300⟩, .check ⟨9, Time.ofMilliseconds 100⟩, .check ⟨10, 0⟩, .reset,
    .check ⟨9, 0⟩]

/-- It has settled when the settle time has passed since its second check, and not before. -/
theorem settled_iff_held_of_steadied :
    (((new .standard).replay steadied).check 9 (Time.ofMilliseconds 350)).1 = true ∧
      ¬ ∃ age first, 0 < age ∧
        (⟨9, Time.ofMilliseconds 349⟩ :: checksIn steadied)[age]? = some first ∧
        first.time + Time.ofMilliseconds 250 ≤ Time.ofMilliseconds 349 ∧
          ∀ i ≤ age, WithinAt .standard (⟨9, Time.ofMilliseconds 349⟩ :: checksIn steadied) i := by
  have numbers : (SettleSettings.standard : SettleSettings Float).error.isNaN = false ∧
      (SettleSettings.standard : SettleSettings Float).derivative.isNaN = false := by
    decide +kernel
  have finite (time : Nat) : ∀ c ∈ ⟨9, time⟩ :: checksIn steadied, c.error.isFinite = true := by
    simp only [steadied, checksIn, List.forall_mem_cons]
    exact ⟨by decide +kernel, by decide +kernel, by decide +kernel, by decide +kernel, nofun⟩
  have timely (time : Nat) (later : Time.ofMilliseconds 300 ≤ time) :
      Timely (⟨9, time⟩ :: checksIn steadied) := by
    simp [Timely, steadied, checksIn, Time.ofMilliseconds] at later ⊢
    omega
  refine ⟨?_, ?_⟩
  · refine (settled_iff_held numbers.1 numbers.2 steadied ⟨9, Time.ofMilliseconds 350⟩ (finite _)
      (timely _ (by decide))).2 ⟨2, ⟨9, Time.ofMilliseconds 100⟩, two_pos, rfl, by decide, ?_⟩
    intro i hi
    interval_cases i
    · exact ⟨_, rfl, by decide +kernel, by decide +kernel⟩
    · exact ⟨_, rfl, by decide +kernel, by decide +kernel⟩
    · exact ⟨_, rfl, by decide +kernel, by decide +kernel⟩
  · refine fun held => absurd ((settled_iff_held numbers.1 numbers.2 steadied
      ⟨9, Time.ofMilliseconds 349⟩ (finite _) (timely _ (by decide))).2 held) ?_
    decide +kernel

end Drivetrain.Settling
