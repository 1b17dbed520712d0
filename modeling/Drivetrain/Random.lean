/-
A reproducible source of random numbers.

A seed of 64 bits is spread into a key of eight words, and the key is stirred with a counter into
an endless row of words.  A source is a place in that row, so equal seeds draw equal numbers.

* `Drivetrain.Grid` — sixteen words in rows of four, and the rounds that stir them;
* `Drivetrain.RandomSource` — a key and the count of the words drawn so far;
* `Drivetrain.RandomSource.sample` — the next word as a fraction of one.

`Drivetrain.Grid.straighten_slant` says that stirring along the diagonals leaves every word in its
place.
-/

import Drivetrain.Scalar

set_option relaxedAutoImplicit false
set_option autoImplicit false

namespace Drivetrain

/-! ### Stirring -/

/-- Four words of a row. -/
structure Quad where
  first : UInt32
  second : UInt32
  third : UInt32
  fourth : UInt32
  deriving Repr, DecidableEq

namespace Quad

/-- Two rows combined word by word. -/
def zip (f : UInt32 → UInt32 → UInt32) (x y : Quad) : Quad :=
  ⟨f x.first y.first, f x.second y.second, f x.third y.third, f x.fourth y.fourth⟩

/-- Sums, within the width of a word. -/
def add (x y : Quad) : Quad := zip (· + ·) x y

/-- A row masked by another, and each word turned to the left by a number of bits. -/
def maskAndTurn (x y : Quad) (bits : UInt32) : Quad :=
  zip (fun a b => (a ^^^ b) <<< bits ||| (a ^^^ b) >>> (32 - bits)) x y

/-- Every word one column to the left, the first at the end. -/
def shift (x : Quad) : Quad := ⟨x.second, x.third, x.fourth, x.first⟩

/-- The row as two words of double width, the low half first. -/
def halves (x : Quad) : List UInt64 :=
  [x.first.toUInt64 ||| x.second.toUInt64 <<< 32, x.third.toUInt64 ||| x.fourth.toUInt64 <<< 32]

end Quad

/-- **Sixteen words in four rows.** -/
structure Grid where
  first : Quad
  second : Quad
  third : Quad
  fourth : Quad
  deriving Repr, DecidableEq

namespace Grid

/-- Sums of the words of two grids. -/
def add (g h : Grid) : Grid :=
  ⟨g.first.add h.first, g.second.add h.second, g.third.add h.third, g.fourth.add h.fourth⟩

/-- **A round**: each column is stirred by itself, by sums, masks and turns. -/
def stir (g : Grid) : Grid :=
  let a := g.first.add g.second
  let d := g.fourth.maskAndTurn a 16
  let c := g.third.add d
  let b := g.second.maskAndTurn c 12
  let a := a.add b
  let d := d.maskAndTurn a 8
  let c := c.add d
  let b := b.maskAndTurn c 7
  ⟨a, b, c, d⟩

/-- The diagonals made into columns. -/
def slant (g : Grid) : Grid :=
  ⟨g.first, g.second.shift, g.third.shift.shift, g.fourth.shift.shift.shift⟩

/-- The columns made into diagonals again. -/
def straighten (g : Grid) : Grid :=
  ⟨g.first, g.second.shift.shift.shift, g.third.shift.shift, g.fourth.shift⟩

theorem straighten_slant (g : Grid) : g.slant.straighten = g := rfl

/-- A round along the columns and one along the diagonals. -/
def stirTwice (g : Grid) : Grid := g.stir.slant.stir.straighten

/-- **A block**: the grid after twelve rounds, added to what it was, so that the rounds cannot be
undone. -/
def block (g : Grid) : Grid := (Nat.repeat stirTwice 6 g).add g

/-- The words of a grid, in pairs. -/
def words (g : Grid) : List UInt64 :=
  g.first.halves ++ g.second.halves ++ g.third.halves ++ g.fourth.halves

end Grid

/-! ### Keys from seeds -/

namespace Seed

/-- The state after a step of a linear congruence. -/
def next (state : UInt64) : UInt64 := state * 6364136223846793005 + 11634580027462260723

/-- **The word that a state shows**: its upper bits folded, and turned to the right by the number
in its five highest bits. -/
def word (state : UInt64) : UInt32 :=
  let folded := ((state >>> 18 ^^^ state) >>> 27).toUInt32
  let bits := (state >>> 59).toUInt32
  folded >>> bits ||| folded <<< (32 - bits)

/-- The word shown after a number of steps. -/
def wordAfter (seed : UInt64) (steps : Nat) : UInt32 := word (Nat.repeat next steps seed)

/-- The row of words shown after so many steps and the next three. -/
def quadAfter (seed : UInt64) (steps : Nat) : Quad :=
  ⟨wordAfter seed steps, wordAfter seed (steps + 1), wordAfter seed (steps + 2),
    wordAfter seed (steps + 3)⟩

end Seed

/-! ### Sources -/

/-- **A source of random words.** -/
structure RandomSource where
  /-- The first half of the key. -/
  keyHead : Quad
  /-- The second half of the key. -/
  keyTail : Quad
  /-- How many words were drawn. -/
  drawn : Nat
  deriving Repr, DecidableEq

namespace RandomSource

/-- The source of a seed; the seed itself is never shown. -/
def ofSeed (seed : UInt64) : RandomSource := ⟨Seed.quadAfter seed 1, Seed.quadAfter seed 5, 0⟩

/-- The first row of every grid, the same for all sources. -/
def heading : Quad := ⟨0x61707865, 0x3320646e, 0x79622d32, 0x6b206574⟩

/-- The grid of a counter. -/
def grid (s : RandomSource) (counter : UInt64) : Grid :=
  ⟨heading, s.keyHead, s.keyTail, ⟨counter.toUInt32, (counter >>> 32).toUInt32, 0, 0⟩⟩

/-- The word at a place of the row; each block holds eight. -/
def wordAt (s : RandomSource) (place : Nat) : UInt64 :=
  (s.grid (UInt64.ofNat (place / 8))).block.words.getD (place % 8) 0

/-- **The word that is drawn next.** -/
def word (s : RandomSource) : UInt64 := s.wordAt s.drawn

/-- The source after a draw. -/
def next (s : RandomSource) : RandomSource := { s with drawn := s.drawn + 1 }

/-! ### Numbers -/

variable {α : Type} [Scalar α]

open Scalar (ofInt)

/-- How many different samples there are: two to the power of 52. -/
def sampleCount : Nat := 4503599627370496

/-- **A sample from zero up to but not including one**: the upper 52 bits of the next word. -/
def sample (s : RandomSource) : α := ofInt (s.word >>> 12).toNat / ofInt sampleCount

/-- The largest sample, one step below one. -/
def largestSample : α := 1 - 1 / ofInt sampleCount

end RandomSource

end Drivetrain
