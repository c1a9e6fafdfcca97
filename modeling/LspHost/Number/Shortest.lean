import LspHost.Number.Binary64

/-!
The shortest decimal that reads back as a given double.

A double `m · 2 ^ q` stands for every real between the midpoints to its neighbours, the midpoints
included exactly when `m` is even. `Shortest.digits` walks through the decimal grids of one to
seventeen digits; the first grid that has a point in the interval wins, and of its two points next
to the value the nearer one.
-/

namespace LspHost.Shortest

/-- A positive decimal `0.d₁d₂… · 10 ^ point`, its digits without leading or trailing zeros. -/
structure Decimal where
  digits : Nat
  point : Int
  deriving DecidableEq, Repr

/-- The interval of reals that round to a double, in units of a quarter of its last place; `unit`
is that quarter as an exponent of two. -/
structure Interval where
  low : Nat
  value : Nat
  high : Nat
  unit : Int
  closed : Bool

/-- The interval around `m · 2 ^ q`. Below a power of two the grid of doubles is twice as fine. -/
def Interval.around (m : Nat) (q : Int) : Interval :=
  ⟨if m = Nat.pow 2 52 ∧ -1074 < q then 4 * m - 1 else 4 * m - 2, 4 * m, 4 * m + 2, q - 2, m % 2 = 0⟩

/-- The naturals `a` and `b` with `a / b = n · 2 ^ unit / 10 ^ grid`. -/
def onGrid (unit grid : Int) (n : Nat) : Nat × Nat :=
  let a := n * Nat.pow 2 unit.toNat * Nat.pow 10 (-grid).toNat
  let b := Nat.pow 2 (-unit).toNat * Nat.pow 10 grid.toNat
  (a, b)

/-- The point of the grid `10 ^ grid` that lies in the interval, nearest to its value. -/
def Interval.hit? (i : Interval) (grid : Int) : Option Nat :=
  let (low, den) := onGrid i.unit grid i.low
  let (value, _) := onGrid i.unit grid i.value
  let (high, _) := onGrid i.unit grid i.high
  let inside (d : Nat) : Bool :=
    if i.closed then low ≤ d * den ∧ d * den ≤ high else low < d * den ∧ d * den < high
  let below := value / den
  let above := below + 1
  match decide (0 < below) && inside below, inside above with
  | true, true =>
    let down := value - below * den
    let up := above * den - value
    some (if down < up then below else if up < down then above
      else if below % 2 = 0 then below else above)
  | true, false => some below
  | false, true => some above
  | false, false => none

/-- The place of the decimal point of `m · 2 ^ q`: the `p` with `10 ^ (p - 1) ≤ m · 2 ^ q < 10 ^ p`. -/
def pointOf (m : Nat) (q : Int) : Int :=
  let low := Int.fdiv (((m.log2 : Int) + q) * 301029995663981) 1000000000000000
  let (a, b) := onGrid q (low + 1) m
  if b ≤ a then low + 2 else low + 1

/-- Removes trailing zeros. -/
def strip : Nat → Nat → Nat
  | 0, n => n
  | fuel + 1, n => if n % 10 = 0 ∧ n ≠ 0 then strip fuel (n / 10) else n

/-- Looks for a hit among the grids of `count`, `count + 1`, … digits. -/
def search (i : Interval) (point : Int) : Nat → Nat → Nat × Int
  | 0, count => (i.value, point - count)
  | fuel + 1, count =>
    match i.hit? (point - count) with
    | some d => (d, point - count)
    | none => search i point fuel (count + 1)

/-- The shortest decimal that rounds to the positive number `m · 2 ^ q`. -/
def digits (m : Nat) (q : Int) : Decimal :=
  let (d, grid) := search (.around m q) (pointOf m q) 17 1
  let size := (Nat.toDigits 10 d).length
  ⟨strip size d, grid + size⟩

example : digits (Nat.pow 2 52 + 0x999999999999A) (-56) = ⟨1, 0⟩ := by decide +kernel
example : digits 1 (-1074) = ⟨5, -323⟩ := by decide +kernel

end LspHost.Shortest
