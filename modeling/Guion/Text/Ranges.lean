/-! Sets of characters given by ascending ranges, searched by bisection. -/

namespace Guion.Text

/-- Ranges of scalar values, both ends included, in ascending order and without overlap. -/
structure Ranges where
  bounds : Array (Nat × Nat)

namespace Ranges

/-- Looks for `n` among the ranges at the positions from `low` up to, not including, `high`. -/
def search (ranges : Ranges) (n low high : Nat) : Bool :=
  if low < high then
    let middle := (low + high) / 2
    match ranges.bounds[middle]? with
    | none => false
    | some (first, last) =>
      if n < first then
        ranges.search n low middle
      else if last < n then
        ranges.search n (middle + 1) high
      else
        true
  else
    false
termination_by high - low

/-- Whether a character lies in one of the ranges. -/
def contains (ranges : Ranges) (c : Char) : Bool :=
  ranges.search c.toNat 0 ranges.bounds.size

end Ranges

end Guion.Text
