/-!
Sets of code points given as ascending ranges.
-/

namespace Agenda.Text

def searchRanges (ranges : Array (Nat × Nat)) (point low high : Nat) : Bool :=
  if _left : low < high then
    let middle := (low + high) / 2
    match ranges[middle]? with
    | none => false
    | some (first, last) =>
        if point < first then searchRanges ranges point low middle
        else if last < point then searchRanges ranges point (middle + 1) high
        else true
  else
    false
termination_by high - low

def inRanges (ranges : Array (Nat × Nat)) (point : Nat) : Bool :=
  searchRanges ranges point 0 ranges.size

end Agenda.Text
