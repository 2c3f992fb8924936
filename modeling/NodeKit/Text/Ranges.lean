/-!
Sorted tables of inclusive code point ranges, and membership by binary search. A table lists
disjoint ranges in increasing order; `inRanges` finds the last range that starts at or below the
code point and checks its end.
-/

namespace NodeKit.Text

/-- Whether `n` lies in one of the sorted, disjoint inclusive ranges of `table`. -/
def inRanges (table : Array (Nat × Nat)) (n : Nat) : Bool :=
  go 0 table.size table.size
where
  /-- The answer lies among the ranges with index in `[lo, hi)`; `fuel` bounds the halvings. -/
  go (lo hi : Nat) : Nat → Bool
    | 0 => false
    | fuel + 1 =>
      if hi ≤ lo then false
      else
        let mid := (lo + hi) / 2
        match table[mid]? with
        | none => false
        | some (a, b) =>
          if n < a then go lo mid fuel
          else if b < n then go (mid + 1) hi fuel
          else true

example : inRanges #[(1, 3), (7, 9)] 8 = true ∧ inRanges #[(1, 3), (7, 9)] 5 = false := by decide

end NodeKit.Text
