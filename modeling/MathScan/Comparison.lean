/-
  Comparing the members of a list with each other.

  Key definitions include:
    * `equalPairs`
    * `distinctCount`
-/

namespace MathScan

/-
  The positions of two equal members, the earlier one first,
  in order; the list starts at position `start`.
-/
def equalPairs
    {α : Type}
    (same : α → α → Bool)
    (start : Nat) : List α → List (Nat × Nat)
  | [] => []
  | x :: rest =>
    ((rest.zipIdx (start + 1)).filter
      (fun later => same x later.1)).map
        (fun later => (start, later.2)) ++
      equalPairs same (start + 1) rest

/- How many members are equal to no later one. -/
def distinctCount
    {α : Type}
    (same : α → α → Bool) : List α → Nat
  | [] => 0
  | x :: rest =>
    (if rest.any (same x) then 0 else 1) +
      distinctCount same rest

end MathScan
