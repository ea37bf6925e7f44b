/-!
Cutting a list into runs of one length, the last of which may be shorter.
-/

namespace DenseMedium

variable {α : Type}

/-- Runs of `n + 1` elements. -/
def runs (n : Nat) : List α → List (List α)
  | [] => []
  | x :: rest => (x :: rest.take n) :: runs n (rest.drop n)
termination_by xs => xs.length
decreasing_by simp only [List.length_cons, List.length_drop]; omega

end DenseMedium
