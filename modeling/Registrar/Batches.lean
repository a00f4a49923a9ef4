/-!
# Batches

`batches n l` cuts a list into consecutive parts of `n` elements, the last of which may be shorter. A size of zero
counts as one.
-/

namespace Registrar

variable {α : Type}

/-- Consecutive parts of at most `max 1 n` elements. -/
def batches (n : Nat) (l : List α) : List (List α) :=
  match l with
  | [] => []
  | a :: rest => (a :: rest.take (max 1 n - 1)) :: batches n (rest.drop (max 1 n - 1))
termination_by l.length
decreasing_by simp only [List.length_drop, List.length_cons]; omega

theorem flatten_batches (n : Nat) (l : List α) : (batches n l).flatten = l := by
  fun_induction batches n l with
  | case1 => rfl
  | case2 a rest ih => simp [ih, List.take_append_drop]

/-- The distinct elements, each where it comes first. -/
def distinct [DecidableEq α] : List α → List α
  | [] => []
  | a :: rest => a :: (distinct rest).filter (· ≠ a)

end Registrar
