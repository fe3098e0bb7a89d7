/-!
# Chunks

A list cut into pieces of a given size, of which the last one may be shorter.  The pieces one after
another are the list again, and no piece is empty.
-/

namespace TeamCalendar

variable {α : Type}

/-- Cuts a list into pieces of `size + 1` items. -/
def chunks (size : Nat) (xs : List α) : List (List α) :=
  match xs with
  | [] => []
  | x :: xs => (x :: xs.take size) :: chunks size (xs.drop size)
termination_by xs.length
decreasing_by
  rw [List.length_drop, List.length_cons]
  omega

@[simp]
theorem chunks_nil (size : Nat) : chunks size ([] : List α) = [] := by
  rw [chunks]

@[simp]
theorem flatten_chunks (size : Nat) (xs : List α) : (chunks size xs).flatten = xs := by
  fun_induction chunks size xs with
  | case1 => rfl
  | case2 x xs ih => simp [ih]

/-- No piece is empty, and none is longer than asked for. -/
theorem length_of_mem_chunks {size : Nat} {xs piece : List α} (h : piece ∈ chunks size xs) :
    1 ≤ piece.length ∧ piece.length ≤ size + 1 := by
  fun_induction chunks size xs with
  | case1 => cases h
  | case2 x xs ih =>
    rcases List.mem_cons.1 h with rfl | hlater
    · rw [List.length_cons, List.length_take]
      omega
    · exact ih hlater

/-- There are as many pieces as it takes, and no more. -/
theorem length_chunks (size : Nat) (xs : List α) :
    (chunks size xs).length = (xs.length + size) / (size + 1) := by
  fun_induction chunks size xs with
  | case1 =>
    rw [List.length_nil, List.length_nil, Nat.zero_add, Nat.div_eq_of_lt (Nat.lt_succ_self size)]
  | case2 x xs ih =>
    have hnext : xs.length + 1 + size = xs.length + (size + 1) := by omega
    rw [List.length_cons, List.length_cons, ih, List.length_drop, hnext,
      Nat.add_div_right _ (Nat.succ_pos size)]
    by_cases hshort : xs.length ≤ size
    · rw [Nat.sub_eq_zero_of_le hshort, Nat.zero_add, Nat.div_eq_of_lt (Nat.lt_succ_self size),
        Nat.div_eq_of_lt (Nat.lt_succ_of_le hshort)]
    · rw [Nat.sub_add_cancel (Nat.le_of_not_le hshort)]

end TeamCalendar
