namespace ChipEight

/-! What a series of operations leaves.

An operation gives a value to what is looked at or leaves it alone.  So a series leaves the last
value that one of its operations gives, or else the first one.
-/

variable {State Operation Value : Type} {step : State → Operation → State}
  {value? : Operation → Option Value}

/-- The last value that one of a series gives. -/
def latest? (value? : Operation → Option Value) (series : List Operation) : Option Value :=
  series.reverse.findSome? value?

theorem latest?_cons (first : Operation) (rest : List Operation) :
    latest? value? (first :: rest) = (latest? value? rest).or (value? first) := by
  rw [latest?, List.reverse_cons, List.findSome?_append, List.findSome?_singleton]
  rfl

theorem latest?_eq_some {value : Value} {series : List Operation}
    (found : latest? value? series = some value) :
    ∃ operation ∈ series, value? operation = some value := by
  obtain ⟨operation, member, given⟩ := List.exists_of_findSome?_eq_some found
  exact ⟨operation, List.mem_reverse.1 member, given⟩

/-- What one operation does to the value seen, wherever an invariant of all of them holds, a
series does with its latest value. -/
theorem foldl_latest (holds : State → Prop) (seen : State → Value)
    (kept : ∀ state operation, holds state → holds (step state operation))
    (steps : ∀ state operation, holds state →
      seen (step state operation) = (value? operation).getD (seen state))
    (series : List Operation) {state : State} (start : holds state) :
    seen (series.foldl step state) = (latest? value? series).getD (seen state) := by
  induction series generalizing state with
  | nil => rfl
  | cons first rest induction =>
      rw [List.foldl_cons, induction (kept state first start), steps state first start,
        latest?_cons, Option.getD_or]

end ChipEight
