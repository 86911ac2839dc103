namespace ChipEight

/-! Sequences of checks, taken apart one check at a time. -/

variable {Reason α β : Type} {fault : Reason} {first : Except Reason α}
  {next : α → Except Reason β}

@[simp] theorem ok_bind (value : α) : (Except.ok value >>= next) = next value := rfl

@[simp] theorem error_bind : (Except.error fault >>= next) = Except.error fault := rfl

@[simp] theorem pure_eq_ok (value : α) : (pure value : Except Reason α) = .ok value := rfl

@[simp] theorem throw_eq_error : (throw fault : Except Reason α) = .error fault := rfl

theorem bind_eq_ok_iff {result : β} :
    (first >>= next) = .ok result ↔ ∃ value, first = .ok value ∧ next value = .ok result := by
  cases first with
  | ok value => simp
  | error fault => simp

theorem bind_eq_error_iff :
    (first >>= next) = .error fault ↔
      first = .error fault ∨ ∃ value, first = .ok value ∧ next value = .error fault := by
  cases first with
  | ok value => simp
  | error reason => simp

end ChipEight
