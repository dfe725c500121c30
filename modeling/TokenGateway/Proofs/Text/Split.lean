import TokenGateway.Text.Split

namespace TokenGateway.Text

variable {separator c : Char} {before behind : List Char}

theorem cutAt?_cons_of_ne (hc : c ≠ separator) (cs : List Char)
    : cutAt? separator (c :: cs)
        =
      (cutAt? separator cs).map fun (before, behind) => (c :: before, behind) := by
  rw [cutAt?, if_neg hc]

theorem cutAt?_append (hbefore : separator ∉ before)
    : cutAt? separator (before ++ separator :: behind) = some (before, behind) := by
  induction before with
  | nil => simp [cutAt?]
  | cons c before ih =>
    rw [List.mem_cons, not_or] at hbefore
    rw [List.cons_append, cutAt?_cons_of_ne (Ne.symm hbefore.1), ih hbefore.2]
    rfl

theorem pieces_cons_of_ne (hc : c ≠ separator) (cs : List Char)
    : ∃ first rest, pieces separator (c :: cs) = (c :: first) :: rest := by
  rw [pieces, if_neg hc]
  cases pieces separator cs with
  | nil => exact ⟨[], [], rfl⟩
  | cons first rest => exact ⟨first, rest, rfl⟩

end TokenGateway.Text
