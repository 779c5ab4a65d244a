import ViewLayers.Notice

/-!
# Steps

A step succeeds or fails, and reports notices either way. A failure ends the steps after it.
-/

namespace ViewLayers

abbrev Step (ε α : Type) := Except ε α × List Notice

namespace Step

variable {ε ε' α β : Type}

@[simp] def done (a : α) : Step ε α := (.ok a, [])

@[simp] def fail (e : ε) : Step ε α := (.error e, [])

def andThen (s : Step ε α) (next : α → Step ε β) : Step ε β :=
  match s with
  | (.ok a, notices) => ((next a).1, notices ++ (next a).2)
  | (.error e, notices) => (.error e, notices)

def mapError (f : ε → ε') (s : Step ε α) : Step ε' α := (s.1.mapError f, s.2)

section Result

variable {s : Step ε α} {next : α → Step ε β} {f : ε → ε'} {a : α} {b : β} {e : ε} {e' : ε'}

@[simp] theorem fst_andThen_eq_ok_iff :
    (andThen s next).1 = .ok b ↔ ∃ a, s.1 = .ok a ∧ (next a).1 = .ok b := by
  obtain ⟨result, notices⟩ := s
  cases result <;> simp [andThen]

@[simp] theorem fst_andThen_eq_error_iff :
    (andThen s next).1 = .error e ↔
      s.1 = .error e ∨ ∃ a, s.1 = .ok a ∧ (next a).1 = .error e := by
  obtain ⟨result, notices⟩ := s
  cases result <;> simp [andThen]

@[simp] theorem fst_mapError_eq_ok_iff : (mapError f s).1 = .ok a ↔ s.1 = .ok a := by
  obtain ⟨result, notices⟩ := s
  cases result with
  | error e => exact ⟨nofun, nofun⟩
  | ok b =>
    constructor
    · intro h
      rw [Except.ok.inj h]
    · intro h
      rw [Except.ok.inj h]
      rfl

@[simp] theorem fst_mapError_eq_error_iff :
    (mapError f s).1 = .error e' ↔ ∃ e, s.1 = .error e ∧ f e = e' := by
  obtain ⟨result, notices⟩ := s
  cases result with
  | error e =>
    constructor
    · intro h
      exact ⟨e, rfl, Except.error.inj h⟩
    · rintro ⟨_, h, rfl⟩
      cases h
      rfl
  | ok b =>
    constructor
    · intro h
      cases h
    · rintro ⟨_, h, -⟩
      cases h

end Result

end Step

end ViewLayers
