namespace CondDoc

/-- A reading that leaves fewer than `bound` symbols; so a reader may go on with the rest. -/
structure Step (σ α : Type) (bound : Nat) where
  value : α
  rest : List σ
  shorter : rest.length < bound

namespace Step

variable {σ α β : Type} {bound larger : Nat}

/-- A reading of one symbol. -/
def one (value : α) (rest : List σ) : Step σ α (rest.length + 1) :=
  ⟨value, rest, Nat.lt_succ_self _⟩

/-- A reading of two symbols. -/
def two (value : α) (rest : List σ) : Step σ α (rest.length + 1 + 1) :=
  ⟨value, rest, by omega⟩

/-- A reading of nothing. -/
def skip (value : α) (rest : List σ) : Step σ α (rest.length + 1) :=
  ⟨value, rest, Nat.lt_succ_self _⟩

/-- The same reading, of an input that is at least as long. -/
def widen (step : Step σ α bound) (h : bound ≤ larger) : Step σ α larger :=
  ⟨step.value, step.rest, Nat.lt_of_lt_of_le step.shorter h⟩

def map (f : α → β) (step : Step σ α bound) : Step σ β bound :=
  ⟨f step.value, step.rest, step.shorter⟩

theorem tail_lt (step : Step σ α bound) {symbol : σ} {tail : List σ}
    (h : step.rest = symbol :: tail) : tail.length + 1 < bound := by
  have := step.shorter
  rwa [h, List.length_cons] at this

@[simp] theorem value_widen (step : Step σ α bound) (h : bound ≤ larger) :
    (step.widen h).value = step.value := rfl

@[simp] theorem rest_widen (step : Step σ α bound) (h : bound ≤ larger) :
    (step.widen h).rest = step.rest := rfl

@[simp] theorem value_map (f : α → β) (step : Step σ α bound) :
    (step.map f).value = f step.value := rfl

@[simp] theorem rest_map (f : α → β) (step : Step σ α bound) :
    (step.map f).rest = step.rest := rfl

end Step

end CondDoc
