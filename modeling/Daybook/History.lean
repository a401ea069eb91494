/-!
# Histories

A system is given inputs one after another and answers each. Its history tells the inputs with
their answers, and the state in which they leave the system.

* `History`, `History.next`, `history`;
* `history_concat`: a history grows at its end.
-/

namespace Daybook

/-- What a system was given and what it answered, and its state after that. -/
structure History (σ ι ο : Type) where
  steps : List (ι × ο) := []
  state : σ

variable {σ ι ο : Type}

/-- The history after one more input. -/
def History.next (f : σ → ι → ο × σ) (h : History σ ι ο) (i : ι) : History σ ι ο where
  steps := h.steps ++ [(i, (f h.state i).1)]
  state := (f h.state i).2

/-- The history of a system that is given inputs, from a state on. -/
def history (f : σ → ι → ο × σ) (s : σ) (inputs : List ι) : History σ ι ο :=
  inputs.foldl (History.next f) { state := s }

theorem history_concat (f : σ → ι → ο × σ) (s : σ) (inputs : List ι) (i : ι) :
    history f s (inputs ++ [i]) = (history f s inputs).next f i := by
  simp [history]

end Daybook
