import Daybook.Engine.Program

/-!
# What programs keep

A program calls an engine only as it is written, whatever the engine replies (`Program.Calls`). So
what every such call keeps, the program keeps (**`Program.run_preserves`**).

* `calls_bind`, `calls_attempt`: the calls of programs that are put together;
* `run_bind_eq_ok`, `run_bind_eq_error`, `run_ask`: when programs succeed, and when they fail;
* `Program.Fails`, `of_run_eq_error`: the failures in which programs end.
-/

namespace Daybook.Program

variable {α β σ : Type} {P : Call → Prop}

/-- All calls that the program may make are of a kind. -/
def Calls (P : Call → Prop) : Program α → Prop
  | done _ => True
  | fail _ => True
  | call c next => P c ∧ ∀ r, Calls P (next r)

@[simp] theorem calls_done (a : α) : (done a : Program α).Calls P := trivial

@[simp] theorem calls_fail (e : Failure) : (fail e : Program α).Calls P := trivial

theorem calls_ask {c : Call} (h : P c) : (ask c).Calls P := by
  refine ⟨h, fun r => ?_⟩
  cases r <;> trivial

@[simp] theorem calls_ofExcept (x : Except Failure α) : (ofExcept x : Program α).Calls P := by
  cases x <;> trivial

theorem calls_bind {p : Program α} {f : α → Program β} (hp : p.Calls P) (hf : ∀ a, (f a).Calls P) :
    (p.bind f).Calls P := by
  induction p with
  | done a => exact hf a
  | fail e => trivial
  | call c next ih => exact ⟨hp.1, fun r => ih r (hp.2 r)⟩

/-- A program that goes on with a result makes the calls that it makes for its value. -/
theorem calls_ofExcept_bind {x : Except Failure α} {f : α → Program β}
    (hf : ∀ a, x = .ok a → (f a).Calls P) : ((ofExcept x).bind f).Calls P := by
  cases x with
  | error e => trivial
  | ok a => exact hf a rfl

theorem calls_attempt {p : Program α} (hp : p.Calls P) : p.attempt.Calls P := by
  induction p with
  | done a => trivial
  | fail e => trivial
  | call c next ih => exact ⟨hp.1, fun r => ih r (hp.2 r)⟩

/-! ## Runs -/

variable {engine : Engine σ} {s s' : σ}

theorem run_bind_eq_ok {p : Program α} {f : α → Program β} {b : β} :
    (p.bind f).run engine s = (.ok b, s') ↔
      ∃ a s₁, p.run engine s = (.ok a, s₁) ∧ (f a).run engine s₁ = (.ok b, s') := by
  rw [run_bind]
  rcases p.run engine s with ⟨e | a, s₁⟩
  · constructor
    · intro h
      exact nomatch (Prod.mk.inj h).1
    · rintro ⟨a, s₂, h, -⟩
      exact nomatch (Prod.mk.inj h).1
  · constructor
    · intro h
      exact ⟨a, s₁, rfl, h⟩
    · rintro ⟨a', s₂, h, h'⟩
      obtain ⟨ha, rfl⟩ := Prod.mk.inj h
      rwa [Except.ok.inj ha]

/-- A program fails where its first part does, or else in what is left. -/
theorem run_bind_eq_error {p : Program α} {f : α → Program β} {e : Failure} :
    (p.bind f).run engine s = (.error e, s') ↔
      p.run engine s = (.error e, s') ∨
        ∃ a s₁, p.run engine s = (.ok a, s₁) ∧ (f a).run engine s₁ = (.error e, s') := by
  rw [run_bind]
  rcases p.run engine s with ⟨e' | a, s₁⟩
  · constructor
    · intro h
      obtain ⟨he, hs⟩ := Prod.mk.inj h
      exact .inl (by rw [Except.error.inj he, hs])
    · rintro (h | ⟨a, s₂, h, -⟩)
      · obtain ⟨he, hs⟩ := Prod.mk.inj h
        rw [Except.error.inj he, hs]
      · exact nomatch (Prod.mk.inj h).1
  · constructor
    · exact fun h => .inr ⟨a, s₁, rfl, h⟩
    · rintro (h | ⟨a', s₂, h, h'⟩)
      · exact nomatch (Prod.mk.inj h).1
      · obtain ⟨ha, rfl⟩ := Prod.mk.inj h
        rwa [Except.ok.inj ha]

theorem run_ofExcept_eq_ok {x : Except Failure α} {a : α} :
    (ofExcept x : Program α).run engine s = (.ok a, s') ↔ x = .ok a ∧ s' = s := by
  cases x with
  | error e =>
    constructor
    · intro h
      exact nomatch (Prod.mk.inj h).1
    · rintro ⟨h, -⟩
      exact nomatch h
  | ok b =>
    show (Except.ok b, s) = _ ↔ _
    rw [Prod.mk.injEq, eq_comm (a := s)]

theorem run_ofExcept_eq_error {x : Except Failure α} {e : Failure} :
    (ofExcept x : Program α).run engine s = (.error e, s') ↔ x = .error e ∧ s' = s := by
  cases x with
  | error e' =>
    show (Except.error e', s) = _ ↔ _
    rw [Prod.mk.injEq, eq_comm (a := s), Except.error.injEq]
  | ok b => exact iff_of_false (fun h => nomatch (Prod.mk.inj h).1) fun h => nomatch h.1

@[simp] theorem run_ask (c : Call) : (ask c).run engine s = engine.reply c s := by
  rw [ask, run]
  rcases engine.reply c s with ⟨e | r, s₁⟩ <;> rfl

/-- **What every call of a kind keeps, a program of such calls keeps.** -/
theorem run_preserves {I : σ → Prop} (hI : ∀ c s, P c → I s → I (engine.reply c s).2)
    {p : Program α} (hp : p.Calls P) (hs : I s) : I (p.run engine s).2 := by
  induction p generalizing s with
  | done a => exact hs
  | fail e => exact hs
  | call c next ih => exact ih _ (hp.2 _) (hI c s hp.1 hs)

/-! ## Failures -/

variable {Q : Failure → Prop}

/-- Every failure in which the program may end is of a kind, if those that an engine replies are. -/
def Fails (Q : Failure → Prop) : Program α → Prop
  | done _ => True
  | fail e => Q e
  | call _ next => ∀ r, (∀ e, r = .error e → Q e) → Fails Q (next r)

theorem fails_ask (c : Call) : (ask c).Fails Q := by
  intro r hr
  cases r with
  | ok a => trivial
  | error e => exact hr e rfl

theorem fails_ofExcept {x : Except Failure α} (h : ∀ e, x = .error e → Q e) :
    (ofExcept x : Program α).Fails Q := by
  cases x with
  | ok a => trivial
  | error e => exact h e rfl

theorem fails_bind {p : Program α} {f : α → Program β} (hp : p.Fails Q) (hf : ∀ a, (f a).Fails Q) :
    (p.bind f).Fails Q := by
  induction p with
  | done a => exact hf a
  | fail e => exact hp
  | call c next ih => exact fun r hr => ih r (hp r hr)

/-- An attempt does not fail. -/
theorem fails_attempt (p : Program α) : p.attempt.Fails Q := by
  induction p with
  | done a => trivial
  | fail e => trivial
  | call c next ih => exact fun r _ => ih r

/-- **A program ends in a failure of a kind**, on an engine that replies no others. -/
theorem of_run_eq_error (hengine : ∀ c s e, (engine.reply c s).1 = .error e → Q e) {p : Program α}
    (hp : p.Fails Q) {e : Failure} (h : (p.run engine s).1 = .error e) : Q e := by
  induction p generalizing s with
  | done a => cases h
  | fail e' =>
    obtain rfl : e' = e := Except.error.inj h
    exact hp
  | call c next ih => exact ih _ (hp _ fun e' he' => hengine c s e' he') h

end Daybook.Program
