import Daybook.Proofs.Engine.Program
import Mathlib.Data.List.Basic

/-!
# What programs send

A run of a program sends requests to its engine, one after the other (`Program.sent`). Two programs
may go through their calls side by side and send the same texts with each, whatever the engines
reply (`Program.Twins`). Their runs then send the same texts, as far as no engine refuses a call
(**`Program.Twins.sent_eq`**); where one does, one of the runs stops early
(**`Program.Twins.sent_prefix`**).

* `Program.sent`, `Program.sentTexts`: the requests and the texts of a run, in their order;
* `Program.Accepted`: the engine refuses no call of the run;
* `Program.Paired`: two programs that are twins if both call an engine at all.
-/

namespace Daybook

/-- The requests that go with a call. -/
def Call.requests : Call → List Request
  | execute r | query r | change r _ | insert r => [r]
  | transaction rs => rs
  | columns _ | hasTable _ | indexes _ | close => []

/-- The texts that go with a call. -/
def Call.texts (c : Call) : List String := c.requests.map Request.sql

namespace Program

variable {α β γ δ σ τ : Type}

/-- The requests that a run of the program sends, in their order. -/
def sent (engine : Engine σ) : Program α → σ → List Request
  | done _, _ => []
  | fail _, _ => []
  | call c next, s => c.requests ++ (next (engine.reply c s).1).sent engine (engine.reply c s).2

/-- The texts that a run of the program sends, in their order. -/
def sentTexts (engine : Engine σ) (p : Program α) (s : σ) : List String :=
  (p.sent engine s).map Request.sql

/-- The engine refuses no call of the run. -/
def Accepted (engine : Engine σ) : Program α → σ → Prop
  | done _, _ => True
  | fail _, _ => True
  | call c next, s => (∃ r, (engine.reply c s).1 = .ok r) ∧
    (next (engine.reply c s).1).Accepted engine (engine.reply c s).2

instance decidableAccepted (engine : Engine σ) :
    (p : Program α) → (s : σ) → Decidable (p.Accepted engine s)
  | done _, _ => .isTrue trivial
  | fail _, _ => .isTrue trivial
  | call c next, s =>
    match h : (engine.reply c s).1 with
    | .ok r =>
      match decidableAccepted engine (next (engine.reply c s).1) (engine.reply c s).2 with
      | .isTrue hrest => .isTrue ⟨⟨r, h⟩, hrest⟩
      | .isFalse hrest => .isFalse fun hall => hrest hall.2
    | .error _ => .isFalse fun hall => nomatch h.symm.trans hall.1.choose_spec

/-- The program calls no engine. -/
def Ended : Program α → Prop
  | done _ => True
  | fail _ => True
  | call _ _ => False

/-- The programs go through their calls side by side and send the same texts with each, whatever
the engines reply; a refused call is the last. -/
inductive Twins : Program α → Program β → Prop
  | ended {p : Program α} {q : Program β} (hp : p.Ended) (hq : q.Ended) : Twins p q
  | call {c c' : Call} {next : Except Failure c.Reply → Program α}
      {next' : Except Failure c'.Reply → Program β} (texts : c.texts = c'.texts)
      (refused : ∀ e, (next (.error e)).Ended) (refused' : ∀ e, (next' (.error e)).Ended)
      (accepted : ∀ r r', Twins (next (.ok r)) (next' (.ok r'))) :
      Twins (.call c next) (.call c' next')

/-- The programs are twins if both call an engine. -/
def Paired (p : Program α) (q : Program β) : Prop := p.Ended ∨ q.Ended ∨ p.Twins q

/-! ## Programs that are put together -/

variable {p : Program α} {q : Program β}

theorem Twins.paired (h : p.Twins q) : p.Paired q := .inr (.inr h)

/-- Programs that ask the same go on as twins. -/
theorem twins_ask_bind {c c' : Call} {f : c.Reply → Program α} {g : c'.Reply → Program β}
    (texts : c.texts = c'.texts) (h : ∀ r r', (f r).Twins (g r')) :
    ((ask c).bind f).Twins ((ask c').bind g) :=
  .call texts (fun _ => trivial) (fun _ => trivial) h

/-- Programs that ask the same, and then nothing. -/
theorem twins_ask {c c' : Call} (texts : c.texts = c'.texts) : (ask c).Twins (ask c') :=
  .call texts (fun _ => trivial) (fun _ => trivial) fun _ _ => .ended trivial trivial

theorem ended_bind_done (h : p.Ended) (f : α → γ) : (p.bind fun a => done (f a)).Ended := by
  cases p with
  | done a => trivial
  | fail e => trivial
  | call c next => exact h

/-- What is done with the values of twins sends nothing more. -/
theorem Twins.bind_done (h : p.Twins q) (f : α → γ) (g : β → δ) :
    (p.bind fun a => done (f a)).Twins (q.bind fun b => done (g b)) := by
  induction h with
  | ended hp hq => exact .ended (ended_bind_done hp f) (ended_bind_done hq g)
  | call texts refused refused' _ ih =>
    exact .call texts (fun e => ended_bind_done (refused e) f)
      (fun e => ended_bind_done (refused' e) g) ih

theorem Paired.bind_done (h : p.Paired q) (f : α → γ) (g : β → δ) :
    (p.bind fun a => done (f a)).Paired (q.bind fun b => done (g b)) := by
  obtain hp | hq | h := h
  · exact .inl (ended_bind_done hp f)
  · exact .inr (.inl (ended_bind_done hq g))
  · exact (h.bind_done f g).paired

/-- Programs that end on a condition are paired if they are so where neither ends. -/
theorem paired_ite {a b : Prop} [Decidable a] [Decidable b] {p' : Program α} {q' : Program β}
    (hp : p'.Ended) (hq : q'.Ended) (h : p.Paired q) :
    (if a then p' else p).Paired (if b then q' else q) := by
  split_ifs
  · exact .inl hp
  · exact .inl hp
  · exact .inr (.inl hq)
  · exact h

/-- Programs that go on with results are paired if they are so for all values of the results. -/
theorem paired_ofExcept_bind {x : Except Failure α} {y : Except Failure β} {f : α → Program γ}
    {g : β → Program δ} (h : ∀ a b, x = .ok a → y = .ok b → (f a).Paired (g b)) :
    ((ofExcept x).bind f).Paired ((ofExcept y).bind g) := by
  cases x with
  | error e => exact .inl trivial
  | ok a =>
    cases y with
    | error e => exact .inr (.inl trivial)
    | ok b => exact h a b rfl rfl

/-! ## Runs -/

variable {engine : Engine σ} {engine' : Engine τ} {s : σ} {s' : τ}

theorem sent_of_ended (h : p.Ended) : p.sent engine s = [] := by
  cases p with
  | done a => rfl
  | fail e => rfl
  | call c next => exact h.elim

theorem sentTexts_call {c : Call} {next : Except Failure c.Reply → Program α} :
    (call c next).sentTexts engine s =
      c.texts ++ (next (engine.reply c s).1).sentTexts engine (engine.reply c s).2 := by
  rw [sentTexts, sent, List.map_append]
  rfl

theorem Twins.of_paired (h : p.Paired q) (hp : p.sent engine s ≠ [])
    (hq : q.sent engine' s' ≠ []) : p.Twins q := by
  obtain hended | hended | h := h
  · exact absurd (sent_of_ended hended) hp
  · exact absurd (sent_of_ended hended) hq
  · exact h

/-- **Runs of twins send the same texts**, if the engines refuse no call. -/
theorem Twins.sent_eq (h : p.Twins q) (hp : p.Accepted engine s) (hq : q.Accepted engine' s') :
    p.sentTexts engine s = q.sentTexts engine' s' := by
  induction h generalizing s s' with
  | ended hp' hq' => rw [sentTexts, sentTexts, sent_of_ended hp', sent_of_ended hq']
  | call texts _ _ _ ih =>
    obtain ⟨⟨r, hr⟩, hp⟩ := hp
    obtain ⟨⟨r', hr'⟩, hq⟩ := hq
    rw [hr] at hp
    rw [hr'] at hq
    rw [sentTexts_call, sentTexts_call, texts, hr, hr', ih r r' hp hq]

/-- **Of two runs of twins one sends the texts of the other**, and perhaps more. -/
theorem Twins.sent_prefix (h : p.Twins q) (s : σ) (s' : τ) :
    p.sentTexts engine s <+: q.sentTexts engine' s' ∨
      q.sentTexts engine' s' <+: p.sentTexts engine s := by
  induction h generalizing s s' with
  | ended hp hq => exact .inl (by rw [sentTexts, sent_of_ended hp]; exact List.nil_prefix)
  | @call c c' next next' texts refused refused' _ ih =>
    rw [sentTexts_call, sentTexts_call, texts, List.prefix_append_right_inj,
      List.prefix_append_right_inj]
    cases hr : (engine.reply c s).1 with
    | error e => exact .inl (by rw [sentTexts, sent_of_ended (refused e)]; exact List.nil_prefix)
    | ok r =>
      cases hr' : (engine'.reply c' s').1 with
      | error e =>
        exact .inr (by rw [sentTexts, sent_of_ended (refused' e)]; exact List.nil_prefix)
      | ok r' => exact ih r r' _ _

/-- Every request of a run is one of a call that the program may make. -/
theorem mem_sent {P : Call → Prop} (h : p.Calls P) {r : Request} (hr : r ∈ p.sent engine s) :
    ∃ c, P c ∧ r ∈ c.requests := by
  induction p generalizing s with
  | done a => exact absurd hr List.not_mem_nil
  | fail e => exact absurd hr List.not_mem_nil
  | call c next ih =>
    rcases List.mem_append.1 hr with hr | hr
    · exact ⟨c, h.1, hr⟩
    · exact ih _ (h.2 _) hr

end Program
end Daybook
