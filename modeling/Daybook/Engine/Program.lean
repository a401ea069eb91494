import Daybook.Failure
import Daybook.Sql.LiveColumn

/-!
# Programs

An operation on a database is a program: it calls an engine, goes on with what the engine replies,
and ends with a value or a failure. What is called is part of the program; what is replied is not.

* `Request`, `Call`, `Call.Reply`: what is asked of an engine, and what it replies;
* `Program`, `Program.bind`, `Program.attempt`;
* `Engine`, `Program.run`: a program run on an engine.
-/

namespace Daybook

/-! ## Calls -/

/-- A statement for an engine. -/
inductive Request where
  | statement (s : Sql.Statement)
  /-- A text, with values for its marks. -/
  | text (sql : String) (values : List Sql.Cell)

namespace Request

/-- The text of a request. -/
def sql : Request → String
  | statement s => s.text
  | text sql _ => sql

/-- The bound values of a request. -/
def params : Request → List Sql.Cell
  | statement s => s.params
  | text _ values => values

end Request

/-- What is asked of an engine. -/
inductive Call where
  /-- Run statements without values, one after the other. -/
  | execute (request : Request)
  /-- Answer the rows of a query. -/
  | query (request : Request)
  /-- Change rows, and answer how many. -/
  | change (request : Request) (inTransaction : Bool)
  /-- Add rows, and answer the number of the last. -/
  | insert (request : Request)
  /-- Run statements, all or none, and answer how many rows they changed. -/
  | transaction (requests : List Request)
  | columns (table : String)
  | hasTable (table : String)
  | indexes (table : String)
  | close

/-- What an engine replies to a call. -/
def Call.Reply : Call → Type
  | execute _ => Unit
  | query _ => List Record
  | change _ _ => Nat
  | insert _ => Int
  | transaction _ => Nat
  | columns _ => List Sql.LiveColumn
  | hasTable _ => Bool
  | indexes _ => List String
  | close => Unit

/-! ## Programs -/

/-- A program that calls an engine and ends with a value or a failure. -/
inductive Program (α : Type) where
  | done (value : α)
  | fail (failure : Failure)
  | call (c : Call) (next : Except Failure c.Reply → Program α)

namespace Program

variable {α β : Type}

/-- Goes on with the value of a program. -/
def bind (p : Program α) (f : α → Program β) : Program β :=
  match p with
  | done a => f a
  | fail e => fail e
  | call c next => call c fun r => bind (next r) f

instance : Monad Program where
  pure := done
  bind := bind

/-- A call whose failure ends the program. -/
def ask (c : Call) : Program c.Reply :=
  call c fun
    | .ok r => done r
    | .error e => fail e

/-- The program that ends as a result says. -/
def ofExcept : Except Failure α → Program α
  | .ok a => done a
  | .error e => fail e

/-- The program, with a failure as a value to go on with. -/
def attempt : Program α → Program (Except Failure α)
  | done a => done (.ok a)
  | fail e => done (.error e)
  | call c next => call c fun r => attempt (next r)

@[simp] theorem pure_eq (a : α) : (pure a : Program α) = done a := rfl

@[simp] theorem bind_eq (p : Program α) (f : α → Program β) : (p >>= f) = bind p f := rfl

end Program

/-! ## Engines -/

/-- An engine with states `σ`: how it replies to a call. -/
structure Engine (σ : Type) where
  reply : (c : Call) → σ → Except Failure c.Reply × σ

/-- Runs a program on an engine. -/
def Program.run {α σ : Type} (engine : Engine σ) : Program α → σ → Except Failure α × σ
  | done a, s => (.ok a, s)
  | fail e, s => (.error e, s)
  | call c next, s =>
    let (r, s) := engine.reply c s
    (next r).run engine s

namespace Program

variable {α β σ : Type}

@[simp] theorem run_done (engine : Engine σ) (a : α) (s : σ) :
    (done a : Program α).run engine s = (.ok a, s) := rfl

@[simp] theorem run_fail (engine : Engine σ) (e : Failure) (s : σ) :
    (fail e : Program α).run engine s = (.error e, s) := rfl

/-- A program run after another starts where the other ends. -/
theorem run_bind (engine : Engine σ) (p : Program α) (f : α → Program β) (s : σ) :
    (p.bind f).run engine s =
      match p.run engine s with
      | (.ok a, s) => (f a).run engine s
      | (.error e, s) => (.error e, s) := by
  induction p generalizing s with
  | done a => rfl
  | fail e => rfl
  | call c next ih => exact ih _ _

/-- An attempt never fails, and ends in the same state. -/
theorem run_attempt (engine : Engine σ) (p : Program α) (s : σ) :
    p.attempt.run engine s = (.ok (p.run engine s).1, (p.run engine s).2) := by
  induction p generalizing s with
  | done a => rfl
  | fail e => rfl
  | call c next ih => exact ih _ _

end Program
end Daybook
