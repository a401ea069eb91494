import Daybook.Engine.Storage
import Daybook.Proofs.Engine.Program
import Daybook.Proofs.Sql.Database

/-!
# Calls on a storage

A call on a storage runs statements on the database as it is opened. A change that succeeds is the
effect of its statement (`change?_eq_ok`), a transaction that of its statements one after the other
(`changeAll?_eq_ok`).

* `Storage.table?`, `Storage.Holds`: a table of the database, and what the database satisfies;
* `Call.Runs`: the call runs statements of a kind;
* **`Storage.reply_preserves`**: what statements of a kind keep, calls that run them keep;
* `Storage.Always`, **`Always.run`**: what all statements keep, every program keeps.
-/

namespace Daybook

open Sql

/-! ## Connections -/

namespace Connection

variable {c c' : Connection}

theorem step?_eq_ok {s : Statement} {o : Outcome} (h : c.step? s = .ok (c', o)) :
    c.database.run? s = .ok (c'.database, o) := by
  rw [step?] at h
  split at h
  · exact nomatch h
  · rename_i hrun
    obtain ⟨rfl, rfl⟩ := Prod.mk.inj (Except.ok.inj h)
    exact hrun
  · rename_i hrun
    obtain ⟨rfl, rfl⟩ := Prod.mk.inj (Except.ok.inj h)
    exact hrun

theorem query?_eq_ok {config : StorageConfig} {r : Request} {records : List Record}
    (h : c.query? config r = .ok (records, c')) :
    ∃ s o, r.statement? c.database = .ok s ∧ c.database.run? s = .ok (c'.database, o) := by
  rw [query?] at h
  obtain ⟨s, hs, h⟩ := Result.bind_eq_ok_iff.1 h
  obtain ⟨⟨d, o⟩, hstep, h⟩ := Result.bind_eq_ok_iff.1 h
  dsimp only at h
  refine ⟨s, o, hs, @step?_eq_ok c c' _ _ ?_⟩
  rw [hstep]
  split at h <;> rw [(Prod.mk.inj (Except.ok.inj h)).2]

theorem change?_eq_ok {r : Request} (h : c.change? r = .ok c') :
    ∃ s o, r.statement? c.database = .ok s ∧ c.database.run? s = .ok (c'.database, o) := by
  rw [change?] at h
  obtain ⟨s, hs, h⟩ := Result.bind_eq_ok_iff.1 h
  obtain ⟨⟨d, o⟩, hstep, h⟩ := Result.bind_eq_ok_iff.1 h
  dsimp only at h
  refine ⟨s, o, hs, @step?_eq_ok c c' _ _ ?_⟩
  rw [hstep]
  split at h
  · exact nomatch h
  · exact nomatch h
  · rw [Except.ok.inj h]

theorem changeAll?_eq_ok {statements : List Statement} {total n : Nat}
    (h : c.changeAll? total (statements.map .statement) = .ok (c', n)) :
    ∃ os, c.database.runAll? statements = .ok (c'.database, os) := by
  induction statements generalizing c total with
  | nil =>
    rw [List.map_nil, changeAll?, Except.ok.injEq, Prod.mk.injEq] at h
    exact ⟨[], by rw [Database.runAll?, h.1]⟩
  | cons s rest ih =>
    rw [List.map_cons, changeAll?] at h
    dsimp only at h
    split at h
    · cases h
    · obtain ⟨d, hd, h⟩ := Result.bind_eq_ok_iff.1 h
      obtain ⟨s', o, hs, ho⟩ := change?_eq_ok hd
      obtain rfl : s = s' := Except.ok.inj hs
      obtain ⟨os, hos⟩ := ih h
      exact ⟨o :: os, Result.bind_eq_ok_iff.2 ⟨_, ho, Result.bind_eq_ok_iff.2 ⟨_, hos, rfl⟩⟩⟩

/-- A change of rows succeeds if its statement does. -/
theorem change?_of_run? {s : Statement} {db : Database} {n : Nat} {last : Option Int}
    (h : c.database.run? s = .ok (db, .changed n last)) :
    c.change? (.statement s) = .ok ⟨db, n, last.getD c.lastRow⟩ := by
  have hstep : c.step? s = .ok (⟨db, n, last.getD c.lastRow⟩, .changed n last) := by
    rw [step?, h]
  refine Result.bind_eq_ok_iff.2 ⟨s, rfl, Result.bind_eq_ok_iff.2 ⟨_, hstep, ?_⟩⟩
  dsimp only
  split
  · exact nomatch (Database.run?_eq_ok h).2
  · rename_i heq
    exact nomatch heq
  · rfl

/-- A change of tables succeeds if its statement does. -/
theorem change?_of_done {s : Statement} {db : Database} (h : c.database.run? s = .ok (db, .done)) :
    c.change? (.statement s) = .ok { c with database := db } := by
  have hstep : c.step? s = .ok ({ c with database := db }, .done) := by
    rw [step?, h]
  refine Result.bind_eq_ok_iff.2 ⟨s, rfl, Result.bind_eq_ok_iff.2 ⟨_, hstep, ?_⟩⟩
  dsimp only
  split
  · exact nomatch (Database.run?_eq_ok h).2
  · rename_i heq
    exact nomatch heq
  · rfl

/-- A change succeeds if its statement does. -/
theorem exists_change?_of_run? {s : Statement} {db : Database} {o : Outcome} (hs : s.IsChange)
    (h : c.database.run? s = .ok (db, o)) :
    ∃ c', c.change? (.statement s) = .ok c' ∧ c'.database = db := by
  cases o with
  | rows records => exact absurd rfl (hs.ne_rows h records)
  | changed n last => exact ⟨_, change?_of_run? h, rfl⟩
  | done => exact ⟨_, change?_of_done h, rfl⟩

/-- Changes succeed in one transaction if their statements do. -/
theorem changeAll?_of_runAll? {statements : List Statement} {db : Database} {os : List Outcome}
    (hs : ∀ s ∈ statements, s.IsChange) (h : c.database.runAll? statements = .ok (db, os))
    (total : Nat) :
    ∃ c' n, c.changeAll? total (statements.map .statement) = .ok (c', n) ∧ c'.database = db := by
  induction statements generalizing c total os with
  | nil =>
    obtain ⟨rfl, -⟩ := Prod.mk.inj (Except.ok.inj h)
    exact ⟨c, total, rfl, rfl⟩
  | cons s rest ih =>
    obtain ⟨hchange, hrest'⟩ := List.forall_mem_cons.1 hs
    obtain ⟨d, o, os', hone, hrest⟩ := Database.runAll?_cons h
    obtain ⟨c₁, hc₁, rfl⟩ := exists_change?_of_run? hchange hone
    obtain ⟨c', n, hmore, hdb⟩ := ih hrest' hrest (total + c₁.changes)
    refine ⟨c', n, ?_, hdb⟩
    rw [List.map_cons, changeAll?]
    dsimp only
    split
    · rename_i heq
      rw [Except.ok.inj heq] at hchange
      exact absurd hchange not_false
    · exact Result.bind_eq_ok_iff.2 ⟨c₁, hc₁, hmore⟩

/-- A change of rows is refused if its statement is. -/
theorem change?_of_error {s : Statement} {fault : Fault} (h : c.database.run? s = .error fault) :
    c.change? (.statement s) = .error fault := by
  have hstep : c.step? s = .error fault := by
    rw [step?, h]
  rw [change?]
  refine Result.bind_eq_error_iff.2 (.inr ⟨s, rfl, Result.bind_eq_error_iff.2 (.inl hstep)⟩)

theorem query?_of_run? {config : StorageConfig} {s : Statement} {records : List Record}
    (h : c.database.run? s = .ok (c.database, .rows records)) (hs : s ≠ .journalMode) :
    c.query? config (.statement s) = .ok (records, c) := by
  have hstep : c.step? s = .ok (c, .rows records) := by
    rw [step?, h]
  refine Result.bind_eq_ok_iff.2 ⟨s, rfl, Result.bind_eq_ok_iff.2 ⟨_, hstep, ?_⟩⟩
  dsimp only
  split
  · exact absurd rfl hs
  · rename_i heq
    rw [← Outcome.rows.inj heq]
    rfl
  · rename_i _ hrows
    exact absurd rfl (hrows records)

theorem query?_of_error {config : StorageConfig} {s : Statement} {fault : Fault}
    (h : c.database.run? s = .error fault) :
    c.query? config (.statement s) = .error fault := by
  have hstep : c.step? s = .error fault := by
    rw [step?, h]
  rw [query?]
  refine Result.bind_eq_error_iff.2 (.inr ⟨s, rfl, Result.bind_eq_error_iff.2 (.inl hstep)⟩)

theorem look?_eq_ok {α : Type} {function : String} {answer : Database → α} {a : α}
    (h : c.look? function answer = .ok (a, c')) : a = answer c.database ∧ c' = c := by
  rw [look?] at h
  split at h
  · cases h
  · obtain ⟨rfl, rfl⟩ := Prod.mk.inj (Except.ok.inj h)
    exact ⟨rfl, rfl⟩

theorem runScript_statement (c : Connection) (s : Statement) :
    (c.runScript (Request.script (.statement s))).2.database = c.database ∨
      ∃ o, c.database.run? s = .ok ((c.runScript (Request.script (.statement s))).2.database, o) := by
  rw [Request.script, runScript]
  split
  · exact .inl rfl
  · rename_i d o hstep
    exact .inr ⟨o, step?_eq_ok hstep⟩

end Connection

/-! ## Storages -/

namespace Storage

variable {st st' : Storage}

/-- The table of a name, in the database as it is opened. -/
def table? (st : Storage) (name : String) : Option Table :=
  match st.opened with
  | .ok c => c.database.table? name
  | .error _ => none

/-- The database as it is opened satisfies an invariant. -/
def Holds (I : Database → Prop) (st : Storage) : Prop := ∃ c, st.opened = .ok c ∧ I c.database

theorem table?_of_opened {c : Connection} (h : st.opened = .ok c) (name : String) :
    st.table? name = c.database.table? name := by
  rw [table?, h]

theorem opened_keep (st : Storage) (c : Connection) : (st.keep c).opened = .ok c := rfl

theorem table?_keep (st : Storage) (c : Connection) (name : String) :
    (st.keep c).table? name = c.database.table? name := rfl

theorem table?_eq_some {name : String} {t : Table} (h : st.table? name = some t) :
    ∃ c, st.opened = .ok c ∧ c.database.table? name = some t := by
  rw [table?] at h
  split at h
  · rename_i c hc
    exact ⟨c, hc, h⟩
  · exact nomatch h

/-- A storage that keeps a table put in place of one has that table, and the others as before. -/
theorem table?_keep_replaceTable {c : Connection} {name : String} {t t' : Table} {n : Nat}
    {last : Int} (hc : st.opened = .ok c) (ht : c.database.table? name = some t)
    (hname : t'.name = t.name) :
    (st.keep ⟨c.database.replaceTable t', n, last⟩).table? name = some t' ∧
      ∀ other, ¬ sameName name other →
        (st.keep ⟨c.database.replaceTable t', n, last⟩).table? other = st.table? other := by
  have hsame := Database.sameName_of_table? ht
  refine ⟨Database.table?_replaceTable ht hname, fun other hne => ?_⟩
  rw [table?_keep, table?, hc]
  refine Database.table?_replaceTable_of_ne fun hother => hne ?_
  rw [hname] at hother
  rw [sameName_iff] at hsame hother ⊢
  exact hsame.symm.trans hother

theorem on_eq_ok {α : Type} {f : Connection → Except Fault (α × Connection)} {a : α}
    (h : st.on f = (.ok a, st')) :
    ∃ c c', st.opened = .ok c ∧ f c = .ok (a, c') ∧ st' = st.keep c' := by
  rw [on] at h
  split at h
  · exact nomatch (Prod.mk.inj h).1
  · rename_i c hc
    split at h
    · rename_i b c' hf
      obtain ⟨hb, hst⟩ := Prod.mk.inj h
      exact ⟨c, c', hc, by rw [hf, Except.ok.inj hb], hst.symm⟩
    · exact nomatch (Prod.mk.inj h).1

theorem on_of_eq_ok {α : Type} {f : Connection → Except Fault (α × Connection)} {c c' : Connection}
    {a : α} (hc : st.opened = .ok c) (h : f c = .ok (a, c')) : st.on f = (.ok a, st.keep c') := by
  rw [on, hc]
  dsimp only
  rw [h]

theorem on_of_eq_error {α : Type} {f : Connection → Except Fault (α × Connection)} {c : Connection}
    {fault : Fault} (hc : st.opened = .ok c) (h : f c = .error fault) :
    st.on f = (.error (.storage fault), st.keep c) := by
  rw [on, hc]
  dsimp only
  rw [h]

/-- What is refused changes nothing. -/
theorem opened_of_on_error {α : Type} {f : Connection → Except Fault (α × Connection)} {e : Failure}
    (h : st.on f = (.error e, st')) : st'.opened = st.opened := by
  rw [on] at h
  split at h
  · rw [← (Prod.mk.inj h).2]
  · rename_i c hc
    split at h
    · exact nomatch (Prod.mk.inj h).1
    · rw [← (Prod.mk.inj h).2, opened_keep, hc]

theorem table?_of_on_error {α : Type} {f : Connection → Except Fault (α × Connection)} {e : Failure}
    (h : st.on f = (.error e, st')) (name : String) : st'.table? name = st.table? name := by
  rw [table?, table?, opened_of_on_error h]

/-- The call only looks at the database: it answers what it finds there, if it does not fail. -/
def Reads (c : Call) (look : Database → c.Reply) : Prop :=
  ∃ f : Connection → Except Fault (c.Reply × Connection), (∀ st, engine.reply c st = st.on f) ∧
    ∀ d a d', f d = .ok (a, d') → a = look d.database ∧ d' = d

theorem reads_hasTable (table : String) : Reads (.hasTable table) fun db => db.hasTable table := by
  refine ⟨fun d => .ok (d.database.hasTable table, d), fun _ => rfl, fun d a d' h => ?_⟩
  obtain ⟨rfl, rfl⟩ := Prod.mk.inj (Except.ok.inj h)
  exact ⟨rfl, rfl⟩

theorem reads_columns (table : String) : Reads (.columns table) fun db => db.liveColumns table :=
  ⟨_, fun _ => rfl, fun _ _ _ => Connection.look?_eq_ok⟩

theorem reads_indexes (table : String) : Reads (.indexes table) fun db => db.indexNames table :=
  ⟨_, fun _ => rfl, fun _ _ _ => Connection.look?_eq_ok⟩

section Reads

variable {c : Call} {look : Database → c.Reply} (hreads : Reads c look)

include hreads

/-- To look at the database changes nothing. -/
theorem opened_of_reads {result : Except Failure c.Reply}
    (h : (Program.ask c).run engine st = (result, st')) : st'.opened = st.opened := by
  obtain ⟨f, hreply, hf⟩ := hreads
  rw [Program.run_ask, hreply] at h
  rcases result with e | a
  · exact opened_of_on_error h
  · obtain ⟨d, d', hd, hlook, rfl⟩ := on_eq_ok h
    obtain ⟨-, rfl⟩ := hf d a d' hlook
    exact hd.symm

theorem exists_of_reads {a : c.Reply} (h : (Program.ask c).run engine st = (.ok a, st')) :
    ∃ d, st.opened = .ok d ∧ st'.opened = .ok d ∧ a = look d.database := by
  have hopened := opened_of_reads hreads h
  obtain ⟨f, hreply, hf⟩ := hreads
  rw [Program.run_ask, hreply] at h
  obtain ⟨d, d', hd, hlook, -⟩ := on_eq_ok h
  exact ⟨d, hd, hopened.trans hd, (hf d a d' hlook).1⟩

end Reads

theorem onScript_eq {c : Connection} (h : st.opened = .ok c) (r : Request) :
    (st.onScript r).2 = st.keep (c.runScript r.script).2 := by
  rw [onScript, h]
  dsimp only
  split
  · rename_i d hd
    rw [hd]
  · rename_i fault d hd
    rw [hd]

/-- The failures of a database are faults of statements, or of what it is opened from. -/
theorem error_on {α : Type} {f : Connection → Except Fault (α × Connection)} {e : Failure}
    (h : (st.on f).1 = .error e) : ∃ fault, e = .storage fault := by
  rw [on] at h
  split at h
  · exact ⟨_, (Except.error.inj h).symm⟩
  · split at h
    · cases h
    · exact ⟨_, (Except.error.inj h).symm⟩

theorem error_onScript {r : Request} {e : Failure} (h : (st.onScript r).1 = .error e) :
    ∃ fault, e = .storage fault := by
  rw [onScript] at h
  split at h
  · exact ⟨_, (Except.error.inj h).symm⟩
  · split at h
    · cases h
    · exact ⟨_, (Except.error.inj h).symm⟩

theorem error_reply {c : Call} {e : Failure} (h : (engine.reply c st).1 = .error e) :
    ∃ fault, e = .storage fault := by
  cases c with
  | execute r => exact error_onScript h
  | close => cases h
  | _ => exact error_on h

/-- What a step on the database keeps, the storage keeps. -/
theorem Holds.on {I : Database → Prop} {α : Type}
    {f : Connection → Except Fault (α × Connection)} (h : st.Holds I)
    (hf : ∀ c a c', I c.database → f c = .ok (a, c') → I c'.database) : (st.on f).2.Holds I := by
  obtain ⟨c, hc, hI⟩ := h
  rw [Storage.on, hc]
  dsimp only
  split
  · rename_i a c' hfc
    exact ⟨c', rfl, hf c a c' hI hfc⟩
  · exact ⟨c, rfl, hI⟩

end Storage

/-! ## Calls that run statements -/

/-- The call runs statements of a kind, and nothing else. -/
def Call.Runs (P : Statement → Prop) : Call → Prop
  | .execute (.statement s) | .query (.statement s) | .change (.statement s) _
  | .insert (.statement s) => P s
  | .transaction requests => ∃ statements : List Statement,
      requests = statements.map .statement ∧ ∀ s ∈ statements, P s
  | _ => False

theorem Database.runAll?_preserves {P : Statement → Prop} {I : Database → Prop}
    (hI : ∀ s db db' o, P s → I db → db.run? s = .ok (db', o) → I db') {db db' : Database}
    {statements : List Statement} {os : List Outcome} (hP : ∀ s ∈ statements, P s) (h : I db)
    (hrun : db.runAll? statements = .ok (db', os)) : I db' := by
  induction statements generalizing db os with
  | nil =>
    rw [Database.runAll?, Except.ok.injEq, Prod.mk.injEq] at hrun
    rwa [← hrun.1]
  | cons s rest ih =>
    obtain ⟨⟨d, o⟩, hs, hrun⟩ := Result.bind_eq_ok_iff.1 hrun
    obtain ⟨⟨d', os'⟩, hrest, hrun⟩ := Result.bind_eq_ok_iff.1 hrun
    obtain ⟨rfl, -⟩ := Prod.mk.inj (Except.ok.inj hrun)
    exact ih (fun s hs => hP s (List.mem_cons_of_mem _ hs))
      (hI s db d o (hP s List.mem_cons_self) h hs) hrest

/-- **What statements of a kind keep, a call that runs them keeps.** -/
theorem Storage.reply_preserves {P : Statement → Prop} {I : Database → Prop}
    (hI : ∀ s db db' o, P s → I db → db.run? s = .ok (db', o) → I db') (c : Call)
    (st : Storage) (hc : c.Runs P) (h : st.Holds I) : (Storage.engine.reply c st).2.Holds I := by
  match c, hc with
  | .execute (.statement s), hs =>
    obtain ⟨d, hd, hId⟩ := h
    show (st.onScript (.statement s)).2.Holds I
    rw [Storage.onScript_eq hd]
    refine ⟨_, Storage.opened_keep st _, ?_⟩
    rcases d.runScript_statement s with hsame | ⟨o, ho⟩
    · rwa [hsame]
    · exact hI s _ _ o hs hId ho
  | .query (.statement s), hs =>
    refine h.on fun d records d' hd hquery => ?_
    obtain ⟨s', o, hs', ho⟩ := Connection.query?_eq_ok hquery
    obtain rfl : s = s' := Except.ok.inj hs'
    exact hI s _ _ o hs hd ho
  | .change (.statement s) _, hs =>
    refine h.on fun d n d' hd hchange => ?_
    obtain ⟨e, he, heq⟩ := Result.map_eq_ok_iff.1 hchange
    obtain ⟨-, rfl⟩ := Prod.mk.inj heq
    obtain ⟨s', o, hs', ho⟩ := Connection.change?_eq_ok he
    obtain rfl : s = s' := Except.ok.inj hs'
    exact hI s _ _ o hs hd ho
  | .insert (.statement s), hs =>
    refine h.on fun d n d' hd hchange => ?_
    obtain ⟨e, he, heq⟩ := Result.map_eq_ok_iff.1 hchange
    obtain ⟨-, rfl⟩ := Prod.mk.inj heq
    obtain ⟨s', o, hs', ho⟩ := Connection.change?_eq_ok he
    obtain rfl : s = s' := Except.ok.inj hs'
    exact hI s _ _ o hs hd ho
  | .transaction _, ⟨statements, rfl, hs⟩ =>
    refine h.on fun d n d' hd hchange => ?_
    obtain ⟨⟨e, k⟩, he, heq⟩ := Result.map_eq_ok_iff.1 hchange
    obtain ⟨-, rfl⟩ := Prod.mk.inj heq
    obtain ⟨os, hos⟩ := Connection.changeAll?_eq_ok he
    exact Database.runAll?_preserves hI hs hd hos

/-! ## What all statements keep -/

section Always

variable {I : Database → Prop}
  (hI : ∀ s db db' o, I db → db.run? s = .ok (db', o) → I db')

namespace Connection

variable {c c' : Connection}

include hI

theorem changeAll?_preserves {requests : List Request} {total n : Nat} (h : I c.database)
    (hok : c.changeAll? total requests = .ok (c', n)) : I c'.database := by
  induction requests generalizing c total with
  | nil =>
    rw [changeAll?, Except.ok.injEq, Prod.mk.injEq] at hok
    rwa [← hok.1]
  | cons r rest ih =>
    rw [changeAll?] at hok
    dsimp only at hok
    split at hok
    · cases hok
    · obtain ⟨d, hd, hok⟩ := Result.bind_eq_ok_iff.1 hok
      obtain ⟨s, o, -, ho⟩ := change?_eq_ok hd
      exact ih (hI s _ _ o h ho) hok

theorem runScript_preserves (h : I c.database) (script : List (Except Fault Statement)) :
    I (c.runScript script).2.database := by
  induction script generalizing c with
  | nil => exact h
  | cons x rest ih =>
    cases x with
    | error fault => exact h
    | ok s =>
      rw [runScript]
      split
      · exact h
      · rename_i d o hstep
        exact ih (hI s _ _ o h (step?_eq_ok hstep))

end Connection

namespace Storage

variable {st : Storage}

/-- What the storage holds satisfies an invariant, whether it is open or not. -/
structure Always (I : Database → Prop) (st : Storage) : Prop where
  saved : ∀ db, st.saved = .ok db → I db
  connected : ∀ c, st.connection = some c → I c.database

namespace Always

theorem keep (st : Storage) {c : Connection} (hc : I c.database) : (st.keep c).Always I where
  saved db hdb := by
    rwa [← Except.ok.inj hdb]
  connected d hd := by
    rwa [← Option.some.inj hd]

variable (hempty : I {})

include hempty

/-- The database satisfies the invariant once it is opened. -/
theorem opened (h : st.Always I) {c : Connection} (hc : st.opened = .ok c) : I c.database := by
  rw [Storage.opened] at hc
  split at hc
  · rename_i d hd
    rw [← Except.ok.inj hc]
    exact h.connected d hd
  · obtain ⟨db, hdb, rfl⟩ := Result.map_eq_ok_iff.1 hc
    split_ifs at hdb
    · rwa [← Except.ok.inj hdb]
    · exact h.saved db hdb

theorem on {α : Type} {f : Connection → Except Fault (α × Connection)} (h : st.Always I)
    (hf : ∀ c a c', I c.database → f c = .ok (a, c') → I c'.database) : (st.on f).2.Always I := by
  rw [Storage.on]
  split
  · exact h
  · rename_i c hc
    have hc := h.opened hempty hc
    split
    · rename_i a c' hfc
      exact keep st (hf c a c' hc hfc)
    · exact keep st hc

include hI

theorem reply (call : Call) (h : st.Always I) : (engine.reply call st).2.Always I := by
  cases call with
  | execute r =>
    show (st.onScript r).2.Always I
    cases hc : st.opened with
    | error fault =>
      rw [onScript, hc]
      exact h
    | ok c =>
      rw [onScript_eq hc]
      exact keep st (Connection.runScript_preserves hI (h.opened hempty hc) _)
  | query r =>
    refine h.on hempty fun c records c' hc hquery => ?_
    obtain ⟨s, o, -, ho⟩ := Connection.query?_eq_ok hquery
    exact hI s _ _ o hc ho
  | change r inTransaction =>
    refine h.on hempty fun c n c' hc hchange => ?_
    obtain ⟨d, hd, heq⟩ := Result.map_eq_ok_iff.1 hchange
    obtain ⟨-, rfl⟩ := Prod.mk.inj heq
    obtain ⟨s, o, -, ho⟩ := Connection.change?_eq_ok hd
    exact hI s _ _ o hc ho
  | insert r =>
    refine h.on hempty fun c n c' hc hchange => ?_
    obtain ⟨d, hd, heq⟩ := Result.map_eq_ok_iff.1 hchange
    obtain ⟨-, rfl⟩ := Prod.mk.inj heq
    obtain ⟨s, o, -, ho⟩ := Connection.change?_eq_ok hd
    exact hI s _ _ o hc ho
  | transaction requests =>
    refine h.on hempty fun c n c' hc hchange => ?_
    obtain ⟨⟨d, k⟩, hd, heq⟩ := Result.map_eq_ok_iff.1 hchange
    obtain ⟨-, rfl⟩ := Prod.mk.inj heq
    exact Connection.changeAll?_preserves hI hc hd
  | columns table | indexes table =>
    refine h.on hempty fun c a c' hc hask => ?_
    rwa [(Connection.look?_eq_ok hask).2]
  | hasTable table =>
    refine h.on hempty fun c a c' hc hask => ?_
    rwa [← (Prod.mk.inj (Except.ok.inj hask)).2]
  | close => exact ⟨h.saved, fun c hc => nomatch hc⟩

/-- **What all statements keep, every program keeps.** -/
theorem run {α : Type} (p : Program α) (h : st.Always I) : (p.run engine st).2.Always I := by
  have hcalls : p.Calls fun _ => True := by
    induction p with
    | done a => trivial
    | fail e => trivial
    | call c next ih => exact ⟨trivial, ih⟩
  exact Program.run_preserves (fun call st _ hst => reply hI hempty call hst) hcalls h

/-- It holds of databases that begin empty, whatever is done with them. -/
theorem run_new {α : Type} (p : Program α) (config : StorageConfig) :
    (p.run engine { config := config }).2.Always I := by
  refine run hI hempty p ⟨fun db hdb => ?_, fun c hc => nomatch hc⟩
  rwa [← Except.ok.inj hdb]

end Always
end Storage

end Always

end Daybook
