import Daybook.Proofs.Engine.Storage
import Daybook.Proofs.Schema.Database
import Daybook.Proofs.Store.Assignments
import Daybook.Proofs.Store.Write

/-!
# Edits

An edit is a call that adds, changes or removes records. It runs statements on rows
(`Covers.edit`), so a table keeps its columns and indexes through any run of edits, and stays sound
(**`Edited.exists_table`**). Where no column is one of byte strings, the statements write plain
values, whatever the records and patches are (**`Edit.calls`**), and a database goes on serving its
schemas (**`Edited.serves`**).

* `Edit`, `Edit.program`;
* `Covers`: a kind of statements that edits of a schema run;
* `Edited`: what runs of edits lead to.
-/

namespace Daybook

open Sql

namespace Store

/-! ## Kinds of edits -/

/-- A call that adds, changes or removes records. -/
inductive Edit where
  | insertOne (m : Moment) (record : Record)
  | insertMany (m : Moment) (records : List Record)
  | upsertMany (m : Moment) (records : List Record)
  | updateOne (m : Moment) (f : Filter) (patch : Record)
  | updateById (m : Moment) (id : String) (patch : Record)
  | updateMany (m : Moment) (f : Filter) (patch : Record)
  | deleteOne (f : Filter)
  | deleteById (id : String)
  | deleteMany (f : Filter)
  | deleteAll

/-- The program of an edit, without its answer. -/
def Edit.program (s : Schema) : Edit → Program Unit
  | .insertOne m record => (Store.insertOne s m record).bind fun _ => .done ()
  | .insertMany m records => (Store.insertMany s m records).bind fun _ => .done ()
  | .upsertMany m records => (Store.upsertMany s m records).bind fun _ => .done ()
  | .updateOne m f patch => (Store.updateOne s m f patch).bind fun _ => .done ()
  | .updateById m id patch => (Store.updateById s m id patch).bind fun _ => .done ()
  | .updateMany m f patch => (Store.updateMany s m f patch).bind fun _ => .done ()
  | .deleteOne f => (Store.deleteOne s f).bind fun _ => .done ()
  | .deleteById id => (Store.deleteById s id).bind fun _ => .done ()
  | .deleteMany f => (Store.deleteMany s f).bind fun _ => .done ()
  | .deleteAll => (Store.deleteAll s).bind fun _ => .done ()

/-! ## Plain values -/

/-- No column of the schema is one of byte strings. -/
def NoBlobs (s : Schema) : Prop := ∀ c ∈ s.columns, c.type ≠ .blob

theorem plain_ofJson (v : Json) : (Cell.ofJson v).Plain := by
  cases v with
  | int n =>
    rw [Cell.ofJson]
    cases hn : Cell.ofInt? n with
    | none => exact Cell.plain_of_rank rfl
    | some w => exact Cell.plain_ofInt? hn
  | _ => exact Cell.plain_of_rank rfl

/-- A column other than one of byte strings takes every value. -/
theorem cell_of_ne_blob {c : Column} (h : c.type ≠ .blob) (v : Json) :
    c.cell v = .ok (Cell.ofJson v) := by
  have hcolumn : Cell.forColumn c.type v = .ok (Cell.ofJson v) := by
    rw [Cell.forColumn.eq_def]
    split
    · rename_i htype
      exact absurd htype h
    · rfl
  rw [Column.cell, hcolumn]

theorem plain_of_valueOf {c : Column} (h : c.type ≠ .blob) {record : Record} {v : Cell}
    (hv : valueOf c record = .ok v) : v.Plain := by
  rw [valueOf] at hv
  split at hv
  · rw [cell_of_ne_blob h] at hv
    rw [← Except.ok.inj hv]
    exact plain_ofJson _
  · rw [← Except.ok.inj hv]
    exact Cell.plain_of_rank rfl

variable {s : Schema}

theorem NoBlobs.plain_rowOf (h : NoBlobs s) {columns : List Column}
    (hsub : ∀ c ∈ columns, c ∈ s.columns) {record : Record} {row : List Operand}
    (hrow : rowOf columns record = .ok row) : ∀ o ∈ row, o.value.Plain := by
  obtain ⟨values, rfl, hvalues⟩ := rowOf_eq_ok hrow
  intro o ho
  obtain ⟨v, hv, rfl⟩ := List.mem_map.1 ho
  clear hrow ho
  induction hvalues with
  | nil => exact absurd hv List.not_mem_nil
  | @cons c w cs ws hw _ ih =>
    rcases List.mem_cons.1 hv with rfl | hv
    · exact plain_of_valueOf (h c (hsub c List.mem_cons_self)) hw
    · exact ih (fun c hc => hsub c (List.mem_cons_of_mem _ hc)) hv

theorem NoBlobs.plain_assignments (h : NoBlobs s) {m : Moment} {patch : Record}
    {set : List Assignment} (hset : assignments s m patch = .ok set) :
    Table.PlainAssignments set := by
  intro column v hmem
  obtain ⟨c, hc, hassigns⟩ := (mem_assignments_iff hset).1 hmem
  cases hassigns with
  | given _ _ hx =>
    rw [cell_of_ne_blob (h c hc)] at hx
    rw [← Except.ok.inj hx]
    exact plain_ofJson _
  | time => exact Cell.plain_of_rank rfl

/-! ## Calls of edits -/

/-- All statements that edits of a schema may run are of a kind. -/
structure Covers (s : Schema) (P : Statement → Prop) : Prop where
  select (q : Query) : P (.select q)
  insert (replace : Bool) (columns : List String) (rows : List (List Operand))
    (h : ∀ row ∈ rows, ∃ columns record, (∀ c ∈ columns, c ∈ s.columns) ∧
      rowOf columns record = .ok row) : P (.insert replace s.table columns rows)
  update (m : Moment) (patch : Record) (set : List Assignment) (target : Target)
    (h : assignments s m patch = .ok set) : P (.update s.table set target)
  delete (target : Target) : P (.delete s.table target)

/-- The calls of the program run statements of a kind. -/
abbrev CallsOf (P : Statement → Prop) {α : Type} (p : Program α) : Prop := p.Calls (Call.Runs P)

variable {P : Statement → Prop}

theorem callsOf_change {st : Statement} (h : P st) : CallsOf P (change st) := Program.calls_ask h

namespace Covers

theorem query (h : Covers s P) (q : Query) : CallsOf P (Store.query q) :=
  Program.calls_ask (h.select q)

theorem findByKey (h : Covers s P) (key : Json) : CallsOf P (Store.findByKey s key) :=
  Program.calls_bind (Program.calls_ofExcept _) fun _ =>
    Program.calls_bind (Program.calls_ofExcept _) fun _ =>
      Program.calls_bind (h.query _) fun _ => trivial

theorem insertOne (h : Covers s P) (m : Moment) (record : Record) :
    CallsOf P (Store.insertOne s m record) := by
  rw [Store.insertOne]
  split_ifs
  · trivial
  · dsimp only
    split_ifs
    · trivial
    · refine Program.calls_ofExcept_bind fun row hrow => ?_
      refine Program.calls_bind (Program.calls_ask (h.insert _ _ _ fun r hr => ?_)) fun number => ?_
      · rw [List.mem_singleton.1 hr]
        exact ⟨_, _, fun c hc => (mem_presentColumns_iff.1 hc).1, hrow⟩
      · split
        · trivial
        · exact Program.calls_bind (h.findByKey _) fun _ => trivial

theorem writeMany (h : Covers s P) (m : Moment) (replace : Bool) (records : List Record) :
    CallsOf P (Store.writeMany s m replace records) := by
  rw [Store.writeMany]
  split_ifs
  · trivial
  · refine Program.calls_ofExcept_bind fun statements hstatements => ?_
    refine Program.calls_bind (Program.calls_ask ⟨statements, rfl, fun st hst => ?_⟩)
      fun _ => trivial
    rw [writeStatements] at hstatements
    split_ifs at hstatements
    obtain ⟨rows, hrows, rfl⟩ := Result.map_eq_ok_iff.1 hstatements
    obtain ⟨part, hpart, rfl⟩ := List.mem_map.1 hst
    refine h.insert _ _ _ fun row hrow => ?_
    have hmem : row ∈ rows := by
      rw [← flatten_chunks (rowsPerStatement_ne_zero _) rows]
      exact List.mem_flatten.2 ⟨part, hpart, hrow⟩
    obtain ⟨record, -, hrecord⟩ := Result.exists_of_mem_mapM hrows hmem
    exact ⟨_, record, fun c hc => (mem_presentColumns_iff.1 hc).1, hrecord⟩

theorem change (h : Covers s P) (m : Moment) (patch : Record) (target : Target) :
    CallsOf P ((Program.ofExcept (assignments s m patch)).bind fun set =>
      Store.change (.update s.table set target)) :=
  Program.calls_ofExcept_bind fun _ hset => callsOf_change (h.update m patch _ target hset)

/-- **An edit runs statements of the kind**, whatever the records and patches are. -/
theorem edit (h : Covers s P) (e : Edit) : CallsOf P (e.program s) := by
  cases e with
  | insertOne m record => exact Program.calls_bind (h.insertOne m record) fun _ => trivial
  | insertMany m records => exact Program.calls_bind (h.writeMany m false records) fun _ => trivial
  | upsertMany m records => exact Program.calls_bind (h.writeMany m true records) fun _ => trivial
  | updateOne m f patch =>
    refine Program.calls_bind ?_ fun _ => trivial
    exact Program.calls_bind (Program.calls_ofExcept _) fun _ => h.change m patch _
  | updateById m id patch =>
    refine Program.calls_bind ?_ fun _ => trivial
    rw [Store.updateById]
    split_ifs
    · trivial
    · exact Program.calls_bind (Program.calls_ofExcept _) fun _ => h.change m patch _
  | updateMany m f patch =>
    refine Program.calls_bind ?_ fun _ => trivial
    exact Program.calls_bind (Program.calls_ofExcept _) fun _ => h.change m patch _
  | deleteOne f =>
    refine Program.calls_bind ?_ fun _ => trivial
    exact Program.calls_bind (Program.calls_ofExcept _) fun _ => callsOf_change (h.delete _)
  | deleteById id =>
    refine Program.calls_bind ?_ fun _ => trivial
    rw [Store.deleteById]
    split_ifs
    · trivial
    · exact Program.calls_bind (Program.calls_ofExcept _) fun _ => callsOf_change (h.delete _)
  | deleteMany f =>
    refine Program.calls_bind ?_ fun _ => trivial
    exact Program.calls_bind (Program.calls_ofExcept _) fun _ => callsOf_change (h.delete _)
  | deleteAll => exact Program.calls_bind (callsOf_change (h.delete _)) fun _ => trivial

end Covers

theorem covers_aboutRows (s : Schema) : Covers s Statement.AboutRows :=
  ⟨fun _ => trivial, fun _ _ _ _ => trivial, fun _ _ _ _ _ => trivial, fun _ => trivial⟩

/-- The calls of the program run statements on rows. -/
abbrev OnRows {α : Type} (p : Program α) : Prop := CallsOf Statement.OnRows p

theorem NoBlobs.covers (h : NoBlobs s) : Covers s Statement.OnRows where
  select _ := trivial
  insert _ _ _ hrows row hrow := by
    obtain ⟨columns, record, hsub, hrecord⟩ := hrows row hrow
    exact h.plain_rowOf hsub hrecord
  update _ _ _ _ hset := h.plain_assignments hset
  delete _ := trivial

theorem onRows_change {st : Statement} (h : st.OnRows) : OnRows (change st) := callsOf_change h

theorem onRows_writeMany (h : NoBlobs s) (m : Moment) (replace : Bool) (records : List Record) :
    OnRows (writeMany s m replace records) := h.covers.writeMany m replace records

/-- **An edit runs statements on rows**, and writes plain values. -/
theorem Edit.calls (h : NoBlobs s) (e : Edit) : OnRows (e.program s) := h.covers.edit e

/-! ## Runs of edits -/

/-- A run of edits of tables of schemas leads from one storage to the other; those that fail count
as well. -/
def Edited (schemas : List Schema) : Storage → Storage → Prop :=
  Relation.ReflTransGen fun st st' =>
    ∃ s ∈ schemas, ∃ e : Edit, st' = ((e.program s).run Storage.engine st).2

/-- **Whatever is edited, a table keeps its columns and indexes**, and stays sound. -/
theorem Edited.exists_table {schemas : List Schema} {st st' : Storage}
    (hedited : Edited schemas st st') {name : String} {t : Table} (ht : st.table? name = some t) :
    ∃ t', st'.table? name = some t' ∧ t.Alike t' ∧ (t.Sound → t'.Sound) := by
  have hstep (c : Call) (x : Storage) := @Storage.reply_preserves Statement.AboutRows
    (fun db => ∃ t', db.table? name = some t' ∧ t.Alike t' ∧ (t.Sound → t'.Sound))
    (by
      rintro st db db' o hst ⟨u, hu, halike, hsound⟩ hrun
      obtain ⟨u', hu', hleaves⟩ := Database.table?_of_aboutRows hst hrun hu
      exact ⟨u', hu', halike.trans hleaves.alike, fun h => hleaves.sound (hsound h)⟩) c x
  have hholds : st'.Holds fun db =>
      ∃ t', db.table? name = some t' ∧ t.Alike t' ∧ (t.Sound → t'.Sound) := by
    induction hedited with
    | refl =>
      obtain ⟨c, hc, ht⟩ := Storage.table?_eq_some ht
      exact ⟨c, hc, t, ht, Table.Alike.refl t, id⟩
    | tail _ hedit ih =>
      obtain ⟨s, -, e, rfl⟩ := hedit
      exact Program.run_preserves hstep ((covers_aboutRows s).edit e) ih
  obtain ⟨c, hc, t', ht', hkept⟩ := hholds
  exact ⟨t', (Storage.table?_of_opened hc name).trans ht', hkept⟩

/-- Programs of statements on rows keep a storage that serves schemas so. -/
theorem OnRows.serves {α : Type} {p : Program α} (hp : OnRows p) {schemas : List Schema}
    {st : Storage} (h : st.Holds (Database.Serves schemas)) :
    (p.run Storage.engine st).2.Holds (Database.Serves schemas) :=
  Program.run_preserves (Storage.reply_preserves fun _ _ _ _ hst hserves hrun =>
    hserves.run? hst hrun) hp h

/-- **Whatever is edited, a storage goes on serving its schemas.** -/
theorem Edited.serves {schemas : List Schema} (hblobs : ∀ s ∈ schemas, NoBlobs s)
    {st st' : Storage} (hedited : Edited schemas st st')
    (h : st.Holds (Database.Serves schemas)) : st'.Holds (Database.Serves schemas) := by
  induction hedited with
  | refl => exact h
  | tail _ hstep ih =>
    obtain ⟨s, hs, e, rfl⟩ := hstep
    exact OnRows.serves (e.calls (hblobs s hs)) ih

end Store
end Daybook
