import Daybook.Migration.Apply
import Daybook.Proofs.Store.Shape
import Daybook.Schema.Models

/-!
# The texts of operations

An operation of a store sends texts to its engine, and values beside them. Two calls of an operation
whose arguments differ in values alone send the same texts, and in each there is a mark for each
value (**`texts_of_sameShape`**): no value is ever part of a text. A call that an engine refuses is
the last, so that the texts may end early (`not_forall_sentTexts_eq`).

* `IsMarked`, `calls_operation`: the texts of an operation have a mark for each value.
-/

namespace Daybook.Store

open Sql Program

variable {s : Schema}

/-! ## Marks -/

/-- The text of each request of the call has a mark for each value. -/
def IsMarked (c : Call) : Prop := ∀ r ∈ c.requests, marks r.sql = r.params.length

theorem isMarked_of_statement {st : Statement} (h : st.IsMarked) :
    ∀ r ∈ [Request.statement st], marks r.sql = r.params.length := by
  intro r hr
  rw [List.mem_singleton.1 hr]
  exact h

/-- The key that an operation needs is a declared column. -/
theorem mem_requiredKey {c : Column} (h : s.requiredKey = .ok c) : c ∈ s.columns := by
  rw [Schema.requiredKey] at h
  cases hkey : s.key? with
  | none =>
    rw [hkey] at h
    cases h
  | some key =>
    rw [hkey] at h
    rw [← Except.ok.inj h]
    exact (Schema.mem_key? hkey).1

section Marks

variable (hs : s.KeepsRules)
include hs

theorem marks_table : marks s.table = 0 := marks_of_isIdentifier hs.table

theorem marks_column {c : Column} (hc : c ∈ s.columns) : marks c.name = 0 :=
  marks_of_isIdentifier (hs.names c hc)

theorem calls_query {output : Output} (houtput : output = .all ∨ output = .count "count")
    {cs : List Condition} (h : ∀ c ∈ cs, c.IsMarked) {tail : Tail}
    (htail : ∀ order limit offset, tail = .page order limit offset → ∀ p ∈ order, marks p.1 = 0) :
    (query ⟨output, some s.table, cs, tail⟩).Calls IsMarked :=
  calls_ask (isMarked_of_statement
    (Statement.isMarked_select houtput (marks_table hs) h htail))

theorem calls_unsorted {output : Output} (houtput : output = .all ∨ output = .count "count")
    {cs : List Condition} (h : ∀ c ∈ cs, c.IsMarked) :
    (query ⟨output, some s.table, cs, .page [] none none⟩).Calls IsMarked :=
  calls_query hs houtput h fun order limit offset htail p hp => by
    rw [← (Tail.page.inj htail).1] at hp
    exact absurd hp List.not_mem_nil

theorem isMarked_keyCondition {c : Column} (hc : c ∈ s.columns) (x : Cell) :
    ∀ d ∈ [Condition.compare c.name .eq (.bound x)], d.IsMarked := by
  intro d hd
  rw [List.mem_singleton.1 hd]
  exact Condition.isMarked_compare (marks_column hs hc) .eq x

theorem calls_findByKey (key : Json) : (findByKey s key).Calls IsMarked :=
  calls_ofExcept_bind fun _ hc => calls_ofExcept_bind fun x _ =>
    calls_bind (calls_unsorted hs (.inl rfl) (isMarked_keyCondition hs (mem_requiredKey hc) x))
      fun _ => trivial

theorem isMarked_insertion {columns : List Column} (hcolumns : ∀ c ∈ columns, c ∈ s.columns)
    (replace : Bool) {rows : List (List Operand)} (hrows : ∀ row ∈ rows, AllBound row) :
    (Statement.insert replace s.table (columns.map Column.name) rows).IsMarked := by
  refine Statement.isMarked_insert replace (marks_table hs) (fun name hname => ?_) hrows
  obtain ⟨c, hc, rfl⟩ := List.mem_map.1 hname
  exact marks_column hs (hcolumns c hc)

theorem calls_insertOne (m : Moment) (record : Record) :
    (insertOne s m record).Calls IsMarked := by
  rw [insertOne]
  split_ifs
  · trivial
  · dsimp only
    split_ifs
    · trivial
    · refine calls_ofExcept_bind fun row hrow => calls_bind (calls_ask ?_) fun number => ?_
      · refine isMarked_of_statement (isMarked_insertion hs subset_presentColumns false ?_)
        intro row' hrow'
        rw [List.mem_singleton.1 hrow']
        exact allBound_rowOf hrow
      · cases s.key? with
        | none => trivial
        | some c => exact calls_bind (calls_findByKey hs _) fun _ => trivial

theorem calls_writeMany (m : Moment) (replace : Bool) (records : List Record) :
    (writeMany s m replace records).Calls IsMarked := by
  rw [writeMany]
  split_ifs
  · trivial
  · refine calls_ofExcept_bind fun sts hsts => calls_bind (calls_ask ?_) fun _ => trivial
    intro r hr
    obtain ⟨st, hst, rfl⟩ := List.mem_map.1 hr
    obtain ⟨-, rows, -, rfl⟩ := writeStatements_eq_ok_iff.1 hsts
    obtain ⟨part, -, rfl⟩ := List.mem_map.1 hst
    refine isMarked_insertion hs subset_presentColumns replace fun row hrow => ?_
    obtain ⟨values, -, rfl⟩ := List.mem_map.1 hrow
    exact allBound_map values

theorem assignmentsMarked {m : Moment} {patch : Record} {set : List Assignment}
    (h : assignments s m patch = .ok set) : Statement.AssignmentsMarked set := by
  intro a ha
  obtain ⟨c, hc, hassigns⟩ := (mem_assignments_iff h).1 ha
  have hname := marks_column hs hc
  cases hassigns with
  | given => exact Statement.isMarked_set hname _
  | time => exact Statement.isMarked_set hname _
  | count kept =>
    rw [kept]
    decide +kernel

theorem calls_update (m : Moment) (patch : Record) {target : Target}
    (h : ∀ c ∈ target.conditions, c.IsMarked) :
    ((ofExcept (assignments s m patch)).bind fun set =>
      change (.update s.table set target)).Calls IsMarked :=
  calls_ofExcept_bind fun _ hset => calls_ask (isMarked_of_statement
    (Statement.isMarked_update (marks_table hs) (assignmentsMarked hs hset) h))

theorem calls_delete {target : Target} (h : ∀ c ∈ target.conditions, c.IsMarked) :
    (change (.delete s.table target)).Calls IsMarked :=
  calls_ask (isMarked_of_statement (Statement.isMarked_delete (marks_table hs) h))

theorem calls_edit (e : Edit) : (e.program s).Calls IsMarked := by
  have hconditions {f : Filter} {cs : List Condition} (h : requiredConditions f = .ok cs) :
      ∀ c ∈ cs, c.IsMarked := Filter.isMarked (requiredConditions_eq_ok.1 h).2
  have hid {c : Column} (h : s.requiredKey = .ok c) (id : String) :
      ∀ d ∈ [idCondition c id], d.IsMarked := isMarked_keyCondition hs (mem_requiredKey h) _
  cases e with
  | insertOne m record => exact calls_bind (calls_insertOne hs m record) fun _ => trivial
  | insertMany m records => exact calls_bind (calls_writeMany hs m false records) fun _ => trivial
  | upsertMany m records => exact calls_bind (calls_writeMany hs m true records) fun _ => trivial
  | updateOne m f patch =>
    refine calls_bind (calls_ofExcept_bind fun cs hcs => ?_) fun _ => trivial
    exact calls_update hs m patch (hconditions hcs)
  | updateById m id patch =>
    refine calls_bind ?_ fun _ => trivial
    rw [Store.updateById]
    split_ifs
    · trivial
    · exact calls_ofExcept_bind fun c hc => calls_update hs m patch (hid hc id)
  | updateMany m f patch =>
    refine calls_bind (calls_ofExcept_bind fun cs hcs => ?_) fun _ => trivial
    exact calls_update hs m patch (hconditions hcs)
  | deleteOne f =>
    refine calls_bind (calls_ofExcept_bind fun cs hcs => ?_) fun _ => trivial
    exact calls_delete hs (hconditions hcs)
  | deleteById id =>
    refine calls_bind ?_ fun _ => trivial
    rw [Store.deleteById]
    split_ifs
    · trivial
    · exact calls_ofExcept_bind fun c hc => calls_delete hs (hid hc id)
  | deleteMany f =>
    refine calls_bind (calls_ofExcept_bind fun cs hcs => ?_) fun _ => trivial
    exact calls_delete hs (hconditions hcs)
  | deleteAll =>
    exact calls_bind (calls_delete hs fun c hc => absurd hc List.not_mem_nil) fun _ => trivial

theorem marks_of_sortFault? {sort : List (String × Direction)} (h : sortFault? s sort = none) :
    ∀ p ∈ sort, marks p.1 = 0 := by
  rw [sortFault?, Option.map_eq_none_iff, List.find?_eq_none] at h
  intro p hp
  have hcolumn : s.hasColumn p.1 = true := by simpa using h p hp
  obtain ⟨c, hc⟩ := Option.isSome_iff_exists.1 hcolumn
  have hname : c.name = p.1 := by simpa using List.find?_some hc
  rw [← hname]
  exact marks_column hs (List.mem_of_find?_eq_some hc)

/-- **Every text that an operation sends has a mark for each value.** -/
theorem calls_operation (o : Operation) : (o.program s).Calls IsMarked := by
  cases o with
  | find f =>
    refine calls_bind (calls_ofExcept_bind fun cs hcs => ?_) fun _ => trivial
    exact calls_unsorted hs (.inl rfl) (Filter.isMarked hcs)
  | findOne f =>
    refine calls_bind (calls_ofExcept_bind fun cs hcs => calls_bind ?_ fun _ => trivial)
      fun _ => trivial
    exact calls_query hs (.inl rfl) (Filter.isMarked hcs) fun _ _ _ h => nomatch h
  | findPage f page =>
    refine calls_bind (calls_ofExcept_bind fun cs hcs => ?_) fun _ => trivial
    cases hsort : sortFault? s page.sort with
    | some e => trivial
    | none =>
      refine calls_query hs (.inl rfl) (Filter.isMarked hcs) fun order limit offset h => ?_
      rw [← (Tail.page.inj h).1]
      exact marks_of_sortFault? hs hsort
  | count f =>
    refine calls_bind (calls_ofExcept_bind fun cs hcs => calls_bind ?_ fun _ => trivial)
      fun _ => trivial
    exact calls_unsorted hs (.inr rfl) (Filter.isMarked hcs)
  | findById id =>
    refine calls_bind ?_ fun _ => trivial
    rw [findById]
    split_ifs
    · trivial
    · exact calls_findByKey hs _
  | edit e => exact calls_edit hs e

end Marks

/-! ## Texts -/

/-- **Values never reach a text.** Two calls of an operation on a table, whose arguments differ in
values alone, send the same texts if both call an engine that refuses no call; if an engine does,
one of the calls sends the first texts of the other. In each text there is a mark for each value
that goes with it. -/
theorem texts_of_sameShape (hs : s.fault? = none) {o o' : Operation} (h : o.SameShape s o')
    {σ τ : Type} (engine : Engine σ) (engine' : Engine τ) (st : σ) (st' : τ)
    (hsent : (o.program s).sent engine st ≠ []) (hsent' : (o'.program s).sent engine' st' ≠ []) :
    ((o.program s).Accepted engine st → (o'.program s).Accepted engine' st' →
      (o.program s).sentTexts engine st = (o'.program s).sentTexts engine' st') ∧
    ((o.program s).sentTexts engine st <+: (o'.program s).sentTexts engine' st' ∨
      (o'.program s).sentTexts engine' st' <+: (o.program s).sentTexts engine st) ∧
    ∀ r ∈ (o.program s).sent engine st ++ (o'.program s).sent engine' st',
      r.sql.toList.count '?' = r.params.length := by
  have htwins := Twins.of_paired h.paired hsent hsent'
  have hmarked := calls_operation (Schema.fault?_eq_none_iff.1 hs)
  refine ⟨htwins.sent_eq, htwins.sent_prefix st st', fun r hr => ?_⟩
  rcases List.mem_append.1 hr with hr | hr
  · obtain ⟨c, hc, hr⟩ := mem_sent (hmarked o) hr
    exact hc r hr
  · obtain ⟨c, hc, hr⟩ := mem_sent (hmarked o') hr
    exact hc r hr

/-- A table of notes, with no note in it. -/
def bareNotes : Storage :=
  ((Migration.migrate Schema.note).run Storage.engine { config := { path := "notes" } }).2

/-- A note of some content is added. -/
def addNote (content : String) : Operation :=
  .edit (.insertOne ⟨"2024-05-01T00:00:00Z", identifier⟩
    [("content", .str content), ("name", .str "n")])

/-- A content that looks like a statement. -/
def hostile : String := "'); DROP TABLE Note; --"

theorem accepted_addNote : ∀ content ∈ ["x", hostile],
    ((addNote content).program Schema.note).Accepted Storage.engine bareNotes := by
  decide +kernel

theorem sameShape_addNote (content content' : String) :
    (addNote content).SameShape Schema.note (addNote content') :=
  .edit (.insertOne ⟨rfl, fun c hc => by
    rw [← Option.some.inj hc]
    rfl⟩)

/-- A content that looks like a statement does not change what is sent. -/
theorem texts_of_sameShape_addNote :
    ((addNote "x").program Schema.note).sentTexts Storage.engine bareNotes =
        ((addNote hostile).program Schema.note).sentTexts Storage.engine bareNotes ∧
      ((addNote "x").program Schema.note).sentTexts Storage.engine bareNotes ≠ [] := by
  have hagree := texts_of_sameShape (by decide) (sameShape_addNote "x" hostile) Storage.engine
    Storage.engine bareNotes bareNotes (by decide +kernel) (by decide +kernel)
  exact ⟨hagree.1 (accepted_addNote "x" (by decide)) (accepted_addNote hostile (by decide)),
    by decide +kernel⟩

/-- A note is added under an identifier. -/
def keepNote (id : String) : Operation :=
  .edit (.insertOne ⟨"2024-05-01T00:00:00Z", identifier⟩ [("_id", .str id), ("name", .str "n")])

/-- A table of notes, with one note in it. -/
def oneNote : Storage := (((keepNote "a").program Schema.note).run Storage.engine bareNotes).2

/-- A note under an identifier that is taken is refused, and not read back. -/
theorem sentTexts_keepNote :
    ["a", "b"].map (fun id =>
      (((keepNote id).program Schema.note).sentTexts Storage.engine oneNote).length) = [1, 2] := by
  decide +kernel

/-- **What an engine refuses can be told from what is sent**: a call that is refused ends there. -/
theorem not_forall_sentTexts_eq :
    ¬ ∀ (s : Schema) (o o' : Operation) (st : Storage), s.fault? = none → o.SameShape s o' →
      (o.program s).sent Storage.engine st ≠ [] → (o'.program s).sent Storage.engine st ≠ [] →
      (o.program s).sentTexts Storage.engine st = (o'.program s).sentTexts Storage.engine st := by
  intro h
  have hshape : (keepNote "a").SameShape Schema.note (keepNote "b") :=
    .edit (.insertOne ⟨rfl, fun c hc => by
      rw [← Option.some.inj hc]
      rfl⟩)
  have heq := h Schema.note (keepNote "a") (keepNote "b") oneNote (by decide) hshape
    (by decide +kernel) (by decide +kernel)
  have hlengths := sentTexts_keepNote
  rw [List.map_cons, List.map_singleton, heq] at hlengths
  obtain ⟨hone, htwo⟩ := List.cons.inj hlengths
  rw [hone] at htwo
  cases htwo

end Daybook.Store
