import Daybook.Proofs.Sql.Batch
import Daybook.Sql.Database

/-!
# Tables of a database

A statement on rows puts a table in place of the one that it is about; all other tables stay
(`table?_replaceTable_of_ne`).

* `table?_replaceTable`: the table that was put in place;
* `insert?_eq_ok`, `update?_eq_ok_iff`, `delete?_eq_ok_iff`, `select?_eq_ok_iff`: what comes of
  statements on rows.
-/

namespace Daybook.Sql

/-- The statement changes rows or tables, and may stand in a transaction. -/
def Statement.IsChange : Statement → Prop
  | .select _ | .vacuum | .journalMode => False
  | _ => True

namespace Database

variable {db db' : Database}

/-! ## Tables by name -/

theorem sameName_of_table? {name : String} {t : Table} (h : db.table? name = some t) :
    sameName t.name name := by
  have := List.find?_some h
  exact this

theorem mem_of_table? {name : String} {t : Table} (h : db.table? name = some t) : t ∈ db.tables :=
  List.mem_of_find?_eq_some h

theorem table?_congr {a b : String} (h : sameName a b) : db.table? a = db.table? b := by
  rw [sameName_iff] at h
  rw [table?, table?]
  congr 1
  funext t
  rw [sameName, sameName, h]

/-- Other tables stay when one is replaced. -/
theorem table?_replaceTable_of_ne {name : String} {t : Table} (h : ¬ sameName t.name name) :
    (db.replaceTable t).table? name = db.table? name := by
  rw [Bool.not_eq_true] at h
  simp only [table?, replaceTable]
  induction db.tables with
  | nil => rfl
  | cons u rest ih =>
    rw [List.map_cons]
    by_cases hu : sameName u.name t.name
    · have hun : sameName u.name name = false := by
        rw [← Bool.not_eq_true, sameName_iff] at h ⊢
        rwa [(sameName_iff _ _).1 hu]
      simp only [if_pos hu, List.find?_cons, h, hun, ih]
    · simp only [if_neg hu, List.find?_cons, ih]

/-- A table that was put in place of one of its name is found. -/
theorem table?_replaceTable {name : String} {t t' : Table} (h : db.table? name = some t)
    (hname : t'.name = t.name) : (db.replaceTable t').table? name = some t' := by
  have hname' : sameName t'.name name := hname ▸ sameName_of_table? h
  simp only [table?, replaceTable] at h ⊢
  generalize db.tables = tables at h ⊢
  induction tables with
  | nil => exact nomatch h
  | cons u rest ih =>
    rw [List.map_cons]
    by_cases hu : sameName u.name t'.name
    · simp only [if_pos hu, List.find?_cons, hname']
    · have hun : sameName u.name name = false := by
        rw [← Bool.not_eq_true]
        rw [sameName_iff] at hu hname' ⊢
        rwa [← hname']
      simp only [List.find?_cons, hun] at h
      simp only [if_neg hu, List.find?_cons, hun]
      exact ih h

/-- The last table, of a name of its own, is replaced. -/
theorem replaceTable_append {tables : List Table} {t t' : Table} (hname : t'.name = t.name)
    (hne : ∀ u ∈ tables, ¬ sameName u.name t.name) :
    (⟨tables ++ [t]⟩ : Database).replaceTable t' = ⟨tables ++ [t']⟩ := by
  have hbefore : (tables.map fun u => if sameName u.name t'.name then t' else u) = tables := by
    refine (List.map_congr_left fun u hu => ?_).trans (List.map_id tables)
    rw [hname, if_neg (hne u hu), id]
  have hself : sameName t.name t'.name := by
    rw [hname, sameName_iff]
  simp [replaceTable, hbefore, hself]

theorem table?_append_of_ne {tables : List Table} {t : Table} {name : String}
    (hne : ¬ sameName t.name name) :
    (⟨tables ++ [t]⟩ : Database).table? name = (⟨tables⟩ : Database).table? name := by
  simp [table?, List.find?_append, hne]

theorem table?_append {tables : List Table} {t : Table} {name : String} (hsame : sameName t.name name)
    (hnone : (⟨tables⟩ : Database).table? name = none) :
    (⟨tables ++ [t]⟩ : Database).table? name = some t := by
  dsimp only [table?] at hnone ⊢
  rw [List.find?_append, hnone, Option.none_or, List.find?_singleton, if_pos hsame]

theorem table?_eq_none_iff {name : String} :
    db.table? name = none ↔ ∀ u ∈ db.tables, ¬ sameName u.name name := by
  rw [table?, List.find?_eq_none]

/-! ## Statements on rows -/

theorem target?_eq_ok_iff {name : String} {t : Table} :
    db.target? name = .ok t ↔ isCatalogName name = false ∧ db.table? name = some t := by
  rw [target?, source?]
  cases isCatalogName name with
  | true => exact iff_of_false (fun h => nomatch h) fun h => nomatch h.1
  | false =>
    rw [if_neg Bool.false_ne_true, if_neg Bool.false_ne_true, eq_self, true_and]
    cases db.table? name with
    | none => exact iff_of_false (fun h => nomatch h) fun h => nomatch h
    | some u => rw [Except.ok.injEq, Option.some.injEq]

theorem target?_eq_ok {name : String} {t : Table} (h : db.target? name = .ok t) :
    db.table? name = some t := (target?_eq_ok_iff.1 h).2

/-- The positions that the columns of an insertion name. -/
def positionsOf (t : Table) (columns : List String) : List (Option Nat) :=
  if columns.isEmpty then (List.range t.columns.length).map some else columns.map t.position?

/-- **What comes of an insertion.** -/
theorem insert?_eq_ok {replace : Bool} {table : String} {columns : List String}
    {rows : List (List Operand)} {n : Nat} {last : Option Int}
    (h : db.insert? replace table columns rows = .ok (db', n, last)) :
    ∃ t t' k, db.table? table = some t ∧
      Table.insertRows? replace (positionsOf t columns) t 0 (rows.map (·.map Operand.value)) =
        .ok (t', k) ∧
      db' = db.replaceTable t' ∧ last = some k ∧ isCatalogName table = false := by
  rw [insert?] at h
  obtain ⟨t, ht, h⟩ := Result.bind_eq_ok_iff.1 h
  obtain ⟨hcatalog, htable⟩ := target?_eq_ok_iff.1 ht
  dsimp only at h
  split at h
  · exact nomatch h
  · rw [← positionsOf] at h
    split at h
    · exact nomatch h
    · obtain ⟨⟨t', k⟩, hrows, h⟩ := Result.bind_eq_ok_iff.1 h
      obtain ⟨hdb, hrest⟩ := Prod.mk.inj (Except.ok.inj h)
      exact ⟨t, t', k, htable, hrows, hdb.symm, (Prod.mk.inj hrest).2.symm, hcatalog⟩

/-- **What it takes to change rows, and what comes of it.** -/
theorem update?_eq_ok_iff {table : String} {assignments : List Assignment} {target : Target}
    {n : Nat} : db.update? table assignments target = .ok (db', n) ↔
      ∃ t rows t', isCatalogName table = false ∧ db.table? table = some t ∧
        assignmentFault? t assignments = none ∧
        t.unknownName? (Condition.fieldsList target.conditions) = none ∧
        targetRows? t target = .ok rows ∧ Table.updateRows? assignments t rows = .ok t' ∧
        db' = db.replaceTable t' ∧ n = rows.length := by
  rw [update?, Result.bind_eq_ok_iff]
  constructor
  · rintro ⟨t, ht, h⟩
    obtain ⟨hcatalog, ht⟩ := target?_eq_ok_iff.1 ht
    refine ⟨t, ?_⟩
    cases hassigned : assignmentFault? t assignments with
    | some fault =>
      rw [hassigned] at h
      cases h
    | none =>
      cases hknown : t.unknownName? (Condition.fieldsList target.conditions) with
      | some fault =>
        rw [hassigned, hknown] at h
        cases h
      | none =>
        rw [hassigned, hknown] at h
        obtain ⟨rows, hrows, h⟩ := Result.bind_eq_ok_iff.1 h
        obtain ⟨t', ht', h⟩ := Result.bind_eq_ok_iff.1 h
        obtain ⟨hdb, hn⟩ := Prod.mk.inj (Except.ok.inj h)
        exact ⟨rows, t', hcatalog, ht, rfl, rfl, hrows, ht', hdb.symm, hn.symm⟩
  · rintro ⟨t, rows, t', hcatalog, ht, hassigned, hknown, hrows, ht', rfl, rfl⟩
    refine ⟨t, target?_eq_ok_iff.2 ⟨hcatalog, ht⟩, ?_⟩
    rw [hassigned, hknown]
    exact Result.bind_eq_ok_iff.2 ⟨rows, hrows, Result.bind_eq_ok_iff.2 ⟨t', ht', rfl⟩⟩

theorem update?_eq_ok {table : String} {assignments : List Assignment} {target : Target} {n : Nat}
    (h : db.update? table assignments target = .ok (db', n)) :
    ∃ t rows t', db.table? table = some t ∧ targetRows? t target = .ok rows ∧
      Table.updateRows? assignments t rows = .ok t' ∧ db' = db.replaceTable t' ∧
      n = rows.length := by
  obtain ⟨t, rows, t', -, ht, -, -, hrows, ht', hdb, hn⟩ := update?_eq_ok_iff.1 h
  exact ⟨t, rows, t', ht, hrows, ht', hdb, hn⟩

/-- **What it takes to remove rows, and what comes of it.** -/
theorem delete?_eq_ok_iff {table : String} {target : Target} {n : Nat} :
    db.delete? table target = .ok (db', n) ↔
      ∃ t rows, isCatalogName table = false ∧ db.table? table = some t ∧
        t.unknownName? (Condition.fieldsList target.conditions) = none ∧
        targetRows? t target = .ok rows ∧
        db' = db.replaceTable (t.deleteRows rows) ∧ n = rows.length := by
  rw [delete?, Result.bind_eq_ok_iff]
  constructor
  · rintro ⟨t, ht, h⟩
    obtain ⟨hcatalog, ht⟩ := target?_eq_ok_iff.1 ht
    refine ⟨t, ?_⟩
    cases hknown : t.unknownName? (Condition.fieldsList target.conditions) with
    | some fault =>
      rw [hknown] at h
      cases h
    | none =>
      rw [hknown] at h
      obtain ⟨rows, hrows, h⟩ := Result.bind_eq_ok_iff.1 h
      obtain ⟨hdb, hn⟩ := Prod.mk.inj (Except.ok.inj h)
      exact ⟨rows, hcatalog, ht, rfl, hrows, hdb.symm, hn.symm⟩
  · rintro ⟨t, rows, hcatalog, ht, hknown, hrows, rfl, rfl⟩
    refine ⟨t, target?_eq_ok_iff.2 ⟨hcatalog, ht⟩, ?_⟩
    rw [hknown]
    exact Result.bind_eq_ok_iff.2 ⟨rows, hrows, rfl⟩

theorem delete?_eq_ok {table : String} {target : Target} {n : Nat}
    (h : db.delete? table target = .ok (db', n)) :
    ∃ t rows, db.table? table = some t ∧ targetRows? t target = .ok rows ∧
      db' = db.replaceTable (t.deleteRows rows) ∧ n = rows.length := by
  obtain ⟨t, rows, -, ht, -, hrows, hdb, hn⟩ := delete?_eq_ok_iff.1 h
  exact ⟨t, rows, ht, hrows, hdb, hn⟩

theorem source?_eq_ok_iff {name : String} {t : Table} (hcatalog : isCatalogName name = false) :
    db.source? name = .ok t ↔ db.table? name = some t := by
  have htarget := @target?_eq_ok_iff db name t
  rwa [target?, hcatalog, if_neg Bool.false_ne_true, eq_self, true_and] at htarget

theorem pick?_unsorted (t : Table) (conditions : List Condition) :
    pick? t conditions (.page [] none none) =
      (t.scan? conditions none).map fun rows => metOrder t conditions [] rows := by
  rw [pick?, if_neg (Option.some_ne_none _).symm, if_neg (by decide)]
  simp only [Option.map_none, ite_self]
  cases t.scan? conditions none <;> rfl

/-- **What it takes to find rows, and what comes of it**: their records, in the order in which they
are met. -/
theorem select?_eq_ok_iff_source {table : String} {conditions : List Condition}
    {records : List Record} :
    db.select? ⟨.all, some table, conditions, .page [] none none⟩ = .ok records ↔
      ∃ t rows, db.source? table = .ok t ∧
        t.unknownName? (Condition.fieldsList conditions) = none ∧
        t.scan? conditions none = .ok rows ∧
        records = (metOrder t conditions [] rows).map t.record := by
  rw [select?, Result.bind_eq_ok_iff]
  constructor
  · rintro ⟨t, ht, h⟩
    simp only [Output.fields, sortFields, List.map_nil, List.nil_append, List.append_nil] at h
    refine ⟨t, ?_⟩
    cases hknown : t.unknownName? (Condition.fieldsList conditions) with
    | some fault =>
      rw [hknown] at h
      cases h
    | none =>
      rw [hknown] at h
      obtain ⟨picked, hpicked, h⟩ := Result.bind_eq_ok_iff.1 h
      rw [pick?_unsorted] at hpicked
      obtain ⟨rows, hrows, rfl⟩ := Result.map_eq_ok_iff.1 hpicked
      exact ⟨rows, ht, rfl, hrows, (Except.ok.inj h).symm⟩
  · rintro ⟨t, rows, ht, hknown, hrows, rfl⟩
    refine ⟨t, ht, ?_⟩
    simp only [Output.fields, sortFields, List.map_nil, List.nil_append, List.append_nil, hknown]
    refine Result.bind_eq_ok_iff.2 ⟨_, ?_, rfl⟩
    rw [pick?_unsorted, hrows]
    rfl

/-- What it takes to find rows of a table that is not that of tables. -/
theorem select?_eq_ok_iff {table : String} {conditions : List Condition} {records : List Record}
    (hcatalog : isCatalogName table = false) :
    db.select? ⟨.all, some table, conditions, .page [] none none⟩ = .ok records ↔
      ∃ t rows, db.table? table = some t ∧
        t.unknownName? (Condition.fieldsList conditions) = none ∧
        t.scan? conditions none = .ok rows ∧
        records = (metOrder t conditions [] rows).map t.record := by
  simp only [select?_eq_ok_iff_source, source?_eq_ok_iff hcatalog]

/-! ## Several statements -/

theorem run?_eq_ok_iff {s : Statement} {o : Outcome} :
    db.run? s = .ok (db', o) ↔ s.clash? = none ∧ db.perform? s = .ok (db', o) := by
  rw [run?]
  split
  · rename_i hclash
    rw [hclash]
    exact iff_of_false (fun h => nomatch h) fun h => nomatch h.1
  · rename_i hclash
    rw [hclash, eq_self, true_and]

theorem run?_eq_ok {s : Statement} {o : Outcome} (h : db.run? s = .ok (db', o)) :
    s.clash? = none ∧ db.perform? s = .ok (db', o) := run?_eq_ok_iff.1 h

theorem runAll?_cons_eq_ok_iff {s : Statement} {rest : List Statement} {os : List Outcome} :
    db.runAll? (s :: rest) = .ok (db', os) ↔ ∃ d o os', db.run? s = .ok (d, o) ∧
      d.runAll? rest = .ok (db', os') ∧ os = o :: os' := by
  rw [runAll?, Result.bind_eq_ok_iff]
  constructor
  · rintro ⟨⟨d, o⟩, hs, h⟩
    obtain ⟨⟨d', os'⟩, hrest, h⟩ := Result.bind_eq_ok_iff.1 h
    obtain ⟨rfl, rfl⟩ := Prod.mk.inj (Except.ok.inj h)
    exact ⟨d, o, os', hs, hrest, rfl⟩
  · rintro ⟨d, o, os', hs, hrest, rfl⟩
    exact ⟨(d, o), hs, Result.bind_eq_ok_iff.2 ⟨_, hrest, rfl⟩⟩

theorem runAll?_cons {s : Statement} {rest : List Statement} {os : List Outcome}
    (h : db.runAll? (s :: rest) = .ok (db', os)) :
    ∃ d o os', db.run? s = .ok (d, o) ∧ d.runAll? rest = .ok (db', os') := by
  obtain ⟨d, o, os', hs, hrest, -⟩ := runAll?_cons_eq_ok_iff.1 h
  exact ⟨d, o, os', hs, hrest⟩

/-- **Several insertions in a table are one insertion of all their rows.** -/
theorem runAll?_inserts {t : Table} {replace : Bool} {table : String}
    {columns : List String} (hcolumns : columns ≠ []) (htable : db.table? table = some t)
    {parts : List (List (List Operand))} {os : List Outcome}
    (h : db.runAll? (parts.map fun part => .insert replace table columns part) = .ok (db', os)) :
    ∃ t' k, Table.insertRows? replace (columns.map t.position?) t 0
        (parts.flatten.map (·.map Operand.value)) = .ok (t', k) ∧
      db'.table? table = some t' ∧
      ∀ name, ¬ sameName table name → db'.table? name = db.table? name := by
  induction parts generalizing db t os with
  | nil =>
    rw [List.map_nil, runAll?, Except.ok.injEq, Prod.mk.injEq] at h
    rw [← h.1]
    exact ⟨t, 0, rfl, htable, fun _ _ => rfl⟩
  | cons part rest ih =>
    rw [List.map_cons] at h
    obtain ⟨d, o, os', hs, hrest⟩ := runAll?_cons h
    obtain ⟨⟨d', n, last⟩, hinsert, heq⟩ := Result.map_eq_ok_iff.1 (run?_eq_ok hs).2
    obtain ⟨rfl, -⟩ := Prod.mk.inj heq
    obtain ⟨u, t₁, k, hu, hrows, rfl, -⟩ := insert?_eq_ok hinsert
    obtain rfl : t = u := Option.some.inj (htable.symm.trans hu)
    have hpositions : positionsOf t columns = columns.map t.position? := by
      rw [positionsOf, if_neg (by simpa using hcolumns)]
    rw [hpositions] at hrows
    obtain ⟨us, rfl⟩ := Table.alike_insertRows? hrows
    obtain ⟨t', k', hrows', htable', hothers⟩ :=
      ih (t := { t with rows := us }) (table?_replaceTable htable rfl) hrest
    obtain ⟨k'', hrows''⟩ := Table.insertRows?_last hrows' k
    refine ⟨t', k'', ?_, htable', fun name hname => ?_⟩
    · rw [List.flatten_cons, List.map_append, Table.insertRows?_append]
      exact Result.bind_eq_ok_iff.2 ⟨_, hrows, hrows''⟩
    · rw [hothers name hname]
      refine table?_replaceTable_of_ne fun h => hname ?_
      have hsame := sameName_of_table? htable
      rw [sameName_iff] at h hsame ⊢
      exact hsame.symm.trans h

/-! ## Insertions that succeed -/

theorem target?_eq {name : String} {t : Table} (hcatalog : isCatalogName name = false)
    (h : db.table? name = some t) : db.target? name = .ok t := by
  rw [target?, source?, hcatalog, if_neg Bool.false_ne_true, if_neg Bool.false_ne_true, h]

theorem insert?_of_insertRows? {replace : Bool} {table : String} {columns : List String}
    {rows : List (List Operand)} {t t' : Table} {k : Int} (hcatalog : isCatalogName table = false)
    (htable : db.table? table = some t) (hcolumns : columns ≠ [])
    (hpositions : ∀ c ∈ columns, (t.position? c).isSome)
    (hwidth : ∀ row ∈ rows, row.length = columns.length)
    (h : Table.insertRows? replace (columns.map t.position?) t 0
      (rows.map (·.map Operand.value)) = .ok (t', k)) :
    db.insert? replace table columns rows = .ok (db.replaceTable t', rows.length, some k) := by
  have hknown : ∀ q ∈ columns.zip (columns.map t.position?), q.2.isNone = false := by
    intro q hq
    obtain ⟨c, hc, hp⟩ := List.mem_map.1 (List.of_mem_zip hq).2
    rw [← hp, ← Option.not_isSome, hpositions c hc]
    rfl
  have hempty : columns.isEmpty = false := by simpa using hcolumns
  have hlengths : rows.find? (fun r => r.length ≠ (columns.map t.position?).length) = none := by
    rw [List.find?_eq_none]
    intro row hrow
    simp [hwidth row hrow]
  rw [insert?, target?_eq hcatalog htable]
  refine Result.bind_eq_ok_iff.2 ⟨t, rfl, ?_⟩
  dsimp only
  split
  · rename_i q hfound
    have hnone := List.find?_some hfound
    rw [hknown _ (List.mem_of_find?_eq_some hfound)] at hnone
    cases hnone
  · simp only [hempty, Bool.false_eq_true, if_false, hlengths, h]
    rfl

/-- Several insertions in a table succeed if one insertion of all their rows does. -/
theorem runAll?_of_insertRows? {replace : Bool} {table : String} {columns : List String}
    {parts : List (List (List Operand))} {t t' : Table} {last k : Int}
    (hcatalog : isCatalogName table = false) (htable : db.table? table = some t)
    (hcolumns : columns ≠ []) (hpositions : ∀ c ∈ columns, (t.position? c).isSome)
    (hwidth : ∀ part ∈ parts, ∀ row ∈ part, row.length = columns.length)
    (hclash : ∀ part ∈ parts, (Statement.insert replace table columns part).clash? = none)
    (h : Table.insertRows? replace (columns.map t.position?) t last
      (parts.flatten.map (·.map Operand.value)) = .ok (t', k)) :
    ∃ db' os, db.runAll? (parts.map fun part => .insert replace table columns part) =
      .ok (db', os) := by
  induction parts generalizing db t last with
  | nil => exact ⟨db, [], rfl⟩
  | cons part rest ih =>
    rw [List.flatten_cons, List.map_append, Table.insertRows?_append] at h
    obtain ⟨⟨u, n⟩, hpart, hrest⟩ := Result.bind_eq_ok_iff.1 h
    obtain ⟨n', hpart'⟩ := Table.insertRows?_last hpart 0
    obtain ⟨us, rfl⟩ := Table.alike_insertRows? hpart
    have hinsert := insert?_of_insertRows? hcatalog htable hcolumns hpositions
      (hwidth part List.mem_cons_self) hpart'
    obtain ⟨db', os, hrun⟩ := ih (t := { t with rows := us }) (table?_replaceTable htable rfl)
      hpositions
      (fun p hp => hwidth p (List.mem_cons_of_mem _ hp))
      (fun p hp => hclash p (List.mem_cons_of_mem _ hp)) hrest
    have hone : db.run? (.insert replace table columns part) =
        .ok (db.replaceTable { t with rows := us }, .changed part.length (some n')) := by
      rw [run?, hclash part List.mem_cons_self]
      exact Result.map_eq_ok_iff.2 ⟨_, hinsert, rfl⟩
    exact ⟨db', _, Result.bind_eq_ok_iff.2 ⟨_, hone, Result.bind_eq_ok_iff.2 ⟨_, hrun, rfl⟩⟩⟩

end Database

/-- A change answers no rows. -/
theorem Statement.IsChange.ne_rows {db db' : Database} {s : Statement} {o : Outcome}
    (hs : s.IsChange) (h : db.run? s = .ok (db', o)) (records : List Record) :
    o ≠ .rows records := by
  have hperform := (Database.run?_eq_ok h).2
  cases s with
  | select query => exact absurd hs not_false
  | vacuum => exact absurd hs not_false
  | journalMode => exact absurd hs not_false
  | _ =>
    obtain ⟨_, -, heq⟩ := Result.map_eq_ok_iff.1 hperform
    rintro rfl
    exact nomatch (Prod.mk.inj heq).2

end Daybook.Sql
