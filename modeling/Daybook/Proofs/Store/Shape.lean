import Daybook.Proofs.Engine.Sent
import Daybook.Proofs.Filter.Shape
import Daybook.Proofs.KeyMap
import Daybook.Proofs.Store.Edit
import Daybook.Proofs.Store.Required

/-!
# The shape of an operation

Two operations of a store have the same shape if their arguments differ in values alone: the same
keys in records and patches, a primary key in the same records, filters of the same shape, the same
order and part of the answer. They go through their calls side by side, and send the same texts with
each (**`Operation.SameShape.paired`**).

* `SameRecord`: records with the same keys, and a primary key in both or in neither;
* `Operation`: what a store is asked for; `Edit.SameShape`, `Operation.SameShape`;
* `Statement.text_insert_congr`, `Query.text_congr`, `Target.text_congr`: what a text depends on.
-/

namespace Daybook

open Sql

/-! ## Texts of statements -/

namespace Sql

variable {cs ds : List Condition}

theorem Condition.isEmpty_congr (h : Condition.texts cs = Condition.texts ds) :
    cs.isEmpty = ds.isEmpty := by
  rw [Clause.texts_eq_map, Clause.texts_eq_map] at h
  have hlength := congrArg List.length h
  rw [List.length_map, List.length_map] at hlength
  exact isEmpty_of_length hlength

theorem Condition.whereClause_congr (h : Condition.texts cs = Condition.texts ds) :
    Condition.whereClause cs = Condition.whereClause ds := by
  rw [whereClause, whereClause, conjunction, conjunction, h, isEmpty_congr h]

theorem Query.text_congr (h : Condition.texts cs = Condition.texts ds) (output : Output)
    (source : Option String) (tail : Tail) :
    Query.text ⟨output, source, cs, tail⟩ = Query.text ⟨output, source, ds, tail⟩ := by
  rw [Query.text, Query.text]
  dsimp only
  rw [Condition.whereClause_congr h, Condition.isEmpty_congr h]

/-- The targets are of one kind, and their conditions have the same texts. -/
def Target.SameTexts : Target → Target → Prop
  | .every cs, .every ds => Condition.texts cs = Condition.texts ds
  | .first cs, .first ds => Condition.texts cs = Condition.texts ds
  | _, _ => False

theorem Target.text_congr {target target' : Target} (h : target.SameTexts target')
    (table : String) : target.text table = target'.text table := by
  cases target with
  | every cs =>
    cases target' with
    | first ds => exact h.elim
    | every ds =>
      show (if cs.isEmpty then "" else " " ++ Condition.whereClause cs) =
        if ds.isEmpty then "" else " " ++ Condition.whereClause ds
      rw [Condition.whereClause_congr h, Condition.isEmpty_congr h]
  | first cs =>
    cases target' with
    | every ds => exact h.elim
    | first ds =>
      show " WHERE rowid IN (SELECT rowid FROM " ++ table ++ " " ++ Condition.whereClause cs ++
        " LIMIT 1)" = " WHERE rowid IN (SELECT rowid FROM " ++ table ++ " " ++
          Condition.whereClause ds ++ " LIMIT 1)"
      rw [Condition.whereClause_congr h]

/-- The text of a row of an insertion. -/
def rowText (row : List Operand) : String := "(" ++ commaList (row.map Operand.text) ++ ")"

theorem Statement.text_insert_congr {rows rows' : List (List Operand)}
    (h : rows.map rowText = rows'.map rowText) (replace : Bool) (table : String)
    (columns : List String) : (Statement.insert replace table columns rows).text =
      (Statement.insert replace table columns rows').text := by
  show (if replace then "INSERT OR REPLACE" else "INSERT") ++ " INTO " ++ table ++ " (" ++
      commaList columns ++ ") VALUES " ++ commaList (rows.map rowText) =
    (if replace then "INSERT OR REPLACE" else "INSERT") ++ " INTO " ++ table ++ " (" ++
      commaList columns ++ ") VALUES " ++ commaList (rows'.map rowText)
  rw [h]

theorem Statement.text_update_congr {set set' : List Assignment}
    (hset : set.map Assignment.text = set'.map Assignment.text) {target target' : Target}
    (htarget : target.SameTexts target') (table : String) :
    (Statement.update table set target).text = (Statement.update table set' target').text := by
  show "UPDATE " ++ table ++ " SET " ++ commaList (set.map Assignment.text) ++ target.text table =
    "UPDATE " ++ table ++ " SET " ++ commaList (set'.map Assignment.text) ++ target'.text table
  rw [hset, Target.text_congr htarget]

theorem Statement.text_delete_congr {target target' : Target}
    (htarget : target.SameTexts target') (table : String) :
    (Statement.delete table target).text = (Statement.delete table target').text := by
  show "DELETE FROM " ++ table ++ target.text table = "DELETE FROM " ++ table ++ target'.text table
  rw [Target.text_congr htarget]

end Sql

namespace Store

variable {s : Schema}

/-! ## Records -/

/-- The records have the same keys, and a primary key in both or in neither. -/
structure SameRecord (s : Schema) (record record' : Record) : Prop where
  keys : record.keys = record'.keys
  key : ∀ c, s.key? = some c →
    isMissingKey (record.get? c.name) = isMissingKey (record'.get? c.name)

section Defaults

variable {record record' : Record}

theorem SameRecord.keys_withKey (h : SameRecord s record record') (fresh fresh' : String) :
    (withKey s fresh record).keys = (withKey s fresh' record').keys := by
  rw [withKey, withKey]
  cases hkey : s.key? with
  | none => exact h.keys
  | some c =>
    dsimp only
    rw [h.key c hkey]
    split_ifs
    · cases c.type with
      | integer => exact (KeyMap.keys_erase _ _).trans (h.keys ▸ (KeyMap.keys_erase _ _).symm)
      | _ => exact KeyMap.keys_insert_congr h.keys _ _ _
    · exact h.keys

theorem keys_withMissing (h : record.keys = record'.keys) (column : String) (v v' : Json) :
    (withMissing s column v record).keys = (withMissing s column v' record').keys := by
  rw [withMissing, withMissing, KeyMap.contains_congr h]
  split_ifs
  · exact KeyMap.keys_insert_congr h _ _ _
  · exact h

theorem SameRecord.keys_withDefaults (h : SameRecord s record record')
    (now now' fresh fresh' : String) :
    (withDefaults s now fresh record).keys = (withDefaults s now' fresh' record').keys :=
  keys_withMissing (keys_withMissing (keys_withMissing (h.keys_withKey _ _) _ _ _) _ _ _) _ _ _

theorem keys_allWithDefaults {m m' : Moment} {records records' : List Record}
    (h : List.Forall₂ (SameRecord s) records records') :
    (allWithDefaults s m records).map KeyMap.keys =
      (allWithDefaults s m' records').map KeyMap.keys := by
  rw [allWithDefaults, allWithDefaults, List.map_map, List.map_map]
  generalize 0 = n
  induction h generalizing n with
  | nil => rfl
  | cons hrecord _ ih =>
    rw [List.zipIdx_cons, List.zipIdx_cons, List.map_cons, List.map_cons, ih]
    exact congrArg (· :: _) (hrecord.keys_withDefaults _ _ _ _)

end Defaults

theorem presentColumns_congr {batch batch' : List Record}
    (h : batch.map KeyMap.keys = batch'.map KeyMap.keys) :
    presentColumns s batch = presentColumns s batch' := by
  have hany (name : String) : (batch.any fun r => r.contains name) =
      batch'.any fun r => r.contains name := by
    induction batch generalizing batch' with
    | nil =>
      rw [List.map_eq_nil_iff.1 h.symm]
    | cons r rest ih =>
      cases batch' with
      | nil => cases h
      | cons r' rest' =>
        obtain ⟨hr, hrest⟩ := List.cons.inj h
        rw [List.any_cons, List.any_cons, KeyMap.contains_congr hr, ih hrest]
  rw [presentColumns, presentColumns]
  simp only [hany]

/-! ## Rows -/

theorem allBound_rowOf {columns : List Column} {record : Record} {row : List Operand}
    (h : rowOf columns record = .ok row) : AllBound row := by
  obtain ⟨values, rfl, -⟩ := rowOf_eq_ok h
  exact allBound_map values

/-- The text of the row of a record says only how many columns there are. -/
theorem rowText_rowOf {columns : List Column} {record : Record} {row : List Operand}
    (h : rowOf columns record = .ok row) :
    rowText row = "(" ++ commaList (List.replicate columns.length "?") ++ ")" := by
  obtain ⟨values, rfl, hvalues⟩ := rowOf_eq_ok h
  have hmarks : (values.map Operand.bound).map Operand.text =
      List.replicate columns.length "?" := by
    rw [List.map_map, List.eq_replicate_iff, List.length_map]
    refine ⟨hvalues.length_eq.symm, fun text htext => ?_⟩
    obtain ⟨v, -, rfl⟩ := List.mem_map.1 htext
    rfl
  rw [rowText, hmarks]

/-- What is made of the items of two lists is the same if it is so for items of the same image. -/
theorem map_eq_map_of_map_eq {α β γ : Type} {f : α → β} {g : α → γ} {xs ys : List α}
    (h : xs.map f = ys.map f) (hg : ∀ x y, f x = f y → g x = g y) : xs.map g = ys.map g := by
  induction xs generalizing ys with
  | nil => rw [List.map_eq_nil_iff.1 h.symm]
  | cons x xs ih =>
    cases ys with
    | nil => exact nomatch h
    | cons y ys =>
      obtain ⟨hxy, hrest⟩ := List.cons.inj h
      rw [List.map_cons, List.map_cons, hg x y hxy, ih hrest]

theorem texts_writeStatements {replace : Bool} {batch batch' : List Record}
    (hkeys : batch.map KeyMap.keys = batch'.map KeyMap.keys) {sts sts' : List Statement}
    (h : writeStatements s replace batch = .ok sts)
    (h' : writeStatements s replace batch' = .ok sts') :
    sts.map Statement.text = sts'.map Statement.text := by
  rw [writeStatements, presentColumns_congr hkeys] at h
  rw [writeStatements] at h'
  generalize presentColumns s batch' = columns at h h'
  split_ifs at h h'
  obtain ⟨rows, hrows, rfl⟩ := Result.map_eq_ok_iff.1 h
  obtain ⟨rows', hrows', rfl⟩ := Result.map_eq_ok_iff.1 h'
  have hrowTexts {batch : List Record} {rows : List (List Operand)}
      (hrows : batch.mapM (rowOf columns) = .ok rows) : rows.map rowText = List.replicate
        batch.length ("(" ++ commaList (List.replicate columns.length "?") ++ ")") := by
    rw [Result.mapM_eq_ok_iff] at hrows
    induction hrows with
    | nil => rfl
    | cons hrow _ ih =>
      rw [List.map_cons, rowText_rowOf hrow, ih]
      rfl
  have hlength : batch.length = batch'.length := by
    simpa using congrArg List.length hkeys
  have hparts : ((chunks (rowsPerStatement columns.length) rows).map (·.map rowText)) =
      (chunks (rowsPerStatement columns.length) rows').map (·.map rowText) := by
    rw [map_chunks, map_chunks, hrowTexts hrows, hrowTexts hrows', hlength]
  rw [List.map_map, List.map_map]
  exact map_eq_map_of_map_eq hparts fun part part' hpart =>
    Statement.text_insert_congr hpart replace s.table (columns.map Column.name)

/-! ## Changes -/

theorem texts_patchAssignments {patch patch' : Record} (hkeys : patch.keys = patch'.keys)
    {columns : List Column} {own own' : List Assignment}
    (h : patchAssignments patch columns = .ok own)
    (h' : patchAssignments patch' columns = .ok own') :
    own.map Assignment.text = own'.map Assignment.text := by
  induction columns generalizing own own' with
  | nil => rw [← Except.ok.inj h, ← Except.ok.inj h']
  | cons c rest ih =>
    have hpresent : (if isKept c then none else patch.get? c.name).isSome =
        (if isKept c then none else patch'.get? c.name).isSome := by
      split_ifs
      · rfl
      · exact KeyMap.contains_congr hkeys c.name
    rw [patchAssignments] at h h'
    cases hv : (if isKept c then none else patch.get? c.name) with
    | none =>
      cases hw : (if isKept c then none else patch'.get? c.name) with
      | none =>
        rw [hv] at h
        rw [hw] at h'
        exact ih h h'
      | some w =>
        rw [hv, hw] at hpresent
        cases hpresent
    | some v =>
      cases hw : (if isKept c then none else patch'.get? c.name) with
      | none =>
        rw [hv, hw] at hpresent
        cases hpresent
      | some w =>
        rw [hv] at h
        rw [hw] at h'
        obtain ⟨x, -, h⟩ := Result.bind_eq_ok_iff.1 h
        obtain ⟨more, hmore, h⟩ := Result.bind_eq_ok_iff.1 h
        obtain ⟨x', -, h'⟩ := Result.bind_eq_ok_iff.1 h'
        obtain ⟨more', hmore', h'⟩ := Result.bind_eq_ok_iff.1 h'
        rw [← Except.ok.inj h, ← Except.ok.inj h', List.map_cons, List.map_cons, ih hmore hmore']
        rfl

theorem texts_assignments {m m' : Moment} {patch patch' : Record} (hkeys : patch.keys = patch'.keys)
    {set set' : List Assignment} (h : assignments s m patch = .ok set)
    (h' : assignments s m' patch' = .ok set') :
    set.map Assignment.text = set'.map Assignment.text := by
  obtain ⟨own, hown, rfl⟩ := assignments_eq_ok h
  obtain ⟨own', hown', rfl⟩ := assignments_eq_ok h'
  have hkept : (keptAssignments s m.now).map Assignment.text =
      (keptAssignments s m'.now).map Assignment.text := by
    rw [keptAssignments, keptAssignments]
    split_ifs <;> rfl
  rw [List.map_append, List.map_append, texts_patchAssignments hkeys hown hown', hkept]

/-! ## Operations -/

/-- What a store is asked for. -/
inductive Operation where
  | find (f : Filter)
  | findOne (f : Filter)
  | findPage (f : Filter) (page : Page)
  | count (f : Filter)
  | findById (id : String)
  | edit (e : Edit)

/-- The program of an operation, without its answer. -/
def Operation.program (s : Schema) : Operation → Program Unit
  | .find f => (Store.find s f).bind fun _ => .done ()
  | .findOne f => (Store.findOne s f).bind fun _ => .done ()
  | .findPage f page => (Store.findPage s f page).bind fun _ => .done ()
  | .count f => (Store.count s f).bind fun _ => .done ()
  | .findById id => (Store.findById s id).bind fun _ => .done ()
  | .edit e => e.program s

/-- The edits differ in values alone. -/
inductive Edit.SameShape (s : Schema) : Edit → Edit → Prop
  | insertOne {m m' : Moment} {r r' : Record} (record : SameRecord s r r') :
      SameShape s (.insertOne m r) (.insertOne m' r')
  | insertMany {m m' : Moment} {rs rs' : List Record}
      (records : List.Forall₂ (SameRecord s) rs rs') :
      SameShape s (.insertMany m rs) (.insertMany m' rs')
  | upsertMany {m m' : Moment} {rs rs' : List Record}
      (records : List.Forall₂ (SameRecord s) rs rs') :
      SameShape s (.upsertMany m rs) (.upsertMany m' rs')
  | updateOne {m m' : Moment} {f f' : Filter} {p p' : Record} (filter : f.SameShape f')
      (patch : p.keys = p'.keys) : SameShape s (.updateOne m f p) (.updateOne m' f' p')
  | updateById {m m' : Moment} {id id' : String} {p p' : Record} (patch : p.keys = p'.keys) :
      SameShape s (.updateById m id p) (.updateById m' id' p')
  | updateMany {m m' : Moment} {f f' : Filter} {p p' : Record} (filter : f.SameShape f')
      (patch : p.keys = p'.keys) : SameShape s (.updateMany m f p) (.updateMany m' f' p')
  | deleteOne {f f' : Filter} (filter : f.SameShape f') :
      SameShape s (.deleteOne f) (.deleteOne f')
  | deleteById {id id' : String} : SameShape s (.deleteById id) (.deleteById id')
  | deleteMany {f f' : Filter} (filter : f.SameShape f') :
      SameShape s (.deleteMany f) (.deleteMany f')
  | deleteAll : SameShape s .deleteAll .deleteAll

/-- The operations differ in values alone. -/
inductive Operation.SameShape (s : Schema) : Operation → Operation → Prop
  | find {f f' : Filter} (filter : f.SameShape f') : SameShape s (.find f) (.find f')
  | findOne {f f' : Filter} (filter : f.SameShape f') : SameShape s (.findOne f) (.findOne f')
  | findPage {f f' : Filter} (filter : f.SameShape f') (page : Page) :
      SameShape s (.findPage f page) (.findPage f' page)
  | count {f f' : Filter} (filter : f.SameShape f') : SameShape s (.count f) (.count f')
  | findById {id id' : String} : SameShape s (.findById id) (.findById id')
  | edit {e e' : Edit} (edit : e.SameShape s e') : SameShape s (.edit e) (.edit e')

/-! ## Calls side by side -/

open Program

/-- A call with a statement sends its text. -/
theorem texts_of_statement {st st' : Statement} (h : st.text = st'.text) :
    [Request.statement st].map Request.sql = [Request.statement st'].map Request.sql :=
  congrArg (fun text => [text]) h

theorem twins_query {q q' : Query} (h : q.text = q'.text) : (query q).Twins (query q') :=
  twins_ask (texts_of_statement h)

theorem twins_change {st st' : Statement} (h : st.text = st'.text) :
    (change st).Twins (change st') :=
  twins_ask (texts_of_statement h)

/-- The query by which the row of a key is read. -/
def keyQuery (s : Schema) (c : Column) (x : Cell) : Query :=
  allColumns s [.compare c.name .eq (.bound x)] (.page [] none none)

theorem text_keyQuery (c : Column) (x y : Cell) : (keyQuery s c x).text = (keyQuery s c y).text :=
  Query.text_congr rfl _ _ _

theorem twins_findByKey {c : Column} (hkey : s.key? = some c) {v w : Json} {x y : Cell}
    (hv : c.cell v = .ok x) (hw : c.cell w = .ok y) :
    (findByKey s v).Twins (findByKey s w) := by
  rw [findByKey, findByKey, Schema.requiredKey, hkey]
  simp only [Program.bind_eq, Program.pure_eq]
  show ((ofExcept (c.cell v)).bind _).Twins ((ofExcept (c.cell w)).bind _)
  rw [hv, hw]
  exact (twins_query (text_keyQuery c x y)).bind_done _ _

/-- A column takes every number. -/
theorem exists_cell_int (c : Column) (n : Int) : ∃ x, c.cell (.int n) = .ok x := by
  rw [Column.cell, Cell.forColumn.eq_def]
  cases c.type <;> exact ⟨_, rfl⟩

/-- The value by which an added record is read back is one that its column takes. -/
theorem exists_cell_reread {c : Column} (hkey : s.key? = some c) {record : Record}
    {row : List Operand} (hrow : rowOf (presentColumns s [record]) record = .ok row) (n : Int) :
    ∃ x, c.cell ((record.get? c.name).getD (.int n)) = .ok x := by
  cases hv : record.get? c.name with
  | none => exact exists_cell_int c n
  | some v =>
    obtain ⟨values, -, hvalues⟩ := rowOf_eq_ok hrow
    have hmem : c ∈ presentColumns s [record] := by
      rw [mem_presentColumns_iff]
      refine ⟨(Schema.mem_key? hkey).1, ?_⟩
      rw [List.any_cons, KeyMap.contains, hv]
      rfl
    obtain ⟨x, -, hx⟩ := (Result.exists_of_forall₂ hvalues).2 c hmem
    rw [valueOf, hv] at hx
    exact ⟨x, hx⟩

theorem paired_insertOne {m m' : Moment} {record record' : Record}
    (h : SameRecord s record record') :
    (insertOne s m record).Paired (insertOne s m' record') := by
  rw [insertOne, insertOne]
  refine paired_ite trivial trivial ?_
  dsimp only
  have hkeys := h.keys_withDefaults m.now m'.now (m.freshId 0) (m'.freshId 0)
  generalize withDefaults s m.now (m.freshId 0) record = r at hkeys ⊢
  generalize withDefaults s m'.now (m'.freshId 0) record' = r' at hkeys ⊢
  have hcolumns : presentColumns s [r] = presentColumns s [r'] :=
    presentColumns_congr (congrArg (fun keys => [keys]) hkeys)
  refine paired_ite trivial trivial ?_
  refine paired_ofExcept_bind fun row row' hrow hrow' => Twins.paired ?_
  have htext : [row].map rowText = [row'].map rowText := by
    rw [List.map_singleton, List.map_singleton, rowText_rowOf hrow, rowText_rowOf hrow',
      hcolumns]
  refine twins_ask_bind ?_ fun n n' => ?_
  · rw [hcolumns]
    exact texts_of_statement (Statement.text_insert_congr htext _ _ _)
  · cases hkey : s.key? with
    | none => exact .ended trivial trivial
    | some c =>
      obtain ⟨x, hx⟩ := exists_cell_reread hkey hrow n
      obtain ⟨x', hx'⟩ := exists_cell_reread hkey hrow' n'
      exact (twins_findByKey hkey hx hx').bind_done _ _

theorem paired_writeMany {m m' : Moment} (replace : Bool) {records records' : List Record}
    (h : List.Forall₂ (SameRecord s) records records') :
    (writeMany s m replace records).Paired (writeMany s m' replace records') := by
  rw [writeMany, writeMany]
  refine paired_ite trivial trivial ?_
  refine paired_ofExcept_bind fun sts sts' hsts hsts' => Twins.paired ?_
  have htexts := texts_writeStatements (keys_allWithDefaults h) hsts hsts'
  refine twins_ask_bind ?_ fun _ _ => .ended trivial trivial
  show (sts.map Request.statement).map Request.sql = (sts'.map Request.statement).map Request.sql
  rw [List.map_map, List.map_map]
  exact htexts

/-- A query under a filter. -/
theorem paired_query {f f' : Filter} (h : f.SameShape f') (output : Output) (tail : Tail) :
    ((ofExcept f.compile).bind fun cs => query ⟨output, some s.table, cs, tail⟩).Paired
      ((ofExcept f'.compile).bind fun cs => query ⟨output, some s.table, cs, tail⟩) :=
  paired_ofExcept_bind fun _ _ hcs hds =>
    (twins_query (Query.text_congr (h.texts hcs hds) _ _ _)).paired

theorem paired_findById (id id' : String) : (findById s id).Paired (findById s id') := by
  rw [findById, findById]
  refine paired_ite trivial trivial ?_
  rw [findByKey, findByKey]
  refine paired_ofExcept_bind fun c c' hc hc' => ?_
  obtain rfl := Except.ok.inj (hc.symm.trans hc')
  refine paired_ofExcept_bind fun x x' _ _ => Twins.paired ?_
  exact (twins_query (text_keyQuery c x x')).bind_done _ _

/-- A change of the rows of a target. -/
theorem paired_update {m m' : Moment} {patch patch' : Record} (hpatch : patch.keys = patch'.keys)
    {target target' : Target} (htarget : target.SameTexts target') :
    ((ofExcept (assignments s m patch)).bind fun set =>
      change (.update s.table set target)).Paired
        ((ofExcept (assignments s m' patch')).bind fun set =>
          change (.update s.table set target')) :=
  paired_ofExcept_bind fun _ _ hset hset' =>
    (twins_change (Statement.text_update_congr (texts_assignments hpatch hset hset') htarget
      s.table)).paired

theorem twins_delete {target target' : Target} (htarget : target.SameTexts target') :
    (change (.delete s.table target)).Twins (change (.delete s.table target')) :=
  twins_change (Statement.text_delete_congr htarget s.table)

theorem texts_requiredConditions {f f' : Filter} (h : f.SameShape f') {cs ds : List Condition}
    (hcs : requiredConditions f = .ok cs) (hds : requiredConditions f' = .ok ds) :
    Condition.texts cs = Condition.texts ds :=
  h.texts (requiredConditions_eq_ok.1 hcs).2 (requiredConditions_eq_ok.1 hds).2

theorem Edit.SameShape.paired {e e' : Edit} (h : e.SameShape s e') :
    (e.program s).Paired (e'.program s) := by
  cases h with
  | insertOne record => exact (paired_insertOne record).bind_done _ _
  | insertMany records => exact (paired_writeMany false records).bind_done _ _
  | upsertMany records => exact (paired_writeMany true records).bind_done _ _
  | updateOne filter patch =>
    refine Paired.bind_done (paired_ofExcept_bind fun cs ds hcs hds => ?_) _ _
    exact paired_update patch (texts_requiredConditions filter hcs hds)
  | @updateById m m' id id' p p' patch =>
    refine Paired.bind_done ?_ _ _
    rw [Store.updateById, Store.updateById]
    refine paired_ite trivial trivial ?_
    refine paired_ofExcept_bind fun c c' hc hc' => ?_
    obtain rfl := Except.ok.inj (hc.symm.trans hc')
    exact paired_update patch rfl
  | updateMany filter patch =>
    refine Paired.bind_done (paired_ofExcept_bind fun cs ds hcs hds => ?_) _ _
    exact paired_update patch (texts_requiredConditions filter hcs hds)
  | deleteOne filter =>
    refine Paired.bind_done (paired_ofExcept_bind fun cs ds hcs hds => Twins.paired ?_) _ _
    exact twins_delete (texts_requiredConditions filter hcs hds)
  | @deleteById id id' =>
    refine Paired.bind_done ?_ _ _
    rw [Store.deleteById, Store.deleteById]
    refine paired_ite trivial trivial ?_
    refine paired_ofExcept_bind fun c c' hc hc' => Twins.paired ?_
    obtain rfl := Except.ok.inj (hc.symm.trans hc')
    exact twins_delete rfl
  | deleteMany filter =>
    refine Paired.bind_done (paired_ofExcept_bind fun cs ds hcs hds => Twins.paired ?_) _ _
    exact twins_delete (texts_requiredConditions filter hcs hds)
  | deleteAll => exact ((twins_change rfl).bind_done _ _).paired

/-- **Operations that differ in values alone go through their calls side by side.** -/
theorem Operation.SameShape.paired {o o' : Operation} (h : o.SameShape s o') :
    (o.program s).Paired (o'.program s) := by
  cases h with
  | find filter => exact (paired_query filter _ _).bind_done _ _
  | findOne filter =>
    refine Paired.bind_done (paired_ofExcept_bind fun cs ds hcs hds => Twins.paired ?_) _ _
    exact (twins_query (Query.text_congr (filter.texts hcs hds) _ _ _)).bind_done _ _
  | findPage filter page =>
    refine Paired.bind_done (paired_ofExcept_bind fun cs ds hcs hds => ?_) _ _
    cases sortFault? s page.sort with
    | some e => exact .inl trivial
    | none => exact (twins_query (Query.text_congr (filter.texts hcs hds) _ _ _)).paired
  | count filter =>
    refine Paired.bind_done (paired_ofExcept_bind fun cs ds hcs hds => Twins.paired ?_) _ _
    exact (twins_query (Query.text_congr (filter.texts hcs hds) _ _ _)).bind_done _ _
  | findById => exact (paired_findById _ _).bind_done _ _
  | edit edit => exact edit.paired

end Store
end Daybook
