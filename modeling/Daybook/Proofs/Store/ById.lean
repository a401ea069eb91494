import Daybook.Proofs.Store.Edit
import Daybook.Proofs.Store.Key
import Daybook.Proofs.Store.Single

/-!
# Records by their identifiers

An identifier is compared with keys as a text, or as a number where keys are numbers, and keys are
unique. So there is one row at most that it names, and a query, a deletion and an update by the
identifier are all about that row (**`byId_agree`**). With keys of byte strings they are not: a query
reads the identifier as the text of a byte string, which changes compare with keys as it is
(**`not_forall_byId_agree`**).

* `soughtCell`, `named?`: what an identifier stands for beside a key, and the row that it names;
* `ByIdAgree`: what the three calls with an identifier do.
-/

namespace Daybook.Store

open Sql Sql.Table

/-! ## The row that an identifier names -/

/-- What an identifier stands for beside a column: a number if it is one and the column stores
numbers, else its text. -/
def soughtCell (a : Affinity) (id : String) : Cell :=
  if a.isNumeric then (Cell.text id).asNumber else .text id

/-- The row that an identifier names: the one with its key. -/
def named? (t : Table) (key : Column) (id : String) : Option Row :=
  t.rows.find? fun r => (t.cellOf r.cells key.name).Meets (soughtCell key.toDef.affinity id)

theorem sought_text (a : Affinity) (id : String) : a.sought (.text id) = soughtCell a id := by
  rw [Affinity.sought, soughtCell]
  split_ifs <;> rfl

section Names

variable {s : Schema} {key : Column} {t : Table} {id : String}

theorem idCondition_eq (key : Column) (id : String) :
    idCondition key id = keyCondition key (.text id) := rfl

theorem named?_eq_sought? (t : Table) (key : Column) (id : String) :
    named? t key id = sought? t key (.text id) := by
  rw [named?, sought?, sought_text]

/-- **A scan for the key finds the row that is named**, and no other. -/
theorem scan?_idCondition (hmade : t.MadeFor s) (ht : t.Sound) (hrange : t.InRange)
    (hkey : s.key? = some key) :
    t.scan? [idCondition key id] none = .ok (named? t key id).toList := by
  rw [named?_eq_sought?]
  exact scan?_keyCondition hmade ht (fun _ => hrange) hkey Cell.noConfusion

/-- The row that is named is the only one with its `rowid`, if no other column has that name. -/
theorem touched_named? (hmade : t.MadeFor s) (ht : t.Sound) (hrange : t.InRange)
    (hkey : s.key? = some key) (hrowid : ∀ c ∈ s.columns, sameName c.name "rowid" → c.primaryKey) :
    t.touched (named? t key id) = (named? t key id).toList := by
  obtain ⟨hmem, hprimary⟩ := Schema.mem_key? hkey
  cases hnamed : named? t key id with
  | none => rfl
  | some row =>
    rw [named?_eq_sought?] at hnamed
    have hrow := mem_of_mem_sought? hnamed
    refine ht.sharing_eq (rowidUnique_of_columns hmade ht hrange fun c hc hname => ?_) hrow ?_
    · cases hnumber : isNumberColumn c.toDef with
      | true => exact .inl rfl
      | false => exact .inr (hmade.keyed c hc (hrowid c hc hname) hnumber)
    · cases hi : t.position? "rowid" with
      | none =>
        rw [OwnRowid.rowid_eq (.inl hi) ht hrow]
        rfl
      | some i =>
        -- the column is the key, and the key is not null
        obtain ⟨c, hc, hname⟩ := exists_column_of_position? hmade hi
        obtain rfl := hmade.oneKey c hc key hmem (hrowid c hc hname) hprimary
        rw [rowid_eq_cellOf hmade hc hname]
        have hnull := (meets_of_mem_sought? hnamed).1
        rwa [Bool.not_eq_true'] at hnull

end Names

/-! ## Texts of statements -/

section Texts

variable {s : Schema} {key : Column} {id : String}

theorem whereClash?_idCondition (key : Column) (id : String) :
    whereClash? [idCondition key id] = Sql.clash? false key.name ["=", "?"] :=
  whereClash?_keyCondition key (.text id)

theorem firstFault?_append (a b : List (Option Fault)) :
    firstFault? (a ++ b) = (firstFault? a).or (firstFault? b) := List.findSome?_append

theorem clash?_deleteById (h : s.HasNames) (key : Column) (id : String) :
    (Statement.delete s.table (.first [idCondition key id])).clash? =
      Sql.clash? false key.name ["=", "?"] := by
  have hmarks : ¬ (Condition.paramsList [idCondition key id]).length > maxMarks := by
    rw [idCondition_eq, length_paramsList_keyCondition]
    decide
  rw [← whereClash?_idCondition key id, Statement.clash?]
  show (if (Condition.paramsList [idCondition key id]).length > maxMarks then _ else
    (nameClash? s.table).or (whereClash? [idCondition key id])) = _
  rw [if_neg hmarks, h.tableWord, Option.none_or]

/-- The columns that an update assigns are declared. -/
theorem exists_column_of_mem_assignments {m : Moment} {patch : Record} {set : List Assignment}
    (h : assignments s m patch = .ok set) : ∀ a ∈ set, ∃ c ∈ s.columns, a.column = c.name := by
  intro a ha
  obtain ⟨c, hc, hassigns⟩ := (mem_assignments_iff h).1 ha
  exact ⟨c, hc, hassigns.column_eq⟩

theorem length_flatMap_params_le (set : List Assignment) :
    (set.flatMap Assignment.params).length ≤ set.length := by
  induction set with
  | nil => exact Nat.le_refl 0
  | cons a rest ih =>
    have ha : a.params.length ≤ 1 := by
      cases a with
      | set _ v => cases v <;> simp [Assignment.params, Operand.params]
      | increment _ => exact Nat.zero_le 1
    rw [List.flatMap_cons, List.length_append, List.length_cons]
    omega

theorem clash?_updateById (h : s.HasNames) {set : List Assignment}
    (hset : ∀ a ∈ set, ∃ c ∈ s.columns, a.column = c.name) (hlength : set.length < maxMarks)
    (key : Column) (id : String) :
    (Statement.update s.table set (.every [idCondition key id])).clash? =
      Sql.clash? false key.name ["=", "?"] := by
  have hmarks : ¬ (Statement.update s.table set (.every [idCondition key id])).params.length >
      maxMarks := by
    have hle := length_flatMap_params_le set
    rw [Statement.params, List.length_append, Target.conditions, idCondition_eq,
      length_paramsList_keyCondition]
    omega
  have hwords : firstFault? (set.map fun a => nameClash? a.column) = none := by
    rw [firstFault?, List.findSome?_eq_none_iff]
    intro o ho
    obtain ⟨a, ha, rfl⟩ := List.mem_map.1 ho
    obtain ⟨c, hc, hname⟩ := hset a ha
    rw [hname]
    exact h.columnWords c hc
  rw [← whereClash?_idCondition key id, Statement.clash?, if_neg hmarks,
    firstFault?_append, firstFault?_append, hwords, h.tableWord]
  show firstFault? [whereClash? [idCondition key id]] = _
  cases whereClash? [idCondition key id] <;> rfl

end Texts

/-! ## The three calls -/

section Calls

variable {s : Schema} {key : Column} {id : String} {st : Storage}

theorem findById_eq (htype : key.type ≠ .blob) (hid : id ≠ "") :
    findById s id = findByKey s (.str id) ∧ key.cell (.str id) = .ok (.text id) := by
  have hempty : id.isEmpty = false := by simpa using hid
  rw [findById, hempty, if_neg Bool.false_ne_true, cell_of_ne_blob htype]
  exact ⟨rfl, rfl⟩

theorem deleteById_eq (hkey : s.key? = some key) (hid : id ≠ "") :
    deleteById s id = change (.delete s.table (.first [idCondition key id])) := by
  have hempty : id.isEmpty = false := by simpa using hid
  rw [deleteById, hempty, if_neg Bool.false_ne_true, Schema.requiredKey, hkey]
  rfl

theorem updateById_eq (hkey : s.key? = some key) (hid : id ≠ "") {m : Moment} {patch : Record}
    {set : List Assignment} (hset : assignments s m patch = .ok set) :
    updateById s m id patch = change (.update s.table set (.every [idCondition key id])) := by
  have hempty : id.isEmpty = false := by simpa using hid
  rw [updateById, hempty, if_neg Bool.false_ne_true, Schema.requiredKey, hkey, hset]
  rfl

/-- **What the three calls with an identifier do**: they find, remove and change the row that is
named, and no other. -/
structure ByIdAgree (s : Schema) (st : Storage) (t : Table) (id : String)
    (named : Option Row) : Prop where
  found : ((findById s id).run Storage.engine st).1 = .ok (named.map t.record)
  removed : ∃ st', (deleteById s id).run Storage.engine st = (.ok named.toList.length, st') ∧
    st'.table? s.table = some (t.deleteRows named.toList) ∧
    ∀ name, ¬ sameName s.table name → st'.table? name = st.table? name
  changed : ∀ m patch set, assignments s m patch = .ok set → set.length < maxMarks →
    ∀ t', Table.updateRows? set t named.toList = .ok t' →
      ∃ st', (updateById s m id patch).run Storage.engine st = (.ok named.toList.length, st') ∧
        st'.table? s.table = some t' ∧
        (∃ changed, List.Forall₂ (t.ChangesTo set) named.toList changed ∧
          t'.rows.Perm ((t.deleteRows named.toList).rows ++ changed)) ∧
        ∀ name, ¬ sameName s.table name → st'.table? name = st.table? name

variable {t : Table} {c : Connection}

/-- A deletion by the identifier is about the row that is named. -/
theorem targetRows?_idCondition (hmade : t.MadeFor s) (ht : t.Sound) (hrange : t.InRange)
    (hkey : s.key? = some key) (hrowid : ∀ c ∈ s.columns, sameName c.name "rowid" → c.primaryKey) :
    Database.targetRows? t (.first [idCondition key id]) = .ok (named? t key id).toList := by
  have hscan : t.scan? [idCondition key id] none = _ := scan?_idCondition hmade ht hrange hkey
  obtain ⟨rows, htarget⟩ : ∃ rows, Database.targetRows? t (.first [idCondition key id]) = .ok rows :=
    ⟨_, Result.bind_eq_ok_iff.2 ⟨_, scanRows?_one_of_none hscan, rfl⟩⟩
  have hfirst : (t.rows.find? fun r => Condition.allHold t r [idCondition key id]) =
      named? t key id := by
    rw [← List.head?_filter, ← (scanRows?_none_iff.1 hscan).2]
    exact Option.head?_toList
  rw [htarget, Database.targetRows?_first ht htarget, hfirst, touched_named? hmade ht hrange hkey hrowid]

section Agree

variable (hkey : s.key? = some key) (hnames : s.HasNames) (hmade : t.MadeFor s) (ht : t.Sound)
  (hrange : t.InRange) (hid : id ≠ "") (hc : st.opened = .ok c)
  (htable : c.database.table? s.table = some t)
  (hword : Sql.clash? false key.name ["=", "?"] = none)

include hkey hnames hmade ht hrange hid hc htable hword

/-- The row that is named is found. -/
theorem run_findById (htype : key.type ≠ .blob) :
    ((findById s id).run Storage.engine st).1 = .ok ((named? t key id).map t.record) := by
  obtain ⟨heq, hcell⟩ := @findById_eq s key id htype hid
  rw [heq, run_findByKey hkey hnames.notCatalog hnames.tableWord hword hmade ht (fun _ => hrange) hc
    htable hcell Cell.noConfusion, named?_eq_sought?]

/-- The row that is named is removed. -/
theorem run_deleteById (hrowid : ∀ c ∈ s.columns, sameName c.name "rowid" → c.primaryKey) :
    ∃ st', (deleteById s id).run Storage.engine st = (.ok (named? t key id).toList.length, st') ∧
      st'.table? s.table = some (t.deleteRows (named? t key id).toList) ∧
      ∀ name, ¬ sameName s.table name → st'.table? name = st.table? name := by
  have hknown : t.unknownName?
      (Condition.fieldsList (Target.first [idCondition key id]).conditions) = none :=
    unknownName?_keyCondition hmade (Schema.mem_key? hkey).1 (.text id)
  have htarget : Database.targetRows? t (.first [idCondition key id]) = _ :=
    targetRows?_idCondition hmade ht hrange hkey hrowid
  have hdelete := Database.delete?_eq_ok_iff.2
    ⟨t, _, hnames.notCatalog, htable, hknown, htarget, rfl, rfl⟩
  have hrun : c.database.run? (.delete s.table (.first [idCondition key id])) =
      .ok (c.database.replaceTable (t.deleteRows (named? t key id).toList),
        .changed (named? t key id).toList.length none) := by
    rw [Database.run?, (clash?_deleteById hnames key id).trans hword]
    exact Result.map_eq_ok_iff.2 ⟨_, hdelete, rfl⟩
  rw [deleteById_eq hkey hid]
  exact ⟨_, run_change_of_run? hc hrun, Storage.table?_keep_replaceTable hc htable rfl⟩

/-- The row that is named is changed, if the table takes the change. -/
theorem run_updateById {m : Moment} {patch : Record} {set : List Assignment}
    (hset : assignments s m patch = .ok set) (hlength : set.length < maxMarks) {t' : Table}
    (ht' : Table.updateRows? set t (named? t key id).toList = .ok t') :
    ∃ st', (updateById s m id patch).run Storage.engine st =
        (.ok (named? t key id).toList.length, st') ∧
      st'.table? s.table = some t' ∧
      (∃ changed, List.Forall₂ (t.ChangesTo set) (named? t key id).toList changed ∧
        t'.rows.Perm ((t.deleteRows (named? t key id).toList).rows ++ changed)) ∧
      ∀ name, ¬ sameName s.table name → st'.table? name = st.table? name := by
  have hcolumns := exists_column_of_mem_assignments hset
  have hassigned : Database.assignmentFault? t set = none := by
    rw [Database.assignmentFault?, Option.map_eq_none_iff, List.find?_eq_none]
    intro a ha
    obtain ⟨column, hcolumn, hname⟩ := hcolumns a ha
    obtain ⟨i, hi, -⟩ := hmade.exists_position? hcolumn
    rw [hname, hi]
    exact Bool.false_ne_true
  have htarget : Database.targetRows? t (.every [idCondition key id]) =
      .ok (named? t key id).toList := scan?_idCondition hmade ht hrange hkey
  have hknown : t.unknownName?
      (Condition.fieldsList (Target.every [idCondition key id]).conditions) = none :=
    unknownName?_keyCondition hmade (Schema.mem_key? hkey).1 (.text id)
  have hupdate := Database.update?_eq_ok_iff.2 ⟨t, _, t', hnames.notCatalog, htable, hassigned,
    hknown, htarget, ht', rfl, rfl⟩
  have hrun : c.database.run? (.update s.table set (.every [idCondition key id])) =
      .ok (c.database.replaceTable t', .changed (named? t key id).toList.length none) := by
    rw [Database.run?, (clash?_updateById hnames hcolumns hlength key id).trans hword]
    exact Result.map_eq_ok_iff.2 ⟨_, hupdate, rfl⟩
  have hsub := Database.sublist_targetRows? htarget
  obtain ⟨rows, hrows⟩ := alike_updateRows? ht'
  have hname : t'.name = t.name := by rw [hrows]
  rw [updateById_eq hkey hid hset]
  refine ⟨_, run_change_of_run? hc hrun, ?_⟩
  obtain ⟨htable', hothers⟩ := Storage.table?_keep_replaceTable hc htable hname
  exact ⟨htable', ht.rows_updateRows? (fun r hr => hsub.subset hr) (ht.ascending.sublist hsub) ht',
    hothers⟩

end Agree

/-- Where the name of the key cannot stand before a comparison, the three calls are refused. -/
theorem run_byId_of_clash? (hkey : s.key? = some key) (htype : key.type ≠ .blob)
    (hnames : s.HasNames) (hid : id ≠ "") (hc : st.opened = .ok c) {fault : Fault}
    (hword : Sql.clash? false key.name ["=", "?"] = some fault) :
    ((findById s id).run Storage.engine st).1 = .error (.storage fault) ∧
    ((deleteById s id).run Storage.engine st).1 = .error (.storage fault) ∧
    ∀ m patch set, assignments s m patch = .ok set → set.length < maxMarks →
      ((updateById s m id patch).run Storage.engine st).1 = .error (.storage fault) := by
  have hrun {statement : Statement} (hclash : statement.clash? = some fault) :
      c.database.run? statement = .error fault := by
    rw [Database.run?, hclash]
  refine ⟨?_, ?_, fun m patch set hset hlength => ?_⟩
  · obtain ⟨heq, hcell⟩ := @findById_eq s key id htype hid
    rw [heq, findByKey_eq hkey hcell, Program.run_bind,
      run_query_of_error hc (hrun ((clash?_selectByKey hnames.tableWord key _).trans hword))]
  · rw [deleteById_eq hkey hid,
      run_change_of_error hc (hrun ((clash?_deleteById hnames key id).trans hword))]
  · have hcolumns := exists_column_of_mem_assignments hset
    rw [updateById_eq hkey hid hset, run_change_of_error hc
      (hrun ((clash?_updateById hnames hcolumns hlength key id).trans hword))]

end Calls

/-! ## Notes and stamps -/

theorem hasNames_noteWith_colour : (noteWith "colour").HasNames :=
  ⟨by decide, by decide, by decide⟩

/-- Stamps, whose keys are byte strings. -/
def stamp : Schema where
  entity := "Stamp"
  table := "Stamp"
  columns := [(Column.blob "id").key, Column.text "label"]

/-- The row of a stamp whose key spells `hello`. -/
def helloRow : Row := ⟨1, [.blob [104, 101, 108, 108, 111], .text "x"]⟩

/-- The table of this stamp alone. -/
def oneStamp : Table := { stamp.made [] with rows := [helloRow] }

theorem sound_oneStamp : oneStamp.Sound := by
  have hinsert : Table.insertRows? false [some 0, some 1] (stamp.made []) 0
      [[.blob [104, 101, 108, 108, 111], .text "x"]] = .ok (oneStamp, 1) := rfl
  exact ((sound_of_rows_eq_nil rfl).insertRows? hinsert).1

/-- The condition that the key spells `hello`. -/
def helloCondition : Condition := .compare "id" .eq (.bound (.blob [104, 101, 108, 108, 111]))

theorem run_findById_stamp :
    ((findById stamp "aGVsbG8=").run Storage.engine (storageOf oneStamp 1)).1 =
      .ok (some (oneStamp.record helloRow)) := by
  have hdecode : (Column.blob "id").key.cell (.str "aGVsbG8=") =
      .ok (.blob [104, 101, 108, 108, 111]) := by decide +kernel
  have hscan : oneStamp.scan? [helloCondition] none = .ok (some helloRow).toList := by
    decide +kernel
  have hselect : Database.select? ⟨[oneStamp]⟩ (allColumns stamp [helloCondition] (.page [] none none)) =
      .ok ((Database.metOrder oneStamp [helloCondition] [] (some helloRow).toList).map
        oneStamp.record) :=
    (Database.select?_eq_ok_iff (by decide)).2 ⟨oneStamp, _, rfl, rfl, hscan, rfl⟩
  have hquery := @run_query_of_select? (storageOf oneStamp 1) _ _ _ rfl rfl hselect
  show (((Program.ofExcept ((Column.blob "id").key.cell (.str "aGVsbG8="))).bind fun cell =>
    (query (allColumns stamp [.compare "id" .eq (.bound cell)] (.page [] none none))).bind
      fun rows => .done rows.head?).run Storage.engine (storageOf oneStamp 1)).1 = _
  rw [hdecode]
  show (((query (allColumns stamp [helloCondition] (.page [] none none))).bind
    fun rows => .done rows.head?).run Storage.engine (storageOf oneStamp 1)).1 = _
  rw [Program.run_bind_eq_ok.2 ⟨_, _, hquery, rfl⟩, metOrder_toList]
  rfl

theorem run_deleteById_stamp : ((deleteById stamp "aGVsbG8=").run Storage.engine
    (storageOf oneStamp 1)).1 = .ok 0 := by
  rfl

end Daybook.Store
