import Daybook.Proofs.Sql.Batch
import Daybook.Sql.Database
import Mathlib.Data.List.Induction

/-!
# Updates and deletions

An update takes a row out and places it again with new cells. Columns that are not assigned keep
their cells, and indexes without an assigned column keep their keys; so what is not looked at again
was right before, and the table stays sound (**`Sound.updateRows?`**).

* `Table.changedCells`, `Table.NumberedBy`: the cells and the number of a row after assignments;
* `Table.valueAt`, `getElem?_assigned_of_mem`: the value that a column is assigned;
* `updateRow?_eq_ok`: what comes of the update of one row;
* `Table.ChangesTo`, **`Sound.rows_updateRows?`**: the rows after an update;
* `sublist_targetRows?`: the rows that a change is about are rows of the table, each once.
-/

namespace Daybook.Sql

namespace Table

variable {t t' : Table} {assignments : List Assignment} {row : Row}

/-! ## Assigned cells -/

theorem length_assigned (t : Table) (row : Row) (assignments : List Assignment) :
    (t.assigned row assignments).length = row.cells.length := by
  rw [assigned]
  refine List.foldlRecOn (motive := fun cells : List Cell => cells.length = row.cells.length)
    assignments _ rfl fun cells hcells a _ => ?_
  rw [← hcells]
  split <;> simp only [List.length_set]

/-- A column that is not assigned keeps its cell. -/
theorem getElem?_assigned_of_not_isAssigned {i : Nat} (h : t.isAssigned assignments i = false) :
    (t.assigned row assignments)[i]? = row.cells[i]? := by
  rw [assigned]
  refine List.foldlRecOn (motive := fun cells : List Cell => cells[i]? = row.cells[i]?)
    assignments _ rfl fun cells hcells a ha => ?_
  have hnot : t.position? a.column ≠ some i := by
    simpa using List.any_eq_false.1 h a ha
  rw [← hcells]
  split
  · rename_i j _ _ hj
    exact List.getElem?_set_ne fun hij => hnot (by rw [hj, hij])
  · rename_i j _ hj
    exact List.getElem?_set_ne fun hij => hnot (by rw [hj, hij])
  · rfl

/-- What an assignment gives to the column at a position. -/
def valueAt (row : Row) (i : Nat) : Assignment → Cell
  | .set _ v => v.value
  | .increment _ => (row.cells.getD i .null).increment

theorem assigned_concat_of_some {a : Assignment} {i : Nat} (hi : t.position? a.column = some i) :
    t.assigned row (assignments ++ [a]) = (t.assigned row assignments).set i (valueAt row i a) := by
  rw [assigned, List.foldl_append, ← assigned, List.foldl_cons, List.foldl_nil, hi]
  cases a <;> rfl

theorem assigned_concat_of_none {a : Assignment} (hi : t.position? a.column = none) :
    t.assigned row (assignments ++ [a]) = t.assigned row assignments := by
  rw [assigned, List.foldl_append, ← assigned, List.foldl_cons, List.foldl_nil, hi]

/-- A column that one assignment assigns gets its value. -/
theorem getElem?_assigned_of_mem {a : Assignment} {i : Nat} (ha : a ∈ assignments)
    (hi : t.position? a.column = some i) (hlt : i < row.cells.length)
    (hone : ∀ b ∈ assignments, t.position? b.column = some i → b = a) :
    (t.assigned row assignments)[i]? = some (valueAt row i a) := by
  induction assignments using List.reverseRecOn with
  | nil => exact absurd ha List.not_mem_nil
  | append_singleton before b ih =>
    by_cases hb : t.position? b.column = some i
    · obtain rfl := hone b (List.mem_append_right _ (List.mem_singleton.2 rfl)) hb
      rw [assigned_concat_of_some hb]
      exact List.getElem?_set_self ((length_assigned t row before).symm ▸ hlt)
    · -- the last assignment is of another column
      have hmem : a ∈ before := by
        rcases List.mem_append.1 ha with hmem | hlast
        · exact hmem
        · rw [List.mem_singleton.1 hlast] at hi
          exact absurd hi hb
      have ih := ih hmem fun b hb => hone b (List.mem_append_left _ hb)
      cases hj : t.position? b.column with
      | none => rw [assigned_concat_of_none hj, ih]
      | some j =>
        rw [assigned_concat_of_some hj, ← ih]
        exact List.getElem?_set_ne fun hij => hb (by rw [hj, hij])

/-- The number that assignments ask for, if they do. -/
def askedNumber? (t : Table) (assignments : List Assignment) (row : Row) : Option Cell :=
  match t.numberColumn? with
  | some i =>
    if t.isAssigned assignments i then (t.assigned row assignments)[i]?
    else t.assignedNumber? row assignments
  | none => t.assignedNumber? row assignments

/-- The row has the number after assignments. -/
def NumberedBy (t : Table) (assignments : List Assignment) (row : Row) (id : Int) : Prop :=
  match t.askedNumber? assignments row with
  | none => id = row.id
  | some c => rowId? c = some id

/-- The cells that a row of a number has after assignments. -/
def changedCells (t : Table) (assignments : List Assignment) (row : Row) (id : Int) : List Cell :=
  (t.columns.zip (t.assigned row assignments)).map fun (c, v) =>
    if isNumberColumn c then .int (Int64.ofInt id) else c.affinity.store v

/-- The keys of an index may change. -/
def changes (t : Table) (assignments : List Assignment) (row : Row) (id : Int) (index : Index) :
    Bool :=
  id ≠ row.id || index.columns.any fun name =>
    match t.position? name with
    | some i => t.isAssigned assignments i
    | none => false

/-- The table with the changed row of a number in place of a row, if nothing stands in its way. -/
def replaced? (t : Table) (assignments : List Assignment) (row : Row) (id : Int) :
    Except Fault Table := do
  if let some fault :=
    t.cellFault? (t.isAssigned assignments) (t.changedCells assignments row id) then throw fault
  if id ≠ row.id && (t.row? id).isSome then throw t.numberTaken
  let u ← settleUnique? false (some row.id) (t.changedCells assignments row id)
    (t.indexes.filter (t.changes assignments row id)) t
  pure ((u.without row.id).placeRow ⟨id, t.changedCells assignments row id⟩)

theorem replaced?_of_updateRow? (h : t.updateRow? assignments row = .ok t') :
    ∃ id, t.NumberedBy assignments row id ∧ t.replaced? assignments row id = .ok t' := by
  rw [updateRow?] at h
  split at h
  · rename_i hnumber
    refine ⟨row.id, ?_, h⟩
    have hasked : t.askedNumber? assignments row = none := hnumber
    rw [NumberedBy, hasked]
  · rename_i c hnumber
    have hasked : t.askedNumber? assignments row = some c := hnumber
    split at h
    · rename_i n hn
      refine ⟨n, ?_, h⟩
      rw [NumberedBy, hasked]
      exact hn
    · exact nomatch h

/-- **What comes of the update of a row.** -/
theorem updateRow?_eq_ok (h : t.updateRow? assignments row = .ok t') :
    ∃ id, t.NumberedBy assignments row id ∧
      t.cellFault? (t.isAssigned assignments) (t.changedCells assignments row id) = none ∧
      (id ≠ row.id → ∀ r ∈ t.rows, r.id ≠ id) ∧
      (∀ index ∈ t.indexes, t.changes assignments row id index → index.unique →
        ∀ r ∈ t.rows, r.id ≠ row.id →
          ¬ sameKey (t.keyOf index r.cells) (t.keyOf index (t.changedCells assignments row id))) ∧
      t' = (t.without row.id).placeRow ⟨id, t.changedCells assignments row id⟩ := by
  obtain ⟨id, hid, h⟩ := replaced?_of_updateRow? h
  rw [replaced?] at h
  split at h
  · exact nomatch h
  · rename_i hfault
    dsimp only at h
    split at h
    · exact nomatch h
    · rename_i hfree
      obtain ⟨u, hsettle, h⟩ := Result.bind_eq_ok_iff.1 h
      obtain ⟨rfl, hkeys⟩ := settleUnique?_keep.1 hsettle
      refine ⟨id, hid, ?_, fun hne => ?_, fun index hindex hchanges hunique r hr hrid => ?_,
        (Except.ok.inj h).symm⟩
      · cases hcells : u.cellFault? (u.isAssigned assignments)
          (u.changedCells assignments row id) with
        | none => rfl
        | some fault => exact absurd hcells (hfault fault)
      · rw [← row?_eq_none_iff]
        simpa [hne] using hfree
      · exact hkeys index (List.mem_filter.2 ⟨hindex, hchanges⟩) hunique r hr
          fun hsome => hrid (Option.some.inj hsome)

/-! ## Updated rows -/

theorem getElem?_changedCells (t : Table) (assignments : List Assignment) (row : Row) (id : Int)
    (i : Nat) : (t.changedCells assignments row id)[i]? =
      t.columns[i]?.bind fun c => (t.assigned row assignments)[i]?.map fun v =>
        if isNumberColumn c then .int (Int64.ofInt id) else c.affinity.store v := by
  rw [changedCells, List.getElem?_map, List.zip_eq_zipWith, List.getElem?_zipWith]
  cases t.columns[i]? with
  | none => rfl
  | some c => cases (t.assigned row assignments)[i]? <;> rfl

/-- A cell that a sound row keeps in an update that does not change its number. -/
theorem getElem?_changedCells_of_not_isAssigned (hfits : Fits t.columns row.id row.cells)
    {i : Nat} (h : t.isAssigned assignments i = false) {c : ColumnDef} (hc : t.columns[i]? = some c)
    {id : Int} (hid : isNumberColumn c → id = row.id) :
    (t.changedCells assignments row id)[i]? = row.cells[i]? := by
  rw [getElem?_changedCells, hc, Option.bind_some, getElem?_assigned_of_not_isAssigned h]
  cases hv : row.cells[i]? with
  | none => rfl
  | some v =>
    have hholds := hfits.holds i c v hc hv
    rw [Option.map_some]
    split_ifs with hnumber
    · rw [hid hnumber, ← hholds.number hnumber]
    · rw [hholds.stored]

/-- The cells of an updated row fit the columns. -/
theorem Fits.changedCells (hfits : Fits t.columns row.id row.cells) {id : Int}
    (hfault : t.cellFault? (t.isAssigned assignments) (t.changedCells assignments row id) = none) :
    Fits t.columns id (t.changedCells assignments row id) := by
  have hwidth : (t.changedCells assignments row id).length = t.columns.length := by
    rw [Table.changedCells, List.length_map, List.length_zip, length_assigned, hfits.width,
      Nat.min_self]
  rw [cellFault?_eq_none_iff] at hfault
  refine ⟨hwidth, fun i c v hc hv => ?_⟩
  have hv' := hv
  rw [getElem?_changedCells, hc, Option.bind_some, Option.map_eq_some_iff] at hv'
  obtain ⟨w, hw, hwv⟩ := hv'
  by_cases hnumber : isNumberColumn c
  · rw [if_pos hnumber] at hwv
    refine ⟨fun _ => hwv.symm, ?_, fun _ => ?_, fun h => ?_⟩
    · rw [← hwv, affinity_of_isNumberColumn hnumber]
      rfl
    · rw [← hwv]
      rfl
    · rw [hnumber] at h
      exact nomatch h
  · rw [if_neg hnumber] at hwv
    have hstored : c.affinity.store v = v := by rw [← hwv, Affinity.store_store]
    by_cases hassigned : t.isAssigned assignments i
    · -- an assigned column is looked at again
      obtain ⟨hnull, haccepts⟩ := hfault i c v hc hv hassigned
      refine ⟨fun h => absurd h hnumber, hstored, fun hn => ?_, fun _ => haccepts⟩
      by_contra hisNull
      exact hnumber (hnull hn (by simpa using hisNull))
    · -- any other column has the cell that it had
      rw [Bool.not_eq_true] at hassigned
      rw [getElem?_changedCells_of_not_isAssigned hfits hassigned hc fun h => absurd h hnumber] at hv
      have hholds := hfits.holds i c v hc hv
      exact ⟨fun h => absurd h hnumber, hstored, hholds.notNull, hholds.accepted⟩

/-- An index without an assigned column keeps its key. -/
theorem keyOf_changedCells (hfits : Fits t.columns row.id row.cells) {id : Int} {index : Index}
    (h : t.changes assignments row id index = false) :
    t.keyOf index (t.changedCells assignments row id) = t.keyOf index row.cells := by
  rw [changes, Bool.or_eq_false_iff, decide_eq_false_iff_not, not_not, List.any_eq_false] at h
  rw [keyOf_eq, keyOf_eq]
  refine List.map_congr_left fun name hname => ?_
  have hname := h.2 name hname
  rw [cellOf, cellOf]
  cases hi : t.position? name with
  | none => rfl
  | some i =>
    rw [hi, Bool.not_eq_true] at hname
    obtain ⟨hlt, -⟩ := List.findIdx?_eq_some_iff_getElem.1 hi
    rw [Option.bind_some, Option.bind_some, getElem?_changedCells_of_not_isAssigned hfits hname
      (List.getElem?_eq_getElem hlt) fun _ => h.1]

/-- **An update keeps a table sound.** -/
theorem Sound.updateRow? (h : t.Sound) (hrow : row ∈ t.rows)
    (hok : t.updateRow? assignments row = .ok t') :
    t'.Sound ∧ ∃ id cells, t' = (t.without row.id).placeRow ⟨id, cells⟩ := by
  obtain ⟨id, -, hfault, hfree, hkeys, rfl⟩ := updateRow?_eq_ok hok
  have hfits := h.fits row hrow
  refine ⟨(h.filter fun r => r.id ≠ row.id).placeRow (hfits.changedCells hfault) ?_, _, _, rfl⟩
  intro r hr hclash
  obtain ⟨hr, hrid⟩ := List.mem_filter.1 hr
  rw [decide_eq_true_eq] at hrid
  rcases (clashes_iff _ _ _ _).1 hclash with hid | hcollides
  · by_cases hsame : id = row.id
    · exact hrid (hid.trans hsame)
    · exact hfree hsame r hr hid
  · obtain ⟨index, hindex, hmeets⟩ := List.any_eq_true.1 hcollides
    obtain ⟨hunique, hkey⟩ := (Bool.and_eq_true _ _).mp hmeets
    by_cases hchanges : t.changes assignments row id index
    · exact hkeys index hindex hchanges hunique r hr hrid hkey
    · rw [Bool.not_eq_true] at hchanges
      have hkey' : sameKey (t.keyOf index r.cells) (t.keyOf index row.cells) := by
        rw [← keyOf_changedCells hfits hchanges]
        exact hkey
      have hcollides' : t.collides r.cells row.cells :=
        List.any_eq_true.2 ⟨index, hindex, (Bool.and_eq_true _ _).mpr ⟨hunique, hkey'⟩⟩
      exact hrid (congrArg Row.id (h.unique r hr row hrow hcollides'))

/-! ## Several rows -/

/-- What a changed row keeps, several changed rows keep. -/
theorem updateRows?_keeps {P : Table → Prop} {rows : List Row} (hP : P t)
    (hstep : ∀ u u', ∀ row ∈ rows, P u → u.updateRow? assignments row = .ok u' → P u')
    (hok : updateRows? assignments t rows = .ok t') : P t' := by
  induction rows generalizing t with
  | nil =>
    rw [updateRows?, Except.ok.injEq] at hok
    rwa [← hok]
  | cons row rest ih =>
    obtain ⟨u, hrow, hrest⟩ := Result.bind_eq_ok_iff.1 hok
    exact ih (hstep t u row List.mem_cons_self hP hrow)
      (fun v v' r hr => hstep v v' r (List.mem_cons_of_mem _ hr)) hrest

theorem alike_updateRows? {rows : List Row} (h : updateRows? assignments t rows = .ok t') :
    t.Alike t' := by
  refine updateRows?_keeps (P := t.Alike) (Alike.refl t) (fun u u' row _ hu hrow => ?_) h
  obtain ⟨id, -, -, -, -, rfl⟩ := updateRow?_eq_ok hrow
  exact hu.trans ⟨_, rfl⟩

theorem Ascending.updateRows? (h : t.Ascending) {rows : List Row}
    (hok : Table.updateRows? assignments t rows = .ok t') : t'.Ascending := by
  refine updateRows?_keeps h (fun u u' row _ hu hrow => ?_) hok
  obtain ⟨id, -, -, hfree, -, rfl⟩ := updateRow?_eq_ok hrow
  refine (Ascending.sublist hu List.filter_sublist).placeRow fun r hr => ?_
  obtain ⟨hr, hne⟩ := List.mem_filter.1 hr
  by_cases hid : id = row.id
  · rw [hid]
    exact of_decide_eq_true hne
  · exact hfree hid r hr

/-- **What the update of one row preserves, the update of several preserves.** -/
theorem Sound.updateRows?_induction {P : Table → Prop} {rows : List Row} (h : t.Sound) (hP : P t)
    (hsub : rows.Sublist t.rows)
    (hstep : ∀ u u' row, u.Sound → t.Alike u → P u → row ∈ u.rows → row ∈ rows →
      u.updateRow? assignments row = .ok u' → P u')
    (hok : updateRows? assignments t rows = .ok t') : P t' ∧ t'.Sound ∧ t.Alike t' := by
  have hids : rows.Pairwise fun a b => a.id < b.id := h.ascending.sublist hsub
  suffices hrun : ∀ u, u.Sound → t.Alike u → P u → ∀ rest, (∀ r ∈ rest, r ∈ rows) →
      (∀ r ∈ rest, r ∈ u.rows) → (rest.Pairwise fun a b => a.id < b.id) →
      updateRows? assignments u rest = .ok t' → P t' ∧ t'.Sound ∧ t.Alike t' from
    hrun t h (Alike.refl t) hP rows (fun _ hr => hr) (fun r hr => hsub.subset hr) hids hok
  intro u hu halike hPu rest
  induction rest generalizing u with
  | nil =>
    intro _ _ _ hok
    rw [updateRows?, Except.ok.injEq] at hok
    rw [← hok]
    exact ⟨hPu, hu, halike⟩
  | cons row rest ih =>
    intro hmem hin hids hok
    obtain ⟨u', hrow, hrest⟩ := Result.bind_eq_ok_iff.1 hok
    obtain ⟨hu', id, cells, rfl⟩ := hu.updateRow? (hin row List.mem_cons_self) hrow
    rw [List.pairwise_cons] at hids
    refine ih _ hu' (halike.trans ⟨_, rfl⟩)
      (hstep u _ row hu halike hPu (hin row List.mem_cons_self) (hmem row List.mem_cons_self) hrow)
      (fun r hr => hmem r (List.mem_cons_of_mem _ hr)) (fun r hr => ?_) hids.2 hrest
    -- later rows have other numbers, so they are still there
    refine (mem_place _ _ _).2 (.inr (List.mem_filter.2 ⟨hin r (List.mem_cons_of_mem _ hr), ?_⟩))
    have hlt := hids.1 r hr
    rw [decide_eq_true_eq]
    omega

/-- **Updates keep a table sound.** -/
theorem Sound.updateRows? {rows : List Row} (h : t.Sound) (hsub : rows.Sublist t.rows)
    (hok : updateRows? assignments t rows = .ok t') : t'.Sound ∧ t.Alike t' :=
  (h.updateRows?_induction (P := fun _ => True) trivial hsub
    (fun _ _ _ _ _ _ _ _ _ => trivial) hok).2

theorem Rectangular.updateRows? (h : t.Rectangular) {rows : List Row}
    (hrows : ∀ r ∈ rows, r.cells.length = t.columns.length)
    (hok : Table.updateRows? assignments t rows = .ok t') : t'.Rectangular := by
  refine (updateRows?_keeps (P := fun u => u.columns = t.columns ∧ u.Rectangular) ⟨rfl, h⟩
    (fun u u' row hrow hu hok => ?_) hok).2
  obtain ⟨id, -, -, -, -, rfl⟩ := updateRow?_eq_ok hok
  refine ⟨hu.1, (Rectangular.sublist hu.2 List.filter_sublist).placeRow ?_⟩
  rw [changedCells, List.length_map, List.length_zip, length_assigned, hrows row hrow, ← hu.1]
  exact Nat.min_self _

theorem Sound.deleteRows (h : t.Sound) (rows : List Row) :
    (t.deleteRows rows).Sound ∧ t.Alike (t.deleteRows rows) :=
  ⟨h.filter _, _, rfl⟩

/-- To remove the rows of a kind is to keep the others. -/
theorem Ascending.deleteRows_filter (h : t.Ascending) (p : Row → Bool) :
    t.deleteRows (t.rows.filter p) = { t with rows := t.rows.filter fun r => !p r } := by
  rw [Table.deleteRows]
  congr 1
  refine List.filter_congr fun r hr => ?_
  rw [Bool.not_inj_iff, Bool.eq_iff_iff, List.any_eq_true]
  constructor
  · rintro ⟨d, hd, hid⟩
    obtain ⟨hmem, hp⟩ := List.mem_filter.1 hd
    rwa [← h.eq_of_id_eq hmem hr (of_decide_eq_true hid)]
  · intro hp
    exact ⟨r, List.mem_filter.2 ⟨hr, hp⟩, decide_eq_true rfl⟩

/-! ## Rows afterwards -/

/-- A row becomes another by assignments. -/
def ChangesTo (t : Table) (assignments : List Assignment) (row row' : Row) : Prop :=
  t.NumberedBy assignments row row'.id ∧ row'.cells = t.changedCells assignments row row'.id

namespace ChangesTo

variable {row' : Row}

/-- A row keeps its number if assignments are of columns, and not of the one that is the number. -/
theorem id_eq (h : t.ChangesTo assignments row row')
    (hplaces : ∀ a ∈ assignments, (t.position? a.column).isSome)
    (hnumber : ∀ i, t.numberColumn? = some i → t.isAssigned assignments i = false) :
    row'.id = row.id := by
  have hnames : t.assignedNumber? row assignments = none := by
    have hfind : (assignments.reverse.find? fun a =>
        (t.position? a.column).isNone && isRowNumberName a.column) = none := by
      rw [List.find?_eq_none]
      intro a ha
      rw [← Option.not_isSome, hplaces a (List.mem_reverse.1 ha)]
      exact Bool.false_ne_true
    rw [assignedNumber?, hfind]
  have hasked : t.askedNumber? assignments row = none := by
    rw [askedNumber?]
    cases hi : t.numberColumn? with
    | none => exact hnames
    | some i =>
      dsimp only
      rw [hnumber i hi, if_neg Bool.false_ne_true, hnames]
  have hid := h.1
  rwa [NumberedBy, hasked] at hid

/-- A column that one assignment assigns stores its value. -/
theorem getElem?_of_mem (h : t.ChangesTo assignments row row') (hnumbers : t.OneNumber)
    {a : Assignment} {i : Nat} {c : ColumnDef} (ha : a ∈ assignments)
    (hi : t.position? a.column = some i) (hc : t.columns[i]? = some c)
    (hlt : i < row.cells.length)
    (hone : ∀ b ∈ assignments, t.position? b.column = some i → b = a) :
    row'.cells[i]? = some (c.affinity.store (valueAt row i a)) := by
  have hassigned := getElem?_assigned_of_mem ha hi hlt hone
  rw [h.2, getElem?_changedCells, hc, Option.bind_some, hassigned, Option.map_some]
  split_ifs with hnumber
  · -- the row has the number that the value asks for
    have hasked : t.askedNumber? assignments row = some (valueAt row i a) := by
      have hany : t.isAssigned assignments i = true :=
        List.any_eq_true.2 ⟨a, ha, decide_eq_true hi⟩
      rw [askedNumber?, hnumbers i c hc hnumber]
      dsimp only
      rw [hany, if_pos rfl, hassigned]
    have hid := h.1
    rw [NumberedBy, hasked] at hid
    rw [store_of_rowId? hnumber hid]
  · rfl

/-- A column that is not assigned keeps its cell. -/
theorem getElem?_of_not_isAssigned (h : t.ChangesTo assignments row row') (hnumbers : t.OneNumber)
    (hfits : Fits t.columns row.id row.cells)
    (hplaces : ∀ a ∈ assignments, (t.position? a.column).isSome) {i : Nat} {c : ColumnDef}
    (hc : t.columns[i]? = some c) (hnot : t.isAssigned assignments i = false) :
    row'.cells[i]? = row.cells[i]? := by
  rw [h.2]
  refine getElem?_changedCells_of_not_isAssigned hfits hnot hc fun hnumber => ?_
  refine h.id_eq hplaces fun j hj => ?_
  rwa [← Option.some.inj ((hnumbers i c hc hnumber).symm.trans hj)]

end ChangesTo

/-- A row is removed first, and then others. -/
theorem filter_without (row : Row) (rest : List Row) :
    ((t.without row.id).rows.filter fun r => !rest.any fun d => d.id = r.id) =
      (t.deleteRows (row :: rest)).rows := by
  show (t.rows.filter _).filter _ = t.rows.filter _
  rw [List.filter_filter]
  refine List.filter_congr fun r _ => ?_
  have hne : decide (r.id ≠ row.id) = !decide (row.id = r.id) := by
    rw [← decide_not, decide_eq_decide, ne_comm]
  rw [List.any_cons, Bool.not_or, Bool.and_comm, hne]

/-- **What an update leaves**: the other rows, and those that the rows become. -/
theorem Sound.rows_updateRows? {rows : List Row} (h : t.Sound) (hmem : ∀ r ∈ rows, r ∈ t.rows)
    (hids : rows.Pairwise fun a b => a.id < b.id)
    (hok : Table.updateRows? assignments t rows = .ok t') :
    ∃ changed, List.Forall₂ (t.ChangesTo assignments) rows changed ∧
      t'.rows.Perm ((t.deleteRows rows).rows ++ changed) := by
  induction rows generalizing t with
  | nil =>
    rw [Table.updateRows?, Except.ok.injEq] at hok
    refine ⟨[], .nil, ?_⟩
    have hall : (t.deleteRows []).rows = t.rows := List.filter_eq_self.2 fun _ _ => rfl
    rw [← hok, hall, List.append_nil]
  | cons row rest ih =>
    rw [List.forall_mem_cons] at hmem
    rw [List.pairwise_cons] at hids
    obtain ⟨u, hrow, hrest⟩ := Result.bind_eq_ok_iff.1 hok
    have hu := (h.updateRow? hmem.1 hrow).1
    obtain ⟨id, hid, -, hfree, -, rfl⟩ := updateRow?_eq_ok hrow
    generalize hnew : (⟨id, t.changedCells assignments row id⟩ : Row) = new at hrest hu
    have hnewid : new.id = id := by rw [← hnew]
    have hafter : ((t.without row.id).placeRow new).rows.Perm (new :: (t.without row.id).rows) :=
      perm_place _ _
    -- later rows have other numbers, so they are still there
    have hin : ∀ r ∈ rest, r ∈ ((t.without row.id).placeRow new).rows := by
      intro r hr
      have hlt := hids.1 r hr
      refine hafter.mem_iff.2 (List.mem_cons_of_mem _ (List.mem_filter.2 ⟨hmem.2 r hr, ?_⟩))
      rw [decide_eq_true_eq]
      omega
    obtain ⟨changed, hchanged, hperm⟩ := ih hu hin hids.2 hrest
    refine ⟨new :: changed, .cons ⟨?_, ?_⟩ hchanged, ?_⟩
    · rwa [hnewid]
    · rw [hnewid, ← hnew]
    · -- the new row is none of those that are still to be changed
      have hnone : (!rest.any fun d => d.id = new.id) = true := by
        rw [Bool.not_eq_true', List.any_eq_false]
        intro r hr
        rw [decide_eq_true_eq, hnewid]
        have hlt := hids.1 r hr
        by_cases hsame : id = row.id
        · omega
        · exact hfree hsame r (hmem.2 r hr)
      have hleft := hafter.filter fun r => !rest.any fun d => d.id = r.id
      rw [List.filter_cons, if_pos hnone, filter_without] at hleft
      exact (hperm.trans (hleft.append_right changed)).trans List.perm_middle.symm

/-! ## Rows that a change is about -/

theorem sublist_scanRows? {conditions : List Condition} {limit : Option Nat} {rows found : List Row}
    (h : t.scanRows? conditions limit rows = .ok found) : found.Sublist rows := by
  induction rows generalizing limit found with
  | nil =>
    rw [scanRows?.eq_def] at h
    split at h
    · rw [← Except.ok.inj h]
    · rw [← Except.ok.inj h]
    · rename_i heq
      exact nomatch heq
  | cons row rest ih =>
    rw [scanRows?.eq_def] at h
    split at h
    · rw [← Except.ok.inj h]
      exact List.nil_sublist _
    · rename_i heq
      exact nomatch heq
    · rename_i heq
      obtain ⟨rfl, rfl⟩ := List.cons.inj heq
      split_ifs at h
      · obtain ⟨more, hmore, rfl⟩ := Result.map_eq_ok_iff.1 h
        exact (ih hmore).cons_cons _
      · exact (ih h).cons _

/-- Without conditions, all rows are found. -/
theorem scanRows?_nil (t : Table) (rows : List Row) : t.scanRows? [] none rows = .ok rows := by
  induction rows with
  | nil => rfl
  | cons r rest ih =>
    show (t.scanRows? [] none rest).map (r :: ·) = _
    rw [ih]
    rfl

end Table

namespace Database

theorem sublist_targetRows? {t : Table} {target : Target} {rows : List Row}
    (h : targetRows? t target = .ok rows) : rows.Sublist t.rows := by
  cases target with
  | every conditions => exact Table.sublist_scanRows? h
  | first conditions =>
    obtain ⟨found, -, h⟩ := Result.bind_eq_ok_iff.1 h
    rw [← Except.ok.inj h]
    exact List.filter_sublist

end Database
end Daybook.Sql
