import Daybook.Proofs.Result
import Daybook.Proofs.Sql.Table

/-!
# Insertions of one row

A row is added if its cells pass the checks of their columns; where rows are replaced, those with
which it clashes go, and otherwise there must be none (**`Sound.insertRow?_eq_ok_iff`**).

* `Table.newCells`, `Table.inserted`: the cells of a new row, and the table with it;
* `cellFault?_eq_none_iff`, `fits_newCells`: the checks, and what they are good for;
* `settleUnique?_replace`, `settleUnique?_keep`: how clashes are settled.
-/

namespace Daybook.Sql.Table

variable {t t' : Table}

/-! ## Checks of cells -/

theorem mem_zip_zipIdx_iff {α β : Type} (xs : List α) (ys : List β) (x : α) (y : β) (i : Nat) :
    ((x, y), i) ∈ (xs.zip ys).zipIdx ↔ xs[i]? = some x ∧ ys[i]? = some y := by
  rw [List.mk_mem_zipIdx_iff_getElem?, List.getElem?_zip_eq_some]

theorem nullFault?_eq_none_iff (t : Table) (looksAt : Nat → Bool) (cells : List Cell) :
    t.nullFault? looksAt cells = none ↔ ∀ (i : Nat) c v, t.columns[i]? = some c →
      cells[i]? = some v → looksAt i → c.notNull → v.isNull → isNumberColumn c := by
  rw [nullFault?, Option.map_eq_none_iff, List.find?_eq_none]
  constructor
  · intro h i c v hc hv hlooks hnotNull hnull
    have := h ((c, v), i) ((mem_zip_zipIdx_iff _ _ c v i).2 ⟨hc, hv⟩)
    simpa [hlooks, hnotNull, hnull] using this
  · rintro h ⟨⟨c, v⟩, i⟩ hmem
    obtain ⟨hc, hv⟩ := (mem_zip_zipIdx_iff _ _ c v i).1 hmem
    have := h i c v hc hv
    simp only [Bool.and_eq_true, Bool.not_eq_true', not_and]
    intro hall
    simp [this hall.1.1 hall.1.2 hall.2]

theorem checkFault?_eq_none_iff (t : Table) (looksAt : Nat → Bool) (cells : List Cell) :
    t.checkFault? looksAt cells = none ↔ ∀ (i : Nat) c v, t.columns[i]? = some c →
      cells[i]? = some v → looksAt i → accepts c v := by
  rw [checkFault?, Option.map_eq_none_iff, List.find?_eq_none]
  constructor
  · intro h i c v hc hv hlooks
    have := h ((c, v), i) ((mem_zip_zipIdx_iff _ _ c v i).2 ⟨hc, hv⟩)
    simpa [hlooks] using this
  · rintro h ⟨⟨c, v⟩, i⟩ hmem
    obtain ⟨hc, hv⟩ := (mem_zip_zipIdx_iff _ _ c v i).1 hmem
    have := h i c v hc hv
    simp only [Bool.and_eq_true, Bool.not_eq_true', not_and]
    intro hlooks
    simp [this hlooks]

theorem cellFault?_eq_none_iff (t : Table) (looksAt : Nat → Bool) (cells : List Cell) :
    t.cellFault? looksAt cells = none ↔ ∀ (i : Nat) c v, t.columns[i]? = some c →
      cells[i]? = some v → looksAt i →
        (c.notNull → v.isNull → isNumberColumn c) ∧ accepts c v := by
  rw [cellFault?, Option.or_eq_none_iff, nullFault?_eq_none_iff, checkFault?_eq_none_iff]
  constructor
  · rintro ⟨h, h'⟩ i c v hc hv hlooks
    exact ⟨h i c v hc hv hlooks, h' i c v hc hv hlooks⟩
  · intro h
    exact ⟨fun i c v hc hv hlooks => (h i c v hc hv hlooks).1,
      fun i c v hc hv hlooks => (h i c v hc hv hlooks).2⟩

/-! ## Cells of new rows -/

/-- The cells of a new row of a number. -/
def newCells (t : Table) (replace : Bool) (given : Nat → Option Cell) (id : Int) : List Cell :=
  (t.columns.zip (t.filled given)).map fun (c, v) =>
    if isNumberColumn c then .int (Int64.ofInt id) else storedCell replace c v

/-- The cell of a new row in a column. -/
def newCell (replace : Bool) (c : ColumnDef) (given : Option Cell) (id : Int) : Cell :=
  if isNumberColumn c then .int (Int64.ofInt id)
  else storedCell replace c (given.getD (c.default.getD .null))

theorem getElem?_newCells (t : Table) (replace : Bool) (given : Nat → Option Cell) (id : Int)
    (i : Nat) : (t.newCells replace given id)[i]? =
      t.columns[i]?.map fun c => newCell replace c (given i) id := by
  have hfilled : (t.filled given)[i]? =
      t.columns[i]?.map fun c => (given i).getD (c.default.getD .null) := by
    rw [filled, List.getElem?_map, List.getElem?_zipIdx, Option.map_map]
    simp only [Function.comp_def, Nat.zero_add]
  rw [newCells, List.getElem?_map, List.zip_eq_zipWith, List.getElem?_zipWith, hfilled]
  cases t.columns[i]? with
  | none => rfl
  | some c => rfl

theorem length_newCells (t : Table) (replace : Bool) (given : Nat → Option Cell) (id : Int) :
    (t.newCells replace given id).length = t.columns.length := by
  simp [newCells, filled]

theorem affinity_of_isNumberColumn {c : ColumnDef} (h : isNumberColumn c) :
    c.affinity = .integer := by
  rw [isNumberColumn, Bool.and_eq_true, decide_eq_true_eq] at h
  have hchars : c.type.toList.map Char.toUpper = "INTEGER".toList := by
    rw [← h.2, upper, String.toList_ofList]
  rw [ColumnDef.affinity, Affinity.ofDeclared, hchars]
  rfl

/-- The number of a row is stored as the value that asks for it. -/
theorem store_of_rowId? {c : ColumnDef} (hnumber : isNumberColumn c) {v : Cell} {id : Int}
    (h : rowId? v = some id) : c.affinity.store v = .int (Int64.ofInt id) := by
  have hinteger : Affinity.integer.store v = Affinity.toNumber v := rfl
  rw [affinity_of_isNumberColumn hnumber, hinteger]
  rw [rowId?] at h
  split at h
  · rename_i n hn
    rw [hn, ← Option.some.inj h, Int64.ofInt_toInt]
  · exact nomatch h

/-- Cells of a new row that pass the checks fit the columns. -/
theorem fits_newCells {replace : Bool} {given : Nat → Option Cell} {id : Int}
    (h : t.cellFault? (fun _ => true) (t.newCells replace given id) = none) :
    Fits t.columns id (t.newCells replace given id) := by
  rw [cellFault?_eq_none_iff] at h
  refine ⟨length_newCells t replace given id, fun i c v hc hv => ?_⟩
  obtain ⟨hnull, haccepts⟩ := h i c v hc hv rfl
  rw [getElem?_newCells, hc, Option.map_some, Option.some.injEq] at hv
  refine ⟨fun hnumber => ?_, ?_, fun hn => ?_, fun _ => haccepts⟩
  · rw [← hv, newCell, if_pos hnumber]
  · rw [← hv, newCell]
    split_ifs with hnumber
    · rw [affinity_of_isNumberColumn hnumber]
      rfl
    · rw [storedCell, Affinity.store_store]
  · by_contra hv'
    have hnumber := hnull hn (by simpa using hv')
    rw [← hv, newCell, if_pos hnumber] at hv'
    exact hv' rfl

/-! ## Clashes -/

/-- A row has the same key in one of the unique indexes. -/
def meetsIn (t : Table) (indexes : List Index) (cells : List Cell) (r : Row) : Bool :=
  indexes.any fun index => index.unique && sameKey (t.keyOf index r.cells) (t.keyOf index cells)

theorem sameKey_trans (t : Table) (index : Index) {a b c : List Cell}
    (h : sameKey (t.keyOf index a) (t.keyOf index b))
    (h' : sameKey (t.keyOf index b) (t.keyOf index c)) :
    sameKey (t.keyOf index a) (t.keyOf index c) := by
  rw [keyOf_eq, keyOf_eq, sameKey_map_iff] at h h' ⊢
  exact fun x hx => (h x hx).trans (h' x hx)

theorem sameKey_symm (t : Table) (index : Index) {a b : List Cell}
    (h : sameKey (t.keyOf index a) (t.keyOf index b)) :
    sameKey (t.keyOf index b) (t.keyOf index a) := by
  rw [keyOf_eq, keyOf_eq, sameKey_map_iff] at h ⊢
  exact fun x hx => (h x hx).symm

theorem conflict?_eq_none_iff (t : Table) (index : Index) (id : Option Int) (cells : List Cell) :
    (if index.unique then t.conflict? index id cells else none) = none ↔
      ∀ r ∈ t.rows, some r.id ≠ id → index.unique →
        ¬ sameKey (t.keyOf index r.cells) (t.keyOf index cells) := by
  cases hu : index.unique with
  | false => simp
  | true =>
    rw [if_pos rfl, conflict?, List.find?_eq_none]
    simp only [Bool.and_eq_true, decide_eq_true_eq, not_and, forall_const]

theorem of_conflict?_eq_some {index : Index} {id : Option Int} {cells : List Cell} {r : Row}
    (h : (if index.unique then t.conflict? index id cells else none) = some r) :
    r ∈ t.rows ∧ some r.id ≠ id ∧ index.unique ∧
      sameKey (t.keyOf index r.cells) (t.keyOf index cells) := by
  split_ifs at h with hu
  have hsome := List.find?_some h
  rw [Bool.and_eq_true, decide_eq_true_eq] at hsome
  exact ⟨List.mem_of_find?_eq_some h, hsome.1, hu, hsome.2⟩

/-- Where keys are unique, the rows that have a key of the new cells are gone. -/
theorem settleUnique?_replace (cells : List Cell) (indexes : List Index) (t : Table)
    (hid : ∀ a ∈ t.rows, ∀ b ∈ t.rows, a.id = b.id → a = b)
    (hunique : ∀ index ∈ indexes, index.unique → ∀ a ∈ t.rows, ∀ b ∈ t.rows,
      sameKey (t.keyOf index a.cells) (t.keyOf index b.cells) → a = b) :
    settleUnique? true none cells indexes t =
      .ok { t with rows := t.rows.filter fun r => !t.meetsIn indexes cells r } := by
  induction indexes generalizing t with
  | nil => simp [settleUnique?, meetsIn]
  | cons index rest ih =>
    have hrest : ∀ i ∈ rest, i.unique → ∀ a ∈ t.rows, ∀ b ∈ t.rows,
        sameKey (t.keyOf i a.cells) (t.keyOf i b.cells) → a = b :=
      fun i hi => hunique i (List.mem_cons_of_mem _ hi)
    rw [settleUnique?]
    split
    · rename_i hnone
      rw [conflict?_eq_none_iff] at hnone
      rw [ih t hid hrest]
      congr 2
      refine List.filter_congr fun r hr => ?_
      have hr := hnone r hr (Option.some_ne_none _)
      rw [meetsIn, meetsIn, List.any_cons]
      cases hu : index.unique <;> simp_all
    · -- the only row with the key of the index is removed
      rename_i r hsome
      obtain ⟨hr, -, hu, hkey⟩ := of_conflict?_eq_some hsome
      have hsub : ∀ a ∈ (t.without r.id).rows, a ∈ t.rows := fun a ha => List.mem_of_mem_filter ha
      rw [if_pos rfl, ih (t.without r.id) (fun a ha b hb => hid a (hsub a ha) b (hsub b hb))
        fun i hi hu a ha b hb => hrest i hi hu a (hsub a ha) b (hsub b hb)]
      show Except.ok { t with rows := (t.rows.filter _).filter _ } = _
      rw [List.filter_filter]
      congr 2
      refine List.filter_congr fun a ha => ?_
      have hiff : a.id = r.id ↔ sameKey (t.keyOf index a.cells) (t.keyOf index cells) := by
        constructor
        · intro h
          rwa [hid a ha r hr h]
        · intro h
          have har := t.sameKey_trans index h (t.sameKey_symm index hkey)
          rw [hunique index List.mem_cons_self hu a ha r hr har]
      show (!t.meetsIn rest cells a && decide (a.id ≠ r.id)) = !t.meetsIn (index :: rest) cells a
      rw [meetsIn, meetsIn, List.any_cons, hu, Bool.true_and, Bool.not_or, Bool.and_comm]
      congr 1
      rw [Bool.eq_iff_iff, decide_eq_true_eq, Ne, hiff, Bool.not_eq_true, Bool.not_eq_true']

/-- Where rows are not replaced, no row has a key of the new cells. -/
theorem settleUnique?_keep {id : Option Int} {cells : List Cell} {indexes : List Index} :
    settleUnique? false id cells indexes t = .ok t' ↔ t' = t ∧ ∀ index ∈ indexes, index.unique →
      ∀ r ∈ t.rows, some r.id ≠ id → ¬ sameKey (t.keyOf index r.cells) (t.keyOf index cells) := by
  induction indexes with
  | nil =>
    rw [settleUnique?, Except.ok.injEq]
    constructor
    · rintro rfl
      exact ⟨rfl, fun _ h => absurd h List.not_mem_nil⟩
    · rintro ⟨rfl, -⟩
      rfl
  | cons index rest ih =>
    rw [settleUnique?]
    split
    · rename_i hnone
      rw [conflict?_eq_none_iff] at hnone
      rw [ih, List.forall_mem_cons]
      refine and_congr_right fun _ => ?_
      rw [and_iff_right]
      exact fun hu r hr hid => hnone r hr hid hu
    · rename_i r hsome
      obtain ⟨hr, hid, hu, hkey⟩ := of_conflict?_eq_some hsome
      simp only [Bool.false_eq_true, if_false, reduceCtorEq, false_iff, not_and]
      intro _ hall
      exact hall index List.mem_cons_self hu r hr hid hkey

/-! ## One row -/

/-- The table with a row in place of those with which it clashes. -/
def inserted (t : Table) (id : Int) (cells : List Cell) : Table :=
  { t with rows := t.rows.filter fun r => !t.clashes id cells r }.placeRow ⟨id, cells⟩

theorem mem_inserted (t : Table) (id : Int) (cells : List Cell) (r : Row) :
    r ∈ (t.inserted id cells).rows ↔
      r = ⟨id, cells⟩ ∨ (r ∈ t.rows ∧ t.clashes id cells r = false) := by
  rw [inserted, placeRow, mem_place, List.mem_filter, Bool.not_eq_true']

/-- A row may take the place of those with which it clashes. -/
theorem Sound.inserted (h : t.Sound) {id : Int} {cells : List Cell}
    (hfits : Fits t.columns id cells) : (t.inserted id cells).Sound := by
  refine (h.filter fun r => !t.clashes id cells r).placeRow hfits fun r hr hclash => ?_
  have := (List.mem_filter.1 hr).2
  rw [Bool.not_eq_true'] at this
  exact absurd hclash (by rw [← Bool.not_eq_true] at this; exact this)

theorem Sound.settleUnique?_replace (h : t.Sound) (id : Int) (cells : List Cell) :
    settleUnique? true none cells t.indexes (t.without id) =
      .ok { t with rows := t.rows.filter fun r => !t.clashes id cells r } := by
  have hsub : ∀ a ∈ (t.without id).rows, a ∈ t.rows := fun a ha => List.mem_of_mem_filter ha
  rw [Table.settleUnique?_replace]
  · show Except.ok { t with rows := (t.rows.filter _).filter _ } = _
    rw [List.filter_filter]
    congr 2
    refine List.filter_congr fun r _ => ?_
    show (!t.collides r.cells cells && decide (r.id ≠ id)) = _
    rw [clashes, Bool.not_or, Bool.and_comm, decide_not]
  · exact fun a ha b hb => h.eq_of_id_eq (hsub a ha) (hsub b hb)
  · intro index hindex hu a ha b hb hkey
    refine h.unique a (hsub a ha) b (hsub b hb) ?_
    rw [collides, List.any_eq_true]
    exact ⟨index, hindex, (Bool.and_eq_true _ _).mpr ⟨hu, hkey⟩⟩

/-- The table without the rows in the way of a new one, if these may be removed or there is none. -/
def settle? (t : Table) (replace : Bool) (id : Int) (cells : List Cell) : Except Fault Table :=
  if (t.row? id).isSome && !replace then .error t.numberTaken
  else settleUnique? replace none cells t.indexes (t.without id)

theorem insertRow?_eq (t : Table) (replace : Bool) (given : Nat → Option Cell)
    (number : Option Cell) :
    t.insertRow? replace given number =
      match t.newRowId? number with
      | .error fault => .error fault
      | .ok id =>
        match t.cellFault? (fun _ => true) (t.newCells replace given id) with
        | some fault => .error fault
        | none => (t.settle? replace id (t.newCells replace given id)).map fun u =>
            (u.placeRow ⟨id, t.newCells replace given id⟩, id) := by
  rw [insertRow?]
  cases t.newRowId? number with
  | error fault => rfl
  | ok id =>
    simp only [bind, Except.bind]
    generalize hcells : List.map _ (t.columns.zip (t.filled given)) = cells
    rw [show t.newCells replace given id = cells from hcells]
    cases t.cellFault? (fun _ => true) cells with
    | some fault => rfl
    | none =>
      simp only [settle?]
      split_ifs with htaken
      · rfl
      · cases settleUnique? replace none cells t.indexes (t.without id) <;> rfl

theorem row?_eq_none_iff (t : Table) (id : Int) : t.row? id = none ↔ ∀ r ∈ t.rows, r.id ≠ id := by
  rw [row?, List.find?_eq_none]
  simp only [decide_eq_true_eq, ne_eq]

/-- Rows that are not replaced: there must be none that clashes. -/
theorem settleUnique?_without (t : Table) (id : Int) (cells : List Cell) (u : Table) :
    (t.row? id).isSome = false ∧
        settleUnique? false none cells t.indexes (t.without id) = .ok u ↔
      (∀ r ∈ t.rows, t.clashes id cells r = false) ∧ u = t := by
  rw [Option.isSome_eq_false_iff, Option.isNone_iff_eq_none, row?_eq_none_iff]
  have hclash : (∀ r ∈ t.rows, t.clashes id cells r = false) ↔
      (∀ r ∈ t.rows, r.id ≠ id) ∧ ∀ index ∈ t.indexes, index.unique → ∀ r ∈ t.rows,
        some r.id ≠ none → ¬ sameKey (t.keyOf index r.cells) (t.keyOf index cells) := by
    simp only [clashes, collides, Bool.or_eq_false_iff, decide_eq_false_iff_not,
      List.any_eq_false, Bool.and_eq_true, not_and]
    constructor
    · intro h
      exact ⟨fun r hr => (h r hr).1, fun i hi hu r hr _ => (h r hr).2 i hi hu⟩
    · intro h r hr
      exact ⟨h.1 r hr, fun i hi hu => h.2 i hi hu r hr (Option.some_ne_none _)⟩
  rw [hclash, and_assoc]
  refine and_congr_right fun hid => ?_
  have hwithout : t.without id = t := by
    have hrows : t.rows.filter (fun r => r.id ≠ id) = t.rows :=
      List.filter_eq_self.2 fun r hr => decide_eq_true (hid r hr)
    rw [without, hrows]
  rw [hwithout, settleUnique?_keep, and_comm]

/-- Where rows are not replaced, there must be none that clashes, and all rows stay. -/
theorem settle?_keep_eq_ok_iff {id : Int} {cells : List Cell} {u : Table} :
    t.settle? false id cells = .ok u ↔ (∀ r ∈ t.rows, t.clashes id cells r = false) ∧ u = t := by
  rw [← settleUnique?_without t id cells u, settle?, Bool.not_false, Bool.and_true]
  cases (t.row? id).isSome with
  | true => exact iff_of_false (fun h => nomatch h) fun h => nomatch h.1
  | false => exact (and_iff_right rfl).symm

/-- A row that clashes with none is placed among the others. -/
theorem inserted_eq_placeRow {id : Int} {cells : List Cell}
    (h : ∀ r ∈ t.rows, t.clashes id cells r = false) :
    t.inserted id cells = t.placeRow ⟨id, cells⟩ := by
  have hrows : (t.rows.filter fun r => !t.clashes id cells r) = t.rows :=
    List.filter_eq_self.2 fun r hr => by rw [h r hr, Bool.not_false]
  rw [inserted, hrows]

theorem Sound.settle?_replace (h : t.Sound) (id : Int) (cells : List Cell) :
    t.settle? true id cells = .ok { t with rows := t.rows.filter fun r => !t.clashes id cells r } := by
  rw [settle?, Bool.not_true, Bool.and_false, if_neg Bool.false_ne_true, h.settleUnique?_replace]

/-- What it takes to add a row, by what it takes to clear its place. -/
theorem insertRow?_eq_ok_iff_settle? {replace : Bool} {given : Nat → Option Cell}
    {number : Option Cell} {id : Int} :
    t.insertRow? replace given number = .ok (t', id) ↔
      t.newRowId? number = .ok id ∧
      t.cellFault? (fun _ => true) (t.newCells replace given id) = none ∧
      ∃ u, t.settle? replace id (t.newCells replace given id) = .ok u ∧
        t' = u.placeRow ⟨id, t.newCells replace given id⟩ := by
  rw [insertRow?_eq]
  cases t.newRowId? number with
  | error fault => exact iff_of_false (fun h => nomatch h) fun h => nomatch h.1
  | ok n =>
    dsimp only
    constructor
    · intro hok
      cases hfault : t.cellFault? (fun _ => true) (t.newCells replace given n) with
      | some fault =>
        rw [hfault] at hok
        exact nomatch hok
      | none =>
        rw [hfault] at hok
        obtain ⟨u, hsettle, heq⟩ := Result.map_eq_ok_iff.1 hok
        obtain ⟨rfl, rfl⟩ := Prod.mk.inj heq
        exact ⟨rfl, hfault, u, hsettle, rfl⟩
    · rintro ⟨hn, hfault, u, hsettle, rfl⟩
      obtain rfl := Except.ok.inj hn
      rw [hfault]
      exact Result.map_eq_ok_iff.2 ⟨u, hsettle, rfl⟩

/-- What it takes to add a row where rows are not replaced, and what comes of it. -/
theorem insertRow?_keep_eq_ok_iff {given : Nat → Option Cell} {number : Option Cell} {id : Int} :
    t.insertRow? false given number = .ok (t', id) ↔
      t.newRowId? number = .ok id ∧
      t.cellFault? (fun _ => true) (t.newCells false given id) = none ∧
      (∀ r ∈ t.rows, t.clashes id (t.newCells false given id) r = false) ∧
      t' = t.placeRow ⟨id, t.newCells false given id⟩ := by
  simp only [insertRow?_eq_ok_iff_settle?, settle?_keep_eq_ok_iff, and_assoc, exists_and_left,
    exists_eq_left]

/-- **What it takes to add a row, and what comes of it.** -/
theorem Sound.insertRow?_eq_ok_iff (h : t.Sound) {replace : Bool} {given : Nat → Option Cell}
    {number : Option Cell} {id : Int} :
    t.insertRow? replace given number = .ok (t', id) ↔
      t.newRowId? number = .ok id ∧
      t.cellFault? (fun _ => true) (t.newCells replace given id) = none ∧
      (replace = false → ∀ r ∈ t.rows, t.clashes id (t.newCells replace given id) r = false) ∧
      t' = t.inserted id (t.newCells replace given id) := by
  cases replace with
  | true =>
    simp only [insertRow?_eq_ok_iff_settle?, h.settle?_replace, Except.ok.injEq, exists_eq_left',
      Bool.true_eq_false, false_implies, true_and]
    rfl
  | false =>
    rw [insertRow?_keep_eq_ok_iff]
    refine and_congr_right fun _ => and_congr_right fun _ => ?_
    constructor
    · rintro ⟨hfree, rfl⟩
      exact ⟨fun _ => hfree, (inserted_eq_placeRow hfree).symm⟩
    · rintro ⟨hfree, rfl⟩
      exact ⟨hfree rfl, inserted_eq_placeRow (hfree rfl)⟩

end Daybook.Sql.Table
