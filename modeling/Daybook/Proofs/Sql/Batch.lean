import Daybook.Proofs.Sql.Insert

/-!
# Insertions of several rows

Rows are added one after the other. What one insertion preserves, all of them preserve
(`Sound.insertRows?_induction`), so a row stays if none of the values clashes with it, and the row
of values is there in the end unless later values clash with it.

* `Table.newRow`, `Table.Numbers`: the row that is made of values, and the numbers it may have;
* `Table.MadeOf`, **`perm_insertRows?`**: rows that replace none are added to those that are there;
* `Table.Spares`: no row made of the values clashes with a row that is there;
* **`Sound.mem_insertRows?_of_spares`**, `Sound.not_mem_insertRows?_of_clashes`,
  **`Sound.newRow_mem_insertRows?`**: which rows are there afterwards;
* **`Sound.exists_insertRows?`**: rows that can be added;
* `Table.RunsFrom`, **`Sound.rows_insertRows?`**: rows that no number is asked for are added in
  their order.
-/

namespace Daybook.Sql.Table

variable {t t' : Table}

/-! ## Tables that differ in their rows -/

/-- The tables differ in their rows alone. -/
def Alike (t t' : Table) : Prop := ∃ rows, t' = { t with rows := rows }

theorem Alike.refl (t : Table) : t.Alike t := ⟨t.rows, rfl⟩

theorem Alike.trans {u : Table} (h : t.Alike t') (h' : t'.Alike u) : t.Alike u := by
  obtain ⟨rows, rfl⟩ := h
  obtain ⟨rows', rfl⟩ := h'
  exact ⟨rows', rfl⟩

/-- Cells are read alike. -/
theorem Alike.cellOf_eq (h : t.Alike t') (cells : List Cell) (column : String) :
    t'.cellOf cells column = t.cellOf cells column := by
  obtain ⟨rows, rfl⟩ := h
  rfl

theorem alike_inserted (t : Table) (id : Int) (cells : List Cell) : t.Alike (t.inserted id cells) :=
  ⟨_, rfl⟩

/-- Rows go where keys are settled, and nothing else. -/
theorem settleUnique?_eq_ok {replace : Bool} {id : Option Int} {cells : List Cell}
    {indexes : List Index} (h : settleUnique? replace id cells indexes t = .ok t') :
    ∃ rows, rows.Sublist t.rows ∧ t' = { t with rows := rows } := by
  induction indexes generalizing t with
  | nil =>
    rw [settleUnique?, Except.ok.injEq] at h
    exact ⟨t.rows, List.Sublist.refl _, h.symm⟩
  | cons index rest ih =>
    rw [settleUnique?] at h
    split at h
    · exact ih h
    · split_ifs at h
      obtain ⟨rows, hrows, rfl⟩ := ih h
      exact ⟨rows, hrows.trans List.filter_sublist, rfl⟩

/-- A new row stands with some of the rows that were there, but none of its number. -/
theorem insertRow?_eq_ok {replace : Bool} {given : Nat → Option Cell} {number : Option Cell}
    {id : Int} (h : t.insertRow? replace given number = .ok (t', id)) :
    ∃ rows, rows.Sublist (t.without id).rows ∧
      t' = { t with rows := rows }.placeRow ⟨id, t.newCells replace given id⟩ := by
  obtain ⟨-, -, u, hsettle, rfl⟩ := insertRow?_eq_ok_iff_settle?.1 h
  rw [settle?] at hsettle
  split_ifs at hsettle
  obtain ⟨rows, hrows, rfl⟩ := settleUnique?_eq_ok hsettle
  exact ⟨rows, hrows, rfl⟩

theorem alike_insertRow? {replace : Bool} {given : Nat → Option Cell} {number : Option Cell}
    {id : Int} (h : t.insertRow? replace given number = .ok (t', id)) : t.Alike t' := by
  obtain ⟨rows, -, rfl⟩ := insertRow?_eq_ok h
  exact ⟨_, rfl⟩

/-! ## Rows of values -/

/-- The cells that a list of values gives to columns. -/
def givenBy (positions : List (Option Nat)) (values : List Cell) (i : Nat) : Option Cell :=
  ((positions.zip values).find? fun p => p.1 = some i).map Prod.snd

/-- The number that a list of values asks for. -/
def numberBy (t : Table) (positions : List (Option Nat)) (values : List Cell) : Option Cell :=
  ((positions.zip values).findRev? fun p => p.1 = none || p.1 = t.numberColumn?).map Prod.snd

theorem insertRows?_cons (replace : Bool) (positions : List (Option Nat)) (t : Table) (last : Int)
    (values : List Cell) (rest : List (List Cell)) :
    insertRows? replace positions t last (values :: rest) =
      (t.insertRow? replace (givenBy positions values) (t.numberBy positions values) >>= fun p =>
        insertRows? replace positions p.1 p.2 rest) := rfl

theorem insertRows?_append (replace : Bool) (positions : List (Option Nat)) (t : Table)
    (last : Int) (before after : List (List Cell)) :
    insertRows? replace positions t last (before ++ after) =
      (insertRows? replace positions t last before >>= fun p =>
        insertRows? replace positions p.1 p.2 after) := by
  induction before generalizing t last with
  | nil => rfl
  | cons values rest ih =>
    rw [List.cons_append, insertRows?_cons, insertRows?_cons, bind_assoc]
    congr 1
    funext p
    rw [ih]

/-- What a new row keeps, several new rows keep. -/
theorem insertRows?_keeps {P : Table → Prop} (hP : P t) {replace : Bool}
    {positions : List (Option Nat)} {last n : Int} {rows : List (List Cell)}
    (hstep : ∀ u u' given number id, P u → u.insertRow? replace given number = .ok (u', id) → P u')
    (hok : insertRows? replace positions t last rows = .ok (t', n)) : P t' := by
  induction rows generalizing t last with
  | nil =>
    rw [insertRows?, Except.ok.injEq, Prod.mk.injEq] at hok
    rwa [← hok.1]
  | cons values rest ih =>
    obtain ⟨⟨u, id⟩, hrow, hrest⟩ := Result.bind_eq_ok_iff.1 hok
    exact ih (hstep t u _ _ id hP hrow) hrest

theorem alike_insertRows? {replace : Bool} {positions : List (Option Nat)} {last n : Int}
    {rows : List (List Cell)} (h : insertRows? replace positions t last rows = .ok (t', n)) :
    t.Alike t' :=
  insertRows?_keeps (P := t.Alike) (Alike.refl t)
    (fun _ _ _ _ _ hu hrow => hu.trans (alike_insertRow? hrow)) h

theorem Ascending.insertRows? (h : t.Ascending) {replace : Bool}
    {positions : List (Option Nat)} {last n : Int} {rows : List (List Cell)}
    (hok : Table.insertRows? replace positions t last rows = .ok (t', n)) : t'.Ascending := by
  refine insertRows?_keeps h (fun u u' given number id hu hrow => ?_) hok
  obtain ⟨kept, hkept, rfl⟩ := insertRow?_eq_ok hrow
  refine (Ascending.sublist hu (hkept.trans List.filter_sublist)).placeRow fun r hr => ?_
  exact of_decide_eq_true (List.mem_filter.1 (hkept.subset hr)).2

theorem Rectangular.insertRows? (h : t.Rectangular) {replace : Bool}
    {positions : List (Option Nat)} {last n : Int} {rows : List (List Cell)}
    (hok : Table.insertRows? replace positions t last rows = .ok (t', n)) : t'.Rectangular := by
  refine insertRows?_keeps h (fun u u' given number id hu hrow => ?_) hok
  obtain ⟨kept, hkept, rfl⟩ := insertRow?_eq_ok hrow
  exact (Rectangular.sublist hu (hkept.trans List.filter_sublist)).placeRow (length_newCells u _ _ _)

/-- The rows do not depend on the number that is answered if there is none. -/
theorem insertRows?_last {replace : Bool} {positions : List (Option Nat)} {last n : Int}
    {rows : List (List Cell)} (h : insertRows? replace positions t last rows = .ok (t', n))
    (last' : Int) : ∃ k, insertRows? replace positions t last' rows = .ok (t', k) := by
  cases rows with
  | nil =>
    rw [insertRows?, Except.ok.injEq, Prod.mk.injEq] at h
    exact ⟨last', by rw [insertRows?, h.1]⟩
  | cons values rest => exact ⟨n, h⟩

/-- The new row of a list of values, by its number. -/
def newRow (t : Table) (replace : Bool) (positions : List (Option Nat)) (values : List Cell)
    (id : Int) : Row :=
  ⟨id, t.newCells replace (givenBy positions values) id⟩

/-- The row of the values may have the number: it is the one that they ask for, if they do. -/
def Numbers (t : Table) (positions : List (Option Nat)) (values : List Cell) (id : Int) : Prop :=
  ∀ c, t.numberBy positions values = some c → c ≠ .null → rowId? c = some id

/-- No row made of the values clashes with a row that is there. -/
structure Spares (t : Table) (replace : Bool) (positions : List (Option Nat)) (values : List Cell)
    (r : Row) : Prop where
  number : ∀ c, t.numberBy positions values = some c → c ≠ .null → rowId? c ≠ some r.id
  keys : ∀ id, t.collides r.cells (t.newRow replace positions values id).cells = false

theorem newRowId?_eq_ok {number : Option Cell} {id : Int} (h : t.newRowId? number = .ok id) :
    (number = none ∨ number = some .null) ∧ id = t.nextRowId ∨
      ∃ c, number = some c ∧ c ≠ .null ∧ rowId? c = some id := by
  unfold newRowId? at h
  split at h
  · exact .inl ⟨.inl rfl, (Except.ok.inj h).symm⟩
  · exact .inl ⟨.inr rfl, (Except.ok.inj h).symm⟩
  · rename_i c hc
    split at h
    · rename_i n hn
      exact .inr ⟨c, rfl, fun hnull => hc (by rw [hnull]), by rw [hn, Except.ok.inj h]⟩
    · exact nomatch h

theorem numbers_of_newRowId? {positions : List (Option Nat)} {values : List Cell} {id : Int}
    (h : t.newRowId? (t.numberBy positions values) = .ok id) : t.Numbers positions values id := by
  intro c hc hnull
  rcases newRowId?_eq_ok h with ⟨hn | hn, -⟩ | ⟨c', hc', -, hid⟩
  · exact nomatch hc.symm.trans hn
  · exact absurd (Option.some.inj (hc.symm.trans hn)) hnull
  · rw [Option.some.inj (hc.symm.trans hc'), hid]

/-- The row is made of the values, under a number that it may have, and fits the columns. -/
structure MadeOf (t : Table) (replace : Bool) (positions : List (Option Nat)) (values : List Cell)
    (r : Row) : Prop where
  row : r = t.newRow replace positions values r.id
  number : t.Numbers positions values r.id
  fits : Fits t.columns r.id r.cells

/-- **Where rows are not replaced, there are the old rows afterwards, and one made of each list of
values.** -/
theorem perm_insertRows? {positions : List (Option Nat)} {rows : List (List Cell)} {last n : Int}
    (h : insertRows? false positions t last rows = .ok (t', n)) :
    ∃ added, t'.rows.Perm (t.rows ++ added) ∧
      List.Forall₂ (t.MadeOf false positions) rows added := by
  induction rows generalizing t last with
  | nil =>
    rw [insertRows?, Except.ok.injEq, Prod.mk.injEq] at h
    exact ⟨[], by rw [← h.1, List.append_nil], .nil⟩
  | cons values rest ih =>
    rw [insertRows?_cons] at h
    obtain ⟨⟨u, id⟩, hrow, hrest⟩ := Result.bind_eq_ok_iff.1 h
    obtain ⟨hid, hfault, -, rfl⟩ := insertRow?_keep_eq_ok_iff.1 hrow
    obtain ⟨added, hperm, hadded⟩ := ih hrest
    -- the table differs in its rows alone, so the later rows are made as in the first one
    have hlater : List.Forall₂ (t.MadeOf false positions) rest added :=
      hadded.imp fun _ _ hmade => ⟨hmade.row, hmade.number, hmade.fits⟩
    have hplaced : (t.placeRow (t.newRow false positions values id)).rows.Perm
        (t.newRow false positions values id :: t.rows) := perm_place _ t.rows
    refine ⟨t.newRow false positions values id :: added, ?_,
      .cons ⟨rfl, numbers_of_newRowId? hid, fits_newCells hfault⟩ hlater⟩
    exact (hperm.trans (hplaced.append_right added)).trans List.perm_middle.symm

/-! ## Runs -/

/-- **What the insertion of one row preserves, the insertion of several preserves.** -/
theorem Sound.insertRows?_induction {P : Table → Prop} {replace : Bool}
    {positions : List (Option Nat)} {rows : List (List Cell)} {last n : Int} (h : t.Sound)
    (hP : P t)
    (hstep : ∀ u values id, u.Sound → t.Alike u → P u → values ∈ rows →
      u.insertRow? replace (givenBy positions values) (u.numberBy positions values) =
        .ok (u.inserted id (u.newRow replace positions values id).cells, id) →
      P (u.inserted id (u.newRow replace positions values id).cells))
    (hok : insertRows? replace positions t last rows = .ok (t', n)) :
    P t' ∧ t'.Sound ∧ t.Alike t' := by
  suffices hrun : ∀ u last, u.Sound → t.Alike u → P u → ∀ rest, (∀ v ∈ rest, v ∈ rows) →
      insertRows? replace positions u last rest = .ok (t', n) → P t' ∧ t'.Sound ∧ t.Alike t' from
    hrun t last h (Alike.refl t) hP rows (fun _ hv => hv) hok
  intro u last hu halike hPu rest
  induction rest generalizing u last with
  | nil =>
    intro _ hok
    rw [insertRows?, Except.ok.injEq, Prod.mk.injEq] at hok
    rw [← hok.1]
    exact ⟨hPu, hu, halike⟩
  | cons values rest ih =>
    intro hmem hok
    obtain ⟨⟨w, id⟩, hrow, hrest⟩ := Result.bind_eq_ok_iff.1 hok
    obtain ⟨-, hfault, -, rfl⟩ := hu.insertRow?_eq_ok_iff.1 hrow
    exact ih _ _ (hu.inserted (fits_newCells hfault)) (halike.trans (alike_inserted u id _))
      (hstep u values id hu halike hPu (hmem values List.mem_cons_self) hrow)
      (fun v hv => hmem v (List.mem_cons_of_mem _ hv)) hrest

section Runs

variable {replace : Bool} {positions : List (Option Nat)} {rows : List (List Cell)} {last n : Int}

theorem Sound.insertRows? (h : t.Sound)
    (hok : insertRows? replace positions t last rows = .ok (t', n)) : t'.Sound ∧ t.Alike t' :=
  (h.insertRows?_induction (P := fun _ => True) trivial (fun _ _ _ _ _ _ _ _ => trivial) hok).2

/-- Every row was there before, or was made of values. -/
theorem Sound.mem_of_mem_insertRows? (h : t.Sound)
    (hok : Table.insertRows? replace positions t last rows = .ok (t', n)) {r : Row}
    (hr : r ∈ t'.rows) :
    r ∈ t.rows ∨ ∃ values ∈ rows, ∃ id, t.Numbers positions values id ∧
      r = t.newRow replace positions values id := by
  refine (h.insertRows?_induction
    (P := fun u => ∀ r ∈ u.rows, r ∈ t.rows ∨ ∃ values ∈ rows, ∃ id,
      t.Numbers positions values id ∧ r = t.newRow replace positions values id)
    (fun r hr => .inl hr) ?_ hok).1 r hr
  rintro u values id hu ⟨us, rfl⟩ hP hvalues hrow r hr
  rcases (mem_inserted _ _ _ _).1 hr with rfl | ⟨hr, -⟩
  · have hid := numbers_of_newRowId? (hu.insertRow?_eq_ok_iff.1 hrow).1
    exact .inr ⟨values, hvalues, id, hid, rfl⟩
  · exact hP r hr

/-- **A row stays if none of the values clashes with it.** -/
theorem Sound.mem_insertRows?_of_spares (h : t.Sound)
    (hok : Table.insertRows? replace positions t last rows = .ok (t', n)) {r : Row}
    (hr : r ∈ t.rows)
    (hspares : replace = true → ∀ values ∈ rows, t.Spares replace positions values r) :
    r ∈ t'.rows := by
  refine (h.insertRows?_induction (P := fun u => r ∈ u.rows) hr ?_ hok).1
  rintro u values id hu ⟨us, rfl⟩ hr hvalues hrow
  obtain ⟨hnumber, -, hclash, -⟩ := hu.insertRow?_eq_ok_iff.1 hrow
  refine (mem_inserted _ _ _ _).2 (.inr ⟨hr, ?_⟩)
  cases replace with
  | false => exact hclash rfl r hr
  | true =>
    obtain ⟨hn, hk⟩ := hspares rfl values hvalues
    rw [clashes, Bool.or_eq_false_iff, decide_eq_false_iff_not]
    refine ⟨fun hid => ?_, hk id⟩
    rcases newRowId?_eq_ok hnumber with ⟨-, hid'⟩ | ⟨c, hc, hnull, hid'⟩
    · exact hu.nextRowId_ne r hr (hid.trans hid')
    · exact hn c hc hnull (by rw [hid', hid])

/-- **A row with which values clash is gone, unless it is made of values itself.** -/
theorem Sound.not_mem_insertRows?_of_clashes (h : t.Sound)
    (hok : Table.insertRows? replace positions t last rows = .ok (t', n)) {r : Row}
    (hclash : ∃ values ∈ rows, ∀ id, t.Numbers positions values id →
      t.clashes id (t.newRow replace positions values id).cells r)
    (hnew : ∀ values ∈ rows, ∀ id, t.Numbers positions values id →
      r ≠ t.newRow replace positions values id) : r ∉ t'.rows := by
  obtain ⟨values, hvalues, hclash⟩ := hclash
  obtain ⟨before, after, rfl⟩ := List.append_of_mem hvalues
  rw [insertRows?_append] at hok
  obtain ⟨⟨u, k⟩, hbefore, hafter⟩ := Result.bind_eq_ok_iff.1 hok
  rw [insertRows?_cons] at hafter
  obtain ⟨⟨w, id⟩, hrow, hrest⟩ := Result.bind_eq_ok_iff.1 hafter
  obtain ⟨hu, us, rfl⟩ := h.insertRows? hbefore
  obtain ⟨hnumber, hfault, -, rfl⟩ := hu.insertRow?_eq_ok_iff.1 hrow
  have hw := hu.inserted (fits_newCells hfault)
  have hid := numbers_of_newRowId? hnumber
  intro hr
  rcases hw.mem_of_mem_insertRows? hrest hr with hr | ⟨v, hv, i, hi, hr⟩
  · rcases (mem_inserted _ _ _ _).1 hr with hr | ⟨-, hr⟩
    · exact hnew values hvalues id hid hr
    · exact absurd (hclash id hid) (by rw [Bool.not_eq_true]; exact hr)
  · exact hnew v (List.mem_append_right _ (List.mem_cons_of_mem _ hv)) i hi hr

/-- **The row of values is there afterwards, unless later values clash with it.** -/
theorem Sound.newRow_mem_insertRows? (h : t.Sound) {before after : List (List Cell)}
    {values : List Cell}
    (hok : Table.insertRows? replace positions t last (before ++ values :: after) = .ok (t', n))
    (hspares : replace = true → ∀ v ∈ after, ∀ id, t.Numbers positions values id →
      t.Spares replace positions v (t.newRow replace positions values id)) :
    ∃ id, t.Numbers positions values id ∧ t.newRow replace positions values id ∈ t'.rows := by
  rw [insertRows?_append] at hok
  obtain ⟨⟨u, k⟩, hbefore, hafter⟩ := Result.bind_eq_ok_iff.1 hok
  rw [insertRows?_cons] at hafter
  obtain ⟨⟨w, id⟩, hrow, hrest⟩ := Result.bind_eq_ok_iff.1 hafter
  obtain ⟨hu, us, rfl⟩ := h.insertRows? hbefore
  obtain ⟨hnumber, hfault, -, rfl⟩ := hu.insertRow?_eq_ok_iff.1 hrow
  have hw := hu.inserted (fits_newCells hfault)
  have hid := numbers_of_newRowId? hnumber
  refine ⟨id, hid, hw.mem_insertRows?_of_spares hrest ((mem_inserted _ _ _ _).2 (.inl rfl)) ?_⟩
  intro hreplace v hv
  obtain ⟨hn, hk⟩ := hspares hreplace v hv id hid
  exact ⟨hn, hk⟩

/-- The cells of every row pass the checks. -/
theorem Sound.cellFault?_of_insertRows? (h : t.Sound)
    (hok : Table.insertRows? replace positions t last rows = .ok (t', n)) {values : List Cell}
    (hvalues : values ∈ rows) :
    ∃ id, t.cellFault? (fun _ => true) (t.newRow replace positions values id).cells = none := by
  obtain ⟨before, after, rfl⟩ := List.append_of_mem hvalues
  rw [insertRows?_append] at hok
  obtain ⟨⟨u, k⟩, hbefore, hafter⟩ := Result.bind_eq_ok_iff.1 hok
  rw [insertRows?_cons] at hafter
  obtain ⟨⟨w, id⟩, hrow, -⟩ := Result.bind_eq_ok_iff.1 hafter
  obtain ⟨hu, us, rfl⟩ := h.insertRows? hbefore
  exact ⟨id, (hu.insertRow?_eq_ok_iff.1 hrow).2.1⟩

/-- **Rows that clash with none and pass the checks are added**, if none asks for a number. -/
theorem Sound.exists_insertRows? (h : t.Sound)
    (hnumber : ∀ values ∈ rows, t.numberBy positions values = none)
    (hfault : ∀ values ∈ rows, ∀ id,
      t.cellFault? (fun _ => true) (t.newRow false positions values id).cells = none)
    (hold : ∀ values ∈ rows, ∀ r ∈ t.rows, ∀ id,
      t.collides r.cells (t.newRow false positions values id).cells = false)
    (hpair : rows.Pairwise fun v w => ∀ i j, t.collides (t.newRow false positions v i).cells
      (t.newRow false positions w j).cells = false) :
    ∃ t' n, Table.insertRows? false positions t last rows = .ok (t', n) := by
  induction rows generalizing t last with
  | nil => exact ⟨t, last, rfl⟩
  | cons values rest ih =>
    rw [List.pairwise_cons] at hpair
    have hrow : t.insertRow? false (givenBy positions values) (t.numberBy positions values) =
        .ok (t.inserted t.nextRowId (t.newRow false positions values t.nextRowId).cells,
          t.nextRowId) := by
      refine h.insertRow?_eq_ok_iff.2 ⟨?_, hfault values List.mem_cons_self _, fun _ r hr => ?_, rfl⟩
      · rw [hnumber values List.mem_cons_self]
        rfl
      · rw [clashes, Bool.or_eq_false_iff, decide_eq_false_iff_not]
        exact ⟨h.nextRowId_ne r hr, hold values List.mem_cons_self r hr _⟩
    have hsound := h.inserted (fits_newCells (hfault values List.mem_cons_self t.nextRowId))
    -- a row that is there then is an old one or the one just added
    have hold' : ∀ v ∈ rest, ∀ r ∈ (t.inserted t.nextRowId
        (t.newRow false positions values t.nextRowId).cells).rows, ∀ id,
        t.collides r.cells (t.newRow false positions v id).cells = false := by
      intro v hv r hr
      rcases (mem_inserted _ _ _ _).1 hr with rfl | ⟨hr, -⟩
      · exact hpair.1 v hv t.nextRowId
      · exact hold v (List.mem_cons_of_mem _ hv) r hr
    obtain ⟨t', n, hrest⟩ : ∃ t' n, Table.insertRows? false positions (t.inserted t.nextRowId
        (t.newRow false positions values t.nextRowId).cells) t.nextRowId rest = .ok (t', n) :=
      ih hsound (fun v hv => hnumber v (List.mem_cons_of_mem _ hv))
      (fun v hv => hfault v (List.mem_cons_of_mem _ hv)) hold' hpair.2
    refine ⟨t', n, ?_⟩
    rw [insertRows?_cons]
    exact Result.bind_eq_ok_iff.2 ⟨_, hrow, hrest⟩

end Runs

/-! ## Rows in their order -/

/-- The numbers of the rows run from a number on, without a gap. -/
def RunsFrom (n : Int) : List Row → Prop
  | [] => True
  | r :: rest => r.id = n ∧ RunsFrom (n + 1) rest

section Order

variable {n : Int} {rows : List Row}

theorem RunsFrom.append (h : RunsFrom n rows) {row : Row} (hrow : row.id = n + rows.length) :
    RunsFrom n (rows ++ [row]) := by
  induction rows generalizing n with
  | nil => exact ⟨by simpa using hrow, trivial⟩
  | cons r rest ih =>
    refine ⟨h.1, ih h.2 ?_⟩
    rw [hrow, List.length_cons]
    omega

theorem RunsFrom.lt (h : RunsFrom n rows) : ∀ r ∈ rows, r.id < n + rows.length := by
  induction rows generalizing n with
  | nil => exact fun r hr => absurd hr List.not_mem_nil
  | cons r rest ih =>
    obtain ⟨hid, hrest⟩ := h
    refine List.forall_mem_cons.2 ⟨?_, fun r' hr' => ?_⟩
    · rw [List.length_cons]
      omega
    · have := ih hrest r' hr'
      rw [List.length_cons]
      omega

theorem RunsFrom.leastFree (h : RunsFrom n rows) :
    nextRowId.leastFree n rows = n + rows.length := by
  induction rows generalizing n with
  | nil => exact (Int.add_zero n).symm
  | cons r rest ih =>
    rw [nextRowId.leastFree, if_pos h.1, ih h.2, List.length_cons]
    omega

theorem RunsFrom.id_getLast? (h : RunsFrom n rows) {last : Row}
    (hlast : rows.getLast? = some last) : last.id + 1 = n + rows.length := by
  induction rows generalizing n with
  | nil => cases hlast
  | cons r rest ih =>
    obtain ⟨hid, hrest⟩ := h
    cases rest with
    | nil =>
      rw [← Option.some.inj hlast]
      show r.id + 1 = n + 1
      rw [hid]
    | cons r' rest =>
      have := ih hrest hlast
      rw [List.length_cons]
      omega

/-- The next number goes on. -/
theorem RunsFrom.nextRowId (h : RunsFrom 1 t.rows) : t.nextRowId = 1 + t.rows.length := by
  rw [Table.nextRowId]
  cases hlast : t.rows.getLast? with
  | none =>
    rw [List.getLast?_eq_none_iff.1 hlast]
    rfl
  | some last =>
    dsimp only
    split_ifs
    · exact h.id_getLast? hlast
    · exact h.leastFree

theorem place_of_lt {row : Row} (h : ∀ r ∈ rows, r.id < row.id) :
    place row rows = rows ++ [row] := by
  induction rows with
  | nil => rfl
  | cons r rest ih =>
    rw [List.forall_mem_cons] at h
    rw [place, if_neg (by omega), ih h.2, List.cons_append]

end Order

/-- **Rows that no number is asked for are added in their order.** -/
theorem Sound.rows_insertRows? (h : t.Sound) (hruns : RunsFrom 1 t.rows)
    {positions : List (Option Nat)} {rows : List (List Cell)} {last n : Int}
    (hnumber : ∀ values ∈ rows, t.numberBy positions values = none)
    (hok : Table.insertRows? false positions t last rows = .ok (t', n)) :
    ∃ added, t'.rows = t.rows ++ added ∧
      List.Forall₂ (fun values r => ∃ id, r = t.newRow false positions values id) rows added := by
  induction rows generalizing t last with
  | nil =>
    rw [Table.insertRows?, Except.ok.injEq, Prod.mk.injEq] at hok
    exact ⟨[], by rw [← hok.1, List.append_nil], .nil⟩
  | cons values rest ih =>
    rw [insertRows?_cons] at hok
    obtain ⟨⟨u, id⟩, hrow, hrest⟩ := Result.bind_eq_ok_iff.1 hok
    rw [List.forall_mem_cons] at hnumber
    obtain ⟨hid, hfault, hclash, rfl⟩ := h.insertRow?_eq_ok_iff.1 hrow
    rw [hnumber.1] at hid
    obtain rfl : id = 1 + t.rows.length := (Except.ok.inj hid).symm.trans hruns.nextRowId
    have hrows : (t.inserted (1 + t.rows.length)
        (t.newRow false positions values (1 + t.rows.length)).cells).rows =
          t.rows ++ [t.newRow false positions values (1 + t.rows.length)] := by
      rw [newRow, inserted_eq_placeRow (hclash rfl)]
      exact place_of_lt fun r hr => hruns.lt r hr
    obtain ⟨added, hadded, hall⟩ := ih (h.inserted (fits_newCells hfault))
      (hrows ▸ hruns.append rfl) hnumber.2 hrest
    refine ⟨t.newRow false positions values (1 + t.rows.length) :: added, ?_, ?_⟩
    · rw [hadded]
      show (t.inserted (1 + t.rows.length)
        (t.newRow false positions values (1 + t.rows.length)).cells).rows ++ added = _
      rw [hrows, List.append_assoc, List.singleton_append]
    · exact .cons ⟨_, rfl⟩ hall

end Daybook.Sql.Table
