import Daybook.Proofs.Schema.Table
import Daybook.Proofs.Sql.Scan
import Daybook.Proofs.Store.Assignments
import Daybook.Proofs.Store.Required
import Daybook.Proofs.Store.Run
import Daybook.Proofs.Store.Single
import Daybook.Proofs.Store.Texts

/-!
# What an update changes

An update changes the rows for which its conditions hold in the table as it is, and no others. In
each of them the columns that the patch names get its values, the time and the count of changes are
set whatever the patch says of them, and every other column keeps its cell (**`update_exact`**). So
the count of a row grows by one with each update that matches the row, and by no other
(`Follows.version?_eq`).

* `Update`: an update under a filter, or by an identifier;
* `Patched`: a row becomes another by a patch;
* `Updates`, **`updates_of_run`**: what an update leaves of a table;
* `Follows`: a row is followed through updates.
-/

namespace Daybook

open Sql Sql.Table

/-! ## Counts -/

/-- The count that a cell holds; null counts as zero. -/
def Sql.Cell.count? : Cell → Option Int
  | .null => some 0
  | .int n => some n.toInt
  | _ => none

theorem Sql.Cell.count?_bounds {v : Cell} {n : Int} (h : v.count? = some n) :
    -(2 ^ 63) ≤ n ∧ n < 2 ^ 63 := by
  cases v with
  | null =>
    rw [← Option.some.inj h]
    decide
  | int k =>
    rw [← Option.some.inj h]
    exact ⟨k.le_toInt, k.toInt_lt⟩
  | _ => cases h

/-- A count goes up by one as long as there is a next one. -/
theorem Sql.Cell.increment_of_count? {v : Cell} {n : Int} (h : v.count? = some n)
    (hlt : n + 1 < 2 ^ 63) : v.increment = .int (Int64.ofInt (n + 1)) := by
  obtain ⟨hle, -⟩ := count?_bounds h
  cases v with
  | null =>
    rw [← Option.some.inj h]
    rfl
  | int k =>
    obtain rfl := Option.some.inj h
    have hnext : ofInt? (k.toInt + 1) = some (.int (Int64.ofInt (k.toInt + 1))) :=
      if_pos ⟨by omega, hlt⟩
    show (ofInt? (k.toInt + 1)).getD _ = _
    rw [hnext]
    rfl
  | _ => cases h

namespace Store

/-! ## Updates -/

/-- An update of the records that a filter asks for, or of the record of an identifier. -/
inductive Update where
  | many (m : Moment) (f : Filter) (patch : Record)
  | byId (m : Moment) (id : String) (patch : Record)

namespace Update

/-- The program of an update. -/
def program (s : Schema) : Update → Program Nat
  | many m f patch => updateMany s m f patch
  | byId m id patch => updateById s m id patch

/-- When an update is made. -/
def moment : Update → Moment
  | many m _ _ => m
  | byId m _ _ => m

/-- What an update asks for. -/
def patch : Update → Record
  | many _ _ patch => patch
  | byId _ _ patch => patch

/-- The conditions under which an update changes rows. -/
def conditions (s : Schema) : Update → Except Failure (List Condition)
  | many _ f _ => requiredConditions f
  | byId _ id _ =>
    if id.isEmpty then .error (.missingArgument "id")
    else s.requiredKey.map fun key => [idCondition key id]

/-- Both updates are one statement, under conditions and with assignments. -/
theorem program_eq (s : Schema) (u : Update) :
    u.program s = (Program.ofExcept (u.conditions s)).bind fun conditions =>
      (Program.ofExcept (assignments s u.moment u.patch)).bind fun set =>
        change (.update s.table set (.every conditions)) := by
  cases u with
  | many m f patch => rfl
  | byId m id patch =>
    rw [program, updateById, conditions]
    split_ifs
    · rfl
    · cases s.requiredKey <;> rfl

end Update

variable {s : Schema} {u : Update} {t t' : Table} {st st' : Storage} {n : Nat} {r r' : Row}

/-! ## Texts of updates -/

/-- The request of an update binds the values that are set and then those of the conditions, and its
text has as many marks in either part, so that each value goes with its own mark. -/
structure Aligned (s : Schema) (set : List Assignment) (conditions : List Condition)
    (request : Request) : Prop where
  sql : request.sql = "UPDATE " ++ s.table ++ " SET " ++ commaList (set.map Assignment.text) ++
    if conditions.isEmpty then "" else " " ++ Condition.whereClause conditions
  params : request.params = set.flatMap Assignment.params ++ Condition.paramsList conditions
  setMarks : marks ("UPDATE " ++ s.table ++ " SET " ++ commaList (set.map Assignment.text)) =
    (set.flatMap Assignment.params).length
  whereMarks : marks (if conditions.isEmpty then "" else " " ++ Condition.whereClause conditions) =
    (Condition.paramsList conditions).length

theorem Update.isMarked_conditions (hs : s.KeepsRules) {conditions : List Condition}
    (h : u.conditions s = .ok conditions) : ∀ c ∈ conditions, c.IsMarked := by
  cases u with
  | many m f patch => exact Filter.isMarked (requiredConditions_eq_ok.1 h).2
  | byId m id patch =>
    rw [Update.conditions] at h
    split_ifs at h
    obtain ⟨key, hkey, rfl⟩ := Result.map_eq_ok_iff.1 h
    exact isMarked_keyCondition hs (mem_requiredKey hkey) _

/-- **What is sent for an update.** -/
theorem exists_aligned (hs : s.KeepsRules) {conditions : List Condition} {set : List Assignment}
    (hread : u.conditions s = .ok conditions) (hset : assignments s u.moment u.patch = .ok set)
    {σ : Type} (engine : Engine σ) (st : σ) :
    ∃ request, (u.program s).sent engine st = [request] ∧ Aligned s set conditions request := by
  refine ⟨.statement (.update s.table set (.every conditions)), ?_, rfl, rfl, ?_, ?_⟩
  · rw [Update.program_eq, hread, hset]
    show [_] ++ _ = _
    cases (engine.reply (.change (.statement (.update s.table set (.every conditions))) false) st).1 <;>
      rfl
  · simp only [marks_append, marks_words, marks_commaList, marks_table hs,
      sum_marks (assignmentsMarked hs hset), Nat.zero_add]
  · exact Condition.marks_clause (Update.isMarked_conditions hs hread)

/-! ## Patched rows -/

/-- The patch does not name the column, and the library does not set it. -/
def Update.Skips (u : Update) (c : Column) : Prop := isKept c = false ∧ u.patch.get? c.name = none

/-- A row of a table becomes another by an update. -/
structure Patched (s : Schema) (u : Update) (t : Table) (r r' : Row) : Prop where
  given : ∀ c ∈ s.columns, isKept c = false → ∀ v, u.patch.get? c.name = some v →
    ∃ x, c.cell v = .ok x ∧ t.cellOf r'.cells c.name = (t.affinityOf c.name).store x
  time : s.tracksUpdated → t.cellOf r'.cells Schema.updatedColumn =
    (t.affinityOf Schema.updatedColumn).store (.text u.moment.now)
  timeText : s.tracksUpdated →
    t.affinityOf Schema.updatedColumn = .text ∨ numberOfText? u.moment.now = none →
    t.cellOf r'.cells Schema.updatedColumn = .text u.moment.now
  count : s.tracksVersion → t.affinityOf Schema.versionColumn = .integer →
    ∀ v, (t.cellOf r.cells Schema.versionColumn).count? = some v → v < 2 ^ 63 - 1 →
      t.cellOf r'.cells Schema.versionColumn = .int (Int64.ofInt (v + 1))
  left : ∀ name, (∀ c ∈ s.columns, sameName c.name name → u.Skips c) →
    t.cellOf r'.cells name = t.cellOf r.cells name
  number : (∀ c ∈ s.columns, t.position? c.name = t.numberColumn? → u.Skips c) → r'.id = r.id

section Changes

variable {set : List Assignment} (hset : assignments s u.moment u.patch = .ok set)

include hset

/-- A position is not assigned if the columns that stand there are skipped. -/
theorem isAssigned_eq_false {i : Nat}
    (h : ∀ c ∈ s.columns, t.position? c.name = some i → u.Skips c) :
    t.isAssigned set i = false := by
  rw [isAssigned, List.any_eq_false]
  intro a ha hpos
  obtain ⟨c, hc, hassigns⟩ := (mem_assignments_iff hset).1 ha
  rw [decide_eq_true_eq, hassigns.column_eq] at hpos
  obtain ⟨hown, hnone⟩ := h c hc hpos
  rcases hassigns.isKept_or_named with hkept | hnamed
  · exact absurd (hown.symm.trans hkept) Bool.false_ne_true
  · exact hnamed hnone

variable (hcarries : t.Carries s)

include hcarries

theorem isSome_position?_of_mem : ∀ a ∈ set, (t.position? a.column).isSome := by
  intro a ha
  obtain ⟨c, hc, hassigns⟩ := (mem_assignments_iff hset).1 ha
  rw [hassigns.column_eq]
  exact hcarries.places c hc

variable (hfits : Fits t.columns r.id r.cells) (h : t.ChangesTo set r r')

include hfits h

/-- The cell of a column to which the patch makes an assignment. -/
theorem cellOf_of_assigns {c : Column} (hc : c ∈ s.columns) {a : Assignment}
    (ha : Assigns u.moment u.patch c a) :
    ∃ i, t.position? c.name = some i ∧
      t.cellOf r'.cells c.name = (t.affinityOf c.name).store (valueAt r i a) := by
  obtain ⟨i, d, hi, hd⟩ := hcarries.exists_position? hc
  have hlt : i < r.cells.length := by
    rw [hfits.width]
    exact (List.getElem?_eq_some_iff.1 hd).1
  have hone : ∀ b ∈ set, t.position? b.column = some i → b = a := by
    intro b hb hpos
    obtain ⟨c', hc', hb'⟩ := (mem_assignments_iff hset).1 hb
    rw [hb'.column_eq] at hpos
    obtain rfl := hcarries.eq_of_position?_eq hc' hc (hpos.trans hi.symm)
    exact hb'.unique ha
  have hcell := h.getElem?_of_mem hcarries.number ((mem_assignments_iff hset).2 ⟨c, hc, ha⟩)
    (ha.column_eq ▸ hi) hd hlt hone
  refine ⟨i, hi, ?_⟩
  rw [cellOf_eq hi, affinityOf_eq hi hd, hcell]
  rfl

theorem cellOf_time (htracks : s.tracksUpdated) : t.cellOf r'.cells Schema.updatedColumn =
    (t.affinityOf Schema.updatedColumn).store (.text u.moment.now) := by
  obtain ⟨c, hc, hname⟩ := hasColumn_iff.1 htracks
  obtain ⟨i, -, hcell⟩ := cellOf_of_assigns hset hcarries hfits h hc (.time hname)
  rwa [hname] at hcell

/-- **What assignments of a patch make of a row.** -/
theorem patched_of_changesTo : Patched s u t r r' where
  given c hc hown v hv := by
    obtain ⟨x, hx⟩ := exists_cell_of_assignments hset hc hown hv
    obtain ⟨i, -, hcell⟩ := cellOf_of_assigns hset hcarries hfits h hc (.given hown hv hx)
    exact ⟨x, hx, hcell⟩
  time := cellOf_time hset hcarries hfits h
  timeText htracks htext := by
    rw [cellOf_time hset hcarries hfits h htracks, Affinity.store_text htext]
  count htracks hinteger v hv hlt := by
    obtain ⟨c, hc, hname⟩ := hasColumn_iff.1 htracks
    obtain ⟨i, hi, hcell⟩ := cellOf_of_assigns hset hcarries hfits h hc (.count hname)
    rw [hname] at hi hcell
    have hold : r.cells.getD i .null = t.cellOf r.cells Schema.versionColumn := by
      rw [cellOf_eq hi]
      exact List.getD_eq_getElem?_getD
    rw [hcell, hinteger, valueAt, hold, Cell.increment_of_count? hv (by omega)]
    rfl
  left name hskips := by
    cases hi : t.position? name with
    | none =>
      rw [cellOf, cellOf, hi]
      rfl
    | some i =>
      obtain ⟨hlt, -⟩ := List.findIdx?_eq_some_iff_getElem.1 hi
      have hnot : t.isAssigned set i = false := isAssigned_eq_false hset fun c hc hpos =>
        hskips c hc (sameName_of_position? hpos hi)
      rw [cellOf_eq hi, cellOf_eq hi, h.getElem?_of_not_isAssigned hcarries.number hfits
        (isSome_position?_of_mem hset hcarries) (List.getElem?_eq_getElem hlt) hnot]
  number hskips := h.id_eq (isSome_position?_of_mem hset hcarries) fun _ hi =>
    isAssigned_eq_false hset fun c hc hpos => hskips c hc (hpos.trans hi.symm)

end Changes

/-! ## Updated tables -/

/-- The rows of a table for which conditions hold. -/
def matched (t : Table) (conditions : List Condition) : List Row :=
  t.rows.filter fun r => Condition.allHold t r conditions

/-- A run of an update that succeeds: it changes the rows for which its conditions hold in the
table, by its assignments. -/
structure Update.Ran (s : Schema) (u : Update) (st st' : Storage) (n : Nat)
    (conditions : List Condition) (set : List Assignment) (t t' : Table) : Prop where
  reads : u.conditions s = .ok conditions
  assigns : assignments s u.moment u.patch = .ok set
  before : st.table? s.table = some t
  after : st'.table? s.table = some t'
  updated : Table.updateRows? set t (matched t conditions) = .ok t'
  count : n = (matched t conditions).length
  others : ∀ name, ¬ sameName s.table name → st'.table? name = st.table? name

/-- **How an update runs.** -/
theorem Update.exists_ran (h : (u.program s).run Storage.engine st = (.ok n, st')) :
    ∃ conditions set t t', u.Ran s st st' n conditions set t t' := by
  rw [program_eq] at h
  obtain ⟨conditions, st₁, hread, hrest⟩ := Program.run_bind_eq_ok.1 h
  obtain ⟨hconditions, rfl⟩ := Program.run_ofExcept_eq_ok.1 hread
  obtain ⟨set, st₂, hassign, hchange⟩ := Program.run_bind_eq_ok.1 hrest
  obtain ⟨hset, rfl⟩ := Program.run_ofExcept_eq_ok.1 hassign
  obtain ⟨c, db, hc, hrun, rfl⟩ := run_change_eq_ok (.inl ⟨set, rfl⟩) hchange
  obtain ⟨⟨d, k⟩, hupdate, heq⟩ := Result.map_eq_ok_iff.1 (Database.run?_eq_ok hrun).2
  obtain ⟨rfl, hk⟩ := Prod.mk.inj heq
  obtain ⟨rfl, -⟩ := Outcome.changed.inj hk
  obtain ⟨t, rows, t', ht, hrows, ht', rfl, rfl⟩ := Database.update?_eq_ok hupdate
  obtain ⟨-, rfl⟩ := scanRows?_none_iff.1 hrows
  have hname : t'.name = t.name := by
    obtain ⟨rows, rfl⟩ := alike_updateRows? ht'
    rfl
  obtain ⟨hafter, hothers⟩ := Storage.table?_keep_replaceTable hc ht hname
  have hbefore : st₂.table? s.table = some t := (Storage.table?_of_opened hc _).trans ht
  exact ⟨conditions, set, t, t', hconditions, hset, hbefore, hafter, ht', rfl, hothers⟩

/-- A table becomes another by an update: the rows that its conditions match are patched, and all
others stay. -/
structure Updates (s : Schema) (u : Update) (conditions : List Condition) (t t' : Table)
    (changed : List Row) : Prop where
  alike : t.Alike t'
  sound : t'.Sound
  patched : List.Forall₂ (Patched s u t) (matched t conditions) changed
  rows : t'.rows.Perm ((t.rows.filter fun r => !Condition.allHold t r conditions) ++ changed)

namespace Update.Ran

variable {conditions : List Condition} {set : List Assignment}

/-- The rows after an update, by its assignments. -/
theorem rows (h : u.Ran s st st' n conditions set t t') (ht : t.Sound) :
    ∃ changed, List.Forall₂ (t.ChangesTo set) (matched t conditions) changed ∧
      t'.rows.Perm ((t.rows.filter fun r => !Condition.allHold t r conditions) ++ changed) := by
  have hsub : (matched t conditions).Sublist t.rows := List.filter_sublist
  obtain ⟨changed, hchanged, hperm⟩ := ht.rows_updateRows? (fun r hr => hsub.subset hr)
    (ht.ascending.sublist hsub) h.updated
  rw [matched, Ascending.deleteRows_filter ht.ascending] at hperm
  exact ⟨changed, hchanged, hperm⟩

theorem sound (h : u.Ran s st st' n conditions set t t') (ht : t.Sound) : t'.Sound ∧ t.Alike t' :=
  ht.updateRows? List.filter_sublist h.updated

/-- **What an update leaves of a table.** -/
theorem updates (h : u.Ran s st st' n conditions set t t') (hcarries : t.Carries s)
    (ht : t.Sound) : ∃ changed, Updates s u conditions t t' changed := by
  obtain ⟨hsound, halike⟩ := h.sound ht
  obtain ⟨changed, hchanged, hperm⟩ := h.rows ht
  refine ⟨changed, halike, hsound, ?_, hperm⟩
  have hfits : ∀ r ∈ matched t conditions, Fits t.columns r.id r.cells := fun r hr =>
    ht.fits r (List.mem_of_mem_filter hr)
  exact ((List.forall₂_and_left _ _).2 ⟨hfits, hchanged⟩).imp fun r r' hr =>
    patched_of_changesTo h.assigns hcarries hr.1 hr.2

/-- Each row is changed if it is matched, and else stays. -/
theorem exists_row (h : u.Ran s st st' n conditions set t t') (ht : t.Sound) (hr : r ∈ t.rows) :
    if Condition.allHold t r conditions then ∃ r' ∈ t'.rows, t.ChangesTo set r r'
    else r ∈ t'.rows := by
  obtain ⟨changed, hchanged, hperm⟩ := h.rows ht
  split_ifs with hholds
  · obtain ⟨r', hr', hchanges⟩ :=
      (Result.exists_of_forall₂ hchanged).2 r (List.mem_filter.2 ⟨hr, hholds⟩)
    exact ⟨r', hperm.mem_iff.2 (List.mem_append_right _ hr'), hchanges⟩
  · refine hperm.mem_iff.2 (List.mem_append_left _ (List.mem_filter.2 ⟨hr, ?_⟩))
    rwa [Bool.not_eq_true', ← Bool.not_eq_true]

end Update.Ran

/-! ## Rows that are followed -/

/-- Updates succeed one after the other. -/
inductive Succeed (s : Schema) : List Update → Storage → Storage → Prop where
  | done (st : Storage) : Succeed s [] st st
  | update {u : Update} {us : List Update} {st st₁ st' : Storage} {n : Nat}
      (run : (u.program s).run Storage.engine st = (.ok n, st₁)) (later : Succeed s us st₁ st') :
      Succeed s (u :: us) st st'

/-- A row is followed through updates that succeed, of which a number match it: each of these
changes it, and the others leave it. -/
inductive Follows (s : Schema) : List Update → Storage → Row → Nat → Storage → Row → Prop where
  | done (st : Storage) (r : Row) : Follows s [] st r 0 st r
  | hit {u : Update} {us : List Update} {st st₁ st' : Storage} {n k : Nat}
      {conditions : List Condition} {set : List Assignment} {t t₁ : Table} {r r₁ r' : Row}
      (ran : u.Ran s st st₁ n conditions set t t₁) (mem : r ∈ t.rows)
      (holds : Condition.allHold t r conditions = true) (changes : t.ChangesTo set r r₁)
      (mem₁ : r₁ ∈ t₁.rows) (later : Follows s us st₁ r₁ k st' r') :
      Follows s (u :: us) st r (k + 1) st' r'
  | miss {u : Update} {us : List Update} {st st₁ st' : Storage} {n k : Nat}
      {conditions : List Condition} {set : List Assignment} {t t₁ : Table} {r r' : Row}
      (ran : u.Ran s st st₁ n conditions set t t₁) (mem : r ∈ t.rows)
      (fails : Condition.allHold t r conditions = false) (later : Follows s us st₁ r k st' r') :
      Follows s (u :: us) st r k st' r'

/-- **Every row can be followed through updates that succeed.** -/
theorem exists_follows {us : List Update} (h : Succeed s us st st')
    (htable : st.table? s.table = some t) (ht : t.Sound) :
    ∃ t', st'.table? s.table = some t' ∧
      ∀ r ∈ t.rows, ∃ k, ∃ r' ∈ t'.rows, Follows s us st r k st' r' := by
  induction h generalizing t with
  | done st => exact ⟨t, htable, fun r hr => ⟨0, r, hr, .done st r⟩⟩
  | update run _ ih =>
    obtain ⟨conditions, set, t₀, t₁, hran⟩ := Update.exists_ran run
    obtain rfl : t₀ = t := Option.some.inj (hran.before.symm.trans htable)
    obtain ⟨t', htable', hrows⟩ := ih hran.after (hran.sound ht).1
    refine ⟨t', htable', fun r hr => ?_⟩
    have hrow := hran.exists_row ht hr
    split_ifs at hrow with hholds
    · obtain ⟨r₁, hr₁, hchanges⟩ := hrow
      obtain ⟨k, r', hr', hlater⟩ := hrows r₁ hr₁
      exact ⟨k + 1, r', hr', .hit hran hr hholds hchanges hr₁ hlater⟩
    · obtain ⟨k, r', hr', hlater⟩ := hrows r hrow
      exact ⟨k, r', hr', .miss hran hr (by simpa using hholds) hlater⟩

theorem Follows.le_length {us : List Update} {k : Nat} (h : Follows s us st r k st' r') :
    k ≤ us.length := by
  induction h with
  | done => exact Nat.le_refl 0
  | hit _ _ _ _ _ _ ih => exact Nat.succ_le_succ ih
  | miss _ _ _ _ ih => exact Nat.le_succ_of_le ih

/-- **The count of a row grows by the number of updates that match it.** -/
theorem Follows.count_eq {us : List Update} {k : Nat} (h : Follows s us st r k st' r')
    (htable : st.table? s.table = some t) (hcarries : t.Carries s) (ht : t.Sound)
    (htracks : s.tracksVersion) (hinteger : t.affinityOf Schema.versionColumn = .integer) {v : Int}
    (hv : (t.cellOf r.cells Schema.versionColumn).count? = some v) (hlt : v + k < 2 ^ 63) :
    ∃ t', st'.table? s.table = some t' ∧
      (t'.cellOf r'.cells Schema.versionColumn).count? = some (v + k) := by
  induction h generalizing t v with
  | done st r => exact ⟨t, htable, by rw [hv, Nat.cast_zero, Int.add_zero]⟩
  | @hit u us st st₁ st' n k conditions set t₀ t₁ r r₁ r' ran mem _ changes _ _ ih =>
    obtain rfl : t₀ = t := Option.some.inj (ran.before.symm.trans htable)
    obtain ⟨hsound, rows, rfl⟩ := ran.sound ht
    have hpatched := patched_of_changesTo ran.assigns hcarries (ht.fits r mem) changes
    obtain ⟨hle, -⟩ := Cell.count?_bounds hv
    rw [Nat.cast_succ] at hlt
    -- the count is one more, and still one that fits
    have hcount : (t₀.cellOf r₁.cells Schema.versionColumn).count? = some (v + 1) := by
      rw [hpatched.count htracks hinteger v hv (by omega), Cell.count?,
        Int64.toInt_ofInt_of_le (by omega) (by omega)]
    obtain ⟨t', htable', hlater⟩ := ih ran.after (hcarries.alike ⟨rows, rfl⟩) hsound hinteger hcount
      (by omega)
    refine ⟨t', htable', ?_⟩
    rw [hlater, Nat.cast_succ, Int.add_assoc, Int.add_comm 1]
  | @miss u us st st₁ st' n k conditions set t₀ t₁ r r' ran _ _ _ ih =>
    obtain rfl : t₀ = t := Option.some.inj (ran.before.symm.trans htable)
    obtain ⟨hsound, rows, rfl⟩ := ran.sound ht
    exact ih ran.after (hcarries.alike ⟨rows, rfl⟩) hsound hinteger hv hlt

/-! ## Updates that fail -/

/-- **An update that fails changes no table.** -/
theorem table?_of_update_error {e : Failure}
    (h : (u.program s).run Storage.engine st = (.error e, st')) (name : String) :
    st'.table? name = st.table? name := by
  rw [Update.program_eq] at h
  rcases Program.run_bind_eq_error.1 h with hread | ⟨conditions, st₁, hread, hrest⟩
  · rw [(Program.run_ofExcept_eq_error.1 hread).2]
  · obtain ⟨-, rfl⟩ := Program.run_ofExcept_eq_ok.1 hread
    rcases Program.run_bind_eq_error.1 hrest with hassign | ⟨set, st₂, hassign, hchange⟩
    · rw [(Program.run_ofExcept_eq_error.1 hassign).2]
    · obtain ⟨-, rfl⟩ := Program.run_ofExcept_eq_ok.1 hassign
      rw [run_change] at hchange
      exact Storage.table?_of_on_error hchange name

/-- **A patch that names no column of its own is refused**, and nothing is asked of the engine. -/
theorem run_update_of_none
    (h : ∀ c ∈ s.columns, isKept c = false → u.patch.get? c.name = none) {σ : Type}
    (engine : Engine σ) (st : σ) :
    ∃ e, (u.program s).run engine st = (.error e, st) ∧
      ∀ conditions, u.conditions s = .ok conditions → e = .missingArgument "patch" := by
  rw [Update.program_eq, assignments_of_none h]
  cases u.conditions s with
  | error e => exact ⟨e, rfl, fun _ h => nomatch h⟩
  | ok conditions => exact ⟨_, rfl, fun _ _ => rfl⟩

/-- Drafts, whose changes are counted. -/
def draft : Schema where
  entity := "Draft"
  table := "Draft"
  columns := [(Column.text "id").key, Column.text "label", Column.text Schema.updatedColumn,
    Column.integer Schema.versionColumn]

/-- The table of two drafts, the first with a label and a count. -/
def drafts (label time : Cell) (count : Int64) : Table :=
  { draft.made [] with rows := [⟨1, [.text "a", label, time, .int count]⟩,
    ⟨2, [.text "b", .text "y", .null, .int 3]⟩] }

/-- A label for the drafts with another one; the patch says something of the count as well. -/
def relabel : Update :=
  .many ⟨"2024-05-06T07:08:09.010Z", identifier⟩ ⟨[("label", .eq (.str "x"))]⟩
    [("_v", .int 99), ("label", .str "z")]

/-- The database of drafts after the update. -/
def relabelled : Storage :=
  storageOf (drafts (.text "z") (.text "2024-05-06T07:08:09.010Z") 1) 1

theorem run_relabel :
    (relabel.program draft).run Storage.engine (storageOf (drafts (.text "x") .null 0) 1) =
      (.ok 1, relabelled) := by
  rfl

theorem sound_drafts : (drafts (.text "x") .null 0).Sound := by
  have hinsert : Table.insertRows? false [some 0, some 1, some 2, some 3] (draft.made []) 0
      [[.text "a", .text "x", .null, .int 0], [.text "b", .text "y", .null, .int 3]] =
        .ok (drafts (.text "x") .null 0, 2) := rfl
  exact ((sound_of_rows_eq_nil rfl).insertRows? hinsert).1

theorem madeFor_drafts (label time : Cell) (count : Int64) :
    (drafts label time count).MadeFor draft :=
  (Schema.madeFor_made (by decide) (by decide) (by decide)).alike ⟨_, rfl⟩

end Store
end Daybook
