import Daybook.Proofs.Migration.Turn

/-!
# Registries that settle

The schemas of a registry are migrated one after the other, each by itself, though several of them
may be of one table. If these declare the same columns, then after two runs every table has the
declared columns and no others, and there is nothing left to do; if they do not, no run finds
nothing to do (**`migrateAll_settles`**, `not_forall_isNoop_of_runs`).

* `Turn`, `Turns`: schemas migrated one after the other, none of which fails;
* `Runs`: a registry migrated again and again without failures;
* `Schema.Agrees`, `Registry.Agrees`: schemas of one table declare the same columns.
-/

namespace Daybook

open Sql

/-- The schemas are of different tables, or declare columns of the same names. -/
def Schema.Agrees (s s' : Schema) : Prop :=
  s.table = s'.table → ∀ n ∈ s.columnNames, n ∈ s'.columnNames

instance (s s' : Schema) : Decidable (s.Agrees s') :=
  inferInstanceAs (Decidable (_ → _))

/-- Schemas of one table declare columns of the same names. -/
def Schema.Registry.Agrees (r : Registry) : Prop := ∀ s ∈ r.schemas, ∀ s' ∈ r.schemas, s.Agrees s'

instance (r : Schema.Registry) : Decidable r.Agrees :=
  inferInstanceAs (Decidable (∀ s ∈ r.schemas, ∀ s' ∈ r.schemas, s.Agrees s'))

/-- Table names that differ in the case of letters alone do not occur. -/
def Schema.Registry.Spelled (r : Registry) : Prop :=
  ∀ s ∈ r.schemas, ∀ s' ∈ r.schemas, sameName s.table s'.table → s.table = s'.table

instance (r : Schema.Registry) : Decidable r.Spelled :=
  inferInstanceAs (Decidable (∀ s ∈ r.schemas, ∀ s' ∈ r.schemas, _ → _))

namespace Migration

variable {r : Schema.Registry} {schemas : List Schema} {s s' : Schema} {report : Report}
  {st st₁ st' : Storage} {summary : Summary} {summaries : List Summary}

/-! ## Schemas of one table -/

section Agrees

variable (hagree : s.Agrees s') (hagree' : s'.Agrees s)
  (hspelled : sameName s.table s'.table → s.table = s'.table)

include hagree

theorem Complete.of_agrees (h : Complete s' st) (htable : s.table = s'.table) : Complete s st := by
  obtain ⟨live, hlive, hmissing⟩ := h
  refine ⟨live, htable ▸ hlive, Report.missing_eq_nil_iff.2 fun n hn => ?_⟩
  exact Report.missing_eq_nil_iff.1 hmissing n (hagree htable n hn)

include hspelled in
/-- The migration of another schema leaves every declared column where it is. -/
theorem Turned.keeps_complete (h : Turned s' report st st') (hcomplete : Complete s st) :
    Complete s st' := by
  by_cases hname : sameName s.table s'.table
  · exact h.complete.of_agrees hagree (hspelled hname)
  · obtain ⟨live, hlive, hmissing⟩ := hcomplete
    rw [sameName_comm] at hname
    exact ⟨live, (h.others s.table hname).trans hlive, hmissing⟩

include hagree'

theorem Settled.of_agrees (h : Settled s' st) (htable : s.table = s'.table) : Settled s st := by
  obtain ⟨live, hlive, hsame⟩ := h
  refine ⟨live, htable ▸ hlive, fun n => (hsame n).trans ?_⟩
  exact ⟨hagree' htable.symm n, hagree htable n⟩

include hspelled in
/-- The migration of another schema leaves a table that has the declared columns alone. -/
theorem Turned.keeps_settled (h : Turned s' report st st') (hsettled : Settled s st) :
    Settled s st' := by
  by_cases hname : sameName s.table s'.table
  · have htable := hspelled hname
    have hsettled' : Settled s' st := hsettled.of_agrees hagree' hagree htable.symm
    exact (h.settled hsettled'.complete).of_agrees hagree hagree' htable
  · obtain ⟨live, hlive, hsame⟩ := hsettled
    rw [sameName_comm] at hname
    exact ⟨live, (h.others s.table hname).trans hlive, hsame⟩

end Agrees

/-! ## Schemas one after the other -/

/-- The migration of a schema: what it reports, and the storage before and after it. -/
structure Turn where
  schema : Schema
  report : Report
  before : Storage
  after : Storage

/-- Schemas are migrated one after the other, and none of them fails. -/
inductive Turns : Storage → List Turn → Storage → Prop
  | nil (st : Storage) : Turns st [] st
  | cons {s : Schema} {report : Report} {st st₁ st' : Storage} {turns : List Turn}
    (hone : (migrate s).run Storage.engine st = (.ok report, st₁)) (hrest : Turns st₁ turns st') :
    Turns st (⟨s, report, st, st₁⟩ :: turns) st'

/-- A registry that is migrated without failures is migrated turn by turn. -/
theorem exists_turns (h : (migrateEach migrate schemas).run Storage.engine st = (.ok summary, st'))
    (hsuccess : summary.isSuccess) :
    ∃ turns, Turns st turns st' ∧ turns.map Turn.schema = schemas ∧
      turns.map Turn.report = summary.reports := by
  induction schemas generalizing st summary with
  | nil =>
    obtain ⟨hsummary, rfl⟩ := Prod.mk.inj h
    rw [← Except.ok.inj hsummary]
    exact ⟨[], .nil _, rfl, rfl⟩
  | cons s rest ih =>
    obtain ⟨more, hrest, rfl⟩ := migrateEach_cons_eq_ok_iff.1 h
    obtain ⟨⟨report, hreport⟩, hmore⟩ := isSuccess_add hsuccess
    obtain ⟨turns, hturns, hschemas, hreports⟩ := ih hrest hmore
    refine ⟨_, .cons (Prod.ext hreport rfl) hturns, ?_, ?_⟩
    · rw [List.map_cons, hschemas]
    · rw [List.map_cons, hreports, hreport, Summary.add]

namespace Turns

variable {turns turns' : List Turn} {turn : Turn}

theorem append (h : Turns st turns st₁) (h' : Turns st₁ turns' st') :
    Turns st (turns ++ turns') st' := by
  induction h with
  | nil st => exact h'
  | cons hone _ ih => exact .cons hone (ih h')

/-- What came before a turn, and what comes after it. -/
theorem split (h : Turns st turns st') (hturn : turn ∈ turns) :
    ∃ front back, turns = front ++ turn :: back ∧ Turns st front turn.before ∧
      Turns turn.after back st' := by
  induction h with
  | nil st => exact absurd hturn List.not_mem_nil
  | @cons s report st st₁ st' turns hone hrest ih =>
    obtain rfl | hturn := List.mem_cons.1 hturn
    · exact ⟨[], turns, rfl, .nil st, hrest⟩
    · obtain ⟨front, back, rfl, hfront, hback⟩ := ih hturn
      exact ⟨_ :: front, back, rfl, .cons hone hfront, hback⟩

/-- What every turn keeps, all of them keep. -/
theorem keeps {K : Storage → Prop} (h : Turns st turns st')
    (hkeeps : ∀ turn ∈ turns, K turn.before → K turn.after) (hst : K st) : K st' := by
  induction h with
  | nil st => exact hst
  | cons _ _ ih =>
    rw [List.forall_mem_cons] at hkeeps
    exact ih hkeeps.2 (hkeeps.1 hst)

/-- What every turn keeps is kept until a turn comes, and after it. -/
theorem keeps_around {K : Storage → Prop} (h : Turns st turns st') (hturn : turn ∈ turns)
    (hkeeps : ∀ turn ∈ turns, K turn.before → K turn.after) :
    (K st → K turn.before) ∧ (K turn.after → K st') := by
  obtain ⟨front, back, rfl, hfront, hback⟩ := h.split hturn
  rw [List.forall_mem_append, List.forall_mem_cons] at hkeeps
  exact ⟨hfront.keeps hkeeps.1, hback.keeps hkeeps.2.2⟩

/-- Every turn makes of the columns what the migration of its schema makes of them. -/
theorem turned (h : Turns st turns st') (hschemas : ∀ turn ∈ turns, turn.schema ∈ r.schemas)
    (hvalid : ∀ s ∈ r.schemas, s.fault? = none) (hspelled : r.Spelled)
    (hst : ReadyAt r.schemas st) :
    ReadyAt r.schemas st' ∧
      ∀ turn ∈ turns, Turned turn.schema turn.report turn.before turn.after := by
  induction h with
  | nil st => exact ⟨hst, fun _ hturn => absurd hturn List.not_mem_nil⟩
  | cons hone _ ih =>
    rw [List.forall_mem_cons] at hschemas
    obtain ⟨hs, hschemas⟩ := hschemas
    obtain ⟨hturned, hready⟩ := turned_of_migrate (hvalid _ hs) hs (hspelled _ hs) hst hone
    obtain ⟨hready', hall⟩ := ih hschemas hready
    exact ⟨hready', List.forall_mem_cons.2 ⟨hturned, hall⟩⟩

end Turns

/-! ## One run -/

section Round

variable {turns : List Turn} (hturns : Turns st turns st')
  (hschemas : turns.map Turn.schema = r.schemas)
  (hturned : ∀ turn ∈ turns, Turned turn.schema turn.report turn.before turn.after)

include hschemas in
theorem Turns.schema_mem {turn : Turn} (hturn : turn ∈ turns) : turn.schema ∈ r.schemas := by
  rw [← hschemas]
  exact List.mem_map_of_mem hturn

include hturned

include hturns hschemas in
/-- Where nothing is left to do, schemas of one table declare the same columns. -/
theorem agrees_of_isNoop (hnoop : ∀ turn ∈ turns, turn.report.isNoop) : r.Agrees := by
  -- nothing changes, so that every schema has the declared columns at the beginning
  have hsettled : ∀ s ∈ r.schemas, Settled s st := by
    intro s hs
    obtain ⟨turn, hturn, rfl⟩ := List.mem_map.1 (hschemas ▸ hs)
    have hsame : turn.before.live? turn.schema.table = st.live? turn.schema.table :=
      (hturns.keeps_around (K := fun st₁ => st₁.live? turn.schema.table = _) hturn fun t ht =>
        ((hturned t ht).live?_of_isNoop (hnoop t ht) _).trans).1 rfl
    rw [Settled, ← hsame]
    exact (hturned turn hturn).isNoop_iff.1 (hnoop turn hturn)
  intro s hs s' hs' htable n hn
  obtain ⟨live, hlive, hsame⟩ := hsettled s hs
  obtain ⟨live', hlive', hsame'⟩ := hsettled s' hs'
  rw [← htable, hlive, Option.some_inj] at hlive'
  subst hlive'
  exact (hsame' n).1 ((hsame n).2 hn)

variable (hspelled : r.Spelled) (hagrees : r.Agrees)

include hschemas hspelled hagrees

theorem turns_keep_complete (hs : s ∈ r.schemas) :
    ∀ turn ∈ turns, Complete s turn.before → Complete s turn.after := by
  intro turn hturn
  have hmem := Turns.schema_mem hschemas hturn
  exact (hturned turn hturn).keeps_complete (hagrees s hs _ hmem) (hspelled s hs _ hmem)

theorem turns_keep_settled (hs : s ∈ r.schemas) :
    ∀ turn ∈ turns, Settled s turn.before → Settled s turn.after := by
  intro turn hturn
  have hmem := Turns.schema_mem hschemas hturn
  exact (hturned turn hturn).keeps_settled (hagrees s hs _ hmem) (hagrees _ hmem s hs)
    (hspelled s hs _ hmem)

include hturns

/-- After a run no declared column is missing. -/
theorem complete_of_turns : ∀ s ∈ r.schemas, Complete s st' := by
  intro s hs
  have hkeeps := turns_keep_complete hschemas hturned hspelled hagrees hs
  obtain ⟨turn, hturn, rfl⟩ := List.mem_map.1 (hschemas ▸ hs)
  exact (hturns.keeps_around hturn hkeeps).2 (hturned turn hturn).complete

/-- After a run in which no declared column was missing, there are no others. -/
theorem settled_of_turns (hcomplete : ∀ s ∈ r.schemas, Complete s st) :
    ∀ s ∈ r.schemas, Settled s st' := by
  intro s hs
  have hkeeps := turns_keep_complete hschemas hturned hspelled hagrees hs
  have hkeeps' := turns_keep_settled hschemas hturned hspelled hagrees hs
  obtain ⟨turn, hturn, rfl⟩ := List.mem_map.1 (hschemas ▸ hs)
  have hbefore := (hturns.keeps_around hturn hkeeps).1 (hcomplete _ hs)
  exact (hturns.keeps_around hturn hkeeps').2 ((hturned turn hturn).settled hbefore)

/-- A run has nothing to do where tables have the declared columns, and no others. -/
theorem isNoop_of_turns (hsettled : ∀ s ∈ r.schemas, Settled s st) :
    ∀ turn ∈ turns, turn.report.isNoop := by
  intro turn hturn
  have hs := Turns.schema_mem hschemas hturn
  have hkeeps := turns_keep_settled hschemas hturned hspelled hagrees hs
  exact (hturned turn hturn).isNoop_iff.2
    ((hturns.keeps_around hturn hkeeps).1 (hsettled _ hs))

end Round

/-! ## Run after run -/

/-- A registry is migrated again and again, and no migration fails. -/
inductive Runs (r : Schema.Registry) : Storage → List Summary → Storage → Prop
  | nil (st : Storage) : Runs r st [] st
  | cons {st st₁ st' : Storage} {summary : Summary} {more : List Summary}
    (hrun : (migrateAll r true).run Storage.engine st = (.ok summary, st₁))
    (hsuccess : summary.isSuccess) (hrest : Runs r st₁ more st') :
    Runs r st (summary :: more) st'

section Runs

variable (hvalid : ∀ s ∈ r.schemas, s.fault? = none) (hspelled : r.Spelled)

include hvalid hspelled

/-- In a run each schema has its turn. -/
theorem exists_turns_of_run (hst : ReadyAt r.schemas st)
    (hrun : (migrateAll r true).run Storage.engine st = (.ok summary, st'))
    (hsuccess : summary.isSuccess) :
    ReadyAt r.schemas st' ∧ ∃ turns, Turns st turns st' ∧ turns.map Turn.schema = r.schemas ∧
      turns.map Turn.report = summary.reports ∧
      ∀ turn ∈ turns, Turned turn.schema turn.report turn.before turn.after := by
  obtain ⟨turns, hturns, hschemas, hreports⟩ := exists_turns hrun hsuccess
  obtain ⟨hready, hturned⟩ :=
    hturns.turned (fun turn hturn => Turns.schema_mem hschemas hturn) hvalid hspelled hst
  exact ⟨hready, turns, hturns, hschemas, hreports, hturned⟩

/-- In runs each schema has its turn in each run. -/
theorem Runs.exists_turns (h : Runs r st summaries st') (hst : ReadyAt r.schemas st) :
    ∃ turns, Turns st turns st' ∧
      turns.map Turn.schema = (List.replicate summaries.length r.schemas).flatten ∧
      turns.map Turn.report = summaries.flatMap Summary.reports ∧
      ∀ turn ∈ turns, Turned turn.schema turn.report turn.before turn.after := by
  induction h with
  | nil st => exact ⟨[], .nil st, rfl, rfl, fun _ hturn => absurd hturn List.not_mem_nil⟩
  | cons hrun hsuccess _ ih =>
    obtain ⟨hready, turns, hturns, hschemas, hreports, hturned⟩ :=
      exists_turns_of_run hvalid hspelled hst hrun hsuccess
    obtain ⟨turns', hturns', hschemas', hreports', hturned'⟩ := ih hready
    refine ⟨turns ++ turns', hturns.append hturns', ?_, ?_, List.forall_mem_append.2
      ⟨hturned, hturned'⟩⟩
    · rw [List.map_append, hschemas, hschemas', List.length_cons, List.replicate_succ,
        List.flatten_cons]
    · rw [List.map_append, hreports, hreports', List.flatMap_cons]

/-- A run that finds nothing to do tells that schemas of one table declare the same columns. -/
theorem Runs.agrees_of_isNoop (h : Runs r st summaries st') (hst : ReadyAt r.schemas st)
    (hsummary : summary ∈ summaries) (hnoop : ∀ report ∈ summary.reports, report.isNoop) :
    r.Agrees := by
  induction h with
  | nil st => exact absurd hsummary List.not_mem_nil
  | cons hrun hsuccess _ ih =>
    obtain ⟨hready, turns, hturns, hschemas, hreports, hturned⟩ :=
      exists_turns_of_run hvalid hspelled hst hrun hsuccess
    obtain rfl | hsummary := List.mem_cons.1 hsummary
    · rw [← hreports] at hnoop
      exact Migration.agrees_of_isNoop hturns hschemas hturned (List.forall_mem_map.1 hnoop)
    · exact ih hready hsummary

/-- Once tables have the declared columns, and no others, no run has anything to do. -/
theorem Runs.isNoop (h : Runs r st summaries st') (hst : ReadyAt r.schemas st) (hagrees : r.Agrees)
    (hsettled : ∀ s ∈ r.schemas, Settled s st) : (∀ s ∈ r.schemas, Settled s st') ∧
      ∀ summary ∈ summaries, ∀ report ∈ summary.reports, report.isNoop := by
  induction h with
  | nil st => exact ⟨hsettled, fun _ hsummary => absurd hsummary List.not_mem_nil⟩
  | cons hrun hsuccess _ ih =>
    obtain ⟨hready, turns, hturns, hschemas, hreports, hturned⟩ :=
      exists_turns_of_run hvalid hspelled hst hrun hsuccess
    obtain ⟨hsettled', hnoop⟩ := ih hready <|
      settled_of_turns hturns hschemas hturned hspelled hagrees fun s hs => (hsettled s hs).complete
    refine ⟨hsettled', List.forall_mem_cons.2 ⟨?_, hnoop⟩⟩
    rw [← hreports]
    exact List.forall_mem_map.2
      (isNoop_of_turns hturns hschemas hturned hspelled hagrees hsettled)

/-- After two runs tables have the declared columns, and no others. -/
theorem Runs.settled (h : Runs r st summaries st') (hst : ReadyAt r.schemas st)
    (hagrees : r.Agrees) : (2 ≤ summaries.length → ∀ s ∈ r.schemas, Settled s st') ∧
      ∀ summary ∈ summaries.drop 2, ∀ report ∈ summary.reports, report.isNoop := by
  cases h with
  | nil st => exact ⟨fun h => absurd h (by decide), fun _ h => absurd h List.not_mem_nil⟩
  | cons hfirst hsuccess hrest =>
    obtain ⟨hready, turns, hturns, hschemas, -, hturned⟩ :=
      exists_turns_of_run hvalid hspelled hst hfirst hsuccess
    have hcomplete := complete_of_turns hturns hschemas hturned hspelled hagrees
    cases hrest with
    | nil st => exact ⟨fun h => absurd h (by simp), fun _ h => absurd h List.not_mem_nil⟩
    | cons hsecond hsuccess' hrest =>
      obtain ⟨hready', turns', hturns', hschemas', -, hturned'⟩ :=
        exists_turns_of_run hvalid hspelled hready hsecond hsuccess'
      have hsettled := settled_of_turns hturns' hschemas' hturned' hspelled hagrees hcomplete
      obtain ⟨hsettled', hnoop⟩ := hrest.isNoop hvalid hspelled hready' hagrees hsettled
      exact ⟨fun _ => hsettled', hnoop⟩

end Runs

/-- **Registries settle.** Where a registry is migrated again and again without failures, there is
nothing left to do from the third run on just if schemas of one table declare the same columns. Then
every table has the declared columns after two runs, and no others, and no run removes a column that
a schema of its table declares. In any case, a report says that a table was made just if there was
none. -/
theorem migrateAll_settles (hvalid : ∀ s ∈ r.schemas, s.fault? = none) (hspelled : r.Spelled)
    (hst : ReadyAt r.schemas st) (hruns : Runs r st summaries st') :
    (∀ summary ∈ summaries.drop 2, (∀ report ∈ summary.reports, report.isNoop) ↔ r.Agrees) ∧
    (r.Agrees → (2 ≤ summaries.length → ∀ s ∈ r.schemas, Settled s st') ∧
      ∀ report ∈ summaries.flatMap Summary.reports, ∀ s ∈ r.schemas, s.table = report.table →
        ∀ n ∈ s.columnNames, n ∉ report.removed) ∧
    ∃ turns, Turns st turns st' ∧
      turns.map Turn.schema = (List.replicate summaries.length r.schemas).flatten ∧
      turns.map Turn.report = summaries.flatMap Summary.reports ∧
      ∀ turn ∈ turns, turn.report.created ↔ turn.before.table? turn.schema.table = none := by
  obtain ⟨turns, hturns, hschemas, hreports, hturned⟩ := hruns.exists_turns hvalid hspelled hst
  refine ⟨fun summary hsummary => ⟨?_, fun hagrees => ?_⟩, fun hagrees => ⟨?_, ?_⟩,
    turns, hturns, hschemas, hreports, fun turn hturn => (hturned turn hturn).created_iff⟩
  · exact hruns.agrees_of_isNoop hvalid hspelled hst (List.mem_of_mem_drop hsummary)
  · exact (hruns.settled hvalid hspelled hst hagrees).2 summary hsummary
  · exact (hruns.settled hvalid hspelled hst hagrees).1
  · rw [← hreports, List.forall_mem_map]
    intro turn hturn s hs htable n hn
    have hmem : turn.schema ∈ r.schemas := by
      have hturn := List.mem_map_of_mem (f := Turn.schema) hturn
      rw [hschemas, List.mem_flatten] at hturn
      obtain ⟨schemas, hreplicated, hmem⟩ := hturn
      rwa [List.eq_of_mem_replicate hreplicated] at hmem
    have hown := hturned turn hturn
    rw [hown.table] at htable
    exact hown.not_mem_removed (hagrees s hs _ hmem htable n hn)

/-! ## Two schemas of one table -/

/-- The summaries of several runs, and the storage that they leave. -/
def results (r : Schema.Registry) (st : Storage) : Nat → List Summary × Storage
  | 0 => ([], st)
  | n + 1 =>
    let (result, st) := (migrateAll r true).run Storage.engine st
    let (more, st) := results r st n
    (result.toOption.getD {} :: more, st)

/-- A registry can be migrated again and again; what is left to ask is whether schemas fail. -/
theorem runs_results {n : Nat} (h : ∀ summary ∈ (results r st n).1, summary.isSuccess) :
    Runs r st (results r st n).1 (results r st n).2 := by
  induction n generalizing st with
  | zero => exact .nil st
  | succ n ih =>
    obtain ⟨summary, st₁, hrun, -⟩ := exists_passes_of_migrateEach
      (fun h => opened_of_migrate_error true h) r.schemas st
    have hresults : results r st (n + 1) =
        (summary :: (results r st₁ n).1, (results r st₁ n).2) := by
      have hrun : (migrateAll r true).run Storage.engine st = (.ok summary, st₁) := hrun
      rw [results, hrun]
      rfl
    rw [hresults] at h ⊢
    obtain ⟨hsuccess, hmore⟩ := List.forall_mem_cons.1 h
    exact .cons hrun hsuccess (ih hmore)

/-- Goods under two names. -/
def goods : Schema.Registry := ⟨[item, { item with entity := "Product" }]⟩

/-- The shelf with a column that is not declared. -/
def oldShelf : Storage :=
  { config := { path := "shelf" }, saved := .ok ⟨[shelf.withColumn (Column.text "legacy").toDef]⟩ }

/-- The shelf gets prices and loses what is not declared; then there is nothing left to do. -/
theorem migrateAll_settles_goods : (∀ s ∈ goods.schemas, s.fault? = none) ∧ goods.Spelled ∧
    ReadyAt goods.schemas oldShelf ∧
    Runs goods oldShelf (results goods oldShelf 3).1 (results goods oldShelf 3).2 ∧
    ∀ summary ∈ (results goods oldShelf 3).1.drop 2, ∀ report ∈ summary.reports,
      report.isNoop := by
  have hst : ReadyAt goods.schemas oldShelf := by
    intro c hc
    obtain rfl := Except.ok.inj hc
    have hrectangular : (shelf.withColumn (Column.text "legacy").toDef).Rectangular := by
      unfold Table.Rectangular
      decide
    exact ⟨⟨by decide, List.forall_mem_singleton.2 ⟨by decide, hrectangular⟩⟩,
      List.forall_mem_singleton.2 ⟨by decide, by decide, by decide⟩⟩
  have hsuccess : ∀ summary ∈ (results goods oldShelf 3).1, summary.isSuccess := by
    decide +kernel
  have hruns := runs_results hsuccess
  refine ⟨by decide, by decide, hst, hruns, fun summary hsummary => ?_⟩
  exact ((migrateAll_settles (by decide) (by decide) hst hruns).1 summary hsummary).2 (by decide)

/-- Guests and hosts, as people in one table with different columns. -/
def people : Schema.Registry where
  schemas := [⟨"Guest", "person", [(Column.text "id").key, Column.text "room"]⟩,
    ⟨"Host", "person", [(Column.text "id").key, Column.text "house"]⟩]

/-- A database without people. -/
def emptyHouse : Storage := { config := { path := "house" } }

/-- The third run still removes a column that is declared, and adds it again. -/
theorem results_people : (∀ summary ∈ (results people emptyHouse 3).1, summary.isSuccess) ∧
    ∃ summary ∈ (results people emptyHouse 3).1.drop 2, ∃ report ∈ summary.reports,
      ¬ report.isNoop := by
  decide +kernel

/-- One table, whose name is spelled in two ways. -/
def spellings : Schema.Registry where
  schemas := [⟨"Tea", "item", [(Column.text "id").key]⟩, ⟨"Rice", "Item", [(Column.text "id").key]⟩]

/-- The third run still reports that it made a table, which was there under its other spelling. -/
theorem results_spellings : (∀ summary ∈ (results spellings emptyHouse 3).1, summary.isSuccess) ∧
    ((results spellings emptyHouse 2).2.table? "Item").isSome ∧
    ∃ summary ∈ (results spellings emptyHouse 3).1.drop 2, ∃ report ∈ summary.reports,
      report.table = "Item" ∧ report.created ∧ ¬ report.isNoop := by
  decide +kernel

/-- **Registries do not settle where two schemas of one table declare different columns**, nor where
they spell its name in two ways. -/
theorem not_forall_isNoop_of_runs :
    (¬ ∀ (r : Schema.Registry) (st st' : Storage) (summaries : List Summary),
      (∀ s ∈ r.schemas, s.fault? = none) → r.Spelled → ReadyAt r.schemas st →
      Runs r st summaries st' →
      ∀ summary ∈ summaries.drop 2, ∀ report ∈ summary.reports, report.isNoop) ∧
    (∀ s ∈ spellings.schemas, s.fault? = none) ∧ spellings.Agrees ∧
    Runs spellings emptyHouse (results spellings emptyHouse 3).1
      (results spellings emptyHouse 3).2 ∧
    ((results spellings emptyHouse 2).2.table? "Item").isSome ∧
    ∃ summary ∈ (results spellings emptyHouse 3).1.drop 2, ∃ report ∈ summary.reports,
      report.table = "Item" ∧ report.created ∧ ¬ report.isNoop := by
  obtain ⟨hsuccess', hthere, hmade⟩ := results_spellings
  refine ⟨fun h => ?_, by decide, by decide, runs_results hsuccess', hthere, hmade⟩
  have hst : ReadyAt people.schemas emptyHouse := by
    intro c hc
    obtain rfl := Except.ok.inj hc
    exact ⟨Database.regular_empty, fun t ht => absurd ht List.not_mem_nil⟩
  obtain ⟨hsuccess, summary, hsummary, report, hreport, hsome⟩ := results_people
  exact hsome (h people emptyHouse _ _ (by decide) (by decide) hst (runs_results hsuccess) summary
    hsummary report hreport)

end Migration
end Daybook
