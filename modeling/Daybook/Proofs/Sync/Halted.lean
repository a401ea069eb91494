import Daybook.Proofs.Store.ById
import Daybook.Proofs.Store.Upsert
import Daybook.Proofs.Sync.Refusal

/-!
# Imports that halt

An import whose dates are all taken can still halt, at the first table whose records are refused.
The tables before it have their records then; this table and those after it are empty if the records
were to take the place of all that is there, and are as before if they were to be merged; all other
tables are as before (**`importAll_halts`**).

* `Imported`: what an import makes of a table that it writes;
* `Halts`: how far an import came, and what it leaves.
-/

namespace Daybook.Sync

open Sql Store

variable {s : Schema} {t t' : Table} {m : Moment} {replace : Bool} {records : List Record}
  {st st₁ st' : Storage}

/-! ## Tables that are written -/

/-- The table to which an import adds records. -/
def emptiedIf (replace : Bool) (t : Table) : Table := if replace then { t with rows := [] } else t

theorem alike_emptiedIf (replace : Bool) (t : Table) : t.Alike (emptiedIf replace t) := by
  cases replace
  · exact Table.Alike.refl t
  · exact ⟨[], rfl⟩

theorem sound_emptiedIf (ht : t.Sound) (replace : Bool) : (emptiedIf replace t).Sound := by
  cases replace
  · exact ht
  · exact Table.sound_of_rows_eq_nil rfl

/-- What an import makes of a table that it writes: the records are added, with what they lack, and
nothing else can come of that. If they take the place of all that is there, the rows are those of
the records. -/
structure Imported (s : Schema) (m : Moment) (replace : Bool) (records : List Record)
    (t t' : Table) : Prop where
  adds : Adds s (!replace) (allWithDefaults s m records) (emptiedIf replace t)
    (allWithDefaults s m records) t'
  only : ∀ u, Adds s (!replace) (allWithDefaults s m records) (emptiedIf replace t)
    (allWithDefaults s m records) u → u = t'
  rows : replace → ∃ rows, t'.rows.Perm rows ∧
    List.Forall₂ (StoredAs s t false (allWithDefaults s m records)) (allWithDefaults s m records)
      rows

theorem imported_of_adds (hmade : t.MadeFor s)
    (h : Adds s (!replace) (allWithDefaults s m records) (emptiedIf replace t)
      (allWithDefaults s m records) t') : Imported s m replace records t t' := by
  refine ⟨h, fun u hu => hu.unique (hmade.alike (alike_emptiedIf replace t)) h, fun hreplace => ?_⟩
  rw [hreplace] at h
  obtain ⟨rows, hperm, hrows⟩ := h.perm
  exact ⟨rows, hperm, hrows.imp fun _ _ h => h.alike ⟨t.rows, rfl⟩⟩

/-- A table that is written once is imported. -/
theorem WrittenOnce.imported {n : Nat} (h : WrittenOnce m n (!replace) st₁ st' s records)
    (htable : st₁.table? s.table = some (emptiedIf replace t)) (hmade : t.MadeFor s)
    (ht : t.Sound) :
    ∃ t' k, st'.table? s.table = some t' ∧ Imported s (m.skip k) replace records t t' := by
  rw [WrittenOnce] at h
  split_ifs at h with hempty
  · refine ⟨_, 0, h.trans htable, imported_of_adds hmade ?_⟩
    rw [hempty]
    exact .done _
  · obtain ⟨k, -, count, st₂, st₃, hbefore, hrun, hafter⟩ := h
    obtain ⟨t', htable', hadds⟩ := adds_of_writeMany (hbefore.trans htable)
      (hmade.alike (alike_emptiedIf replace t)) (sound_emptiedIf ht replace) hrun
    exact ⟨t', k, hafter.trans htable', imported_of_adds hmade hadds⟩

/-! ## Imports that halt -/

/-- Before tables are written they are cleared, if their rows are to be replaced. -/
theorem run_clearAll_if {schemas : List Schema} (hnames : ∀ s ∈ schemas, s.HasNames)
    (htables : (schemas.map fun s => upper s.table).Nodup)
    (hsome : ∀ s ∈ schemas, (st.table? s.table).isSome) (replace : Bool) :
    ∃ failures st₁,
      (if replace then clearAll schemas else .done []).run Storage.engine st = (.ok failures, st₁) ∧
      (∀ s ∈ schemas, st₁.table? s.table = (st.table? s.table).map (emptiedIf replace)) ∧
      ∀ name, (∀ s ∈ schemas, ¬ sameName s.table name) → st₁.table? name = st.table? name := by
  cases replace with
  | false =>
    refine ⟨[], st, rfl, fun s _ => ?_, fun _ _ => rfl⟩
    cases st.table? s.table <;> rfl
  | true =>
    obtain ⟨st₁, hrun, hcleared, hothers⟩ := run_clearAll hnames htables hsome
    refine ⟨[], st₁, hrun, fun s hs => ?_, hothers⟩
    obtain ⟨t, ht⟩ := Option.isSome_iff_exists.1 (hsome s hs)
    rw [hcleared s hs t ht, ht]
    rfl

theorem Normalized.eq_nil_iff {normalized : List Record} (h : Normalized s records normalized) :
    normalized = [] ↔ records = [] := by
  rw [← List.length_eq_zero_iff, ← List.length_eq_zero_iff, h.length_eq]

/-- An import halts at the table of a schema: the records for it are refused, those for the schemas
before it are written, and those for the schemas after it are not. -/
structure Halts (r : Schema.Registry) (m : Moment) (d : Document) (replace : Bool)
    (st st' : Storage) (e : Failure) (before : List Schema) (s : Schema) (after : List Schema) :
    Prop where
  schemas : r.schemas = before ++ s :: after
  records : recordsFor d s ≠ []
  refused : ∃ normalized k st₁, Normalized s (recordsFor d s) normalized ∧
    st₁.table? s.table = (st.table? s.table).map (emptiedIf replace) ∧
    ((writeMany s (m.skip k) (!replace) normalized).run Storage.engine st₁).1 = .error e
  written : ∀ s' ∈ before, ∀ t, st.table? s'.table = some t → ∃ normalized t' k,
    Normalized s' (recordsFor d s') normalized ∧ st'.table? s'.table = some t' ∧
    Imported s' (m.skip k) replace normalized t t'
  unwritten : ∀ s' ∈ s :: after, st'.table? s'.table = (st.table? s'.table).map (emptiedIf replace)
  others : ∀ name, (∀ s' ∈ r.schemas, ¬ sameName s'.table name) →
    st'.table? name = st.table? name

/-- **An import that fails has halted at a table**, unless a date was bad. -/
theorem importAll_halts {r : Schema.Registry} (hvalid : ∀ s ∈ r.schemas, s.fault? = none)
    (hnames : ∀ s ∈ r.schemas, s.HasNames)
    (htables : (r.schemas.map fun s => upper s.table).Nodup)
    (hmade : ∀ s ∈ r.schemas, ∃ t, st.table? s.table = some t ∧ t.MadeFor s ∧ t.Sound)
    {d : Document} (hdates : ¬ HasBadDate r.schemas d) {e : Failure}
    (hrun : (importAll r m d replace).run Storage.engine st = (.error e, st')) :
    ∃ before s after, Halts r m d replace st st' e before s after := by
  obtain ⟨d', hnormal⟩ := (normalizeTables_isOk_iff_not hvalid (nodup_tables htables) d).2 hdates
  have hnormalized := fun s hs => normalized_recordsFor (s := s) (nodup_tables htables) hnormal hs
  have hsome : ∀ s ∈ r.schemas, (st.table? s.table).isSome := fun s hs => by
    obtain ⟨t, ht, -⟩ := hmade s hs
    rw [ht, Option.isSome_some]
  obtain ⟨failures, st₁, hclear, hcleared, hothers₁⟩ := run_clearAll_if hnames htables hsome replace
  -- the tables are cleared for sure, so it is their writing that fails
  rw [importAll_of_normalizeTables hnormal, Program.run_bind, hclear] at hrun
  rcases Program.run_bind_eq_error.1 hrun with hwrite | ⟨w, st₂, -, hdone⟩
  swap
  · exact nomatch (Prod.mk.inj hdone).1
  have hsound : ∀ s ∈ r.schemas, ∃ t, st₁.table? s.table = some t ∧ t.Sound := fun s hs => by
    obtain ⟨t, ht, -, hsound⟩ := hmade s hs
    exact ⟨_, by rw [hcleared s hs, ht, Option.map_some], sound_emptiedIf hsound replace⟩
  obtain ⟨before, after, hsplit, huntil⟩ := run_writeTables htables hsound hwrite
  obtain ⟨s, rest, rfl, hrecords, k, st₂, htable, hrefused⟩ := huntil.ends
  have hs : s ∈ r.schemas := hsplit ▸ List.mem_append_right before List.mem_cons_self
  refine ⟨before, s, rest, hsplit, ?_, ?_, fun s' hs' t ht => ?_, fun s' hs' => ?_,
    fun name hname => ?_⟩
  · rwa [ne_eq, ← (hnormalized s hs).eq_nil_iff]
  · exact ⟨_, k, st₂, hnormalized s hs, htable.trans (hcleared s hs), hrefused⟩
  · have hmem : s' ∈ r.schemas := hsplit ▸ List.mem_append_left _ hs'
    obtain ⟨u, hu, hmade, hsound⟩ := hmade s' hmem
    obtain rfl : u = t := Option.some.inj (hu.symm.trans ht)
    obtain ⟨t', k', htable', himported⟩ := (huntil.written s' hs').imported
      (by rw [hcleared s' hmem, hu, Option.map_some]) hmade hsound
    exact ⟨_, t', k', hnormalized s' hmem, htable', himported⟩
  · have hapart : ∀ b ∈ before, ¬ sameName b.table s'.table := fun b hb hname => by
      rw [hsplit, List.map_append] at htables
      exact List.disjoint_of_nodup_append htables (List.mem_map_of_mem hb)
        ((sameName_iff _ _).1 hname ▸ List.mem_map_of_mem hs')
    rw [huntil.others s'.table hapart, hcleared s' (hsplit ▸ List.mem_append_right before hs')]
  · rw [huntil.others name fun b hb => hname b (hsplit ▸ List.mem_append_left _ hb),
      hothers₁ name hname]

/-! ## Two tags of one label -/

/-- A note, and two tags of the same label. -/
def twinTags : Document :=
  ⟨[("Note", [[("id", .str "c"), ("colour", .str "y")]]),
    ("Tag", [labelled "b" "y", labelled "c" "y"])]⟩

/-- Notes, then tags. -/
def notesAndTags : Schema.Registry := ⟨[noteWith "colour", tag]⟩

/-- Two notes and a tag. -/
def notesAndTag : Storage where
  config := { path := "notes" }
  saved := .ok ⟨[twoNotes "colour", tags [⟨1, [.text "a", .text "x"]⟩]]⟩

theorem served_notesAndTag : ∀ s ∈ notesAndTags.schemas,
    ∃ t, notesAndTag.table? s.table = some t ∧ t.MadeFor s ∧ t.Sound :=
  List.forall_mem_cons.2 ⟨⟨twoNotes "colour", rfl, madeFor_twoNotes (by decide) (by decide),
    sound_twoNotes rfl⟩, List.forall_mem_singleton.2 ⟨_, rfl, madeFor_tags _, sound_tags⟩⟩

theorem not_hasBadDate_twinTags : ¬ HasBadDate notesAndTags.schemas twinTags :=
  (normalizeTables_isOk_iff_not (by decide) (by decide) twinTags).1 ⟨_, rfl⟩

/-- The import fails, but the note is written. -/
theorem run_importAll_twinTags : ∃ e st', (importAll notesAndTags someTime twinTags true).run
    Storage.engine notesAndTag = (.error e, st') ∧
      (st'.table? "Note").map (fun t => t.rows.length) = some 1 := by
  have hfails : ((importAll notesAndTags someTime twinTags true).run Storage.engine
      notesAndTag).1.isOk = false ∧
      (((importAll notesAndTags someTime twinTags true).run Storage.engine
        notesAndTag).2.table? "Note").map (fun t => t.rows.length) = some 1 := by
    decide +kernel
  revert hfails
  generalize (importAll notesAndTags someTime twinTags true).run Storage.engine notesAndTag = result
  rcases result with ⟨e | report, st'⟩
  · exact fun h => ⟨e, st', rfl, h.2⟩
  · exact fun h => nomatch h.1

/-- The import halts at the tags, and the tag that was there is gone. -/
theorem importAll_halts_twinTags : ∃ e st',
    Halts notesAndTags someTime twinTags true notesAndTag st' e [noteWith "colour"] tag [] ∧
      st'.table? tag.table = some (tags []) := by
  obtain ⟨e, st', hrun, hnote⟩ := run_importAll_twinTags
  obtain ⟨before, s, after, hhalts⟩ := importAll_halts (r := notesAndTags) (by decide)
    (List.forall_mem_cons.2 ⟨hasNames_noteWith_colour,
      List.forall_mem_singleton.2 ⟨by decide, by decide, by decide⟩⟩) (by decide)
    served_notesAndTag not_hasBadDate_twinTags hrun
  have hschemas : [noteWith "colour", tag] = before ++ s :: after := hhalts.schemas
  rcases before with _ | ⟨b, before⟩
  · -- if it halted at the notes, there would be none
    obtain ⟨rfl, -⟩ := List.cons.inj hschemas
    have hempty : st'.table? "Note" = some (emptiedIf true (twoNotes "colour")) :=
      hhalts.unwritten _ List.mem_cons_self
    rw [hempty] at hnote
    exact absurd hnote (by decide)
  · obtain ⟨rfl, hrest⟩ := List.cons.inj hschemas
    rcases List.append_eq_singleton_iff.1 hrest.symm with ⟨rfl, hs⟩ | ⟨-, hs⟩
    · obtain ⟨rfl, rfl⟩ := List.cons.inj hs
      exact ⟨e, st', hhalts, hhalts.unwritten tag List.mem_cons_self⟩
    · cases hs

end Daybook.Sync
