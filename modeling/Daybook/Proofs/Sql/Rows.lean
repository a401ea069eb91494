import Daybook.Proofs.Sql.Database
import Daybook.Proofs.Sql.Plain

/-!
# Statements on rows

A statement that reads or changes rows puts one table in place of another at most, and leaves the
columns and the indexes (**`run?_aboutRows`**).

* `Statement.AboutRows`: the statement is about rows; `Statement.OnRows`: and writes plain values;
* `Table.Leaves`: what such a statement keeps of a table.
-/

namespace Daybook.Sql

/-- The statement reads or changes rows, and writes no byte strings. -/
def Statement.OnRows : Statement → Prop
  | .insert _ _ _ rows => ∀ row ∈ rows, ∀ o ∈ row, o.value.Plain
  | .update _ assignments _ => Table.PlainAssignments assignments
  | .delete _ _ | .select _ | .vacuum => True
  | _ => False

/-- The statement reads or changes rows, whatever it writes. -/
def Statement.AboutRows : Statement → Prop
  | .insert _ _ _ _ | .update _ _ _ | .delete _ _ | .select _ | .vacuum => True
  | _ => False

theorem Statement.OnRows.aboutRows {s : Statement} (h : s.OnRows) : s.AboutRows := by
  cases s <;> trivial

/-- A statement leaves a table with its columns and indexes, sound, ascending and rectangular if it
was, and plain if it was and nothing else is written. -/
structure Table.Leaves (s : Statement) (t t' : Table) : Prop where
  alike : t.Alike t'
  sound : t.Sound → t'.Sound
  ascending : t.Ascending → t'.Ascending
  rectangular : t.Rectangular → t'.Rectangular
  plain : s.OnRows → t.Sound → t.PlainDefaults → t.Plain → t'.Plain

theorem Table.Leaves.refl (s : Statement) (t : Table) : t.Leaves s t :=
  ⟨Table.Alike.refl t, id, id, id, fun _ _ _ => id⟩

/-- **A statement on rows changes one table at most.** -/
theorem Database.run?_aboutRows {db db' : Database} {s : Statement} {o : Outcome}
    (hs : s.AboutRows) (h : db.run? s = .ok (db', o)) :
    db' = db ∨ ∃ name t t', db.table? name = some t ∧ db' = db.replaceTable t' ∧
      t.Leaves s t' := by
  have hperform := (run?_eq_ok h).2
  match s, hs with
  | .insert replace name columns rows, _ =>
    obtain ⟨⟨d, n, last⟩, hinsert, heq⟩ := Result.map_eq_ok_iff.1 hperform
    obtain ⟨rfl, -⟩ := Prod.mk.inj heq
    obtain ⟨t, t', k, ht, hok, rfl, -⟩ := insert?_eq_ok hinsert
    refine .inr ⟨name, t, t', ht, rfl, Table.alike_insertRows? hok,
      fun hsound => (hsound.insertRows? hok).1,
      fun hids => hids.insertRows? hok, fun hwidth => hwidth.insertRows? hok,
      fun hrows hsound hdefaults hplain => ?_⟩
    refine hsound.plain_insertRows? hplain hdefaults (fun values hvalues v hv => ?_) hok
    obtain ⟨row, hrow, rfl⟩ := List.mem_map.1 hvalues
    obtain ⟨operand, hoperand, rfl⟩ := List.mem_map.1 hv
    exact hrows row hrow operand hoperand
  | .update name assignments target, _ =>
    obtain ⟨⟨d, n⟩, hupdate, heq⟩ := Result.map_eq_ok_iff.1 hperform
    obtain ⟨rfl, -⟩ := Prod.mk.inj heq
    obtain ⟨t, rows, t', ht, hrows, hok, rfl, -⟩ := update?_eq_ok hupdate
    have hsub := sublist_targetRows? hrows
    exact .inr ⟨name, t, t', ht, rfl, Table.alike_updateRows? hok,
      fun hsound => (hsound.updateRows? hsub hok).1,
      fun hids => hids.updateRows? hok,
      fun hwidth => hwidth.updateRows? (fun r hr => hwidth r (hsub.subset hr)) hok,
      fun hassignments hsound _ hplain => hsound.plain_updateRows? hplain hsub hassignments hok⟩
  | .delete name target, _ =>
    obtain ⟨⟨d, n⟩, hdelete, heq⟩ := Result.map_eq_ok_iff.1 hperform
    obtain ⟨rfl, -⟩ := Prod.mk.inj heq
    obtain ⟨t, rows, ht, -, rfl, -⟩ := delete?_eq_ok hdelete
    exact .inr ⟨name, t, t.deleteRows rows, ht, rfl, ⟨_, rfl⟩,
      fun hsound => (hsound.deleteRows rows).1,
      fun hids => hids.sublist List.filter_sublist,
      fun hwidth => hwidth.sublist List.filter_sublist,
      fun _ _ _ hplain => hplain.deleteRows rows⟩
  | .select q, _ =>
    obtain ⟨records, -, heq⟩ := Result.map_eq_ok_iff.1 hperform
    exact .inl (Prod.mk.inj heq).1.symm
  | .vacuum, _ => exact .inl (Prod.mk.inj (Except.ok.inj hperform)).1.symm

/-- **What a statement on rows makes of a table.** -/
theorem Database.table?_of_aboutRows {db db' : Database} {s : Statement} {o : Outcome}
    (hs : s.AboutRows) (h : db.run? s = .ok (db', o)) {name : String} {t : Table}
    (ht : db.table? name = some t) : ∃ t', db'.table? name = some t' ∧ t.Leaves s t' := by
  rcases run?_aboutRows hs h with rfl | ⟨changed, u, u', hu, rfl, hleaves⟩
  · exact ⟨t, ht, Table.Leaves.refl s t⟩
  · have hname : u'.name = u.name := by
      obtain ⟨rows, rfl⟩ := hleaves.alike
      rfl
    by_cases hsame : sameName changed name
    · rw [table?_congr hsame] at hu
      obtain rfl : u = t := Option.some.inj (hu.symm.trans ht)
      exact ⟨u', table?_replaceTable ht hname, hleaves⟩
    · refine ⟨t, ?_, Table.Leaves.refl s t⟩
      rw [table?_replaceTable_of_ne, ht]
      intro hsame'
      have hchanged := (sameName_iff _ _).1 (sameName_of_table? hu)
      rw [sameName_iff] at hsame hsame'
      rw [hname, hchanged] at hsame'
      exact hsame hsame'

end Daybook.Sql
