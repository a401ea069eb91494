import Daybook.Proofs.Backup.Document

/-!
# Documents and the first layout

A document is written, and read again, as a text or packed. What is read is the document, unless it
has a table of the name by which documents of the first layout are known: it is then taken for one
of these, and what is read is its translation, which is another document (**`decoded_of_encoded`**).

* `members`: the members of the JSON object of a document;
* `rows_members`: the rows that a translation finds in a document are its records.
-/

namespace Daybook.Document

/-- The members of the JSON object of a document. -/
def members (d : Document) : KeyMap Json := d.tables.map fun p => (p.1, .arr (p.2.map .obj))

theorem toJson_eq (d : Document) : d.toJson = .obj d.members := rfl

theorem get?_members (d : Document) (name : String) :
    d.members.get? name = (d.table? name).map fun records => .arr (records.map .obj) :=
  KeyMap.get?_map (fun records : List Record => Json.arr (records.map .obj)) d.tables name

/-- A document is taken for one of the first layout by the name of one table. -/
theorem isLegacy_members_iff (d : Document) :
    Legacy.isLegacy d.members ↔ d.table? "spendingList" ≠ none := by
  rw [Legacy.isLegacy, KeyMap.contains, get?_members, Option.isSome_map, Option.isSome_iff_ne_none]

/-- The rows that a translation finds in a document are its records. -/
theorem rows_members {d : Document} {name : String} {records : List Record}
    (h : d.table? name = some records) : Legacy.rows d.members name = records := by
  rw [Legacy.rows, get?_members, h, Option.map_some]
  dsimp only
  rw [List.filterMap_map]
  exact List.filterMap_some

/-- What is read from the JSON value of a document that is taken for one of the first layout. -/
theorem ofJson_toJson_of_legacy {d : Document} (h : d.table? "spendingList" ≠ none) :
    ofJson d.toJson = .ok (Legacy.translate d.members) := by
  rw [toJson_eq, ofJson, (isLegacy_members_iff d).2 h, if_pos rfl]

/-- A translation is another document: it has a table for each entity, under its name of today. -/
theorem translate_ne {d : Document} (fields : KeyMap Json) (h : d.table? "spendingList" ≠ none) :
    Legacy.translate fields ≠ d := by
  rintro rfl
  exact h rfl

/-- **A document that is written and read again** is the same, unless it has a table of the name by
which documents of the first layout are known; then its translation is read, which is not the
same. -/
theorem decoded_of_encoded {d : Document} (hread : d.ReadsBack) :
    (d.table? "spendingList" = none →
      ofGzip d.toGzip = .ok d ∧ ofBytes (Bytes.ofText d.pretty) = .ok d) ∧
    ∀ records, d.table? "spendingList" = some records → ∃ d', d' ≠ d ∧
      ofGzip d.toGzip = .ok d' ∧ ofBytes (Bytes.ofText d.pretty) = .ok d' ∧
      d'.names = ["Income", "Note", "SpendItem", "SpendList"] ∧
      d'.table? "SpendList" = some (records.map Legacy.spendList) := by
  have htext := ofBytes_pretty hread
  refine ⟨fun hnone => ?_, fun records hrecords => ?_⟩
  · rw [ofGzip_toGzip_eq, htext, ofJson_toJson hnone]
    exact ⟨rfl, rfl⟩
  · have hlegacy : d.table? "spendingList" ≠ none := by
      rw [hrecords]
      exact Option.some_ne_none records
    refine ⟨Legacy.translate d.members, translate_ne _ hlegacy, ?_, ?_, rfl, ?_⟩
    · rw [ofGzip_toGzip_eq, htext, ofJson_toJson_of_legacy hlegacy]
    · rw [htext, ofJson_toJson_of_legacy hlegacy]
    · rw [← rows_members hrecords]
      rfl

/-! ## A document of each layout -/

/-- Notes with values of every kind. -/
def notesDocument : Document :=
  ⟨[("Note", [[("_id", .str "a"), ("content", .arr [.int 1, .null, .bool true])], []]), ("Old", [])]⟩

/-- A table that has the name by which documents of the first layout are known. -/
def listDocument : Document := ⟨[("spendingList", [[("id", .str "a")]])]⟩

theorem readsBack_documents : notesDocument.ReadsBack ∧ listDocument.ReadsBack :=
  ⟨(readsBack_iff _).2 (by decide +kernel), (readsBack_iff _).2 (by decide +kernel)⟩

/-- Notes are read as they were written; a table of lists is not found again under its name. -/
theorem decoded_of_encoded_documents : notesDocument.ReadsBack ∧ listDocument.ReadsBack ∧
    ofGzip notesDocument.toGzip = .ok notesDocument ∧
    ∃ d', d' ≠ listDocument ∧ ofGzip listDocument.toGzip = .ok d' ∧
      d'.table? "SpendList" = some [Legacy.spendList [("id", .str "a")]] := by
  obtain ⟨hnotes, hlists⟩ := readsBack_documents
  obtain ⟨d', hne, hgzip, -, -, htable⟩ := (decoded_of_encoded hlists).2 _ rfl
  exact ⟨hnotes, hlists, ((decoded_of_encoded hnotes).1 rfl).1, d', hne, hgzip, htable⟩

/-- **Not every document is read as it was written.** -/
theorem not_forall_decoded_of_encoded : ¬ ∀ d : Document, d.ReadsBack →
    ofGzip d.toGzip = .ok d ∧ ofBytes (Bytes.ofText d.pretty) = .ok d := by
  intro h
  have hread := readsBack_documents.2
  have htext := (h listDocument hread).2
  rw [ofBytes_pretty hread, ofJson_toJson_of_legacy (by decide)] at htext
  exact translate_ne _ (by decide) (Except.ok.inj htext)

end Daybook.Document
