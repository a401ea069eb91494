import Daybook.Proofs.Bytes.Base64
import Daybook.Proofs.Sql.Cell
import Daybook.Schema.Column

/-!
# Cells by way of JSON

A cell that is written as JSON and read for its column is the cell it was: integers stay integers,
floating-point numbers keep every bit, and byte strings come back from their base64 texts. A column
of byte strings takes no other text (**`Column.cell_returns`**).

* `Sql.Cell.Suits`: the cells that JSON can carry for a column.
-/

namespace Daybook

open Sql

/-- JSON can carry the cell for a column of the type: numbers are finite, and the type tells byte
strings from texts. -/
structure Sql.Cell.Suits (v : Cell) (type : ColumnType) : Prop where
  finite : ∀ x, v = .real x → x.isFinite
  bytes : ∀ b, v = .blob b → type = .blob
  texts : ∀ s, v = .text s → type ≠ .blob

namespace Column

/-- Only texts are read by the type of the column. -/
theorem cell_of_not_str {c : Column} {j : Json} (h : c.type = .blob → ∀ s, j ≠ .str s) :
    c.cell j = .ok (.ofJson j) := by
  have hcell : Cell.forColumn c.type j = .ok (.ofJson j) := by
    unfold Cell.forColumn
    split
    · rename_i s htype
      exact absurd rfl (h htype s)
    · rfl
  rw [cell, hcell]

theorem cell_toJson {c : Column} {v : Cell} (h : v.Suits c.type) : c.cell v.toJson = .ok v := by
  cases v with
  | null => exact cell_of_not_str (by simp [Cell.toJson])
  | int n =>
    have hback : Cell.ofJson (.int n.toInt) = .int n := by
      rw [Cell.ofJson, Cell.ofInt?_toInt]
      rfl
    rw [Cell.toJson, cell_of_not_str (j := .int n.toInt) (by simp), hback]
  | real x =>
    rw [Cell.toJson, if_pos (h.finite x rfl)]
    exact cell_of_not_str (by simp)
  | text s => exact cell_of_not_str fun htype => absurd htype (h.texts s rfl)
  | blob b =>
    rw [cell, h.bytes b rfl, Cell.toJson, Cell.forColumn, Base64.decode_eq_ok_iff.2 rfl]
    rfl

theorem toJson_blob_eq_iff {b : Bytes} {text : String} :
    (Cell.blob b).toJson = .str text ↔ Base64.Spells text b := by
  rw [Base64.spells_iff, Cell.toJson, Json.str.injEq, eq_comm]

/-- What a column of byte strings makes of a text. -/
theorem cell_str_eq_ok_iff {c : Column} (h : c.type = .blob) {text : String} {b : Bytes} :
    c.cell (.str text) = .ok (.blob b) ↔ (Cell.blob b).toJson = .str text := by
  rw [cell, h, Cell.forColumn, Cell.toJson, Json.str.injEq, eq_comm (a := Base64.encode b),
    ← Base64.decode_eq_ok_iff]
  cases Base64.decode text with
  | ok b' => simp [Except.map]
  | error fault => simp [Except.map]

/-- **Cells come back from JSON, and only the base64 text of a byte string reads as one.** Every
cell that JSON can carry for a column is read back as it was, kind and bits included. A column of
byte strings reads a text as a byte string just if it is the text of that byte string, which is its
padded base64 text, and refuses it as an input if there is none. -/
theorem cell_returns (c : Column) :
    (∀ v : Cell, v.Suits c.type → c.cell v.toJson = .ok v) ∧
    (c.type = .blob → ∀ text : String,
      (∀ b, (c.cell (.str text) = .ok (.blob b) ↔ (Cell.blob b).toJson = .str text) ∧
        ((Cell.blob b).toJson = .str text ↔ Base64.Spells text b)) ∧
      ((¬ ∃ b, (Cell.blob b).toJson = .str text) →
        ∃ fault, c.cell (.str text) = .error (.invalidInput (.bytes fault)))) := by
  refine ⟨fun v h => cell_toJson h, fun htype text => ⟨fun b => ⟨cell_str_eq_ok_iff htype,
    toJson_blob_eq_iff⟩, fun hnone => ?_⟩⟩
  cases hdecode : Base64.decode text with
  | ok b =>
    obtain rfl := Base64.decode_eq_ok_iff.1 hdecode
    exact absurd ⟨b, rfl⟩ hnone
  | error fault =>
    refine ⟨fault, ?_⟩
    rw [cell, htype, Cell.forColumn, hdecode]
    rfl

/-- Five as an integer and as a floating-point number, the zero below zero, and a byte string with a
text that has bits left over. -/
theorem cell_returns_prices :
    (real "price").cell (Cell.int 5).toJson = .ok (.int 5) ∧
    (real "price").cell (Cell.real ⟨0x4014000000000000⟩).toJson =
      .ok (.real ⟨0x4014000000000000⟩) ∧
    (real "price").cell (Cell.real ⟨0x8000000000000000⟩).toJson =
      .ok (.real ⟨0x8000000000000000⟩) ∧
    (blob "picture").cell (.str "aGVsbG8=") = .ok (.blob [104, 101, 108, 108, 111]) ∧
    ∃ fault, (blob "picture").cell (.str "aGVsbG9=") = .error (.invalidInput (.bytes fault)) := by
  have hprice := cell_returns (real "price")
  have hpicture := (cell_returns (blob "picture")).2 rfl
  refine ⟨hprice.1 _ ⟨nofun, nofun, nofun⟩, hprice.1 _ ⟨?_, nofun, nofun⟩,
    hprice.1 _ ⟨?_, nofun, nofun⟩, ((hpicture _).1 _).1.2 (by decide), (hpicture _).2 ?_⟩
  · rintro x ⟨⟩
    decide
  · rintro x ⟨⟩
    decide
  · rintro ⟨b, hb⟩
    have hdecode : Base64.decode "aGVsbG9=" = .ok b :=
      Base64.decode_eq_ok_iff.2 (Json.str.inj hb).symm
    have hrefused : (Base64.decode "aGVsbG9=").toOption = none := by decide +kernel
    rw [hdecode] at hrefused
    cases hrefused

end Column
end Daybook
