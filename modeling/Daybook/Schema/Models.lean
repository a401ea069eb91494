import Daybook.Schema.Registry

/-!
# The entities of a household

Spending lists with their items, notes, and incomes.

* `spendList`, `spendItem`, `note`, `income`;
* `models`: the four, in the order of a backup.
-/

namespace Daybook.Schema

/-- The status of what is in use. -/
def activeStatus : String := "Active"

/-- The status of what is put aside. -/
def inactiveStatus : String := "Inactive"

/-- The key of every entity. -/
def idColumn : Column := (Column.text "_id").require.key

/-- The name of an entity, by which it is looked up. -/
def nameColumn : Column := (Column.text "name").require.withIndex

/-- The list that an entity belongs to. -/
def listColumn : Column := (Column.text "listId").require

/-- The status of an entity. -/
def statusColumn : Column :=
  ((Column.text "status").oneOf [activeStatus, inactiveStatus]).withDefault activeStatus

/-- The day of an item or an income. -/
def dayColumn : Column := (Column.timestamp "date").require.withIndex

/-- The columns that the library keeps up to date. -/
def bookkeepingColumns : List Column :=
  [Column.timestamp createdColumn, Column.timestamp updatedColumn,
    (Column.integer versionColumn).require.withDefault "0"]

/-- A list of spendings. -/
def spendList : Schema where
  entity := "SpendList"
  table := "SpendList"
  columns := [idColumn, nameColumn, statusColumn] ++ bookkeepingColumns

/-- A spending. -/
def spendItem : Schema where
  entity := "SpendItem"
  table := "SpendItem"
  columns := [idColumn, listColumn, nameColumn, Column.real "price", Column.text "details",
    statusColumn, dayColumn] ++ bookkeepingColumns

/-- A note. -/
def note : Schema where
  entity := "Note"
  table := "Note"
  columns := [idColumn, nameColumn, Column.text "content", statusColumn] ++ bookkeepingColumns

/-- An income. -/
def income : Schema where
  entity := "Income"
  table := "Income"
  columns := [idColumn, listColumn, Column.text "name", Column.real "price", statusColumn,
    dayColumn] ++ bookkeepingColumns

/-- The four entities, in the order of a backup. -/
def models : List Schema := [spendList, spendItem, note, income]

/-- The registry with the four entities added. -/
def Registry.withModels (r : Registry) : Registry := models.foldl Registry.put r

end Daybook.Schema
