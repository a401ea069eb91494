/-!
# Maps with texts as keys, in key order

A map is the list of its pairs, each key once, in ascending order of the keys; the order of texts
by characters is also the order of their UTF-8 bytes. The list is what is shown, so equal maps are
equal lists.

* `get?`, `insert`, `erase`, `ofList`, `Ordered`;
* `get?_insert_self`, `get?_insert_of_ne`: what an insertion changes;
* `ordered_insert`, `ordered_erase`: the order is kept.
-/

namespace Daybook

/-- A map from texts, as its pairs in ascending order of the keys. -/
abbrev KeyMap (α : Type) := List (String × α)

namespace KeyMap

variable {α β : Type}

/-- The value of a key. -/
def get? (m : KeyMap α) (key : String) : Option α :=
  match m with
  | [] => none
  | (k, v) :: rest => if k = key then some v else get? rest key

/-- The key has a value. -/
def contains (m : KeyMap α) (key : String) : Bool := (m.get? key).isSome

/-- The map with `value` for `key`, in place of the value that the key had. -/
def insert (m : KeyMap α) (key : String) (value : α) : KeyMap α :=
  match m with
  | [] => [(key, value)]
  | (k, v) :: rest =>
    if k = key then (key, value) :: rest
    else if key < k then (key, value) :: (k, v) :: rest
    else (k, v) :: insert rest key value

/-- The map without `key`. -/
def erase (m : KeyMap α) (key : String) : KeyMap α := m.filter fun p => p.1 ≠ key

/-- The map of a list of pairs; of equal keys the last wins. -/
def ofList (pairs : List (String × α)) : KeyMap α :=
  pairs.foldl (fun m p => m.insert p.1 p.2) []

/-- The keys, ascending. -/
def keys (m : KeyMap α) : List String := m.map Prod.fst

/-- The values, in the order of their keys. -/
def values (m : KeyMap α) : List α := m.map Prod.snd

/-- The keys ascend, so none occurs twice. -/
def Ordered (m : KeyMap α) : Prop := m.keys.Pairwise (· < ·)

/-! ## Reading after writing -/

@[simp] theorem get?_insert_self (m : KeyMap α) (key : String) (value : α) :
    (m.insert key value).get? key = some value := by
  induction m with
  | nil => simp [insert, get?]
  | cons p rest ih =>
    obtain ⟨k, v⟩ := p
    unfold insert
    split
    · simp [get?]
    · split
      · simp [get?]
      · rename_i h _
        simp [get?, h, ih]

theorem get?_insert_of_ne (m : KeyMap α) {key other : String} (value : α) (h : other ≠ key) :
    (m.insert key value).get? other = m.get? other := by
  induction m with
  | nil => simp [insert, get?, Ne.symm h]
  | cons p rest ih =>
    obtain ⟨k, v⟩ := p
    unfold insert
    split
    · rename_i hk
      subst hk
      simp [get?, Ne.symm h]
    · split
      · simp [get?, Ne.symm h]
      · simp [get?, ih]

/-! ## Order -/

theorem mem_keys_insert (m : KeyMap α) (key other : String) (value : α) :
    other ∈ (m.insert key value).keys → other = key ∨ other ∈ m.keys := by
  induction m with
  | nil => simp [insert, keys]
  | cons p rest ih =>
    obtain ⟨k, v⟩ := p
    unfold insert
    split
    · simp only [keys, List.map_cons, List.mem_cons]
      rintro (h | h)
      · exact Or.inl h
      · exact Or.inr (Or.inr h)
    · split
      · simp [keys]
      · simp only [keys, List.map_cons, List.mem_cons] at ih ⊢
        rintro (h | h)
        · exact Or.inr (Or.inl h)
        · exact (ih h).imp id Or.inr

/-- An insertion keeps the order of the keys. -/
theorem ordered_insert {m : KeyMap α} (h : m.Ordered) (key : String) (value : α) :
    (m.insert key value).Ordered := by
  induction m with
  | nil => simp [insert, Ordered, keys]
  | cons p rest ih =>
    obtain ⟨k, v⟩ := p
    simp only [Ordered, keys, List.map_cons, List.pairwise_cons] at h ih
    unfold insert
    split
    · rename_i hk
      subst hk
      simpa [Ordered, keys] using h
    · rename_i hne
      split
      · rename_i hlt
        simp only [Ordered, keys, List.map_cons, List.pairwise_cons, List.mem_cons]
        refine ⟨?_, h⟩
        rintro other (rfl | hother)
        · exact hlt
        · exact String.lt_trans hlt (h.1 other hother)
      · rename_i hge
        simp only [Ordered, keys, List.map_cons, List.pairwise_cons]
        refine ⟨fun other hother => ?_, ih h.2⟩
        rcases mem_keys_insert rest key other value hother with rfl | hmem
        · exact Std.lt_of_le_of_ne (String.not_lt.mp hge) hne
        · exact h.1 other hmem

/-- An erasure keeps the order of the keys. -/
theorem ordered_erase {m : KeyMap α} (h : m.Ordered) (key : String) : (m.erase key).Ordered := by
  have : (m.filter fun p => decide (p.1 ≠ key)).map Prod.fst = m.keys.filter (· ≠ key) := by
    simp [keys, List.filter_map, Function.comp_def]
  rw [Ordered, keys, erase, this]
  exact h.filter _

end KeyMap
end Daybook
