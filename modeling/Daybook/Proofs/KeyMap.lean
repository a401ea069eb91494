import Daybook.KeyMap
import Mathlib.Data.List.Nodup

/-!
# Maps made of many pairs

Pairs are put into a map one after the other; where their keys differ, each pair is found.

* `mem_of_get?`, `get?_of_mem`: what is found is there, and what is there is found;
* `get?_foldl_insert_of_mem`, `get?_foldl_insert_of_not_mem`: reading after many insertions;
* `get?_erase_self`, `get?_erase_of_ne`, `get?_map`: reading after an erasure, and where all values
  are changed;
* **`ext_of_ordered`**: maps in key order are equal if all that is found in them is;
* `contains_congr`, `keys_insert_congr`, `keys_erase`: what is said by the keys alone.
-/

namespace Daybook.KeyMap

variable {α : Type}

theorem mem_of_get? {m : KeyMap α} {key : String} {value : α} (h : m.get? key = some value) :
    (key, value) ∈ m := by
  induction m with
  | nil => exact nomatch h
  | cons p rest ih =>
    rw [get?] at h
    split_ifs at h with hkey
    · rw [← hkey, ← Option.some.inj h]
      exact List.mem_cons_self
    · exact List.mem_cons_of_mem _ (ih h)

theorem get?_foldl_insert_of_not_mem {ps : List (String × α)} {key : String}
    (h : key ∉ ps.map Prod.fst) (m : KeyMap α) :
    (ps.foldl (fun m p => m.insert p.1 p.2) m).get? key = m.get? key := by
  induction ps generalizing m with
  | nil => rfl
  | cons p rest ih =>
    rw [List.map_cons, List.mem_cons, not_or] at h
    rw [List.foldl_cons, ih h.2, get?_insert_of_ne _ _ h.1]

theorem get?_foldl_insert_of_mem {ps : List (String × α)} {key : String} {value : α}
    (hnodup : (ps.map Prod.fst).Nodup) (h : (key, value) ∈ ps) (m : KeyMap α) :
    (ps.foldl (fun m p => m.insert p.1 p.2) m).get? key = some value := by
  induction ps generalizing m with
  | nil => exact absurd h List.not_mem_nil
  | cons p rest ih =>
    rw [List.map_cons, List.nodup_cons] at hnodup
    rw [List.foldl_cons]
    rcases List.mem_cons.1 h with rfl | h
    · rw [get?_foldl_insert_of_not_mem hnodup.1, get?_insert_self]
    · exact ih hnodup.2 h _

theorem get?_erase_self (m : KeyMap α) (key : String) : (m.erase key).get? key = none := by
  induction m with
  | nil => rfl
  | cons p rest ih =>
    obtain ⟨k, v⟩ := p
    rw [erase, List.filter_cons]
    by_cases hk : k = key
    · rw [if_neg (by simpa using hk)]
      exact ih
    · rw [if_pos (by simpa using hk), get?, if_neg hk]
      exact ih

theorem get?_erase_of_ne (m : KeyMap α) {key other : String} (h : other ≠ key) :
    (m.erase key).get? other = m.get? other := by
  induction m with
  | nil => rfl
  | cons p rest ih =>
    obtain ⟨k, v⟩ := p
    rw [erase, List.filter_cons]
    by_cases hk : k = key
    · rw [if_neg (by simpa using hk), get?, if_neg (hk ▸ h.symm)]
      exact ih
    · rw [if_pos (by simpa using hk), get?, get?]
      split_ifs
      · rfl
      · exact ih

theorem erase_eq_self {m : KeyMap α} {key : String} (h : m.get? key = none) : m.erase key = m := by
  induction m with
  | nil => rfl
  | cons p rest ih =>
    obtain ⟨k, v⟩ := p
    rw [get?] at h
    split_ifs at h with hk
    rw [erase, List.filter_cons, if_pos (by simpa using hk)]
    exact congrArg _ (ih h)

theorem get?_map {β : Type} (f : α → β) (m : KeyMap α) (key : String) :
    KeyMap.get? (m.map fun p => (p.1, f p.2)) key = (m.get? key).map f := by
  induction m with
  | nil => rfl
  | cons p rest ih =>
    rw [List.map_cons, get?, get?]
    split_ifs
    · rfl
    · exact ih

/-- Of two insertions for a key, the second counts. -/
theorem insert_insert (m : KeyMap α) (key : String) (v w : α) :
    (m.insert key v).insert key w = m.insert key w := by
  induction m with
  | nil => simp [insert]
  | cons p rest ih =>
    obtain ⟨k, u⟩ := p
    by_cases hk : k = key
    · simp [insert, hk]
    · by_cases hlt : key < k <;> simp [insert, hk, hlt, ih]

theorem mem_insert {m : KeyMap α} {key : String} {value : α} {p : String × α}
    (h : p ∈ m.insert key value) : p = (key, value) ∨ p ∈ m := by
  induction m with
  | nil => exact .inl (List.mem_singleton.1 h)
  | cons q rest ih =>
    rw [insert] at h
    split_ifs at h
    · exact (List.mem_cons.1 h).imp_right fun h => List.mem_cons_of_mem _ h
    · exact List.mem_cons.1 h
    · obtain rfl | h := List.mem_cons.1 h
      · exact .inr List.mem_cons_self
      · exact (ih h).imp_right fun h => List.mem_cons_of_mem _ h

/-- An insertion for a new key adds one pair. -/
theorem insert_perm {m : KeyMap α} {key : String} (h : m.get? key = none) (value : α) :
    (m.insert key value).Perm ((key, value) :: m) := by
  induction m with
  | nil => exact .refl _
  | cons p rest ih =>
    obtain ⟨k, v⟩ := p
    rw [get?] at h
    split_ifs at h with hk
    rw [insert, if_neg hk]
    split_ifs
    · exact .refl _
    · exact ((ih h).cons (k, v)).trans (.swap ..)

theorem mem_of_mem_foldl_insert {ps : List (String × α)} {m : KeyMap α} {p : String × α}
    (h : p ∈ ps.foldl (fun m p => m.insert p.1 p.2) m) : p ∈ m ∨ p ∈ ps := by
  induction ps generalizing m with
  | nil => exact .inl h
  | cons q rest ih =>
    obtain h | h := ih h
    · obtain rfl | h := mem_insert h
      · exact .inr List.mem_cons_self
      · exact .inl h
    · exact .inr (List.mem_cons_of_mem _ h)

theorem mem_of_mem_ofList {ps : List (String × α)} {p : String × α} (h : p ∈ ofList ps) : p ∈ ps :=
  (mem_of_mem_foldl_insert h).resolve_left List.not_mem_nil

/-! ## Maps in key order -/

instance (m : KeyMap α) : Decidable m.Ordered :=
  inferInstanceAs (Decidable (m.keys.Pairwise (· < ·)))

theorem Ordered.nodup_keys {m : KeyMap α} (h : m.Ordered) : m.keys.Nodup := by
  refine h.imp fun hlt => ?_
  rintro rfl
  exact String.lt_irrefl _ hlt

theorem ordered_foldl_insert {m : KeyMap α} (h : m.Ordered) (ps : List (String × α)) :
    (ps.foldl (fun m p => m.insert p.1 p.2) m).Ordered := by
  induction ps generalizing m with
  | nil => exact h
  | cons p rest ih => exact ih (ordered_insert h p.1 p.2)

theorem ordered_ofList (ps : List (String × α)) : (ofList ps).Ordered :=
  ordered_foldl_insert (m := []) List.Pairwise.nil ps

theorem lt_of_get? {k key : String} {v value : α} {rest : KeyMap α}
    (h : Ordered ((k, v) :: rest)) (hget : rest.get? key = some value) : k < key :=
  (List.pairwise_cons.1 h).1 key (List.mem_map.2 ⟨(key, value), mem_of_get? hget, rfl⟩)

/-- The first key is found nowhere else. -/
theorem get?_rest_of_ordered {k : String} {v : α} {rest : KeyMap α}
    (h : Ordered ((k, v) :: rest)) : rest.get? k = none := by
  rw [Option.eq_none_iff_forall_ne_some]
  exact fun value hvalue => String.lt_irrefl _ (lt_of_get? h hvalue)

theorem get?_of_mem {m : KeyMap α} (h : m.Ordered) {key : String} {value : α}
    (hmem : (key, value) ∈ m) : m.get? key = some value := by
  induction m with
  | nil => exact absurd hmem List.not_mem_nil
  | cons p rest ih =>
    obtain ⟨k, v⟩ := p
    obtain hfirst | hrest := List.mem_cons.1 hmem
    · obtain ⟨rfl, rfl⟩ := Prod.mk.inj hfirst
      exact if_pos rfl
    · have hget := ih (List.pairwise_cons.1 h).2 hrest
      have hlt : k < key := lt_of_get? h hget
      rw [get?, if_neg (fun hk => String.lt_irrefl _ (hk ▸ hlt))]
      exact hget

theorem mem_values_iff {m : KeyMap α} (h : m.Ordered) {value : α} :
    value ∈ m.values ↔ ∃ key, m.get? key = some value := by
  rw [values, List.mem_map]
  constructor
  · rintro ⟨⟨key, v⟩, hmem, rfl⟩
    exact ⟨key, get?_of_mem h hmem⟩
  · rintro ⟨key, hget⟩
    exact ⟨(key, value), mem_of_get? hget, rfl⟩

/-- **Maps in key order are equal if the same is found in them.** -/
theorem ext_of_ordered {m m' : KeyMap α} (h : m.Ordered) (h' : m'.Ordered)
    (hget : ∀ key, m.get? key = m'.get? key) : m = m' := by
  induction m generalizing m' with
  | nil =>
    cases m' with
    | nil => rfl
    | cons p' rest' =>
      have hfirst := hget p'.1
      rw [get?, get?, if_pos rfl] at hfirst
      cases hfirst
  | cons p rest ih =>
    obtain ⟨k, v⟩ := p
    have hk := hget k
    rw [get?, if_pos rfl] at hk
    cases m' with
    | nil => cases hk
    | cons p' rest' =>
      obtain ⟨k', v'⟩ := p'
      have hk' := hget k'
      rw [get?, get?, if_pos rfl] at hk'
      rw [get?] at hk
      by_cases hkey : k' = k
      · subst hkey
        rw [if_pos rfl, Option.some.injEq] at hk
        rw [hk]
        congr 1
        refine ih (List.pairwise_cons.1 h).2 (List.pairwise_cons.1 h').2 fun key => ?_
        by_cases hother : k' = key
        · rw [← hother, get?_rest_of_ordered h, get?_rest_of_ordered h']
        · have hrest := hget key
          rwa [get?, get?, if_neg hother, if_neg hother] at hrest
      · -- each first key would come before the other
        rw [if_neg hkey] at hk
        rw [if_neg (Ne.symm hkey)] at hk'
        exact absurd (String.lt_trans (lt_of_get? h hk') (lt_of_get? h' hk.symm))
          (String.lt_irrefl _)

/-- To insert what is there changes nothing. -/
theorem insert_eq_self {m : KeyMap α} (h : m.Ordered) {key : String} {value : α}
    (hget : m.get? key = some value) : m.insert key value = m := by
  refine ext_of_ordered (ordered_insert h _ _) h fun other => ?_
  by_cases hkey : other = key
  · rw [hkey, get?_insert_self, hget]
  · exact get?_insert_of_ne _ _ hkey

theorem foldl_insert_eq_self {m : KeyMap α} (h : m.Ordered) {ps : List (String × α)}
    (hps : ∀ p ∈ ps, m.get? p.1 = some p.2) : ps.foldl (fun m p => m.insert p.1 p.2) m = m := by
  induction ps with
  | nil => rfl
  | cons p rest ih =>
    rw [List.forall_mem_cons] at hps
    rw [List.foldl_cons, insert_eq_self h hps.1]
    exact ih hps.2

/-! ## Keys alone -/

theorem contains_congr {m m' : KeyMap α} (h : m.keys = m'.keys) (key : String) :
    m.contains key = m'.contains key := by
  have hmem (m : KeyMap α) : m.contains key = m.keys.contains key := by
    induction m with
    | nil => rfl
    | cons p rest ih =>
      obtain ⟨k, v⟩ := p
      rw [contains] at ih
      rw [contains, get?, keys, List.map_cons, List.contains_cons]
      by_cases hkey : k = key
      · simp [hkey]
      · rw [if_neg hkey, ih]
        simp [keys, Ne.symm hkey]
  rw [hmem, hmem, h]

/-- Maps in key order have the same keys if the same keys have values. -/
theorem keys_eq_of_isSome {m m' : KeyMap α} (h : m.Ordered) (h' : m'.Ordered)
    (hkeys : ∀ key, (m.get? key).isSome = (m'.get? key).isSome) : m.keys = m'.keys := by
  have hordered {m : KeyMap α} (h : m.Ordered) :
      Ordered (m.map fun p => (p.1, ())) := by
    simpa [Ordered, keys, Function.comp_def] using h
  have hsame := ext_of_ordered (hordered h) (hordered h') fun key => by
    rw [get?_map fun _ => (), get?_map fun _ => ()]
    have hkey := hkeys key
    cases hm : m.get? key <;> cases hm' : m'.get? key <;> simp_all
  simpa [keys, Function.comp_def] using congrArg keys hsame

theorem keys_insert_congr {m m' : KeyMap α} (h : m.keys = m'.keys) (key : String)
    (value value' : α) : (m.insert key value).keys = (m'.insert key value').keys := by
  induction m generalizing m' with
  | nil =>
    obtain rfl : m' = [] := List.map_eq_nil_iff.1 h.symm
    rfl
  | cons p rest ih =>
    obtain ⟨k, v⟩ := p
    cases m' with
    | nil => exact nomatch h
    | cons p' rest' =>
      obtain ⟨k', v'⟩ := p'
      obtain ⟨hk, hrest⟩ : k = k' ∧ KeyMap.keys rest = KeyMap.keys rest' := List.cons.inj h
      rw [insert, insert, ← hk]
      split_ifs
      · show key :: keys rest = key :: keys rest'
        rw [hrest]
      · show key :: k :: keys rest = key :: k :: keys rest'
        rw [hrest]
      · show k :: (insert rest key value).keys = k :: (insert rest' key value').keys
        rw [ih hrest]

theorem keys_erase (m : KeyMap α) (key : String) :
    (m.erase key).keys = m.keys.filter (· ≠ key) := by
  simp [keys, erase, List.filter_map, Function.comp_def]

end Daybook.KeyMap
