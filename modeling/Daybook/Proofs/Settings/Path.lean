import Daybook.Proofs.Json.Sorted
import Daybook.Settings

/-!
# Settings and their paths

A change of a setting walks down the keys of its path and makes an object of whatever is none on the
way. All the same it is a change in one place: what was set is found, only the last value that was
set matters, to set what is there changes nothing, and what lies elsewhere stays, as long as neither
path leads through the other (**`change_lawful`**).

* `getAt_setAt_self`, `setAt_setAt`, `setAt_of_getAt`, `getAt_setAt_of_apart`: the laws for keys;
* `Changes`: the laws for a path;
* `keysOf_injective`: the keys of a path are its own.
-/

namespace Daybook.Settings

/-! ## One key -/

theorem get?_membersOf (v : Json) (key : String) : (membersOf v).get? key = v.get? key := by
  cases v <;> rfl

theorem get?_setAt_self (value : Json) (key : String) (rest : List String) (v : Json) :
    (setAt value (key :: rest) v).get? key =
      some (setAt value rest ((v.get? key).getD .null)) := by
  rw [← get?_membersOf v]
  exact KeyMap.get?_insert_self _ _ _

theorem get?_setAt_of_ne (value : Json) {key other : String} (rest : List String) (v : Json)
    (h : other ≠ key) : (setAt value (key :: rest) v).get? other = v.get? other := by
  rw [← get?_membersOf v]
  exact KeyMap.get?_insert_of_ne _ _ h

/-! ## Several keys -/

/-- What was set is found. -/
theorem getAt_setAt_self (value : Json) (keys : List String) (v : Json) :
    getAt keys (setAt value keys v) = some value := by
  induction keys generalizing v with
  | nil => rfl
  | cons key rest ih =>
    rw [getAt, get?_setAt_self]
    exact ih _

/-- Only what was set last counts. -/
theorem setAt_setAt (value value' : Json) (keys : List String) (v : Json) :
    setAt value' keys (setAt value keys v) = setAt value' keys v := by
  induction keys generalizing v with
  | nil => rfl
  | cons key rest ih =>
    have hchild := get?_setAt_self value key rest v
    rw [← get?_membersOf] at hchild
    rw [setAt, hchild, Option.getD_some, ih, setAt, setAt, membersOf, KeyMap.insert_insert,
      get?_membersOf]

/-- To set what is there changes nothing. -/
theorem setAt_of_getAt {value : Json} {keys : List String} {v : Json} (hsorted : v.isSorted)
    (h : getAt keys v = some value) : setAt value keys v = v := by
  induction keys generalizing v with
  | nil => exact (Option.some.inj h).symm
  | cons key rest ih =>
    obtain ⟨child, hchild, hrest⟩ := Option.bind_eq_some_iff.1 h
    -- only an object has members
    cases v with
    | obj members =>
      have hget : KeyMap.get? members key = some child := hchild
      rw [setAt, membersOf, hget, Option.getD_some, ih (Json.isSorted_of_get? hsorted hget) hrest,
        KeyMap.insert_eq_self ((Json.isSorted_obj_iff members).1 hsorted).1 hget]
    | _ => cases hchild

/-- Keys lead on from where others lead. -/
theorem getAt_append (keys further : List String) (v : Json) :
    getAt (keys ++ further) v = (getAt keys v).bind (getAt further) := by
  induction keys generalizing v with
  | nil => rfl
  | cons key rest ih =>
    rw [List.cons_append, getAt, getAt]
    cases v.get? key with
    | none => rfl
    | some child => exact ih child

/-- What keys lead to is in key order. -/
theorem isSorted_of_getAt {keys : List String} {v w : Json} (hv : v.isSorted)
    (h : getAt keys v = some w) : w.isSorted := by
  induction keys generalizing v with
  | nil => rwa [← Option.some.inj h]
  | cons key rest ih =>
    obtain ⟨child, hchild, hfurther⟩ := Option.bind_eq_some_iff.1 h
    cases v with
    | obj members => exact ih (Json.isSorted_of_get? hv hchild) hfurther
    | _ => cases hchild

/-- What lies elsewhere stays. -/
theorem getAt_setAt_of_apart (value : Json) {keys others : List String} (v : Json)
    (h : ¬ keys <+: others) (h' : ¬ others <+: keys) :
    getAt others (setAt value keys v) = getAt others v := by
  induction keys generalizing others v with
  | nil => exact absurd List.nil_prefix h
  | cons key rest ih =>
    cases others with
    | nil => exact absurd List.nil_prefix h'
    | cons other rest' =>
      rw [getAt, getAt]
      by_cases hkey : other = key
      · -- the paths part further down
        subst hkey
        rw [List.prefix_cons_inj] at h h'
        rw [get?_setAt_self, Option.bind_some, ih _ h h']
        cases v.get? other with
        | some child => rfl
        | none =>
          cases rest' with
          | nil => exact absurd List.nil_prefix h'
          | cons _ _ => rfl
      · rw [get?_setAt_of_ne _ _ _ hkey]

/-! ## Paths -/

theorem get?_setAt_keysOf {path : String} {keys : List String} (h : keysOf path = keys)
    (value root : Json) : get? (setAt value keys root) path = some value := by
  rw [get?, h, getAt_setAt_self]

theorem get?_setAt_of_apart {path : String} {keys : List String} (h : ¬ keys <+: keysOf path)
    (h' : ¬ keysOf path <+: keys) (value root : Json) :
    get? (setAt value keys root) path = get? root path :=
  getAt_setAt_of_apart _ _ h h'

/-- The settings after a change at a path: what was set is found, only what is set last counts, to
set what is there changes nothing, and what lies elsewhere stays. -/
structure Changes (root : Json) (path : String) (value root' : Json) : Prop where
  found : get? root' path = some value
  last : ∀ value', change root' path value' = change root path value'
  idle : get? root path = some value → root' = root
  elsewhere : ∀ other, ¬ keysOf path <+: keysOf other → ¬ keysOf other <+: keysOf path →
    get? root' other = get? root other

theorem change_of_mem {path : String} (h : "" ∈ keysOf path) (root value : Json) :
    change root path value = (.error (.invalidInput (.settingsPath path)), root) := by
  have hempty : (keysOf path).any String.isEmpty := List.any_eq_true.2 ⟨"", h, rfl⟩
  simp [change, set, hempty]

theorem change_of_not_mem {path : String} (h : "" ∉ keysOf path) (root value : Json) :
    change root path value = (.ok (), setAt value (keysOf path) root) := by
  have hempty : (keysOf path).any String.isEmpty = false := by
    rw [List.any_eq_false]
    intro key hkey
    rw [String.isEmpty_iff]
    rintro rfl
    exact h hkey
  simp [change, set, hempty]

/-- **A change of a setting** fails just if its path has an empty key, and then changes nothing;
otherwise it keeps the laws of a change in one place. -/
theorem change_lawful {root : Json} (hsorted : root.isSorted) (path : String) (value : Json) :
    ((∃ e, (change root path value).1 = .error e) ↔ "" ∈ keysOf path) ∧
      ("" ∈ keysOf path → (change root path value).2 = root) ∧
      ("" ∉ keysOf path → Changes root path value (change root path value).2) := by
  by_cases h : "" ∈ keysOf path
  · rw [change_of_mem h]
    exact ⟨iff_of_true ⟨_, rfl⟩ h, fun _ => rfl, fun h' => absurd h h'⟩
  · rw [change_of_not_mem h]
    refine ⟨iff_of_false (fun ⟨_, he⟩ => nomatch he) h, fun h' => absurd h' h, fun _ => ?_⟩
    exact {
      found := get?_setAt_keysOf rfl _ _
      last := fun value' => by
        rw [change_of_not_mem h, change_of_not_mem h, setAt_setAt]
      idle := fun hget => setAt_of_getAt hsorted hget
      elsewhere := fun other hother hpath => get?_setAt_of_apart hother hpath _ _ }

/-- A change below a value that is no object makes one of it, and nothing else changes. -/
theorem change_lawful_defaults : defaults.isSorted ∧
    (change defaults "version.major" (.int 2)).1 = .ok () ∧
    get? (change defaults "version.major" (.int 2)).2 "version.major" = some (.int 2) ∧
    get? (change defaults "version.major" (.int 2)).2 fileIdPath = some (.str "") := by
  have hsorted : defaults.isSorted := by decide
  obtain ⟨-, -, hchanges⟩ := change_lawful hsorted "version.major" (.int 2)
  obtain ⟨hfound, -, -, helsewhere⟩ := hchanges (by decide)
  exact ⟨hsorted, rfl, hfound, helsewhere fileIdPath (by decide) (by decide)⟩

/-! ## The keys of a path -/

theorem splitWhere_ne_nil {α : Type} (test : α → Bool) (s : List α) : splitWhere test s ≠ [] := by
  cases s with
  | nil => simp [splitWhere]
  | cons d rest =>
    rw [splitWhere]
    split_ifs
    · simp
    · split <;> simp

theorem keysOf_ne_nil (path : String) : keysOf path ≠ [] := by
  simp [keysOf, splitWhere_ne_nil]

/-- The parts of a text, put together again. -/
theorem intercalate_splitWhere (c : Char) (s : List Char) :
    [c].intercalate (splitWhere (· = c) s) = s := by
  induction s with
  | nil => simp [splitWhere, List.intercalate]
  | cons d rest ih =>
    obtain ⟨part, parts, hparts⟩ := List.exists_cons_of_ne_nil (splitWhere_ne_nil (· = c) rest)
    rw [hparts] at ih
    by_cases hd : d = c
    · simpa [splitWhere, hd, hparts, List.intercalate] using ih
    · cases parts <;> simpa [splitWhere, hd, hparts, List.intercalate] using ih

/-- The keys of a path are its own. -/
theorem keysOf_injective : Function.Injective keysOf := by
  intro path other h
  have hparts : splitWhere (· = '.') path.toList = splitWhere (· = '.') other.toList :=
    List.map_injective_iff.2 (fun _ _ => String.ofList_injective) h
  rw [← String.toList_inj, ← intercalate_splitWhere '.' path.toList, hparts,
    intercalate_splitWhere]

end Daybook.Settings
