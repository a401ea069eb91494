import Daybook.Proofs.Settings.Path

/-!
# Kept settings beside defaults

Kept settings take what they lack from the defaults, and lose what the defaults do not have. So
wherever both have an object, its keys are those of the defaults afterwards, and its values are
those that were kept, if there are any (`get?_lineUpMembers`). To line them up again changes nothing
(**`lineUp_lineUp`**).

* `lineUpMembers`: the members of objects that are lined up;
* `getAt_lineUp`: what keys lead to is lined up with what they lead to in the defaults;
* `LinesUp`, **`linesUp_lineUp`**: settings in line with defaults, level by level;
* `sameVersion_lineUpMembers`: the version stays.
-/

namespace Daybook

/-! ## Objects -/

/-- The value is an object. -/
def Json.isObject : Json → Bool
  | .obj _ => true
  | _ => false

/-- What holds of an object if it holds of its members, and of all that is no object, holds of every
value. -/
theorem Json.objectInduction {motive : Json → Prop}
    (obj : ∀ members : List (String × Json), (∀ m ∈ members, motive m.2) → motive (.obj members))
    (other : ∀ v : Json, v.isObject = false → motive v) : ∀ v, motive v
  | .obj members => obj members fun m hm =>
      have hlt : sizeOf m.2 < sizeOf (Json.obj members) := by
        have hmem := List.sizeOf_lt_of_mem hm
        obtain ⟨key, v⟩ := m
        simp only [Prod.mk.sizeOf_spec, Json.obj.sizeOf_spec] at hmem ⊢
        omega
      objectInduction obj other m.2
  | .null => other .null rfl
  | .bool b => other (.bool b) rfl
  | .int n => other (.int n) rfl
  | .real x => other (.real x) rfl
  | .str s => other (.str s) rfl
  | .arr items => other (.arr items) rfl
termination_by v => sizeOf v
decreasing_by exact hlt

namespace Settings

variable {own members : KeyMap Json}

/-! ## Taking and losing members -/

theorem mergeMember_eq (key : String) (d : Json) (v : Option Json) :
    mergeMember (key, d) v = (v.map (merge d)).getD d := by
  cases v <;> rfl

theorem get?_mergeMembers (hown : own.Ordered) (kept : KeyMap Json) (key : String) :
    (mergeMembers own kept).get? key =
      match own.get? key with
      | some d => some (((kept.get? key).map (merge d)).getD d)
      | none => kept.get? key := by
  induction own generalizing kept with
  | nil => rfl
  | cons p rest ih =>
    obtain ⟨k, d⟩ := p
    rw [mergeMembers, ih (List.pairwise_cons.1 hown).2, KeyMap.get?]
    by_cases hkey : k = key
    · subst hkey
      rw [if_pos rfl, KeyMap.get?_rest_of_ordered hown]
      dsimp only
      rw [KeyMap.get?_insert_self, mergeMember_eq]
    · rw [if_neg hkey, KeyMap.get?_insert_of_ne _ _ (Ne.symm hkey)]

theorem ordered_mergeMembers (own : KeyMap Json) {kept : KeyMap Json} (h : kept.Ordered) :
    (mergeMembers own kept).Ordered := by
  induction own generalizing kept with
  | nil => exact h
  | cons p rest ih => exact ih (KeyMap.ordered_insert h _ _)

theorem get?_pruneMembers (members own : KeyMap Json) (key : String) :
    KeyMap.get? (pruneMembers members own) key =
      (own.get? key).bind fun d => (members.get? key).map fun v => prune v d := by
  induction members with
  | nil => cases own.get? key <;> rfl
  | cons p rest ih =>
    obtain ⟨k, v⟩ := p
    rw [pruneMembers, KeyMap.get?]
    by_cases hkey : k = key
    · subst hkey
      cases hown : own.get? k with
      | none => simpa [hown] using ih
      | some d => simp [KeyMap.get?, pruneMember]
    · cases hown : own.get? k with
      | none => simpa [hkey] using ih
      | some d => simpa [KeyMap.get?, pruneMember, hkey] using ih

theorem keys_pruneMembers (members own : KeyMap Json) :
    KeyMap.keys (pruneMembers members own) = members.keys.filter own.contains := by
  induction members with
  | nil => rfl
  | cons p rest ih =>
    obtain ⟨k, v⟩ := p
    rw [KeyMap.keys] at ih
    cases hown : own.get? k <;>
      simp [pruneMembers, pruneMember, KeyMap.keys, KeyMap.contains, hown, ih]

theorem ordered_pruneMembers (own : KeyMap Json) (h : members.Ordered) :
    KeyMap.Ordered (pruneMembers members own) := by
  rw [KeyMap.Ordered, keys_pruneMembers]
  exact h.filter _

/-! ## Lining up -/

/-- The members of an object in line with those of defaults. -/
def lineUpMembers (own members : KeyMap Json) : KeyMap Json :=
  pruneMembers (mergeMembers own members) own

theorem lineUp_obj (own members : KeyMap Json) :
    lineUp (.obj own) (.obj members) = .obj (lineUpMembers own members) := rfl

/-- What is not an object beside another is kept as it is. -/
theorem lineUp_of_not_isObject {d v : Json} (h : d.isObject = false ∨ v.isObject = false) :
    lineUp d v = v := by
  cases d <;> cases v <;> first | rfl | simp [Json.isObject] at h

theorem ordered_lineUpMembers (own : KeyMap Json) (h : members.Ordered) :
    (lineUpMembers own members).Ordered :=
  ordered_pruneMembers own (ordered_mergeMembers own h)

/-- Defaults have all members of themselves. -/
theorem prune_self {d : Json} (h : d.isSorted) : prune d d = d := by
  induction d using Json.objectInduction with
  | obj own ih =>
    have hown := ((Json.isSorted_obj_iff own).1 h).1
    have hself : pruneMembers own own = own := by
      refine KeyMap.ext_of_ordered (ordered_pruneMembers own hown) hown fun key => ?_
      rw [get?_pruneMembers]
      cases hget : KeyMap.get? own key with
      | none => rfl
      | some d =>
        exact congrArg some (ih (key, d) (KeyMap.mem_of_get? hget) (Json.isSorted_of_get? h hget))
    rw [prune, hself]
  | other v hv => cases v <;> first | rfl | cases hv

/-- **What is found after lining up**: what was kept, in line with its default, or the default. -/
theorem get?_lineUpMembers (h : (Json.obj own).isSorted) (members : KeyMap Json) (key : String) :
    (lineUpMembers own members).get? key =
      (own.get? key).map fun d => ((members.get? key).map (lineUp d)).getD d := by
  rw [lineUpMembers, get?_pruneMembers, get?_mergeMembers ((Json.isSorted_obj_iff own).1 h).1]
  cases hown : own.get? key with
  | none => rfl
  | some d =>
    cases members.get? key with
    | none => exact congrArg some (prune_self (Json.isSorted_of_get? h hown))
    | some v => rfl

theorem keys_lineUpMembers (h : (Json.obj own).isSorted) (hmembers : members.Ordered) :
    (lineUpMembers own members).keys = own.keys := by
  refine KeyMap.keys_eq_of_isSome (ordered_lineUpMembers own hmembers)
    ((Json.isSorted_obj_iff own).1 h).1 fun key => ?_
  rw [get?_lineUpMembers h, Option.isSome_map]

/-- Objects with the same keys are in line if their members are. -/
theorem lineUp_eq_self (h : (Json.obj own).isSorted) (hmembers : members.Ordered)
    (hkeys : own.keys = members.keys)
    (hlines : ∀ key d v, own.get? key = some d → members.get? key = some v → lineUp d v = v) :
    lineUp (.obj own) (.obj members) = .obj members := by
  have hself : lineUpMembers own members = members := by
    refine KeyMap.ext_of_ordered (ordered_lineUpMembers own hmembers) hmembers fun key => ?_
    have hcontains := KeyMap.contains_congr hkeys key
    rw [get?_lineUpMembers h]
    cases hown : own.get? key with
    | none =>
      rw [KeyMap.contains, KeyMap.contains, hown] at hcontains
      exact (Option.isNone_iff_eq_none.1 (by simpa using hcontains.symm)).symm
    | some d =>
      cases hv : members.get? key with
      | none =>
        rw [KeyMap.contains, KeyMap.contains, hown, hv] at hcontains
        cases hcontains
      | some v => exact congrArg some (hlines key d v hown hv)
  rw [lineUp_obj, hself]

/-- Defaults are in line with themselves. -/
theorem lineUp_self {d : Json} (h : d.isSorted) : lineUp d d = d := by
  induction d using Json.objectInduction with
  | obj own ih =>
    refine lineUp_eq_self h ((Json.isSorted_obj_iff own).1 h).1 rfl fun key d v hd hv => ?_
    obtain rfl := Option.some.inj (hd.symm.trans hv)
    exact ih (key, d) (KeyMap.mem_of_get? hd) (Json.isSorted_of_get? h hd)
  | other v hv => exact lineUp_of_not_isObject (.inl hv)

/-- **To line up again changes nothing.** -/
theorem lineUp_lineUp {d v : Json} (hd : d.isSorted) (hv : v.isSorted) :
    lineUp d (lineUp d v) = lineUp d v := by
  induction d using Json.objectInduction generalizing v with
  | obj own ih =>
    cases v with
    | obj members =>
      have hordered := ((Json.isSorted_obj_iff members).1 hv).1
      rw [lineUp_obj]
      refine lineUp_eq_self hd (ordered_lineUpMembers own hordered)
        (keys_lineUpMembers hd hordered).symm fun key d w hget hw => ?_
      have hsorted := Json.isSorted_of_get? hd hget
      rw [get?_lineUpMembers hd, hget] at hw
      obtain rfl := Option.some.inj hw
      cases hmember : KeyMap.get? members key with
      | none => exact lineUp_self hsorted
      | some u =>
        exact ih (key, d) (KeyMap.mem_of_get? hget) hsorted (Json.isSorted_of_get? hv hmember)
    | _ => rfl
  | other d hd' => rw [lineUp_of_not_isObject (.inl hd'), lineUp_of_not_isObject (.inl hd')]

/-! ## Versions -/

theorem keys_of_sameFields {ps qs : KeyMap Json} (h : Json.sameFields ps qs) :
    ps.keys = qs.keys := by
  induction ps generalizing qs with
  | nil =>
    cases qs with
    | nil => rfl
    | cons q rest => cases h
  | cons p rest ih =>
    cases qs with
    | nil => cases h
    | cons q rest' =>
      rw [Json.sameFields, Json.sameField, Bool.and_eq_true, Bool.and_eq_true,
        decide_eq_true_iff] at h
      rw [KeyMap.keys, KeyMap.keys, List.map_cons, List.map_cons, h.1.1]
      exact congrArg _ (ih h.2)

theorem same_of_sameFields {ps qs : KeyMap Json} (h : Json.sameFields ps qs) {key : String}
    {d v : Json} (hd : ps.get? key = some d) (hv : qs.get? key = some v) : d.same v := by
  induction ps generalizing qs with
  | nil => cases hd
  | cons p rest ih =>
    cases qs with
    | nil => cases h
    | cons q rest' =>
      rw [Json.sameFields, Json.sameField, Bool.and_eq_true, Bool.and_eq_true,
        decide_eq_true_iff] at h
      rw [KeyMap.get?] at hd hv
      rw [← h.1.1] at hv
      split_ifs at hd hv
      · rw [← Option.some.inj hd, ← Option.some.inj hv]
        exact h.1.2
      · exact ih h.2 hd hv

/-- What is the same is in line. -/
theorem lineUp_of_same {d v : Json} (hd : d.isSorted) (hv : v.isSorted) (h : d.same v) :
    lineUp d v = v := by
  induction d using Json.objectInduction generalizing v with
  | obj own ih =>
    cases v with
    | obj members =>
      rw [Json.same] at h
      refine lineUp_eq_self hd ((Json.isSorted_obj_iff members).1 hv).1 (keys_of_sameFields h)
        fun key d v hget hget' => ?_
      exact ih (key, d) (KeyMap.mem_of_get? hget) (Json.isSorted_of_get? hd hget)
        (Json.isSorted_of_get? hv hget') (same_of_sameFields h hget hget')
    | _ => rfl
  | other d hd' => exact lineUp_of_not_isObject (.inl hd')

/-- Settings of one version keep it. -/
theorem sameVersion_lineUpMembers (hown : (Json.obj own).isSorted)
    (hmembers : (Json.obj members).isSorted) (h : sameVersion own members) :
    sameVersion own (lineUpMembers own members) := by
  rw [sameVersion] at h ⊢
  rw [get?_lineUpMembers hown]
  cases hd : own.get? "version" with
  | none => rfl
  | some d =>
    cases hv : members.get? "version" with
    | none =>
      rw [hd, hv] at h
      cases h
    | some v =>
      rw [hd, hv] at h
      have hsame : d.same v := h
      show d.same (lineUp d v)
      rwa [lineUp_of_same (Json.isSorted_of_get? hown hd) (Json.isSorted_of_get? hmembers hv) hsame]

/-! ## Levels -/

/-- **What keys lead to** is lined up with what they lead to in the defaults. -/
theorem getAt_lineUp {keys : List String} {d v d' v' : Json} (hd : d.isSorted)
    (hdefault : getAt keys d = some d') (hkept : getAt keys v = some v') :
    getAt keys (lineUp d v) = some (lineUp d' v') := by
  induction keys generalizing d v with
  | nil => rw [getAt, Option.some.inj hdefault, Option.some.inj hkept]
  | cons key rest ih =>
    obtain ⟨e, he, hfurther⟩ := Option.bind_eq_some_iff.1 hdefault
    obtain ⟨w, hw, hfurther'⟩ := Option.bind_eq_some_iff.1 hkept
    cases d with
    | obj own =>
      cases v with
      | obj members =>
        have hchild : (lineUp (.obj own) (.obj members)).get? key = some (lineUp e w) := by
          show (lineUpMembers own members).get? key = _
          rw [get?_lineUpMembers hd, show KeyMap.get? own key = some e from he,
            show KeyMap.get? members key = some w from hw]
          rfl
        rw [getAt, hchild]
        exact ih (Json.isSorted_of_get? hd he) hfurther hfurther'
      | _ => cases hw
    | _ => cases he

/-- The settings are in line with defaults: at every level at which both the defaults and what was
kept are objects, the keys are those of the defaults, and each value is the one that was kept,
unless it is an object beside an object, or the default where none was kept. -/
def LinesUp (defaults kept root : Json) : Prop :=
  ∀ (keys : List String) (own members : KeyMap Json), getAt keys defaults = some (.obj own) →
    getAt keys kept = some (.obj members) →
    ∃ lined : KeyMap Json, getAt keys root = some (.obj lined) ∧ lined.keys = own.keys ∧
      ∀ key d, own.get? key = some d →
        match members.get? key with
        | some v => (d.isObject && v.isObject) = false → lined.get? key = some v
        | none => lined.get? key = some d

/-- **Kept settings come in line with defaults.** -/
theorem linesUp_lineUp {defaults kept : Json} (hdefaults : defaults.isSorted)
    (hkept : kept.isSorted) : LinesUp defaults kept (lineUp defaults kept) := by
  intro keys own members hown hmembers
  have hsorted := isSorted_of_getAt hdefaults hown
  have hordered := ((Json.isSorted_obj_iff members).1 (isSorted_of_getAt hkept hmembers)).1
  refine ⟨lineUpMembers own members, getAt_lineUp hdefaults hown hmembers,
    keys_lineUpMembers hsorted hordered, fun key d hd => ?_⟩
  rw [get?_lineUpMembers hsorted, hd]
  cases members.get? key with
  | none => rfl
  | some v =>
    intro hobjects
    exact congrArg some (lineUp_of_not_isObject (Bool.and_eq_false_iff.1 hobjects))

end Settings
end Daybook
