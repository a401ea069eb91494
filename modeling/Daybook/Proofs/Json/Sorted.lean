import Daybook.Json.Printer
import Daybook.Json.Reader
import Daybook.Proofs.KeyMap

/-!
# Values in key order

The members of an object that was read are put in the order of their keys, whatever the order in
which they were written. So all objects in a value that was read are in order
(**`isSorted_of_read?`**).

* `Json.isSorted`: the members of all objects are in key order;
* `Json.ReadsBack`: the text of a value is read as that value.
-/

namespace Daybook.Json

mutual

/-- The members of all objects in the value are in key order. -/
def isSorted : Json → Bool
  | .arr items => itemsSorted items
  | .obj members => decide (KeyMap.Ordered members) && membersSorted members
  | _ => true
termination_by structural v => v

/-- The items are in key order. -/
def itemsSorted : List Json → Bool
  | [] => true
  | v :: rest => isSorted v && itemsSorted rest
termination_by structural vs => vs

/-- The value of a member is in key order. -/
def memberSorted : String × Json → Bool
  | (_, v) => isSorted v
termination_by structural m => m

/-- The values of members are in key order. -/
def membersSorted : List (String × Json) → Bool
  | [] => true
  | m :: rest => memberSorted m && membersSorted rest
termination_by structural ms => ms

end

theorem itemsSorted_iff (items : List Json) : itemsSorted items ↔ ∀ v ∈ items, v.isSorted := by
  induction items with
  | nil => simp [itemsSorted]
  | cons v rest ih => rw [itemsSorted, Bool.and_eq_true, ih, List.forall_mem_cons]

theorem membersSorted_iff (members : List (String × Json)) :
    membersSorted members ↔ ∀ m ∈ members, m.2.isSorted := by
  induction members with
  | nil => simp [membersSorted]
  | cons m rest ih => rw [membersSorted, Bool.and_eq_true, ih, List.forall_mem_cons, memberSorted]

theorem isSorted_arr_iff (items : List Json) : (arr items).isSorted ↔ ∀ v ∈ items, v.isSorted := by
  rw [isSorted, itemsSorted_iff]

theorem isSorted_obj_iff (members : KeyMap Json) :
    (obj members).isSorted ↔ members.Ordered ∧ ∀ m ∈ members, m.2.isSorted := by
  rw [isSorted, Bool.and_eq_true, decide_eq_true_iff, membersSorted_iff]

/-- The value that is found in an object in key order is in key order. -/
theorem isSorted_of_get? {members : KeyMap Json} (h : (obj members).isSorted) {key : String}
    {v : Json} (hget : members.get? key = some v) : v.isSorted :=
  ((isSorted_obj_iff members).1 h).2 _ (KeyMap.mem_of_get? hget)

/-- An object of values in key order is in key order once its members are put in order. -/
theorem isSorted_ofList {members : List (String × Json)} (h : ∀ m ∈ members, m.2.isSorted) :
    (obj (KeyMap.ofList members)).isSorted :=
  (isSorted_obj_iff _).2
    ⟨KeyMap.ordered_ofList members, fun m hm => h m (KeyMap.mem_of_mem_ofList hm)⟩

/-! ## Values that are read -/

theorem isSorted_of_readNumber? {negative : Bool} {s rest : List Char} {v : Json}
    (h : readNumber? negative s = some (v, rest)) : v.isSorted := by
  simp only [readNumber?, Option.ite_none_left_eq_some, Option.bind_eq_bind, Option.pure_def,
    Option.bind_eq_some_iff] at h
  obtain ⟨-, -, -, exponent, -, h⟩ := h
  -- an integer or a floating-point number
  split_ifs at h
  · cases h
    rfl
  · cases h
    rfl
  · obtain ⟨x, -, h⟩ := Option.bind_eq_some_iff.1 h
    cases h
    rfl
  · cases h
    rfl
  · obtain ⟨x, -, h⟩ := Option.bind_eq_some_iff.1 h
    cases h
    rfl

/-- What is read with so much fuel is in key order. -/
structure ReadsSorted (fuel : Nat) : Prop where
  value : ∀ {depth s v rest}, readValue? fuel depth s = some (v, rest) → v.isSorted
  items : ∀ {depth s items rest}, readItems? fuel depth s = some (items, rest) →
    ∀ v ∈ items, v.isSorted
  fields : ∀ {depth s members rest}, readFields? fuel depth s = some (members, rest) →
    ∀ m ∈ members, m.2.isSorted

namespace ReadsSorted

theorem zero : ReadsSorted 0 where
  value h := by simp [readValue?] at h
  items h := by simp [readItems?] at h
  fields h := by simp [readFields?] at h

variable {fuel : Nat} (ih : ReadsSorted fuel)

include ih

theorem succ_value {depth : Nat} {s rest : List Char} {v : Json}
    (h : readValue? (fuel + 1) depth s = some (v, rest)) : v.isSorted := by
  rw [readValue?] at h
  split at h
  · cases h
    rfl
  · cases h
    rfl
  · cases h
    rfl
  · obtain ⟨text, -, h⟩ := Option.bind_eq_some_iff.1 h
    cases h
    rfl
  · exact isSorted_of_readNumber? h
  · split_ifs at h
    split at h
    · cases h
      rfl
    · obtain ⟨p, hp, h⟩ := Option.bind_eq_some_iff.1 h
      cases h
      exact (isSorted_arr_iff _).2 (ih.items hp)
  · split_ifs at h
    split at h
    · cases h
      rfl
    · obtain ⟨p, hp, h⟩ := Option.bind_eq_some_iff.1 h
      cases h
      exact isSorted_ofList (ih.fields hp)
  · exact isSorted_of_readNumber? h

theorem succ_items {depth : Nat} {s rest : List Char} {items : List Json}
    (h : readItems? (fuel + 1) depth s = some (items, rest)) : ∀ v ∈ items, v.isSorted := by
  rw [readItems?] at h
  obtain ⟨⟨v, r⟩, hv, h⟩ := Option.bind_eq_some_iff.1 h
  have hsorted := ih.value hv
  dsimp only at h
  split at h
  · cases h
    exact List.forall_mem_singleton.2 hsorted
  · obtain ⟨p, hp, h⟩ := Option.bind_eq_some_iff.1 h
    cases h
    exact List.forall_mem_cons.2 ⟨hsorted, ih.items hp⟩
  · cases h

theorem succ_fields {depth : Nat} {s rest : List Char} {members : List (String × Json)}
    (h : readFields? (fuel + 1) depth s = some (members, rest)) : ∀ m ∈ members, m.2.isSorted := by
  rw [readFields?] at h
  split at h
  · obtain ⟨⟨key, r⟩, -, h⟩ := Option.bind_eq_some_iff.1 h
    dsimp only at h
    split at h
    · obtain ⟨⟨v, r'⟩, hv, h⟩ := Option.bind_eq_some_iff.1 h
      have hsorted := ih.value hv
      dsimp only at h
      split at h
      · cases h
        exact List.forall_mem_singleton.2 hsorted
      · obtain ⟨p, hp, h⟩ := Option.bind_eq_some_iff.1 h
        cases h
        exact List.forall_mem_cons.2 ⟨hsorted, ih.fields hp⟩
      · cases h
    · cases h
  · cases h

end ReadsSorted

theorem readsSorted (fuel : Nat) : ReadsSorted fuel := by
  induction fuel with
  | zero => exact .zero
  | succ fuel ih => exact ⟨ih.succ_value, ih.succ_items, ih.succ_fields⟩

/-- **A value that is read is in key order.** -/
theorem isSorted_of_read? {text : String} {v : Json} (h : read? text = some v) : v.isSorted := by
  rw [read?, readWithin?] at h
  split at h
  · rename_i w rest hw
    split_ifs at h
    cases h
    exact (readsSorted _).value hw
  · cases h

/-- The text of the value is read as that value. -/
def ReadsBack (v : Json) : Prop := read? v.pretty = some v

theorem ReadsBack.isSorted {v : Json} (h : v.ReadsBack) : v.isSorted := isSorted_of_read? h

end Daybook.Json
