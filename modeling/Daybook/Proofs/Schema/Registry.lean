import Daybook.History
import Daybook.Proofs.KeyMap
import Daybook.Proofs.Schema.Rules
import Daybook.Schema.IndexedRegistry
import Mathlib.Data.List.Induction

/-!
# Registries after many registrations

A registry shows each entity once, in the order in which the entities were first registered, with
the schema that was registered for it last. Whether it keeps its schemas in one list, or an order
and an index that change apart from each other, makes no difference
(**`IndexedRegistry.history_shows`**).

* `latest?`, `current`: what the schemas that were registered leave in force;
* `Registry.putIn_filterMap`, `current_concat`: one more schema;
* `IndexedRegistry.Holds`: the order and the index against what was registered;
* `IndexedRegistry.Shows`: what a registry shows.
-/

namespace Daybook.Schema

/-- The schema of an entity that was registered last. -/
def latest? (registered : List Schema) (entity : String) : Option Schema :=
  registered.reverse.find? fun s => s.entity = entity

/-- The entities of schemas, in the order in which they come first. -/
def entitiesOf (registered : List Schema) : List String :=
  (registered.map Schema.entity).eraseDups

/-- The schemas that are in force. -/
def current (registered : List Schema) : List Schema :=
  (entitiesOf registered).filterMap (latest? registered)

variable {l : List Schema} {s : Schema} {e : String}

/-! ## What was registered -/

theorem latest?_concat (l : List Schema) (s : Schema) (e : String) :
    latest? (l ++ [s]) e = if e = s.entity then some s else latest? l e := by
  by_cases h : e = s.entity
  · simp [latest?, h]
  · simp [latest?, h, Ne.symm h]

theorem entity_of_latest? (h : latest? l e = some s) : s.entity = e := by
  simpa using List.find?_some h

theorem mem_of_latest? (h : latest? l e = some s) : s ∈ l :=
  List.mem_reverse.1 (List.mem_of_find?_eq_some h)

theorem mem_entitiesOf : e ∈ entitiesOf l ↔ ∃ s ∈ l, s.entity = e := by
  rw [entitiesOf, List.mem_eraseDups, List.mem_map]

theorem latest?_isSome_iff : (latest? l e).isSome ↔ e ∈ entitiesOf l := by
  rw [mem_entitiesOf, latest?, List.find?_isSome]
  simp only [List.mem_reverse, decide_eq_true_eq]

theorem entitiesOf_concat (l : List Schema) (s : Schema) : entitiesOf (l ++ [s]) =
    if s.entity ∈ entitiesOf l then entitiesOf l else entitiesOf l ++ [s.entity] := by
  have hmem : s.entity ∈ entitiesOf l ↔ s.entity ∈ l.map Schema.entity := List.mem_eraseDups
  rw [entitiesOf, List.map_append, List.map_singleton, List.eraseDups_append, List.removeAll,
    List.filter_singleton, List.elem_eq_mem]
  split_ifs with h
  · rw [decide_eq_true (hmem.1 h)]
    exact List.append_nil _
  · rw [decide_eq_false (mt hmem.2 h)]
    rfl

theorem nodup_entitiesOf (l : List Schema) : (entitiesOf l).Nodup := by
  induction l using List.reverseRecOn with
  | nil => exact .nil
  | append_singleton l s ih =>
    rw [entitiesOf_concat]
    split_ifs with h
    · exact ih
    · rw [List.nodup_append_comm, List.singleton_append, List.nodup_cons]
      exact ⟨h, ih⟩

/-! ## One more schema -/

/-- To put a schema into a list that is looked up from entities is to look it up as well. -/
theorem Registry.putIn_filterMap {find : String → Option Schema}
    (hfind : ∀ e s, find e = some s → s.entity = e) {es : List String} (hnodup : es.Nodup)
    (hsome : ∀ e ∈ es, (find e).isSome) (s : Schema) :
    Registry.putIn s (es.filterMap find) =
      (if s.entity ∈ es then es else es ++ [s.entity]).filterMap
        fun e => if e = s.entity then some s else find e := by
  induction es with
  | nil => simp [Registry.putIn]
  | cons e es ih =>
    rw [List.forall_mem_cons] at hsome
    rw [List.nodup_cons] at hnodup
    obtain ⟨t, ht⟩ := Option.isSome_iff_exists.1 hsome.1
    rw [List.filterMap_cons_some ht, Registry.putIn, hfind e t ht]
    by_cases he : e = s.entity
    · have hrest : es.filterMap find =
          es.filterMap fun e => if e = s.entity then some s else find e := by
        refine List.filterMap_congr fun f hf => ?_
        rw [if_neg]
        rintro rfl
        exact hnodup.1 (he ▸ hf)
      rw [if_pos he, if_pos (he ▸ List.mem_cons_self), List.filterMap_cons, if_pos he, hrest]
    · rw [if_neg he, ih hnodup.2 hsome.2]
      have hmem : s.entity ∈ e :: es ↔ s.entity ∈ es := by simp [Ne.symm he]
      simp only [hmem]
      split_ifs <;> simp [he, ht]

/-- The schemas in force, after one more was registered. -/
theorem current_concat (l : List Schema) (s : Schema) :
    current (l ++ [s]) = Registry.putIn s (current l) := by
  rw [current, current, Registry.putIn_filterMap (fun e t => entity_of_latest?)
    (nodup_entitiesOf l) fun e => latest?_isSome_iff.2, entitiesOf_concat]
  exact List.filterMap_congr fun e _ => latest?_concat l s e

theorem mem_current_iff : s ∈ current l ↔ latest? l s.entity = some s := by
  rw [current, List.mem_filterMap]
  constructor
  · rintro ⟨e, -, he⟩
    rwa [entity_of_latest? he]
  · intro h
    exact ⟨s.entity, latest?_isSome_iff.1 (by rw [h]; rfl), h⟩

/-- What is found among the schemas in force. -/
theorem find?_current (l : List Schema) (e : String) :
    (current l).find? (fun s => s.entity = e) = latest? l e := by
  cases hfind : (current l).find? fun s => s.entity = e with
  | some s =>
    have he : s.entity = e := by simpa using List.find?_some hfind
    rw [← he, mem_current_iff.1 (List.mem_of_find?_eq_some hfind)]
  | none =>
    symm
    rw [Option.eq_none_iff_forall_ne_some]
    intro s hs
    have he := entity_of_latest? hs
    have hmem : s ∈ current l := mem_current_iff.2 (by rw [he, hs])
    simpa [he] using List.find?_eq_none.1 hfind s hmem

theorem map_entity_current (l : List Schema) : (current l).map Schema.entity = entitiesOf l := by
  rw [current, List.map_filterMap]
  refine (List.filterMap_congr fun e he => ?_).trans List.filterMap_some
  obtain ⟨s, hs⟩ := Option.isSome_iff_exists.1 (latest?_isSome_iff.2 he)
  rw [hs, Option.map_some, entity_of_latest? hs]

/-! ## Registrations -/

theorem validate_of_fault?_eq_none (h : s.fault? = none) : s.validate = .ok s := by
  rw [validate, h]

theorem validate_of_fault?_eq_some {fault : SchemaFault} (h : s.fault? = some fault) :
    s.validate = .error (.invalidSchema fault) := by
  rw [validate, h]

/-- A registration is granted if the schema breaks no rule, and else changes nothing. -/
theorem Registry.register_eq (r : Registry) (c : Registration) :
    r.register c = match c.schema.fault? with
      | some fault => (.error (.invalidSchema fault), r)
      | none => (.ok c.schema, r.put c.schema) := by
  cases h : c.schema.fault? with
  | some fault =>
    have hvalid := validate_of_fault?_eq_some h
    cases c <;> simp_all [register, declare, insert, make, Registration.schema, bind, Except.bind]
  | none =>
    have hvalid := validate_of_fault?_eq_none h
    cases c <;> simp_all [register, declare, insert, make, Registration.schema, bind, Except.bind,
      pure, Except.pure]

/-- A registration is granted if the schema breaks no rule, and else changes nothing. -/
theorem IndexedRegistry.register_eq (r : IndexedRegistry) (c : Registration) :
    r.register c = match c.schema.fault? with
      | some fault => (.error (.invalidSchema fault), r)
      | none => (.ok c.schema, r.put c.schema) := by
  cases h : c.schema.fault? with
  | some fault =>
    have hvalid := validate_of_fault?_eq_some h
    cases c <;> simp_all [register, declare, insert, make, Registration.schema]
  | none =>
    have hvalid := validate_of_fault?_eq_none h
    cases c <;> simp_all [register, declare, insert, make, Registration.schema]

/-- The schemas that were registered, of registrations with their answers. -/
def registered (steps : List (Registration × Except Failure Schema)) : List Schema :=
  steps.filterMap fun step => step.2.toOption

theorem registered_concat (steps : List (Registration × Except Failure Schema))
    (c : Registration) (answer : Except Failure Schema) :
    registered (steps ++ [(c, answer)]) = registered steps ++ answer.toOption.toList := by
  unfold registered
  cases h : answer.toOption <;> simp [h]

namespace IndexedRegistry

variable {r : IndexedRegistry}

/-! ## The order and the index -/

/-- The order and the index are those of the schemas that were registered. -/
structure Holds (r : IndexedRegistry) (l : List Schema) : Prop where
  order : r.order = entitiesOf l
  index : ∀ e, r.index.get? e = latest? l e
  ordered : r.index.Ordered

theorem Holds.empty : Holds {} [] := ⟨rfl, fun _ => rfl, .nil⟩

/-- The order and the index stay in step. -/
theorem Holds.put (h : r.Holds l) (s : Schema) : (r.put s).Holds (l ++ [s]) where
  order := by
    have hknown : (r.index.get? s.entity).isSome ↔ s.entity ∈ r.order := by
      rw [h.index, h.order, latest?_isSome_iff]
    rw [entitiesOf_concat, ← h.order]
    unfold IndexedRegistry.put
    cases hget : r.index.get? s.entity <;> simp_all
  index e := by
    rw [latest?_concat, ← h.index]
    split_ifs with he
    · rw [he]
      exact KeyMap.get?_insert_self _ _ _
    · exact KeyMap.get?_insert_of_ne _ _ he
  ordered := KeyMap.ordered_insert h.ordered _ _

theorem Holds.schemas (h : r.Holds l) : r.schemas = current l := by
  rw [IndexedRegistry.schemas, h.order, current, funext h.index]

/-- Each schema stands in the index under its entity. -/
theorem Holds.map_entity_values (h : r.Holds l) :
    r.index.values.map Schema.entity = r.index.keys := by
  rw [KeyMap.values, KeyMap.keys, List.map_map]
  refine List.map_congr_left fun p hp => entity_of_latest? (l := l) ?_
  rw [← h.index, KeyMap.get?_of_mem h.ordered hp]

theorem Holds.mem_values_iff (h : r.Holds l) : s ∈ r.index.values ↔ s ∈ r.schemas := by
  rw [KeyMap.mem_values_iff h.ordered, h.schemas, mem_current_iff]
  simp only [h.index]
  constructor
  · rintro ⟨e, he⟩
    rwa [entity_of_latest? he]
  · exact fun hs => ⟨s.entity, hs⟩

/-! ## What is shown -/

/-- What a registry shows of the schemas that were registered. -/
structure Shows (r : IndexedRegistry) (l : List Schema) : Prop where
  /-- The entities, in the order in which they were first registered. -/
  entities : r.schemas.map Schema.entity = entitiesOf l
  /-- No entity twice. -/
  nodup : (r.schemas.map Schema.entity).Nodup
  /-- Each schema is the one that was registered last for its entity. -/
  latest : ∀ s ∈ r.schemas, latest? l s.entity = some s
  length : r.length = r.schemas.length
  schemaOf_eq_ok_iff : ∀ e s, r.schemaOf e = .ok s ↔ s ∈ r.schemas ∧ s.entity = e
  schemaOf_eq_error : ∀ e, e ∉ entitiesOf l → r.schemaOf e = .error (.schemaNotFound e)
  /-- The index may be listed in the order of the entities. -/
  listing : r.schemas.Perm r.index.values
  /-- However the index is listed, a table is found exactly if a schema in force has it. -/
  byTable : ∀ listing : List Schema, listing.Perm r.index.values → ∀ table,
    ((byTable? listing table).isSome ↔ ∃ s ∈ r.schemas, s.table = table) ∧
      ∀ s, byTable? listing table = some s → s ∈ r.schemas ∧ s.table = table
  rules : ∀ s ∈ r.schemas, s.KeepsRules

theorem Holds.schemaOf_eq (h : r.Holds l) (e : String) : r.schemaOf e =
    match latest? l e with
    | some s => .ok s
    | none => .error (.schemaNotFound e) := by
  cases hlatest : latest? l e <;> simp [schemaOf, h.index, hlatest]

theorem Holds.shows (h : r.Holds l) (hrules : ∀ s ∈ l, s.KeepsRules) : r.Shows l where
  entities := by rw [h.schemas, map_entity_current]
  nodup := by
    rw [h.schemas, map_entity_current]
    exact nodup_entitiesOf l
  latest s hs := mem_current_iff.1 (h.schemas ▸ hs)
  length := by
    rw [h.schemas, length, h.order, ← map_entity_current, List.length_map]
  schemaOf_eq_ok_iff e s := by
    rw [h.schemaOf_eq, h.schemas, mem_current_iff]
    constructor
    · intro hok
      cases hlatest : latest? l e with
      | none => rw [hlatest] at hok; cases hok
      | some t =>
        rw [hlatest] at hok
        obtain rfl := Except.ok.inj hok
        have he := entity_of_latest? hlatest
        exact ⟨he ▸ hlatest, he⟩
    · rintro ⟨hlatest, rfl⟩
      rw [hlatest]
  schemaOf_eq_error e he := by
    have hnone : latest? l e = none := by
      rw [← Option.not_isSome_iff_eq_none, latest?_isSome_iff]
      exact he
    rw [h.schemaOf_eq, hnone]
  listing := by
    have hnodup : (r.index.values.map Schema.entity).Nodup := by
      rw [h.map_entity_values]
      exact KeyMap.Ordered.nodup_keys h.ordered
    refine (List.perm_ext_iff_of_nodup ?_ (.of_map _ hnodup)).2 fun s => h.mem_values_iff.symm
    refine .of_map Schema.entity ?_
    rw [h.schemas, map_entity_current]
    exact nodup_entitiesOf l
  byTable listing hlisting table := by
    have hmem : ∀ s, s ∈ listing ↔ s ∈ r.schemas := fun s => by
      rw [hlisting.mem_iff, h.mem_values_iff]
    refine ⟨?_, fun s hs => ⟨?_, ?_⟩⟩
    · rw [byTable?, List.find?_isSome]
      simp only [hmem, decide_eq_true_eq]
    · exact (hmem s).1 (List.mem_of_find?_eq_some hs)
    · simpa using List.find?_some hs
  rules s hs := hrules s (mem_of_latest? (mem_current_iff.1 (h.schemas ▸ hs)))

/-! ## Whole histories -/

/-- After any registrations, the order and the index are those of the schemas that were granted. -/
theorem history_holds (cs : List Registration) :
    (history register {} cs).state.Holds (registered (history register {} cs).steps) ∧
      ∀ s ∈ registered (history register {} cs).steps, s.KeepsRules := by
  induction cs using List.reverseRecOn with
  | nil => exact ⟨.empty, fun s hs => absurd hs List.not_mem_nil⟩
  | append_singleton cs c ih =>
    rw [history_concat, History.next, register_eq, registered_concat]
    cases hfault : c.schema.fault? with
    | some fault => simpa [Except.toOption] using ih
    | none =>
      refine ⟨ih.1.put c.schema, fun s hs => ?_⟩
      obtain hs | hs := List.mem_append.1 hs
      · exact ih.2 s hs
      · rw [List.mem_singleton.1 hs]
        exact fault?_eq_none_iff.1 hfault

theorem register_error {c : Registration} {e : Failure} (h : (r.register c).1 = .error e) :
    (r.register c).2 = r := by
  rw [register_eq] at h ⊢
  cases hfault : c.schema.fault? with
  | some fault => rfl
  | none =>
    rw [hfault] at h
    cases h

/-- A registration is granted exactly if its schema keeps the rules. -/
theorem register_ok_iff (r : IndexedRegistry) (c : Registration) (s : Schema) :
    (r.register c).1 = .ok s ↔ s = c.schema ∧ s.KeepsRules := by
  rw [register_eq]
  cases hfault : c.schema.fault? with
  | some fault =>
    refine iff_of_false (fun h => nomatch h) ?_
    rintro ⟨rfl, hrules⟩
    rw [fault?_eq_none_iff.2 hrules] at hfault
    cases hfault
  | none =>
    have hrules := fault?_eq_none_iff.1 hfault
    constructor
    · intro h
      obtain rfl := Except.ok.inj h
      exact ⟨rfl, hrules⟩
    · rintro ⟨rfl, -⟩
      rfl

/-- A registry that keeps its schemas in one list has the same history. -/
theorem history_eq (cs : List Registration) :
    (history Registry.register {} cs).steps = (history register {} cs).steps ∧
      (history Registry.register {} cs).state.schemas =
        current (registered (history register {} cs).steps) := by
  induction cs using List.reverseRecOn with
  | nil => exact ⟨rfl, rfl⟩
  | append_singleton cs c ih =>
    simp only [history_concat, History.next, Registry.register_eq, register_eq, registered_concat,
      ih.1]
    cases hfault : c.schema.fault? with
    | some fault => simpa [Except.toOption] using ih.2
    | none =>
      refine ⟨rfl, ?_⟩
      show Registry.putIn _ _ = current (_ ++ [_])
      rw [current_concat, ih.2]

/-- **A registry is a map in the order of registration**, after any registrations, among them such
as fail. It lists each entity once, where it was first registered, with the schema that was
registered for it last, and finds just the listed schemas, by their entities and by their tables.
All of them keep the rules. A registration is granted exactly if its schema keeps the rules, and
changes nothing if it fails. A registry that keeps its schemas in one list shows the same. -/
theorem history_shows (cs : List Registration) :
    let h := history register {} cs
    let h' := history Registry.register {} cs
    h.state.Shows (registered h.steps) ∧
      (∀ c s, (h.state.register c).1 = .ok s ↔ s = c.schema ∧ s.KeepsRules) ∧
      (∀ c e, (h.state.register c).1 = .error e → (h.state.register c).2 = h.state) ∧
      h'.steps = h.steps ∧ h'.state.schemas = h.state.schemas ∧
        (∀ e, h'.state.schemaOf e = h.state.schemaOf e) ∧
        ∀ table, h'.state.byTable? table = byTable? h.state.schemas table := by
  intro h h'
  obtain ⟨hholds, hrules⟩ := history_holds cs
  obtain ⟨hsteps, hschemas⟩ := history_eq cs
  refine ⟨hholds.shows hrules, fun c s => register_ok_iff _ c s, fun c e => register_error, hsteps,
    hschemas.trans hholds.schemas.symm, fun e => ?_, fun table => ?_⟩
  · have hfind : h'.state.find? e = h.state.index.get? e := by
      rw [Registry.find?, hschemas, find?_current, hholds.index]
    cases hget : h.state.index.get? e <;> simp [Registry.schemaOf, schemaOf, hfind, hget]
  · rw [Registry.byTable?, byTable?, hschemas, hholds.schemas]

/-- A later schema takes the place of an earlier one, and one that breaks a rule takes none. -/
example : (history register {} [.declare "A" "a" [.text "id"], .declare "B" "b" [.text "id"],
    .declare "A" "c" [.text "only"], .declare "B" "d" []]).state.schemas.map Schema.table =
      ["c", "b"] := by
  decide +kernel

end IndexedRegistry

end Daybook.Schema
