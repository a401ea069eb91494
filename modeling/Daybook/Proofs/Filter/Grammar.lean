import Daybook.Filter.Reader
import Daybook.Proofs.Result
import Daybook.Proofs.Sql.Order

/-!
# The grammar of filters

Which values are filters, and what each of them asks for, as judgments of their own beside the
reader: the forms of a field's value and of an operator's operand, and the clauses that stand for
them. The reader accepts the filters of the grammar and no other value, and what it reads is what
the judgments say (**`Filter.ofJson_grammar`**).

* `valueOperators`, `listOperators`, `textOperators`, `groupOperators`, `Names`: the operators;
* `IsFieldValue`, `IsOperation`, `IsFilter`: the grammar;
* `ReadsValue`, `ReadsOperation`, `ReadsFilter`: the clauses, with their places in the value;
* `Settles`: a reader that accepts what is legal, reads it as it should, and refuses the rest;
* `settles_ofField`: the reader of a field's value is one, by induction on the value;
* `Asked.Before`: the order of the clauses, by the bytes of fields and operators.
-/

namespace Daybook

/-! ## Operators -/

/-- The operators that take any value. -/
def valueOperators : List (String × (Json → Predicate)) :=
  [("eq", .eq), ("ne", .ne), ("neq", .ne), ("gt", .gt), ("gte", .ge), ("lt", .lt), ("lte", .le)]

/-- The operators that take a list of values. -/
def listOperators : List (String × (List Json → Predicate)) :=
  [("in", .isIn), ("nin", .notIn), ("notIn", .notIn)]

/-- The operators that take a text. -/
def textOperators : List (String × (String → Predicate)) := [("regex", .pattern)]

/-- The operators that take a list of forms of a field's value. -/
def groupOperators : List (String × (List Predicate → Predicate)) := [("or", .any), ("and", .all)]

/-- The key of an operator is its word, or the word after the sign `$`. -/
def Names (op word : String) : Prop := op = word ∨ op = "$" ++ word

/-- The value stands for a list; null stands for the empty one. -/
inductive StandsForList : Json → List Json → Prop
  | items (vs : List Json) : StandsForList (.arr vs) vs
  | null : StandsForList .null []

/-- The value stands for a text; null stands for the empty one. -/
inductive StandsForText : Json → String → Prop
  | text (s : String) : StandsForText (.str s) s
  | null : StandsForText .null ""

/-- The value is no list and no object. -/
def Json.IsScalar : Json → Prop
  | .arr _ | .obj _ => False
  | _ => True

/-! ## The grammar -/

mutual

/-- The value is a legal one for a field. -/
inductive IsFieldValue : Json → Prop
  | scalar {v : Json} (h : v.IsScalar) : IsFieldValue v
  | list (vs : List Json) : IsFieldValue (.arr vs)
  | operators {members : List (String × Json)} (h : ∀ m ∈ members, IsOperation m.1 m.2) :
      IsFieldValue (.obj members)

/-- The key is one of an operator, with an operand that the operator takes. -/
inductive IsOperation : String → Json → Prop
  | value {op word : String} (hword : word ∈ valueOperators.map Prod.fst) (hop : Names op word)
      (operand : Json) : IsOperation op operand
  | list {op word : String} (hword : word ∈ listOperators.map Prod.fst) (hop : Names op word)
      {operand : Json} {vs : List Json} (h : StandsForList operand vs) : IsOperation op operand
  | text {op word : String} (hword : word ∈ textOperators.map Prod.fst) (hop : Names op word)
      {operand : Json} {s : String} (h : StandsForText operand s) : IsOperation op operand
  | group {op word : String} (hword : word ∈ groupOperators.map Prod.fst) (hop : Names op word)
      {operand : Json} {vs : List Json} (hlist : StandsForList operand vs)
      (h : ∀ v ∈ vs, IsFieldValue v) : IsOperation op operand

end

/-- The value is a filter: null, or an object of fields with legal values. -/
inductive IsFilter : Json → Prop
  | null : IsFilter .null
  | fields {fields : List (String × Json)} (h : ∀ m ∈ fields, IsFieldValue m.2) :
      IsFilter (.obj fields)

/-! ## What a filter asks for -/

mutual

/-- The predicates of a field's value, each with the key of its operator, if it has one. -/
inductive ReadsValue : Json → List (Option String × Predicate) → Prop
  | scalar {v : Json} (h : v.IsScalar) : ReadsValue v [(none, .eq v)]
  | list (vs : List Json) : ReadsValue (.arr vs) [(none, .isIn vs)]
  | operators {members : List (String × Json)} {read : List (Option String × Predicate)}
      (h : ReadsOperations members read) : ReadsValue (.obj members) read

/-- The predicates of several operators, one for each. -/
inductive ReadsOperations : List (String × Json) → List (Option String × Predicate) → Prop
  | nil : ReadsOperations [] []
  | cons {op : String} {operand : Json} {p : Predicate} {members : List (String × Json)}
      {read : List (Option String × Predicate)} (first : ReadsOperation op operand p)
      (others : ReadsOperations members read) :
      ReadsOperations ((op, operand) :: members) ((some op, p) :: read)

/-- The predicate of an operator with its operand. -/
inductive ReadsOperation : String → Json → Predicate → Prop
  | value {op word : String} {make : Json → Predicate} (hword : (word, make) ∈ valueOperators)
      (hop : Names op word) (operand : Json) : ReadsOperation op operand (make operand)
  | list {op word : String} {make : List Json → Predicate}
      (hword : (word, make) ∈ listOperators) (hop : Names op word) {operand : Json}
      {vs : List Json} (h : StandsForList operand vs) : ReadsOperation op operand (make vs)
  | text {op word : String} {make : String → Predicate} (hword : (word, make) ∈ textOperators)
      (hop : Names op word) {operand : Json} {s : String} (h : StandsForText operand s) :
      ReadsOperation op operand (make s)
  | group {op word : String} {make : List Predicate → Predicate}
      (hword : (word, make) ∈ groupOperators) (hop : Names op word) {operand : Json}
      {vs : List Json} {ps : List Predicate} (hlist : StandsForList operand vs)
      (h : ReadsItems vs ps) : ReadsOperation op operand (make ps)

/-- The predicates of the elements of a group: an element with one predicate stands for it, any
other element for all of its predicates together. -/
inductive ReadsItems : List Json → List Predicate → Prop
  | nil : ReadsItems [] []
  | one {v : Json} {key : Option String} {p : Predicate} {vs : List Json} {ps : List Predicate}
      (first : ReadsValue v [(key, p)]) (others : ReadsItems vs ps) : ReadsItems (v :: vs) (p :: ps)
  | several {v : Json} {read : List (Option String × Predicate)} {vs : List Json}
      {ps : List Predicate} (first : ReadsValue v read) (hlength : read.length ≠ 1)
      (others : ReadsItems vs ps) : ReadsItems (v :: vs) (.all (read.map Prod.snd) :: ps)

end

/-- A clause of a filter with its place: the field, and the key of the operator, if it has one. -/
structure Asked where
  field : String
  operator : Option String
  predicate : Predicate

/-- The clause without its place in the field. -/
def Asked.clause (a : Asked) : String × Predicate := (a.field, a.predicate)

open Sql in
/-- The bytes of the text come before those of the other one. -/
def BytesBefore (s t : String) : Prop := Cell.orderBytes (Bytes.ofText s) (Bytes.ofText t) = .lt

/-- The clause stands before the other one: in the order of their fields, and in one field in the
order of their operators. -/
def Asked.Before (a b : Asked) : Prop :=
  BytesBefore a.field b.field ∨
    a.field = b.field ∧ ∃ k l, a.operator = some k ∧ b.operator = some l ∧ BytesBefore k l

/-- The clauses of fields with their values. -/
inductive ReadsFields : List (String × Json) → List Asked → Prop
  | nil : ReadsFields [] []
  | cons {field : String} {v : Json} {read : List (Option String × Predicate)}
      {fields : List (String × Json)} {asked : List Asked} (first : ReadsValue v read)
      (others : ReadsFields fields asked) :
      ReadsFields ((field, v) :: fields) (read.map (fun r => ⟨field, r.1, r.2⟩) ++ asked)

/-- The clauses of a filter. -/
inductive ReadsFilter : Json → List Asked → Prop
  | null : ReadsFilter .null []
  | fields {fields : List (String × Json)} {asked : List Asked} (h : ReadsFields fields asked) :
      ReadsFilter (.obj fields) asked

/-- The members of the value are in key order, if it is an object. -/
def Json.HasOrder : Json → Prop
  | .obj members => KeyMap.Ordered members
  | _ => True

/-- The object has its fields in key order, and so has each of their values its members. -/
def Json.IsOrdered : Json → Prop
  | .obj fields => KeyMap.Ordered fields ∧ ∀ m ∈ fields, m.2.HasOrder
  | _ => True

/-! ## The names of operators -/

/-- Every key is named by what it is without the sign. -/
theorem names_operatorName (op : String) : Names op (String.ofList (operatorName op)) := by
  unfold operatorName
  split
  · rename_i rest hop
    refine .inr (String.toList_inj.1 ?_)
    rw [hop, String.toList_append]
    exact congrArg ('$' :: ·) String.toList_ofList.symm
  · exact .inl String.ofList_toList.symm

/-- What a word names is read as the word, if the word has no sign of its own. -/
theorem ofList_operatorName {op word : String} (hop : Names op word)
    (hword : word.toList.head? ≠ some '$') : String.ofList (operatorName op) = word := by
  obtain rfl | rfl := hop
  · unfold operatorName
    split
    · rename_i rest hop
      rw [hop] at hword
      exact absurd rfl hword
    · exact String.ofList_toList
  · rw [operatorName, String.toList_append]
    exact String.ofList_toList

/-- The name is a word for the operator. -/
def Leaf.IsNamed (name : String) : Leaf → Prop
  | .value make => (name, make) ∈ valueOperators
  | .list make => (name, make) ∈ listOperators
  | .text make => (name, make) ∈ textOperators

theorem leaf?_eq_some_iff {name : String} {leaf : Leaf} :
    leaf? name = some leaf ↔ leaf.IsNamed name := by
  constructor
  · intro h
    unfold leaf? at h
    split at h <;> cases h <;> simp [Leaf.IsNamed, valueOperators, listOperators, textOperators]
  · intro h
    cases leaf with
    | value make =>
      simp only [Leaf.IsNamed, valueOperators, List.mem_cons, Prod.mk.injEq, List.not_mem_nil,
        or_false] at h
      rcases h with ⟨rfl, rfl⟩ | ⟨rfl, rfl⟩ | ⟨rfl, rfl⟩ | ⟨rfl, rfl⟩ | ⟨rfl, rfl⟩ | ⟨rfl, rfl⟩ |
        ⟨rfl, rfl⟩ <;> rfl
    | list make =>
      simp only [Leaf.IsNamed, listOperators, List.mem_cons, Prod.mk.injEq, List.not_mem_nil,
        or_false] at h
      rcases h with ⟨rfl, rfl⟩ | ⟨rfl, rfl⟩ | ⟨rfl, rfl⟩ <;> rfl
    | text make =>
      simp only [Leaf.IsNamed, textOperators, List.mem_cons, Prod.mk.injEq, List.not_mem_nil,
        or_false] at h
      obtain ⟨rfl, rfl⟩ := h
      rfl

theorem group?_eq_some_iff {name : String} {make : List Predicate → Predicate} :
    group? name = some make ↔ (name, make) ∈ groupOperators := by
  constructor
  · intro h
    unfold group? at h
    split at h <;> simp_all [groupOperators]
  · intro h
    simp only [groupOperators, List.mem_cons, Prod.mk.injEq, List.not_mem_nil, or_false] at h
    rcases h with ⟨rfl, rfl⟩ | ⟨rfl, rfl⟩ <;> rfl

/-- No word begins with the sign. -/
theorem head?_ne_of_mem {word : String}
    (h : word ∈ valueOperators.map Prod.fst ∨ word ∈ listOperators.map Prod.fst ∨
      word ∈ textOperators.map Prod.fst ∨ word ∈ groupOperators.map Prod.fst) :
    word.toList.head? ≠ some '$' := by
  have hall : ∀ w ∈ valueOperators.map Prod.fst ++ listOperators.map Prod.fst ++
      textOperators.map Prod.fst ++ groupOperators.map Prod.fst, w.toList.head? ≠ some '$' := by
    decide
  exact hall word (by simpa [or_assoc] using h)

/-! ## Reading what is legal -/

/-- A reader that accepts what is legal, reads it as it should, and refuses anything else as an
input that is not valid. -/
def Settles {α : Type} (legal : Prop) (reads : α → Prop) : Except Failure α → Prop
  | .ok a => legal ∧ reads a
  | .error e => ¬ legal ∧ ∃ fault, e = .invalidInput fault

namespace Settles

variable {α β : Type} {legal legal' : Prop} {reads : α → Prop} {reads' : β → Prop}
  {r : Except Failure α}

theorem exists_ok_iff (h : Settles legal reads r) : (∃ a, r = .ok a) ↔ legal := by
  cases r with
  | error e => exact ⟨fun ⟨_, h⟩ => (nomatch h), fun hlegal => absurd hlegal h.1⟩
  | ok a => exact ⟨fun _ => h.1, fun _ => ⟨a, rfl⟩⟩

theorem imp (h : Settles legal reads r) (hlegal : legal ↔ legal') {reads' : α → Prop}
    (hreads : ∀ a, reads a → reads' a) : Settles legal' reads' r := by
  cases r with
  | error e => exact ⟨fun h' => h.1 (hlegal.2 h'), h.2⟩
  | ok a => exact ⟨hlegal.1 h.1, hreads a h.2⟩

/-- What is made of a part that is read. -/
theorem map {f : α → β} (h : Settles legal reads r) (hlegal : legal ↔ legal')
    (hreads : ∀ a, reads a → reads' (f a)) : Settles legal' reads' (r.map f) := by
  cases r with
  | error e => exact ⟨fun h' => h.1 (hlegal.2 h'), h.2⟩
  | ok a => exact ⟨hlegal.1 h.1, hreads a h.2⟩

/-- What is made of two parts that are read one after the other. -/
theorem both {γ : Type} {legal'' : Prop} {reads'' : γ → Prop} {r' : Except Failure β}
    {f : α → β → γ} (h : Settles legal reads r) (h' : Settles legal' reads' r')
    (hlegal : legal ∧ legal' ↔ legal'') (hreads : ∀ a b, reads a → reads' b → reads'' (f a b)) :
    Settles legal'' reads'' (r.bind fun a => r'.map (f a)) := by
  cases r with
  | error e => exact ⟨fun h'' => h.1 (hlegal.2 h'').1, h.2⟩
  | ok a => exact h'.map ((and_iff_right h.1).symm.trans hlegal) (fun b => hreads a b h.2)

end Settles

theorem settles_listOf (op : String) (operand : Json) :
    Settles (∃ vs, StandsForList operand vs) (StandsForList operand) (listOf op operand) := by
  cases operand with
  | arr vs => exact ⟨⟨vs, .items vs⟩, .items vs⟩
  | null => exact ⟨⟨[], .null⟩, .null⟩
  | bool b => exact ⟨fun ⟨_, h⟩ => (nomatch h), _, rfl⟩
  | int n => exact ⟨fun ⟨_, h⟩ => (nomatch h), _, rfl⟩
  | real x => exact ⟨fun ⟨_, h⟩ => (nomatch h), _, rfl⟩
  | str s => exact ⟨fun ⟨_, h⟩ => (nomatch h), _, rfl⟩
  | obj members => exact ⟨fun ⟨_, h⟩ => (nomatch h), _, rfl⟩

theorem settles_textOf (op : String) (operand : Json) :
    Settles (∃ s, StandsForText operand s) (StandsForText operand) (textOf op operand) := by
  cases operand with
  | str s => exact ⟨⟨s, .text s⟩, .text s⟩
  | null => exact ⟨⟨"", .null⟩, .null⟩
  | bool b => exact ⟨fun ⟨_, h⟩ => (nomatch h), _, rfl⟩
  | int n => exact ⟨fun ⟨_, h⟩ => (nomatch h), _, rfl⟩
  | real x => exact ⟨fun ⟨_, h⟩ => (nomatch h), _, rfl⟩
  | arr vs => exact ⟨fun ⟨_, h⟩ => (nomatch h), _, rfl⟩
  | obj members => exact ⟨fun ⟨_, h⟩ => (nomatch h), _, rfl⟩

theorem leaf?_eq_none_of_mem {word : String} (h : word ∈ groupOperators.map Prod.fst) :
    leaf? word = none := by
  have hall : ∀ w ∈ groupOperators.map Prod.fst, (leaf? w).isNone := by decide
  exact Option.isNone_iff_eq_none.1 (hall word h)

/-- The operand that an operator takes, by what the key names. -/
def Takes (leaf : Option Leaf) (group : Option (List Predicate → Predicate)) (operand : Json) :
    Prop :=
  match leaf, group with
  | some (.value _), _ => True
  | some (.list _), _ => ∃ vs, StandsForList operand vs
  | some (.text _), _ => ∃ s, StandsForText operand s
  | none, some _ => ∃ vs, StandsForList operand vs ∧ ∀ v ∈ vs, IsFieldValue v
  | none, none => False

theorem exists_make_of_mem {α : Type} {word : String} {table : List (String × α)}
    (h : word ∈ table.map Prod.fst) : ∃ make, (word, make) ∈ table := by
  obtain ⟨⟨_, make⟩, hmem, rfl⟩ := List.mem_map.1 h
  exact ⟨make, hmem⟩

theorem isOperation_iff {op : String} {operand : Json} : IsOperation op operand ↔
    Takes (leaf? (String.ofList (operatorName op))) (group? (String.ofList (operatorName op)))
      operand := by
  constructor
  · intro h
    cases h with
    | value hword hop operand =>
      obtain ⟨make, hmem⟩ := exists_make_of_mem hword
      rw [ofList_operatorName hop (head?_ne_of_mem (.inl hword)),
        (@leaf?_eq_some_iff _ (.value make)).2 hmem]
      trivial
    | list hword hop h =>
      obtain ⟨make, hmem⟩ := exists_make_of_mem hword
      rw [ofList_operatorName hop (head?_ne_of_mem (.inr (.inl hword))),
        (@leaf?_eq_some_iff _ (.list make)).2 hmem]
      exact ⟨_, h⟩
    | text hword hop h =>
      obtain ⟨make, hmem⟩ := exists_make_of_mem hword
      rw [ofList_operatorName hop (head?_ne_of_mem (.inr (.inr (.inl hword)))),
        (@leaf?_eq_some_iff _ (.text make)).2 hmem]
      exact ⟨_, h⟩
    | group hword hop hlist h =>
      obtain ⟨make, hmem⟩ := exists_make_of_mem hword
      rw [ofList_operatorName hop (head?_ne_of_mem (.inr (.inr (.inr hword)))),
        leaf?_eq_none_of_mem hword, group?_eq_some_iff.2 hmem]
      exact ⟨_, hlist, h⟩
  · intro h
    have hop := names_operatorName op
    unfold Takes at h
    split at h
    · rename_i make hleaf
      exact .value (List.mem_map_of_mem (leaf?_eq_some_iff.1 hleaf)) hop operand
    · rename_i make hleaf
      obtain ⟨vs, h⟩ := h
      exact .list (List.mem_map_of_mem (leaf?_eq_some_iff.1 hleaf)) hop h
    · rename_i make hleaf
      obtain ⟨s, h⟩ := h
      exact .text (List.mem_map_of_mem (leaf?_eq_some_iff.1 hleaf)) hop h
    · rename_i make hleaf hgroup
      obtain ⟨vs, hlist, h⟩ := h
      exact .group (List.mem_map_of_mem (group?_eq_some_iff.1 hgroup)) hop hlist h
    · exact absurd h id

theorem isFieldValue_obj {members : List (String × Json)} :
    (∀ m ∈ members, IsOperation m.1 m.2) ↔ IsFieldValue (.obj members) := by
  constructor
  · exact .operators
  · intro h
    cases h with
    | scalar h => exact absurd h id
    | operators h => exact h

/-- An element of a group is read as one predicate. -/
theorem readsItems_cons {v : Json} {read : List (Option String × Predicate)} {vs : List Json}
    {ps : List Predicate} (first : ReadsValue v read) (others : ReadsItems vs ps) :
    ReadsItems (v :: vs) (asOne (read.map Prod.snd) :: ps) := by
  match read with
  | [] => exact .several first (by simp) others
  | [r] => exact .one first others
  | r :: r' :: read => exact .several first (by simp) others

theorem ofOperators_cons (m : String × Json) (rest : List (String × Json)) :
    Predicate.ofOperators (m :: rest) =
      (Predicate.ofOperator m).bind fun p => (Predicate.ofOperators rest).map (p :: ·) := by
  rw [Predicate.ofOperators]
  cases Predicate.ofOperator m <;> rfl

theorem ofItems_cons (v : Json) (rest : List Json) :
    Predicate.ofItems (v :: rest) =
      (Predicate.ofField v).bind fun ps => (Predicate.ofItems rest).map (asOne ps :: ·) := by
  rw [Predicate.ofItems]
  cases Predicate.ofField v <;> rfl

mutual

/-- **The reader of a field's value follows the grammar.** -/
theorem settles_ofField : ∀ v : Json, Settles (IsFieldValue v)
    (fun ps => ∃ read, ReadsValue v read ∧ read.map Prod.snd = ps) (Predicate.ofField v)
  | .obj members => by
    rw [Predicate.ofField]
    refine (settles_ofOperators members).imp isFieldValue_obj ?_
    rintro ps ⟨read, hread, rfl⟩
    exact ⟨read, .operators hread, rfl⟩
  | .arr vs => ⟨.list vs, _, .list vs, rfl⟩
  | .null | .bool _ | .int _ | .real _ | .str _ => ⟨.scalar trivial, _, .scalar trivial, rfl⟩
termination_by structural v => v

theorem settles_ofOperators : ∀ members : List (String × Json),
    Settles (∀ m ∈ members, IsOperation m.1 m.2)
      (fun ps => ∃ read, ReadsOperations members read ∧ read.map Prod.snd = ps)
      (Predicate.ofOperators members)
  | [] => ⟨List.forall_mem_nil _, [], .nil, rfl⟩
  | m :: rest => by
    rw [ofOperators_cons]
    refine (settles_ofOperator m).both (settles_ofOperators rest)
      (List.forall_mem_cons (p := fun m : String × Json => IsOperation m.1 m.2)).symm ?_
    rintro p ps hp ⟨read, hread, rfl⟩
    exact ⟨(some m.1, p) :: read, .cons hp hread, rfl⟩
termination_by structural members => members

theorem settles_ofOperator : ∀ m : String × Json,
    Settles (IsOperation m.1 m.2) (ReadsOperation m.1 m.2) (Predicate.ofOperator m)
  | (op, operand) => by
    have hop := names_operatorName op
    have hoperand := settles_ofOperand operand
    rw [isOperation_iff, Predicate.ofOperator]
    cases hleaf : leaf? (String.ofList (operatorName op)) with
    | some leaf =>
      have hword := leaf?_eq_some_iff.1 hleaf
      cases leaf with
      | value make => exact ⟨trivial, .value hword hop operand⟩
      | list make => exact (settles_listOf op operand).map Iff.rfl fun vs h => .list hword hop h
      | text make => exact (settles_textOf op operand).map Iff.rfl fun s h => .text hword hop h
    | none =>
      cases hgroup : group? (String.ofList (operatorName op)) with
      | none => exact ⟨id, _, rfl⟩
      | some make =>
        have hword := group?_eq_some_iff.1 hgroup
        show Settles _ _ (match Predicate.ofOperand operand with
          | some inner => inner.map make
          | none => .error (.invalidInput (.needsList op operand)))
        cases hread : Predicate.ofOperand operand with
        | some inner =>
          rw [hread] at hoperand
          exact hoperand.map Iff.rfl fun ps ⟨vs, hlist, hps⟩ => .group hword hop hlist hps
        | none =>
          rw [hread] at hoperand
          exact ⟨fun ⟨vs, hlist, _⟩ => hoperand ⟨vs, hlist⟩, _, rfl⟩
termination_by structural m => m

theorem settles_ofOperand : ∀ operand : Json, match Predicate.ofOperand operand with
    | some inner => Settles (∃ vs, StandsForList operand vs ∧ ∀ v ∈ vs, IsFieldValue v)
        (fun ps => ∃ vs, StandsForList operand vs ∧ ReadsItems vs ps) inner
    | none => ¬ ∃ vs, StandsForList operand vs
  | .arr vs => by
    refine (settles_ofItems vs).imp ⟨fun h => ⟨vs, .items vs, h⟩, ?_⟩ fun ps h => ⟨vs, .items vs, h⟩
    rintro ⟨_, h, hvs⟩
    cases h
    exact hvs
  | .null => ⟨⟨[], .null, List.forall_mem_nil _⟩, [], .null, .nil⟩
  | .bool _ | .int _ | .real _ | .str _ | .obj _ => fun ⟨_, h⟩ => nomatch h
termination_by structural operand => operand

theorem settles_ofItems : ∀ vs : List Json,
    Settles (∀ v ∈ vs, IsFieldValue v) (ReadsItems vs) (Predicate.ofItems vs)
  | [] => ⟨List.forall_mem_nil _, .nil⟩
  | v :: rest => by
    rw [ofItems_cons]
    refine (settles_ofField v).both (settles_ofItems rest) List.forall_mem_cons.symm ?_
    rintro _ ps ⟨read, hread, rfl⟩ hps
    exact readsItems_cons hread hps
termination_by structural vs => vs

end

namespace Filter

theorem clausesOf_cons (field : String) (v : Json) (rest : List (String × Json)) :
    clausesOf ((field, v) :: rest) = (Predicate.ofField v).bind fun ps =>
      (clausesOf rest).map (ps.map (fun p => (field, p)) ++ ·) := by
  rw [clausesOf]
  cases Predicate.ofField v with
  | error e => rfl
  | ok ps => cases clausesOf rest <;> rfl

theorem settles_clausesOf (fields : List (String × Json)) :
    Settles (∀ m ∈ fields, IsFieldValue m.2)
      (fun clauses => ∃ asked, ReadsFields fields asked ∧ clauses = asked.map Asked.clause)
      (clausesOf fields) := by
  induction fields with
  | nil => exact ⟨List.forall_mem_nil _, [], .nil, rfl⟩
  | cons m rest ih =>
    obtain ⟨field, v⟩ := m
    rw [clausesOf_cons]
    refine (settles_ofField v).both ih
      (List.forall_mem_cons (p := fun m : String × Json => IsFieldValue m.2)
        (a := (field, v))).symm ?_
    rintro _ _ ⟨read, hread, rfl⟩ ⟨asked, hasked, rfl⟩
    refine ⟨_, .cons hread hasked, ?_⟩
    rw [List.map_append, List.map_map, List.map_map]
    rfl

theorem settles_ofJson (j : Json) : Settles (IsFilter j)
    (fun f => ∃ asked, ReadsFilter j asked ∧ f.clauses = asked.map Asked.clause) (ofJson j) := by
  cases j with
  | null => exact ⟨.null, [], .null, rfl⟩
  | obj fields =>
    refine (settles_clausesOf fields).map ⟨.fields, fun h => ?_⟩ ?_
    · cases h with
      | fields h => exact h
    · rintro clauses ⟨asked, hasked, rfl⟩
      exact ⟨asked, .fields hasked, rfl⟩
  | bool b => exact ⟨fun h => (nomatch h), _, rfl⟩
  | int n => exact ⟨fun h => (nomatch h), _, rfl⟩
  | real x => exact ⟨fun h => (nomatch h), _, rfl⟩
  | str s => exact ⟨fun h => (nomatch h), _, rfl⟩
  | arr vs => exact ⟨fun h => (nomatch h), _, rfl⟩

end Filter

/-! ## The order of the clauses -/

theorem bytesBefore_of_lt {s t : String} (h : s < t) : BytesBefore s t := by
  rw [BytesBefore, orderBytes_ofText]
  exact if_pos h

theorem keys_of_readsOperations {members : List (String × Json)}
    {read : List (Option String × Predicate)} (h : ReadsOperations members read) :
    read.map Prod.fst = (KeyMap.keys members).map some := by
  induction members generalizing read with
  | nil =>
    cases h
    rfl
  | cons m rest ih =>
    cases h with
    | cons first others => exact congrArg _ (ih others)

/-- The operators of one field are in the order of their keys. -/
theorem pairwise_of_readsValue {v : Json} {read : List (Option String × Predicate)}
    (h : ReadsValue v read) (hv : v.HasOrder) :
    (read.map Prod.fst).Pairwise fun r s => ∃ k l, r = some k ∧ s = some l ∧ BytesBefore k l := by
  cases h with
  | scalar h => exact List.pairwise_singleton _ _
  | list vs => exact List.pairwise_singleton _ _
  | operators h =>
    rw [keys_of_readsOperations h, List.pairwise_map]
    exact List.Pairwise.imp (fun hlt => ⟨_, _, rfl, rfl, bytesBefore_of_lt hlt⟩) hv

theorem field_mem_of_readsFields {fields : List (String × Json)} {asked : List Asked}
    (h : ReadsFields fields asked) : ∀ a ∈ asked, a.field ∈ KeyMap.keys fields := by
  induction h with
  | nil => exact List.forall_mem_nil _
  | cons first others ih =>
    intro a ha
    rcases List.mem_append.1 ha with ha | ha
    · obtain ⟨r, -, rfl⟩ := List.mem_map.1 ha
      exact List.mem_cons_self
    · exact List.mem_cons_of_mem _ (ih a ha)

/-- The clauses are in the order of their places. -/
theorem pairwise_of_readsFields {fields : List (String × Json)} {asked : List Asked}
    (h : ReadsFields fields asked) (hfields : KeyMap.Ordered fields)
    (hmembers : ∀ m ∈ fields, m.2.HasOrder) :
    asked.Pairwise Asked.Before := by
  induction h with
  | nil => exact .nil
  | cons first others ih =>
    rw [List.forall_mem_cons] at hmembers
    obtain ⟨hfirst, hrest⟩ := List.pairwise_cons.1 hfields
    refine List.pairwise_append.2 ⟨?_, ih hrest hmembers.2, fun a ha b hb => ?_⟩
    · rw [List.pairwise_map]
      exact (List.pairwise_map.1 (pairwise_of_readsValue first hmembers.1)).imp
        fun h => .inr ⟨rfl, h⟩
    · obtain ⟨r, -, rfl⟩ := List.mem_map.1 ha
      exact .inl (bytesBefore_of_lt (hfirst _ (field_mem_of_readsFields others b hb)))

theorem pairwise_of_readsFilter {j : Json} {asked : List Asked} (h : ReadsFilter j asked)
    (hj : j.IsOrdered) : asked.Pairwise Asked.Before := by
  cases h with
  | null => exact .nil
  | fields h => exact pairwise_of_readsFields h hj.1 hj.2

/-! ## Filters -/

/-- **The reader accepts the filters of the grammar and no other value**, and refuses any other
value as an input that is not valid. What it reads is one clause for each operator, in the order of
the bytes of the fields and then of the keys of the operators. -/
theorem Filter.ofJson_grammar (j : Json) :
    ((∃ f, ofJson j = .ok f) ↔ IsFilter j) ∧
      (∀ e, ofJson j = .error e → ∃ fault, e = .invalidInput fault) ∧
      ∀ f, ofJson j = .ok f → ∃ asked, ReadsFilter j asked ∧
        f.clauses = asked.map Asked.clause ∧ (j.IsOrdered → asked.Pairwise Asked.Before) := by
  have h := settles_ofJson j
  refine ⟨h.exists_ok_iff, fun e he => ?_, fun f hf => ?_⟩
  · rw [he] at h
    exact h.2
  · rw [hf] at h
    obtain ⟨asked, hasked, hclauses⟩ := h.2
    exact ⟨asked, hasked, hclauses, pairwise_of_readsFilter hasked⟩

/-- Groups of elements with several operators, with none, and with other groups. -/
def nestedFilter : Json :=
  .obj [("a", .obj [("$or", .arr [.obj [("gt", .int 1), ("lte", .int 5)], .obj [], .int 7,
      .obj [("$and", .arr [.arr [.null], .obj [("regex", .null)]])]]), ("neq", .null)]),
    ("b", .arr [.int 2])]

theorem Filter.ofJson_grammar_nestedFilter :
    nestedFilter.IsOrdered ∧ IsFilter nestedFilter ∧
      ∃ asked, ReadsFilter nestedFilter asked ∧ asked.Pairwise Asked.Before ∧
        asked.map Asked.clause =
          [("a", .any [.all [.gt (.int 1), .le (.int 5)], .all [], .eq (.int 7),
            .all [.isIn [.null], .pattern ""]]), ("a", .ne .null), ("b", .isIn [.int 2])] := by
  have hordered : nestedFilter.IsOrdered := by
    simp only [nestedFilter, Json.IsOrdered, Json.HasOrder, KeyMap.Ordered, KeyMap.keys,
      List.map_cons, List.map_nil, List.pairwise_cons, List.Pairwise.nil, List.forall_mem_cons,
      List.not_mem_nil, false_imp_iff, implies_true, and_true]
    decide
  have hread : ofJson nestedFilter = .ok
      { clauses := [("a", .any [.all [.gt (.int 1), .le (.int 5)], .all [], .eq (.int 7),
          .all [.isIn [.null], .pattern ""]]), ("a", .ne .null), ("b", .isIn [.int 2])] } := rfl
  obtain ⟨hlegal, -, hasked⟩ := Filter.ofJson_grammar nestedFilter
  obtain ⟨asked, hreads, hclauses, hpairwise⟩ := hasked _ hread
  exact ⟨hordered, hlegal.1 ⟨_, hread⟩, asked, hreads, hpairwise hordered, hclauses.symm⟩

end Daybook
