import Daybook.Filter.Basic
import Daybook.Proofs.Result
import Daybook.Proofs.Schema.Rules
import Mathlib.Data.List.Forall2

/-!
# What the clause of a filter says

The clause of a filter is a text with marks for its values. It is read here word by word, from left
to right: `AND` binds tighter than `OR`, parentheses come first, and each mark takes the next value.
What is read is the filter without the predicates that say nothing (**`read_compile`**).

* `Phrase`: what a clause asks for;
* `words`: the words of a text;
* `Scan`, `Scan.step`, `read`: reading a clause;
* `Predicate.phrase`, `Filter.phrase`: what a filter asks for;
* `ReadsAs`, `readsAs_condition?`: the text of a predicate is read as what the predicate asks for.
-/

namespace Daybook

open Sql (Cell Comparison Condition Operand)

namespace Clause

/-! ## Phrases -/

/-- What a clause asks for. -/
inductive Phrase where
  | compare (field : String) (op : Comparison) (value : Cell)
  | member (field : String) (negated : Bool) (values : List Cell)
  | all (parts : List Phrase)
  | any (parts : List Phrase)

/-- Phrases as one. A phrase alone is no group: parentheses around it change nothing. -/
def Phrase.joined (group : List Phrase → Phrase) : List Phrase → Phrase
  | [part] => part
  | parts => group parts

/-! ## Words -/

/-- The character is a word of its own. -/
def isPunctuation (c : Char) : Bool := c = '(' || c = ')' || c = ','

/-- The character ends the word before it. -/
def isBreak (c : Char) : Bool := c = ' ' || isPunctuation c

/-- The word of the characters, if there are any. -/
def ended (word : List Char) : List String :=
  if word.isEmpty then [] else [String.ofList word]

/-- The words of a text, after the first characters of a word. -/
def wordsFrom (word : List Char) : List Char → List String
  | [] => ended word
  | c :: rest =>
    if c = ' ' then ended word ++ wordsFrom [] rest
    else if isPunctuation c then ended word ++ String.singleton c :: wordsFrom [] rest
    else wordsFrom (word ++ [c]) rest

/-- The words of a text: blanks stand between them, and a parenthesis or a comma is a word. -/
def words (s : List Char) : List String := wordsFrom [] s

section Words

variable {c : Char} {s : List Char}

theorem wordsFrom_append_cons (hc : isBreak c = true) (word s t : List Char) :
    wordsFrom word (s ++ c :: t) = wordsFrom word s ++ words (c :: t) := by
  induction s generalizing word with
  | nil =>
    by_cases hs : c = ' '
    · simp [wordsFrom, words, hs, ended]
    · have hp : isPunctuation c = true := by simpa [isBreak, hs] using hc
      simp [wordsFrom, words, hs, hp, ended]
  | cons d s ih =>
    simp only [List.cons_append, wordsFrom, ih]
    split_ifs <;> simp

/-- A text may be cut before a blank, a parenthesis or a comma. -/
theorem words_append_cons (hc : isBreak c = true) (s t : List Char) :
    words (s ++ c :: t) = words s ++ words (c :: t) :=
  wordsFrom_append_cons hc [] s t

@[simp] theorem words_nil : words [] = [] := rfl

@[simp] theorem words_blank (s : List Char) : words (' ' :: s) = words s := by
  simp [words, wordsFrom, ended]

theorem words_punctuation (hc : isPunctuation c = true) (s : List Char) :
    words (c :: s) = String.singleton c :: words s := by
  have hs : c ≠ ' ' := by
    rintro rfl
    exact absurd hc (by decide)
  simp [words, wordsFrom, ended, hs, hc]

@[simp] theorem words_opening (s : List Char) : words ('(' :: s) = "(" :: words s :=
  words_punctuation (by decide) s

@[simp] theorem words_closing (s : List Char) : words (')' :: s) = ")" :: words s :=
  words_punctuation (by decide) s

@[simp] theorem words_comma (s : List Char) : words (',' :: s) = "," :: words s :=
  words_punctuation (by decide) s

theorem wordsFrom_of_plain (hs : ∀ c ∈ s, isBreak c = false) (word : List Char) :
    wordsFrom word s = ended (word ++ s) := by
  induction s generalizing word with
  | nil => simp [wordsFrom]
  | cons c s ih =>
    have hc := hs c List.mem_cons_self
    simp only [isBreak, Bool.or_eq_false_iff, decide_eq_false_iff_not] at hc
    rw [wordsFrom, if_neg hc.1, if_neg (by simp [hc.2]),
      ih fun d hd => hs d (List.mem_cons_of_mem _ hd), List.append_assoc, List.singleton_append]

theorem isBreak_eq_false (hc : continuesIdentifier c = true) : isBreak c = false := by
  by_contra h
  simp only [isBreak, isPunctuation, Bool.not_eq_false, Bool.or_eq_true, decide_eq_true_eq] at h
  obtain rfl | (rfl | rfl) | rfl := h <;> exact absurd hc (by decide)

theorem plain_of_isIdentifier {field : String} (h : isIdentifier field = true) :
    field.toList ≠ [] ∧ ∀ c ∈ field.toList, isBreak c = false := by
  obtain ⟨hne, hcontinues⟩ := continues_of_isIdentifier h
  exact ⟨hne, fun c hc => isBreak_eq_false (hcontinues c hc)⟩

/-- A name is one word. -/
theorem words_of_isIdentifier {field : String} (h : isIdentifier field = true) :
    words field.toList = [field] := by
  obtain ⟨hne, hplain⟩ := plain_of_isIdentifier h
  rw [words, wordsFrom_of_plain hplain, List.nil_append, ended, if_neg (by simpa using hne),
    String.ofList_toList]

end Words

/-! ## Reading -/

/-- The comparison of a word. -/
def comparison? (w : String) : Option Comparison :=
  [Comparison.eq, .ne, .gt, .ge, .lt, .le, .like].find? fun op => op.text == w

theorem comparison?_text (op : Comparison) : comparison? op.text = some op := by
  cases op <;> decide

/-- What comes next in a clause, and what is read of an unfinished part. -/
inductive Place where
  /-- A parenthesis or the name of a field. -/
  | part
  /-- The operator after a field. -/
  | operator (field : String)
  /-- The mark of a comparison. -/
  | mark (field : String) (op : Comparison)
  /-- `IN`, after a field and `NOT`. -/
  | negated (field : String)
  /-- The parenthesis of a list. -/
  | list (field : String) (negated : Bool)
  /-- A mark in a list, after some values. -/
  | item (field : String) (negated : Bool) (before : List Cell)
  /-- A comma, or the end of a list. -/
  | afterItem (field : String) (negated : Bool) (before : List Cell)
  /-- `AND`, `OR`, the end of a group or of the clause. -/
  | joint

/-- A group of which some parts are read. -/
structure Group where
  /-- The alternatives before the last `OR`. -/
  before : List Phrase := []
  /-- The parts of the alternative after it. -/
  parts : List Phrase := []

namespace Group

/-- The group with one more part. -/
def add (g : Group) (part : Phrase) : Group := { g with parts := g.parts ++ [part] }

/-- The alternatives, if the group ends here. -/
def alternatives (g : Group) : List Phrase := g.before ++ [Phrase.joined .all g.parts]

/-- The group after an `OR`. -/
def next (g : Group) : Group := { before := g.alternatives }

/-- What the group asks for, if it ends here. -/
def phrase (g : Group) : Phrase := Phrase.joined .any g.alternatives

end Group

/-- A clause of which some words are read. -/
structure Scan where
  place : Place
  /-- The innermost group. -/
  group : Group
  /-- The groups around it, from the inside to the outside. -/
  outer : List Group
  /-- The values for the marks to come. -/
  values : List Cell

namespace Scan

/-- Reads a word; none if it may not stand here. -/
def step (s : Scan) (w : String) : Option Scan :=
  match s.place with
  | .part =>
    if w = "(" then some { s with group := {}, outer := s.group :: s.outer }
    else if isIdentifier w then some { s with place := .operator w } else none
  | .operator field =>
    if w = "IN" then some { s with place := .list field false }
    else if w = "NOT" then some { s with place := .negated field }
    else (comparison? w).map fun op => { s with place := .mark field op }
  | .mark field op =>
    match s.values with
    | v :: values =>
      if w = "?" then
        some { s with place := .joint, group := s.group.add (.compare field op v), values }
      else none
    | [] => none
  | .negated field => if w = "IN" then some { s with place := .list field true } else none
  | .list field negated =>
    if w = "(" then some { s with place := .item field negated [] } else none
  | .item field negated before =>
    match s.values with
    | v :: values =>
      if w = "?" then some { s with place := .afterItem field negated (before ++ [v]), values }
      else none
    | [] => none
  | .afterItem field negated before =>
    if w = "," then some { s with place := .item field negated before }
    else if w = ")" then
      some { s with place := .joint, group := s.group.add (.member field negated before) }
    else none
  | .joint =>
    if w = "AND" then some { s with place := .part }
    else if w = "OR" then some { s with place := .part, group := s.group.next }
    else if w = ")" then
      match s.outer with
      | g :: outer => some { s with group := g.add s.group.phrase, outer }
      | [] => none
    else none

/-- Reads words. -/
def run (s : Scan) (ws : List String) : Option Scan := ws.foldlM step s

@[simp] theorem run_nil (s : Scan) : s.run [] = some s := rfl

@[simp] theorem run_cons (s : Scan) (w : String) (ws : List String) :
    s.run (w :: ws) = (s.step w).bind fun s' => s'.run ws := rfl

theorem run_append (s : Scan) (ws ws' : List String) :
    s.run (ws ++ ws') = (s.run ws).bind fun s' => s'.run ws' := List.foldlM_append

end Scan

/-- What a clause with values for its marks asks for; none if it is no clause, or if there are not
as many values as marks. The empty clause asks for nothing. -/
def read (text : String) (values : List Cell) : Option Phrase :=
  if text.isEmpty then if values.isEmpty then some (.all []) else none
  else
    match Scan.run ⟨.part, {}, [], values⟩ (words text.toList) with
    | some ⟨.joint, group, [], []⟩ => some group.phrase
    | _ => none

end Clause

open Clause

/-! ## What a filter asks for -/

namespace Predicate

mutual

/-- What a predicate that says something asks of a field. -/
def phrase (field : String) : Predicate → Phrase
  | .eq v => .compare field .eq (.ofJson v)
  | .ne v => .compare field .ne (.ofJson v)
  | .gt v => .compare field .gt (.ofJson v)
  | .ge v => .compare field .ge (.ofJson v)
  | .lt v => .compare field .lt (.ofJson v)
  | .le v => .compare field .le (.ofJson v)
  | .isIn values => .member field false (values.map .ofJson)
  | .notIn values => .member field true (values.map .ofJson)
  | .pattern text =>
    .compare field (patternText text.toList).1 (.text (.ofList (patternText text.toList).2))
  | .any inner => .joined .any (phrases field inner)
  | .all inner => .joined .all (phrases field inner)
termination_by structural p => p

/-- What the predicates that say something ask of a field. -/
def phrases (field : String) : List Predicate → List Phrase
  | [] => []
  | p :: rest => if p.isEmpty then phrases field rest else phrase field p :: phrases field rest
termination_by structural ps => ps

end

end Predicate

/-- What a filter asks for: all of its predicates that say something. -/
def Filter.phrase (f : Filter) : Phrase :=
  .joined .all ((f.clauses.filter fun c => !c.2.isEmpty).map fun c => c.2.phrase c.1)

namespace Clause

/-! ## Texts of conditions -/

/-- Wherever a part may stand, the text of the condition is read as the phrase, and its values are
used up. -/
def ReadsAs (c : Condition) (part : Phrase) : Prop :=
  ∀ group outer values, Scan.run ⟨.part, group, outer, c.params ++ values⟩ (words c.text.toList) =
    some ⟨.joint, group.add part, outer, values⟩

section Words

variable {field : String}

theorem words_field (hf : isIdentifier field = true) (s : List Char) :
    words (field.toList ++ ' ' :: s) = field :: words s := by
  rw [words_append_cons (by decide), words_of_isIdentifier hf, words_blank, List.singleton_append]

theorem words_compare (hf : isIdentifier field = true) (op : Comparison) (v : Cell) :
    words (Condition.compare field op (.bound v)).text.toList = [field, op.text, "?"] := by
  have hop : words (op.text.toList ++ " ?".toList) = [op.text, "?"] := by
    cases op <;> decide
  rw [← hop, ← words_field hf]
  simp [Condition.text, Operand.text]

/-- Texts with a separator that is one word. -/
theorem words_intercalate {sep : List Char} {w : String}
    (hsep : ∀ s t, words (s ++ sep ++ t) = words s ++ w :: words t) (texts : List (List Char)) :
    words (sep.intercalate texts) = [w].intercalate (texts.map words) := by
  induction texts with
  | nil => rfl
  | cons s rest ih =>
    cases rest with
    | nil => simp
    | cons t rest =>
      rw [List.intercalate_cons_cons, hsep, ih]
      simp [List.intercalate_cons_cons]

theorem words_commaList (texts : List String) :
    words (Sql.commaList texts).toList = [","].intercalate (texts.map fun s => words s.toList) := by
  rw [Sql.commaList, String.toList_intercalate, words_intercalate (w := ","), List.map_map]
  · rfl
  · intro s t
    show words (s ++ [',', ' '] ++ t) = _
    rw [List.append_assoc, List.cons_append, words_append_cons (by decide)]
    simp

/-- Texts with a word and blanks between them. -/
theorem words_joint {w : String} (hw : isIdentifier w = true) (texts : List String) :
    words ((" " ++ w ++ " ").intercalate texts).toList =
      [w].intercalate (texts.map fun s => words s.toList) := by
  rw [String.toList_intercalate, words_intercalate (w := w), List.map_map]
  · rfl
  · intro s t
    have hsep : (" " ++ w ++ " ").toList = ' ' :: (w.toList ++ [' ']) := by simp
    rw [hsep, List.append_assoc, List.cons_append, words_append_cons (by decide), words_blank,
      List.append_assoc, List.singleton_append, words_field hw]

theorem words_member (hf : isIdentifier field = true) (negated : Bool) (vs : List Cell) :
    words (Condition.member field negated (vs.map .bound)).text.toList =
      field :: (if negated then ["NOT", "IN", "("] else ["IN", "("]) ++
        [","].intercalate (vs.map fun _ => ["?"]) ++ [")"] := by
  have hmarks : words (Sql.commaList (vs.map fun _ => "?")).toList =
      [","].intercalate (vs.map fun _ => ["?"]) := by
    have hmark : words "?".toList = ["?"] := by decide
    simp only [words_commaList, List.map_map, Function.comp_def, hmark]
  have htext : (Condition.member field negated (vs.map .bound)).text.toList =
      field.toList ++ ' ' :: ((if negated then "NOT IN".toList else "IN".toList) ++ ' ' :: '(' ::
        ((Sql.commaList (vs.map fun _ => "?")).toList ++ [')'])) := by
    simp only [Condition.text, List.map_map, Function.comp_def, Operand.text]
    cases negated <;> simp
  rw [htext, words_field hf, words_append_cons (by decide), words_blank, words_opening,
    words_append_cons (by decide), hmarks]
  cases negated <;> simp <;> rfl

end Words

section Parts

variable {field : String}

theorem step_field (hf : isIdentifier field = true) (group : Group) (outer : List Group)
    (values : List Cell) : Scan.step ⟨.part, group, outer, values⟩ field =
      some ⟨.operator field, group, outer, values⟩ := by
  have hne : field ≠ "(" := by
    rintro rfl
    exact absurd hf (by decide)
  simp [Scan.step, hne, hf]

theorem step_comparison (op : Comparison) (group : Group) (outer : List Group)
    (values : List Cell) : Scan.step ⟨.operator field, group, outer, values⟩ op.text =
      some ⟨.mark field op, group, outer, values⟩ := by
  have hop : op.text ≠ "IN" ∧ op.text ≠ "NOT" := by cases op <;> decide
  simp [Scan.step, hop, comparison?_text]

theorem readsAs_compare (hf : isIdentifier field = true) (op : Comparison) (v : Cell) :
    ReadsAs (.compare field op (.bound v)) (.compare field op v) := by
  intro group outer values
  simp only [words_compare hf, Condition.params, Operand.params, Scan.run_cons, step_field hf,
    step_comparison, Option.bind_some]
  rfl

/-- The marks of a list take its values, in their order. -/
theorem run_items (negated : Bool) (v : Cell) (vs before : List Cell) (group : Group)
    (outer : List Group) (values : List Cell) :
    Scan.run ⟨.item field negated before, group, outer, v :: vs ++ values⟩
        ([","].intercalate ((v :: vs).map fun _ => ["?"])) =
      some ⟨.afterItem field negated (before ++ v :: vs), group, outer, values⟩ := by
  induction vs generalizing v before with
  | nil => rfl
  | cons v' vs ih =>
    rw [List.map_cons, List.map_cons, List.intercalate_cons_cons, List.append_assoc]
    show Scan.run ⟨.item field negated (before ++ [v]), group, outer, v' :: vs ++ values⟩
      ([","].intercalate ((v' :: vs).map fun _ => ["?"])) = _
    rw [ih, List.append_assoc, List.singleton_append]

theorem readsAs_member (hf : isIdentifier field = true) (negated : Bool) {vs : List Cell}
    (hvs : vs ≠ []) :
    ReadsAs (.member field negated (vs.map .bound)) (.member field negated vs) := by
  intro group outer values
  obtain ⟨v, vs, rfl⟩ := List.exists_cons_of_ne_nil hvs
  have hparams : (Condition.member field negated ((v :: vs).map .bound)).params = v :: vs := by
    simp only [Condition.params, List.flatMap_map, Operand.params, List.flatMap_singleton']
  have hhead : Scan.run ⟨.part, group, outer, v :: vs ++ values⟩
      (field :: if negated then ["NOT", "IN", "("] else ["IN", "("]) =
        some ⟨.item field negated [], group, outer, v :: vs ++ values⟩ := by
    rw [Scan.run_cons, step_field hf]
    cases negated <;> rfl
  rw [hparams, words_member hf, Scan.run_append, Scan.run_append, hhead, Option.bind_some,
    run_items, Option.bind_some]
  rfl

/-! ## Groups -/

/-- Parts with `AND` between them are read into one alternative. -/
theorem run_and {cs : List Condition} {parts : List Phrase} (h : List.Forall₂ ReadsAs cs parts)
    (hne : cs ≠ []) (group : Group) (outer : List Group) (values : List Cell) :
    Scan.run ⟨.part, group, outer, Condition.paramsList cs ++ values⟩
        (["AND"].intercalate (cs.map fun c => words c.text.toList)) =
      some ⟨.joint, { group with parts := group.parts ++ parts }, outer, values⟩ := by
  induction h generalizing group with
  | nil => exact absurd rfl hne
  | @cons c part cs parts hc h ih =>
    cases h with
    | nil =>
      simpa [Condition.paramsList, Group.add] using hc group outer values
    | @cons c' part' cs parts hc' h =>
      rw [List.map_cons, List.map_cons, List.intercalate_cons_cons, Condition.paramsList,
        List.append_assoc, List.append_assoc, Scan.run_append, hc, Option.bind_some]
      show Scan.run ⟨.part, group.add part, outer, Condition.paramsList (c' :: cs) ++ values⟩
        (["AND"].intercalate ((c' :: cs).map fun c => words c.text.toList)) = _
      rw [ih (List.cons_ne_nil _ _), Group.add, List.append_assoc, List.singleton_append]

/-- Parts with `OR` between them are read as alternatives. -/
theorem run_or {cs : List Condition} {parts : List Phrase} (h : List.Forall₂ ReadsAs cs parts)
    (hne : cs ≠ []) (before : List Phrase) (outer : List Group) (values : List Cell) :
    ∃ group : Group, group.alternatives = before ++ parts ∧
      Scan.run ⟨.part, { before }, outer, Condition.paramsList cs ++ values⟩
        (["OR"].intercalate (cs.map fun c => words c.text.toList)) =
      some ⟨.joint, group, outer, values⟩ := by
  induction h generalizing before with
  | nil => exact absurd rfl hne
  | @cons c part cs parts hc h ih =>
    cases h with
    | nil =>
      refine ⟨{ before, parts := [part] }, rfl, ?_⟩
      simpa [Condition.paramsList, Group.add] using hc { before } outer values
    | @cons c' part' cs parts hc' h =>
      obtain ⟨group, hgroup, hrun⟩ := ih (List.cons_ne_nil _ _) (before ++ [part])
      refine ⟨group, by rw [hgroup, List.append_assoc, List.singleton_append], ?_⟩
      rw [List.map_cons, List.map_cons, List.intercalate_cons_cons, Condition.paramsList,
        List.append_assoc, List.append_assoc, Scan.run_append, hc, Option.bind_some, ← hrun]
      rfl

/-- Reads what stands in parentheses as one part of the group around it. -/
theorem run_parentheses {ws : List String} {inner group : Group} {outer : List Group}
    {values values' : List Cell}
    (h : Scan.run ⟨.part, {}, group :: outer, values⟩ ws =
      some ⟨.joint, inner, group :: outer, values'⟩) :
    Scan.run ⟨.part, group, outer, values⟩ ("(" :: ws ++ [")"]) =
      some ⟨.joint, group.add inner.phrase, outer, values'⟩ := by
  rw [Scan.run_append, Scan.run_cons]
  show ((Scan.run ⟨.part, {}, group :: outer, values⟩ ws).bind fun s => s.run [")"]) = _
  rw [h]
  rfl

theorem texts_eq_map (cs : List Condition) : Condition.texts cs = cs.map Condition.text := by
  induction cs with
  | nil => rfl
  | cons c cs ih => rw [Condition.texts, ih, List.map_cons]

/-- Conditions with a word between them. -/
theorem words_texts {w : String} (hw : isIdentifier w = true) (cs : List Condition) :
    words ((" " ++ w ++ " ").intercalate (Condition.texts cs)).toList =
      [w].intercalate (cs.map fun c => words c.text.toList) := by
  rw [words_joint hw, texts_eq_map, List.map_map]
  rfl

theorem words_conjunction (cs : List Condition) : words (Condition.conjunction cs).toList =
    ["AND"].intercalate (cs.map fun c => words c.text.toList) :=
  words_texts (w := "AND") (by decide) cs

theorem words_parentheses (s : String) :
    words ("(" ++ s ++ ")").toList = "(" :: words s.toList ++ [")"] := by
  have htext : ("(" ++ s ++ ")").toList = '(' :: (s.toList ++ [')']) := by simp
  rw [htext, words_opening, words_append_cons (by decide), List.cons_append]
  rfl

theorem readsAs_all {cs : List Condition} {parts : List Phrase}
    (h : List.Forall₂ ReadsAs cs parts) (hne : cs ≠ []) :
    ReadsAs (.all cs) (.joined .all parts) := by
  intro group outer values
  have hwords := words_texts (w := "AND") (by decide) cs
  rw [Condition.text, words_parentheses, show " AND " = " " ++ "AND" ++ " " from rfl, hwords]
  exact run_parentheses (run_and h hne {} (group :: outer) values)

theorem readsAs_any {cs : List Condition} {parts : List Phrase}
    (h : List.Forall₂ ReadsAs cs parts) (hne : cs ≠ []) :
    ReadsAs (.any cs) (.joined .any parts) := by
  intro group outer values
  obtain ⟨inner, hinner, hrun⟩ := run_or h hne [] (group :: outer) values
  have hwords := words_texts (w := "OR") (by decide) cs
  rw [Condition.text, words_parentheses, show " OR " = " " ++ "OR" ++ " " from rfl, hwords,
    ← List.nil_append parts, ← hinner]
  exact run_parentheses hrun

end Parts

end Clause

/-! ## Filters -/

namespace Predicate

/-- A predicate has a condition exactly if it says something. -/
theorem condition?_eq_none_iff {field : String} {p : Predicate} :
    p.condition? field = none ↔ p.isEmpty = true := by
  cases p <;> simp [condition?, isEmpty]

theorem conditions_eq_nil_iff {field : String} {ps : List Predicate} :
    conditions field ps = [] ↔ allEmpty ps = true := by
  induction ps with
  | nil => simp [conditions, allEmpty]
  | cons p ps ih =>
    rw [conditions, allEmpty, Bool.and_eq_true, ← ih, ← @condition?_eq_none_iff field]
    cases condition? field p <;> simp

theorem readsAs_member_bindValue {field : String} (hf : isIdentifier field = true) (negated : Bool)
    {vs : List Json} (hvs : vs ≠ []) :
    ReadsAs (.member field negated (vs.map bindValue))
      (.member field negated (vs.map .ofJson)) := by
  have hmap : vs.map bindValue = (vs.map Cell.ofJson).map Operand.bound := by
    rw [List.map_map]
    rfl
  rw [hmap]
  exact readsAs_member hf negated fun h => hvs (List.map_eq_nil_iff.1 h)

variable {field : String}

mutual

/-- **The text of a predicate that says something is read as what the predicate asks for.** -/
theorem readsAs_condition? (hf : isIdentifier field = true) : ∀ p : Predicate, p.isEmpty = false →
    ∃ c, p.condition? field = some c ∧ ReadsAs c (p.phrase field)
  | .eq v, h | .ne v, h | .gt v, h | .ge v, h | .lt v, h | .le v, h | .pattern text, h =>
    ⟨_, if_neg (by simpa [isEmpty] using h), readsAs_compare hf _ _⟩
  | .isIn values, h | .notIn values, h => by
    have hne : values ≠ [] := by simpa [isEmpty] using h
    exact ⟨_, if_neg (by simpa using hne), readsAs_member_bindValue hf _ hne⟩
  | .any inner, h => by
    have hne : conditions field inner ≠ [] := fun hc => by
      simp [isEmpty, conditions_eq_nil_iff.1 hc] at h
    exact ⟨_, if_neg (by simpa [isEmpty] using h), readsAs_any (readsAs_conditions hf inner) hne⟩
  | .all inner, h => by
    have hne : conditions field inner ≠ [] := fun hc => by
      simp [isEmpty, conditions_eq_nil_iff.1 hc] at h
    exact ⟨_, if_neg (by simpa [isEmpty] using h), readsAs_all (readsAs_conditions hf inner) hne⟩
termination_by structural p => p

/-- The texts of the parts of a group are read as what the parts that say something ask for. -/
theorem readsAs_conditions (hf : isIdentifier field = true) :
    ∀ ps : List Predicate, List.Forall₂ ReadsAs (conditions field ps) (phrases field ps)
  | [] => .nil
  | p :: rest => by
    have ih := readsAs_conditions hf rest
    rw [conditions, phrases]
    cases hp : p.isEmpty with
    | true => rwa [condition?_eq_none_iff.2 hp]
    | false =>
      obtain ⟨c, hc, hread⟩ := readsAs_condition? hf p hp
      rw [hc]
      exact .cons hread ih
termination_by structural ps => ps

end

end Predicate

namespace Filter

/-- The conditions of a filter on names: those of its predicates that say something. -/
theorem compile_eq {f : Filter} (hf : ∀ c ∈ f.clauses, isIdentifier c.1 = true) :
    f.compile = .ok (f.clauses.flatMap fun c => (c.2.condition? c.1).toList) := by
  obtain ⟨clauses⟩ := f
  show compileClauses clauses = _
  induction clauses with
  | nil => rfl
  | cons c rest ih =>
    obtain ⟨field, p⟩ := c
    have hfield : isIdentifier field = true := hf (field, p) List.mem_cons_self
    rw [compileClauses, if_neg (by simp [hfield]), ih fun c hc => hf c (List.mem_cons_of_mem _ hc)]
    rfl

/-- A filter with a field that is no name is refused. -/
theorem isIdentifier_of_compile {f : Filter} {conditions : List Condition}
    (h : f.compile = .ok conditions) : ∀ c ∈ f.clauses, isIdentifier c.1 = true := by
  obtain ⟨clauses⟩ := f
  have hclauses : compileClauses clauses = .ok conditions := h
  clear h
  induction clauses generalizing conditions with
  | nil => exact fun c hc => absurd hc List.not_mem_nil
  | cons c rest ih =>
    obtain ⟨field, p⟩ := c
    rw [compileClauses] at hclauses
    split_ifs at hclauses with hfield
    obtain ⟨others, hothers, -⟩ := Result.map_eq_ok_iff.1 hclauses
    intro c hc
    obtain rfl | hc := List.mem_cons.1 hc
    · simpa using hfield
    · exact ih hothers c hc

theorem readsAs_compile {clauses : List (String × Predicate)}
    (hf : ∀ c ∈ clauses, isIdentifier c.1 = true) :
    List.Forall₂ ReadsAs (clauses.flatMap fun c => (c.2.condition? c.1).toList)
      ((clauses.filter fun c => !c.2.isEmpty).map fun c => c.2.phrase c.1) := by
  induction clauses with
  | nil => exact .nil
  | cons c rest ih =>
    have ih := ih fun c hc => hf c (List.mem_cons_of_mem _ hc)
    rw [List.flatMap_cons, List.filter_cons]
    cases hp : c.2.isEmpty with
    | true => simpa [Predicate.condition?_eq_none_iff.2 hp] using ih
    | false =>
      obtain ⟨condition, hc, hread⟩ :=
        Predicate.readsAs_condition? (hf c List.mem_cons_self) c.2 hp
      simpa [hc] using And.intro hread ih

end Filter

namespace Clause

theorem conjunction_ne_empty {cs : List Condition} {parts : List Phrase}
    (h : List.Forall₂ ReadsAs cs parts) (hne : cs ≠ []) : Condition.conjunction cs ≠ "" := by
  intro htext
  have hrun := run_and h hne {} [] []
  rw [← words_conjunction, htext] at hrun
  have hplace : Place.part = Place.joint := congrArg Scan.place (Option.some.inj hrun)
  exact nomatch hplace

/-- The clause of conditions that are read as phrases is read as all of them. -/
theorem read_conjunction {cs : List Condition} {parts : List Phrase}
    (h : List.Forall₂ ReadsAs cs parts) :
    read (Condition.conjunction cs) (Condition.paramsList cs) = some (.joined .all parts) := by
  by_cases hne : cs = []
  · subst hne
    obtain rfl := List.forall₂_nil_left_iff.1 h
    rfl
  · have hrun := run_and h hne {} [] []
    rw [List.append_nil] at hrun
    rw [read, if_neg (by simpa using conjunction_ne_empty h hne), words_conjunction, hrun]
    rfl

end Clause

/-- **The clause of a filter means what the filter says.** Where all fields are names, its clause
is read completely and takes every value, as the conjunction of the predicates that say something,
in their order, each with its own field, operator and values and with its groups as they are. -/
theorem Filter.read_compile (f : Filter) (hf : ∀ c ∈ f.clauses, isIdentifier c.1 = true) :
    ∃ conditions, f.compile = .ok conditions ∧
      Clause.read (Condition.conjunction conditions) (Condition.paramsList conditions) =
        some f.phrase :=
  ⟨_, compile_eq hf, read_conjunction (readsAs_compile hf)⟩

/-- Fields with the names of words of the language, and parts that say nothing. -/
def wordFilter : Filter :=
  { clauses := [("or", .any [.eq (.int 0), .pattern "^a", .all [.gt (.int 0), .ne (.bool true)]]),
      ("price", .eq .null), ("in", .notIn [.int 1, .str "x"])] }

theorem Filter.read_compile_wordFilter :
    (∀ c ∈ wordFilter.clauses, isIdentifier c.1 = true) ∧
      (∃ conditions, wordFilter.compile = .ok conditions ∧
        Clause.read (Condition.conjunction conditions) (Condition.paramsList conditions) =
          some wordFilter.phrase) ∧
      wordFilter.phrase =
        .all [.any [.compare "or" .like (.text "a%"),
            .all [.compare "or" .gt (.int 0), .compare "or" .ne (.int 1)]],
          .member "in" true [.int 1, .text "x"]] :=
  ⟨by decide, wordFilter.read_compile (by decide), rfl⟩

example : Clause.read "a = ? OR b LIKE ? AND (c IN (?, ?))" [.int 1, .text "x", .int 2, .null] =
    some (.any [.compare "a" .eq (.int 1),
      .all [.compare "b" .like (.text "x"), .member "c" false [.int 2, .null]]]) := rfl

end Daybook
