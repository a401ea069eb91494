import Daybook.Proofs.Schema.Rules
import Daybook.Sql.Reader
import Mathlib.Tactic.IntervalCases
import Mathlib.Tactic.Tauto

/-!
# Words of statements, one by one

A text that is put together of names, signs and quoted texts is split into just these, whatever
characters the quoted texts have: a quote inside one is written twice, so that only the quote at its
end is alone (`readQuoted?_quoted`).

* `tokensOf`: the words and signs of a text;
* `SplitsInto`: the words of characters, with any fuel that reaches;
* `IsPhrase`, `IsClause`: texts that are split in the same way wherever they stand, with what may
  be put together of them (`IsPhrase.append`, `IsPhrase.commaList`, `IsPhrase.parentheses`).
-/

namespace Daybook.Sql

/-- The words and signs of a text. -/
def tokensOf (text : String) : List Token := readTokens text.toList.length text.toList

/-- The characters are split into the words, whatever fuel there is to spare. -/
def SplitsInto (cs : List Char) (ts : List Token) : Prop :=
  ∀ fuel, cs.length ≤ fuel → readTokens fuel cs = ts

/-- Neither a name nor a quoted text goes on with the characters. -/
def Ends (cs : List Char) : Prop := ∀ c ∈ cs.head?, continuesName c = false ∧ c ≠ '\''

variable {cs rest : List Char} {ts us : List Token} {c : Char}

theorem ends_nil : Ends [] := fun _ hc => nomatch hc

theorem ends_cons (h : continuesName c = false ∧ c ≠ '\'') (rest : List Char) :
    Ends (c :: rest) := by
  intro d hd
  obtain rfl := Option.some.inj hd
  exact h

/-! ## Single words -/

namespace SplitsInto

theorem nil : SplitsInto [] [] := by
  intro fuel _
  cases fuel <;> rfl

theorem tokensOf_eq {text : String} (h : SplitsInto text.toList ts) : tokensOf text = ts :=
  h _ (Nat.le_refl _)

/-- The words of a text are its first word and those of what follows. -/
theorem of_nextToken {token : Option Token} (htoken : nextToken c cs = (token, rest))
    (hlength : rest.length ≤ cs.length) (h : SplitsInto rest us) :
    SplitsInto (c :: cs) (token.toList ++ us) := by
  intro fuel hfuel
  rw [List.length_cons] at hfuel
  obtain ⟨fuel, rfl⟩ : ∃ n, fuel = n + 1 := ⟨fuel - 1, by omega⟩
  rw [readTokens, htoken]
  dsimp only
  rw [h fuel (by omega)]

theorem blank (h : SplitsInto rest us) : SplitsInto (' ' :: rest) us :=
  have htoken : nextToken ' ' rest = (none, rest) := rfl
  h.of_nextToken htoken (Nat.le_refl _)

end SplitsInto

/-- The signs of lists. -/
def listSigns : List Char := ['(', ')', ',']

theorem nextToken_of_mem_listSigns (hc : c ∈ listSigns) (rest : List Char) :
    nextToken c rest = (some (.sign (String.ofList [c])), rest) := by
  simp only [listSigns, List.mem_cons, List.not_mem_nil, or_false] at hc
  cases rest with
  | nil => obtain rfl | rfl | rfl := hc <;> rfl
  | cons d rest =>
    -- no sign of two characters begins so
    have hdouble : doubleSigns.contains (String.ofList [c, d]) = false := by
      simp only [doubleSigns, List.contains_cons, List.contains_nil, Bool.or_false,
        Bool.or_eq_false_iff, beq_eq_false_iff_ne, ne_eq, ← String.toList_inj,
        String.toList_ofList]
      obtain rfl | rfl | rfl := hc <;> simp
    unfold nextToken
    dsimp only
    rw [hdouble]
    obtain rfl | rfl | rfl := hc <;> rfl

theorem SplitsInto.sign (hc : c ∈ listSigns) (h : SplitsInto rest us) :
    SplitsInto (c :: rest) (.sign (String.ofList [c]) :: us) :=
  h.of_nextToken (nextToken_of_mem_listSigns hc rest) (Nat.le_refl _)

/-! ## Names -/

theorem startsName_of_startsIdentifier (h : startsIdentifier c = true) : startsName c = true := by
  simp only [startsIdentifier, Bool.or_eq_true] at h
  simp only [startsName, Bool.or_eq_true]
  exact .inl h

theorem continuesName_of_continuesIdentifier (h : continuesIdentifier c = true) :
    continuesName c = true := by
  simp only [continuesIdentifier, Char.isAlphanum, Bool.or_eq_true] at h
  simp only [continuesName, startsName, Bool.or_eq_true]
  tauto

/-- No name begins with a blank. -/
theorem isNumberSpace_eq_false (h : startsName c = true) : isNumberSpace c = false := by
  by_contra hspace
  simp only [isNumberSpace, Bool.not_eq_false, Bool.or_eq_true, Bool.and_eq_true,
    decide_eq_true_eq, Char.le_def, UInt32.le_iff_toNat_le] at hspace
  change c = ' ' ∨ 9 ≤ c.toNat ∧ c.toNat ≤ 13 at hspace
  obtain rfl | ⟨hlow, hhigh⟩ := hspace
  · revert h
    decide
  · rw [← Char.ofNat_toNat c] at h
    generalize c.toNat = n at h hlow hhigh
    interval_cases n <;> revert h <;> decide

/-- A name takes all characters up to its end. -/
theorem takeWhile_continuesName {name : List Char} (h : ∀ c ∈ name, continuesName c = true)
    (hends : Ends rest) :
    (name ++ rest).takeWhile continuesName = name ∧
      (name ++ rest).dropWhile continuesName = rest := by
  rw [List.takeWhile_append_of_pos h, List.dropWhile_append_of_pos h]
  cases rest with
  | nil => simp
  | cons c rest =>
    have hc : continuesName c = false := (hends c rfl).1
    simp [hc]

/-- A name is one word, if it is not continued. -/
theorem SplitsInto.word {name : String} (hname : isIdentifier name = true) (hends : Ends rest)
    (h : SplitsInto rest us) : SplitsInto (name.toList ++ rest) (.word name :: us) := by
  obtain ⟨-, hcontinues⟩ := continues_of_isIdentifier hname
  unfold isIdentifier at hname
  cases hchars : name.toList with
  | nil => simp [hchars] at hname
  | cons c tail =>
    rw [hchars] at hname hcontinues
    simp only [Bool.and_eq_true] at hname
    rw [List.forall_mem_cons] at hcontinues
    obtain ⟨htake, hdrop⟩ := takeWhile_continuesName
      (fun d hd => continuesName_of_continuesIdentifier (hcontinues.2 d hd)) hends
    have hstarts := startsName_of_startsIdentifier hname.1
    have hquote : (tail ++ rest).head? ≠ some '\'' := by
      cases tail with
      | nil =>
        intro hhead
        exact (hends _ hhead).2 rfl
      | cons d tail =>
        rw [List.cons_append, List.head?_cons, ne_eq, Option.some.injEq]
        rintro rfl
        exact absurd (hcontinues.2 _ List.mem_cons_self) (by decide)
    have hne : ∀ d, startsName d = false → c ≠ d := by
      rintro d hd rfl
      rw [hstarts] at hd
      cases hd
    have htoken : nextToken c (tail ++ rest) = (some (.word name), rest) := by
      unfold nextToken
      rw [isNumberSpace_eq_false hstarts, htake, hdrop, ← hchars, String.ofList_toList]
      generalize tail ++ rest = following at hquote
      simp [hne '?' (by decide), hne '\'' (by decide), hne '"' (by decide), hne '-' (by decide),
        hne '/' (by decide), hquote, hstarts]
    exact h.of_nextToken htoken (by simp)

/-! ## Quoted texts -/

/-- The characters of a quoted text, without the quotes around it. -/
def quoted (cs : List Char) : List Char :=
  cs.flatMap fun c => if c = '\'' then ['\'', '\''] else [c]

theorem toList_quoteLiteral (s : String) :
    (quoteLiteral s).toList = '\'' :: (quoted s.toList ++ ['\'']) := by
  rw [quoteLiteral, String.toList_ofList]
  rfl

/-- **Only the quote at the end of a quoted text is alone.** -/
theorem readQuoted?_quoted (cs : List Char) (hends : Ends rest) :
    readQuoted? '\'' (quoted cs ++ '\'' :: rest) = some (cs, rest) := by
  induction cs with
  | nil =>
    cases rest with
    | nil => rfl
    | cons c rest =>
      have hc : c ≠ '\'' := (hends c rfl).2
      simp [quoted, readQuoted?, hc]
  | cons c cs ih =>
    by_cases hc : c = '\''
    · subst hc
      have hcons : quoted ('\'' :: cs) = '\'' :: '\'' :: quoted cs := rfl
      simp [hcons, readQuoted?, ih]
    · have hcons : quoted (c :: cs) = c :: quoted cs := by simp [quoted, hc]
      rw [hcons, List.cons_append, readQuoted?.eq_def]
      simp [hc, ih]

/-- A quoted text is one word. -/
theorem SplitsInto.quoted (s : String) (hends : Ends rest) (h : SplitsInto rest us) :
    SplitsInto ((quoteLiteral s).toList ++ rest) (.quoted s :: us) := by
  have htoken : nextToken '\'' (Sql.quoted s.toList ++ '\'' :: rest) =
      (some (.quoted s), rest) := by
    show (quotedToken '\'' .quoted (Sql.quoted s.toList ++ '\'' :: rest)).map some id = _
    rw [quotedToken, readQuoted?_quoted _ hends]
    simp
  rw [toList_quoteLiteral, List.cons_append, List.append_assoc, List.singleton_append]
  exact h.of_nextToken htoken (by simp; omega)

/-! ## Phrases -/

/-- The text is split into the words wherever it stands, if words may end after it. -/
def IsPhrase (text : String) (ts : List Token) : Prop :=
  ∀ rest us, Ends rest → SplitsInto rest us → SplitsInto (text.toList ++ rest) (ts ++ us)

/-- A phrase before which words end. -/
structure IsClause (text : String) (ts : List Token) : Prop where
  phrase : IsPhrase text ts
  ends : ∀ rest, Ends rest → Ends (text.toList ++ rest)

theorem isPhrase_word (name : String) (h : isIdentifier name = true) :
    IsPhrase name [.word name] :=
  fun _ _ hends hrest => hrest.word h hends

theorem isPhrase_quoted (s : String) : IsPhrase (quoteLiteral s) [.quoted s] :=
  fun _ _ hends hrest => hrest.quoted s hends

theorem isClause_empty : IsClause "" [] := ⟨fun _ _ _ hrest => hrest, fun _ hends => hends⟩

namespace IsPhrase

variable {a b : String}

theorem tokensOf_eq (h : IsPhrase a ts) : tokensOf a = ts := by
  have hsplits := h [] [] ends_nil .nil
  rw [List.append_nil, List.append_nil] at hsplits
  exact hsplits.tokensOf_eq

theorem append (ha : IsPhrase a ts) (hb : IsClause b us) : IsPhrase (a ++ b) (ts ++ us) := by
  intro rest vs hends hrest
  rw [String.toList_append, List.append_assoc, List.append_assoc]
  exact ha _ _ (hb.ends rest hends) (hb.phrase rest vs hends hrest)

theorem blank (h : IsPhrase a ts) : IsClause (" " ++ a) ts := by
  have hchars : (" " ++ a).toList = ' ' :: a.toList := by simp
  refine ⟨fun rest us hends hrest => ?_, fun rest _ => ?_⟩
  · rw [hchars]
    exact (h rest us hends hrest).blank
  · rw [hchars]
    exact ends_cons (by decide) _

/-- A phrase in parentheses. -/
theorem parentheses (h : IsPhrase a ts) :
    IsClause ("(" ++ a ++ ")") (.sign "(" :: ts ++ [.sign ")"]) := by
  have hchars : ∀ rest, ("(" ++ a ++ ")").toList ++ rest = '(' :: (a.toList ++ ')' :: rest) := by
    simp
  refine ⟨fun rest us hends hrest => ?_, fun rest _ => ?_⟩
  · have hclosing : SplitsInto (')' :: rest) (.sign ")" :: us) := hrest.sign (by decide)
    have hinside := h _ _ (ends_cons (by decide) rest) hclosing
    have hopening : SplitsInto ('(' :: (a.toList ++ ')' :: rest))
      (.sign "(" :: (ts ++ .sign ")" :: us)) := hinside.sign (by decide)
    rw [hchars]
    simpa using hopening
  · rw [hchars]
    exact ends_cons (by decide) _

theorem comma (h : IsPhrase a ts) : IsClause (", " ++ a) (.sign "," :: ts) := by
  have hchars : ∀ rest, (", " ++ a).toList ++ rest = ',' :: ' ' :: (a.toList ++ rest) := by simp
  refine ⟨fun rest us hends hrest => ?_, fun rest _ => ?_⟩
  · rw [hchars]
    exact (h rest us hends hrest).blank.sign (by decide)
  · rw [hchars]
    exact ends_cons (by decide) _

/-- Phrases with commas between them. -/
theorem commaList {α : Type} {text : α → String} {words : α → List Token} :
    ∀ {xs : List α}, (∀ x ∈ xs, IsPhrase (text x) (words x)) →
      IsPhrase (commaList (xs.map text)) ([.sign ","].intercalate (xs.map words))
  | [], _ => isClause_empty.phrase
  | [x], h => by simpa [Sql.commaList] using h x List.mem_cons_self
  | x :: y :: xs, h => by
    rw [List.forall_mem_cons] at h
    have hrest : IsPhrase (Sql.commaList ((y :: xs).map text)) _ := commaList h.2
    have htext : Sql.commaList ((x :: y :: xs).map text) =
        text x ++ (", " ++ Sql.commaList ((y :: xs).map text)) := by
      rw [← String.toList_inj]
      simp [Sql.commaList, String.toList_intercalate]
    rw [htext]
    simpa [List.intercalate_cons_cons] using h.1.append hrest.comma

end IsPhrase

theorem IsClause.append {a b : String} (ha : IsClause a ts) (hb : IsClause b us) :
    IsClause (a ++ b) (ts ++ us) := by
  refine ⟨ha.phrase.append hb, fun rest hends => ?_⟩
  rw [String.toList_append, List.append_assoc]
  exact ha.ends _ (hb.ends rest hends)

/-- One clause or another, as a condition says. -/
theorem IsClause.ite {a b : String} {p : Prop} [Decidable p] (ha : IsClause a ts)
    (hb : IsClause b us) : IsClause (if p then a else b) (if p then ts else us) := by
  split_ifs
  · exact ha
  · exact hb

end Daybook.Sql
