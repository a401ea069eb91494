import Daybook.Proofs.Bytes.Gzip
import Daybook.Proofs.Settings.Path

/-!
# Settings in a file

A change of a setting is made in memory first, and written to the file then. Where the file cannot
be written, the call fails, but the change has been made all the same (`attempted`). So what is seen
are all changes whose paths are in order, whether they were written or not (**`attempts_change`**),
and not what was written last (**`not_forall_get?_of_failed_set`**).

* `Files.Takes`: a file that can be written, whatever is written;
* `SettingsFile.saved`: settings as they are once they were written;
* `Attempt`, `SettingsFile.attempts`: calls, each with the files as they are at its time.
-/

namespace Daybook

/-! ## Files that can be written -/

namespace Files

variable {f : Files} {path : Path}

/-- Whatever is written to the path, it can be written. -/
def Takes (f : Files) (path : Path) : Prop := ∀ b, ∃ f', f.write path b = .ok f'

theorem put_put (f : Files) (path : Path) (content content' : Content) :
    (f.put path content).put path content' = f.put path content' := by
  simp [put, List.filter_filter]

theorem read_put (f : Files) (path : Path) (b : Bytes) :
    (f.put path (.bytes b)).read path = .ok b := by
  rw [read, lookup_put_self]
  rfl

/-- What is written to a file that takes everything is there. -/
theorem Takes.write_eq (h : f.Takes path) (b : Bytes) :
    f.write path b = .ok (f.put path (.bytes b)) := by
  obtain ⟨f', hwrite⟩ := h b
  -- a file of the system does not take nothing
  obtain ⟨f₀, hempty⟩ := h []
  rw [write] at hwrite hempty ⊢
  split_ifs at hwrite hempty ⊢ with hdirectory hblocked
  cases hcontent : (f.lookup? path).getD (.bytes []) with
  | bytes c => rfl
  | database db => rfl
  | directory =>
    rw [hcontent] at hwrite
    cases hwrite
  | number n =>
    rw [hcontent] at hempty
    cases hempty

theorem isDirectory_put (f : Files) (path : Path) (b : Bytes)
    (h : f.isDirectory path = false) : (f.put path (.bytes b)).isDirectory path = false := by
  rw [isDirectory, Bool.or_eq_false_iff, List.any_eq_false] at h ⊢
  refine ⟨by simp, fun e he => ?_⟩
  obtain rfl | he := List.mem_cons.1 he
  · simp
  · exact h.2 e (List.mem_of_mem_filter he)

theorem isBlocked_put (f : Files) (path : Path) (content : Content) :
    (f.put path content).isBlocked path = f.isBlocked path := by
  rw [Bool.eq_iff_iff, isBlocked, isBlocked, List.any_eq_true, List.any_eq_true]
  refine exists_congr fun n => and_congr_right fun hn => ?_
  have hne : path.take n ≠ path := by
    intro h
    have hlength := congrArg List.length h
    have hlt := List.mem_range.1 hn
    rw [List.length_take] at hlength
    omega
  rw [isFile, isFile, lookup_put_of_ne _ _ hne]

/-- A file that takes everything still does after it was written. -/
theorem Takes.put (h : f.Takes path) (b : Bytes) : (f.put path (.bytes b)).Takes path := by
  intro b'
  obtain ⟨f', hwrite⟩ := h b
  rw [write] at hwrite
  split_ifs at hwrite with hdirectory hblocked
  rw [Bool.or_eq_true, not_or, Bool.not_eq_true, Bool.not_eq_true] at hdirectory
  rw [Bool.not_eq_true] at hblocked
  refine ⟨(f.put path (.bytes b)).put path (.bytes b'), ?_⟩
  rw [write, hdirectory.1, isDirectory_put f path b hdirectory.2, isBlocked_put, hblocked,
    lookup_put_self]
  rfl

end Files

/-! ## Writing settings -/

namespace SettingsFile

open Settings

variable {s : SettingsFile}

/-- The bytes of the settings. -/
def bytes (s : SettingsFile) : Bytes := Bytes.ofText s.root.pretty

/-- The settings once they were written to a file that takes everything. -/
def saved (s : SettingsFile) : SettingsFile :=
  { s with files := s.files.put s.path (.bytes s.bytes) }

theorem persist_of_takes (h : s.files.Takes s.path) : s.persist = (.ok (), s.saved) := by
  rw [persist, h.write_eq]
  rfl

theorem saved_saved (s : SettingsFile) : s.saved.saved = s.saved := by
  rw [saved, saved, Files.put_put]
  rfl

/-- Settings that were written are kept, if their text is read as they are. -/
theorem kept_saved (h : s.root.ReadsBack) : kept s.saved.files s.path = .ok (some s.root) := by
  rw [kept, saved, Files.read_put]
  dsimp only
  rw [bytes, Bytes.toText?_ofText]
  exact congrArg _ h

/-- Settings are opened and written. -/
theorem openWith_of_write {files files' : Files} {path : Path} {defaults : Json} {k : Option Json}
    (hkept : kept files path = .ok k)
    (hwrite : files.write path (Bytes.ofText (opened defaults k).pretty) = .ok files') :
    openWith files path defaults = .ok ⟨path, opened defaults k, files'⟩ := by
  have hpersist : persist ⟨path, opened defaults k, files⟩ =
      (.ok (), ⟨path, opened defaults k, files'⟩) := by
    rw [persist, hwrite]
  simp only [openWith, hkept, bind, Except.bind, hpersist]
  rfl

theorem openWith_of_takes {files : Files} {path : Path} {defaults : Json} {k : Option Json}
    (hkept : kept files path = .ok k) (htakes : files.Takes path) :
    openWith files path defaults = .ok (saved ⟨path, opened defaults k, files⟩) :=
  openWith_of_write hkept (htakes.write_eq _)

/-! ## Calls that may fail -/

theorem set_of_mem {path : String} (h : "" ∈ keysOf path) (s : SettingsFile) (value : Json) :
    s.set path value = (.error (.invalidInput (.settingsPath path)), s) := by
  rw [set, change_of_mem h]

/-- Where the path is in order, the change is made, and then written. -/
theorem set_of_not_mem {path : String} (h : "" ∉ keysOf path) (s : SettingsFile) (value : Json) :
    s.set path value = persist { s with root := setAt value (keysOf path) s.root } := by
  rw [set, change_of_not_mem h]

theorem root_persist (s : SettingsFile) : s.persist.2.root = s.root := by
  rw [persist]
  split <;> rfl

/-- A change is made in memory whether it can be written or not. -/
theorem root_set (s : SettingsFile) (path : String) (value : Json) : (s.set path value).2.root =
    if "" ∈ keysOf path then s.root else setAt value (keysOf path) s.root := by
  split_ifs with h
  · rw [set_of_mem h]
  · rw [set_of_not_mem h, root_persist]

theorem persist_eq_ok_iff (s : SettingsFile) :
    s.persist.1 = .ok () ↔ ∃ files, s.files.write s.path s.bytes = .ok files := by
  rw [persist, bytes]
  cases s.files.write s.path (Bytes.ofText s.root.pretty) <;> simp

/-- A call that sets a value, with the files as they are at its time. -/
structure Attempt where
  files : Files
  path : String
  value : Json

/-- What a call makes of settings. -/
def Attempt.apply (root : Json) (a : Attempt) : Json :=
  if "" ∈ keysOf a.path then root else setAt a.value (keysOf a.path) root

/-- The answer of a call, and the settings after it. -/
def attempt (s : SettingsFile) (a : Attempt) : Except Failure Unit × SettingsFile :=
  { s with files := a.files }.set a.path a.value

/-- The settings after several calls. -/
def attempts (s : SettingsFile) (calls : List Attempt) : SettingsFile :=
  calls.foldl (fun s a => (s.attempt a).2) s

theorem root_attempt (s : SettingsFile) (a : Attempt) : (s.attempt a).2.root = a.apply s.root :=
  root_set _ _ _

/-- **What is seen after several calls** are all changes whose paths are in order. -/
theorem root_attempts (s : SettingsFile) (calls : List Attempt) :
    (s.attempts calls).root = calls.foldl Attempt.apply s.root := by
  induction calls generalizing s with
  | nil => rfl
  | cons a rest ih =>
    rw [attempts, List.foldl_cons, ← attempts, ih, root_attempt, List.foldl_cons]

theorem path_attempt (s : SettingsFile) (a : Attempt) : (s.attempt a).2.path = s.path := by
  rw [attempt]
  by_cases h : "" ∈ keysOf a.path
  · rw [set_of_mem h]
  · rw [set_of_not_mem h, persist]
    split <;> rfl

theorem path_attempts (s : SettingsFile) (calls : List Attempt) :
    (s.attempts calls).path = s.path := by
  induction calls generalizing s with
  | nil => rfl
  | cons a rest ih => rw [attempts, List.foldl_cons, ← attempts, ih, path_attempt]

/-- What a call does: where a key of its path is empty, it fails and changes nothing; otherwise it
answers whether it could write the settings, and has changed them in any case. -/
structure Attempted (s : SettingsFile) (a : Attempt) : Prop where
  refused : "" ∈ keysOf a.path → s.attempt a =
    (.error (.invalidInput (.settingsPath a.path)), { s with files := a.files })
  answered : "" ∉ keysOf a.path → ((s.attempt a).1 = .ok () ↔
    ∃ files, a.files.write s.path (Bytes.ofText (s.attempt a).2.root.pretty) = .ok files)
  found : "" ∉ keysOf a.path → get? (s.attempt a).2.root a.path = some a.value
  elsewhere : "" ∉ keysOf a.path → ∀ other, ¬ keysOf a.path <+: keysOf other →
    ¬ keysOf other <+: keysOf a.path → get? (s.attempt a).2.root other = get? s.root other

theorem attempted (s : SettingsFile) (a : Attempt) : s.Attempted a where
  refused h := set_of_mem h _ _
  answered h := by
    have hset : s.attempt a = _ := set_of_not_mem h _ _
    rw [hset, root_persist, persist_eq_ok_iff]
    rfl
  found h := by
    rw [root_attempt, Attempt.apply, if_neg h]
    exact get?_setAt_keysOf rfl _ _
  elsewhere h other hother hpath := by
    rw [root_attempt, Attempt.apply, if_neg h]
    exact get?_setAt_of_apart hother hpath _ _

/-- **Calls of which some cannot write the settings**: all changes have been made whose paths are in
order, and the next call does as ever, whether the calls before it failed or not. -/
theorem attempts_change (s : SettingsFile) (calls : List Attempt) (a : Attempt) :
    (s.attempts calls).root = calls.foldl Attempt.apply s.root ∧
      (s.attempts calls).path = s.path ∧ (s.attempts calls).Attempted a :=
  ⟨root_attempts s calls, path_attempts s calls, attempted _ a⟩

/-! ### A file that does not take everything -/

/-- Settings that are a number, in a file of the system that takes nothing else. -/
def rankSettings : SettingsFile where
  path := Path.ofText "/proc/self/oom_score_adj"
  root := .int 1000
  files := Files.system.put (Path.ofText "/proc/self/oom_score_adj") (.number 1000)

theorem openWith_rankSettings :
    openWith Files.system rankSettings.path rankSettings.root = .ok rankSettings := by
  have hkept : kept Files.system rankSettings.path = .ok (some (.int 0)) := by decide +kernel
  exact openWith_of_write hkept (by decide +kernel)

/-- **A call that fails may have changed the settings**: the file takes the number that the settings
are, and does not take the object that they become. -/
theorem not_forall_get?_of_failed_set :
    ¬ ∀ (files : Files) (path : Path) (defaults : Json) (s : SettingsFile),
      openWith files path defaults = .ok s → ∀ (calls : List Attempt) (a : Attempt) (e : Failure),
      ((s.attempts calls).attempt a).1 = .error e → ∀ other,
      get? ((s.attempts calls).attempt a).2.root other = get? (s.attempts calls).root other := by
  intro h
  have hfails : (rankSettings.attempt ⟨rankSettings.files, "a", .int 1⟩).1 = .error .io := by
    decide +kernel
  have hget := h _ _ _ _ openWith_rankSettings [] ⟨rankSettings.files, "a", .int 1⟩ .io hfails "a"
  rw [(attempted _ _).found (by decide)] at hget
  cases hget

end SettingsFile
end Daybook
