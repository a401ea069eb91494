import Daybook.Proofs.Settings.Defaults
import Daybook.Proofs.Settings.File
import Mathlib.Data.List.Induction

/-!
# Opening settings again

Settings that are opened come in line with their defaults, and stay as they are however often they
are opened again. What was set is kept when they are opened again, as long as it stands in place of
a default that is no object, and is no version (**`open_keeps`**).

* `Event`, `run`: settings that are changed and opened again;
* `IsLeaf`: paths at which the defaults hold no object;
* `InUse`: settings that are in their file, in the version of the defaults.
-/

namespace Daybook.SettingsFile

open Settings

/-- What is done with settings. -/
inductive Event where
  | set (path : String) (value : Json)
  | reopen

/-- The settings after an event; a change whose path is not in order is refused, and leaves them as
they are. -/
def Event.run (defaults : Json) (s : SettingsFile) : Event → Except Failure SettingsFile
  | .set path value => .ok (s.set path value).2
  | .reopen => openWith s.files s.path defaults

/-- The settings after several events. -/
def run (defaults : Json) (s : SettingsFile) (events : List Event) : Except Failure SettingsFile :=
  events.foldlM (Event.run defaults) s

/-- What an event sets at a path. -/
def Event.setting? (path : String) : Event → Option Json
  | .set path' value => if path' = path then some value else none
  | .reopen => none

/-- What was set at a path last. -/
def lastSet? (path : String) (events : List Event) : Option Json :=
  events.reverse.findSome? (Event.setting? path)

/-- The defaults hold a value at the path that is no object, and the path does not lead to the
version or below it. -/
def IsLeaf (own : KeyMap Json) (path : String) : Prop :=
  (∃ d, getAt (keysOf path) (.obj own) = some d ∧ d.isObject = false) ∧
    (keysOf path).head? ≠ some "version"

variable {own : KeyMap Json} {s s' : SettingsFile}

theorem run_concat (defaults : Json) (s : SettingsFile) (events : List Event) (e : Event) :
    run defaults s (events ++ [e]) = (run defaults s events).bind fun s' => e.run defaults s' := by
  rw [run, List.foldlM_append]
  exact congrArg _ (funext fun s' => bind_pure _)

theorem lastSet?_concat (path : String) (events : List Event) (e : Event) :
    lastSet? path (events ++ [e]) = (e.setting? path).or (lastSet? path events) := by
  rw [lastSet?, List.reverse_append, List.reverse_singleton, List.singleton_append,
    List.findSome?_cons]
  cases e.setting? path <;> rfl

/-! ## Leaves -/

/-- No path leads through a leaf to another. -/
theorem IsLeaf.eq_of_leads {path other : String} (h : IsLeaf own path) (h' : IsLeaf own other)
    (hleads : keysOf path <+: keysOf other) : path = other := by
  obtain ⟨⟨d, hd, hobject⟩, -⟩ := h
  obtain ⟨⟨d', hd', -⟩, -⟩ := h'
  obtain ⟨further, hfurther⟩ := hleads
  rw [← hfurther, getAt_append, hd, Option.bind_some] at hd'
  cases further with
  | nil => exact keysOf_injective (by rw [← hfurther, List.append_nil])
  | cons key rest =>
    -- what is no object has no members
    cases d <;> simp [getAt, Json.get?, Json.isObject] at hd' hobject

/-- A change of one leaf keeps the others. -/
theorem get?_setAt_of_isLeaf {path other : String} (h : IsLeaf own path) (h' : IsLeaf own other)
    (hne : other ≠ path) (value root : Json) :
    get? (setAt value (keysOf path) root) other = get? root other :=
  get?_setAt_of_apart (fun hleads => hne (h.eq_of_leads h' hleads).symm)
    (fun hleads => hne (h'.eq_of_leads h hleads)) _ _

/-- A leaf is kept when settings are lined up. -/
theorem get?_lineUp_of_isLeaf {path : String} (hown : (Json.obj own).isSorted)
    (h : IsLeaf own path) {root value : Json} (hget : get? root path = some value) :
    get? (lineUp (.obj own) root) path = some value := by
  obtain ⟨⟨d, hd, hobject⟩, -⟩ := h
  rw [get?, getAt_lineUp hown hd hget, lineUp_of_not_isObject (.inl hobject)]

/-! ## Settings in use -/

/-- The settings are in their file, which takes everything, and have the version of the defaults. -/
structure InUse (own : KeyMap Json) (s : SettingsFile) : Prop where
  takes : s.files.Takes s.path
  saved : s.saved = s
  version : ∃ members, s.root = .obj members ∧ sameVersion own members

namespace InUse

/-- Settings in use may be set, but for their version. -/
theorem set (h : InUse own s) {path : String} (hleaf : IsLeaf own path) (value : Json) :
    InUse own (s.set path value).2 := by
  by_cases hempty : "" ∈ keysOf path
  · rwa [set_of_mem hempty]
  · have hpersist : persist { s with root := setAt value (keysOf path) s.root } = _ :=
      persist_of_takes h.takes
    rw [set_of_not_mem hempty, hpersist]
    refine ⟨h.takes.put _, saved_saved _, ?_⟩
    obtain ⟨members, hroot, hversion⟩ := h.version
    cases hkeys : keysOf path with
    | nil => exact absurd hkeys (keysOf_ne_nil path)
    | cons key rest =>
      have hne : "version" ≠ key := by
        rintro rfl
        exact hleaf.2 (by rw [hkeys, List.head?_cons])
      rw [hroot]
      refine ⟨_, rfl, ?_⟩
      rw [sameVersion, membersOf, KeyMap.get?_insert_of_ne _ _ hne]
      exact hversion

/-- Settings in use are opened again in line with the defaults. -/
theorem openWith_eq (h : InUse own s) (hback : s.root.ReadsBack) :
    openWith s.files s.path (.obj own) =
      .ok (SettingsFile.saved { s with root := lineUp (.obj own) s.root }) := by
  obtain ⟨members, hroot, hversion⟩ := h.version
  have hkept : kept s.files s.path = .ok (some s.root) := by
    rw [← kept_saved hback, h.saved]
  have hopened : opened (.obj own) (some s.root) = lineUp (.obj own) s.root := by
    rw [hroot, opened, if_pos hversion]
  rw [openWith_of_takes hkept h.takes, hopened]

theorem reopen (h : InUse own s) (hown : (Json.obj own).isSorted) (hback : s.root.ReadsBack) :
    InUse own (SettingsFile.saved { s with root := lineUp (.obj own) s.root }) := by
  obtain ⟨members, hroot, hversion⟩ := h.version
  refine ⟨h.takes.put _, saved_saved _, ?_⟩
  rw [SettingsFile.saved, hroot]
  exact ⟨_, lineUp_obj own members,
    sameVersion_lineUpMembers hown (hroot ▸ hback.isSorted) hversion⟩

/-- **Settings in line with the defaults** stay as they are when they are opened again. -/
theorem run_reopen (h : InUse own s) (hback : s.root.ReadsBack)
    (hlined : lineUp (.obj own) s.root = s.root) (n : Nat) :
    run (.obj own) s (List.replicate n .reopen) = .ok s := by
  have hsame : openWith s.files s.path (.obj own) = .ok s := by
    rw [h.openWith_eq hback, hlined]
    exact congrArg _ h.saved
  induction n with
  | zero => rfl
  | succ n ih =>
    rw [List.replicate_succ', run_concat, ih]
    exact hsame

/-- **What was set is kept**, and found when settings are opened again. -/
theorem run_events (h : InUse own s) (hown : (Json.obj own).isSorted) (events : List Event)
    (hleaves : ∀ path value, .set path value ∈ events → IsLeaf own path)
    (hback : ∀ before s', before ++ [.reopen] <+: events → run (.obj own) s before = .ok s' →
      s'.root.ReadsBack) :
    ∃ s', run (.obj own) s events = .ok s' ∧ InUse own s' ∧ ∀ path value, "" ∉ keysOf path →
      lastSet? path events = some value → IsLeaf own path ∧ get? s'.root path = some value := by
  induction events using List.reverseRecOn with
  | nil => exact ⟨s, rfl, h, fun _ _ _ hlast => nomatch hlast⟩
  | append_singleton events e ih =>
    obtain ⟨s', hrun, huse, hfound⟩ := ih
      (fun path value hmem => hleaves path value (List.mem_append_left _ hmem))
      fun before s' hbefore => hback before s' (hbefore.trans (List.prefix_append _ _))
    rw [run_concat, hrun]
    simp only [lastSet?_concat]
    cases e with
    | set path' value' =>
      have hleaf := hleaves path' value' (by simp)
      refine ⟨_, rfl, huse.set hleaf value', fun path value hpath hlast => ?_⟩
      rw [root_set]
      by_cases hsame : path' = path
      · subst hsame
        rw [Event.setting?, if_pos rfl, Option.some_or] at hlast
        rw [if_neg hpath, Option.some.inj hlast]
        exact ⟨hleaf, get?_setAt_keysOf rfl _ _⟩
      · rw [Event.setting?, if_neg hsame, Option.none_or] at hlast
        obtain ⟨hleaf', hget⟩ := hfound path value hpath hlast
        refine ⟨hleaf', ?_⟩
        split_ifs
        · exact hget
        · rw [get?_setAt_of_isLeaf hleaf hleaf' (Ne.symm hsame), hget]
    | reopen =>
      have hread := hback events s' List.prefix_rfl hrun
      refine ⟨_, huse.openWith_eq hread, huse.reopen hown hread, fun path value hpath hlast => ?_⟩
      obtain ⟨hleaf, hget⟩ := hfound path value hpath hlast
      exact ⟨hleaf, get?_lineUp_of_isLeaf hown hleaf hget⟩

end InUse

/-! ## Opened settings -/

theorem isSorted_of_kept {files : Files} {path : Path} {v : Json}
    (h : kept files path = .ok (some v)) : v.isSorted := by
  rw [kept] at h
  split at h
  · split at h
    · exact Json.isSorted_of_read? (Except.ok.inj h)
    · cases h
  · cases h
  · cases h

/-- What is promised of settings that were opened with defaults: they are in line with them, stay as
they are when they are opened again, and keep what is set, also when they are opened again, as far
as their text is read as it was written. -/
structure Keeps (own members : KeyMap Json) (s : SettingsFile) : Prop where
  linesUp : LinesUp (.obj own) (.obj members) s.root
  again : ∀ n, run (.obj own) s (List.replicate n .reopen) = .ok s
  last : ∀ events, (∀ path value, .set path value ∈ events → IsLeaf own path) →
    (∀ before s', before ++ [.reopen] <+: events → run (.obj own) s before = .ok s' →
      s'.root.ReadsBack) →
    ∃ s', run (.obj own) s events = .ok s' ∧ ∀ path value, "" ∉ keysOf path →
      lastSet? path events = some value → get? s'.root path = some value

/-- **Settings of the version of the defaults** are opened in line with them, and keep what is
set. -/
theorem open_keeps {files : Files} {path : Path} {own members : KeyMap Json}
    (hown : (Json.obj own).isSorted) (hkept : kept files path = .ok (some (.obj members)))
    (hversion : sameVersion own members) (htakes : files.Takes path)
    (hback : (lineUp (.obj own) (.obj members)).ReadsBack) :
    ∃ s, openWith files path (.obj own) = .ok s ∧ Keeps own members s := by
  have hmembers := isSorted_of_kept hkept
  have hopened : opened (.obj own) (some (.obj members)) = lineUp (.obj own) (.obj members) := by
    rw [opened, if_pos hversion]
  have hopen : openWith files path (.obj own) = _ := openWith_of_takes hkept htakes
  rw [hopened] at hopen
  have huse : InUse own (saved ⟨path, lineUp (.obj own) (.obj members), files⟩) :=
    ⟨htakes.put _, saved_saved _, _, rfl, sameVersion_lineUpMembers hown hmembers hversion⟩
  refine ⟨_, hopen, ?_⟩
  exact {
    linesUp := linesUp_lineUp hown hmembers
    again := huse.run_reopen hback (lineUp_lineUp hown hmembers)
    last := fun events hleaves hback => by
      obtain ⟨s', hrun, -, hlast⟩ := huse.run_events hown events hleaves hback
      exact ⟨s', hrun, fun path value hpath hset => (hlast path value hpath hset).2⟩ }

/-! ### Settings of an earlier release -/

/-- Settings that lack a date, and have a member that the defaults do not have. -/
def oldMembers : KeyMap Json :=
  [("data", .obj [("dateBackup", .str "2023"), ("fileId", .str "f"), ("owner", .str "o")]),
    ("version", .int 1)]

/-- A file with these settings. -/
def oldFiles : Files := (saved ⟨["settings.json"], .obj oldMembers, {}⟩).files

theorem takes_oldFiles : oldFiles.Takes ["settings.json"] :=
  Files.Takes.put (fun _ => ⟨_, rfl⟩) _

theorem kept_oldFiles : kept oldFiles ["settings.json"] = .ok (some (.obj oldMembers)) := by
  have hread : (Json.obj oldMembers).ReadsBack := by
    unfold Json.ReadsBack
    decide +kernel
  exact @kept_saved ⟨["settings.json"], .obj oldMembers, {}⟩ hread

/-- The settings once they were opened, and a date was set. -/
def datedRoot : Json :=
  setAt (.str "2024") ["data", "dateSync"] (lineUp defaults (.obj oldMembers))

theorem readsBack_oldMembers :
    (lineUp defaults (.obj oldMembers)).ReadsBack ∧ datedRoot.ReadsBack := by
  unfold Json.ReadsBack
  decide +kernel

/-- What the file held is found, as is a date that is set before the settings are opened again. -/
theorem open_keeps_oldFiles :
    ∃ s s', openWith oldFiles ["settings.json"] defaults = .ok s ∧
      s.root.get? "data" = some (.obj [("dateBackup", .str "2023"), ("dateSync", .str ""),
        ("fileId", .str "f")]) ∧
      run defaults s [.set syncDatePath (.str "2024"), .reopen] = .ok s' ∧
      get? s'.root syncDatePath = some (.str "2024") := by
  obtain ⟨s, hopen, -, -, hlast⟩ := @open_keeps oldFiles ["settings.json"] (membersOf defaults)
    oldMembers (by decide) kept_oldFiles (by decide) takes_oldFiles readsBack_oldMembers.1
  have hroot : s.root = lineUp defaults (.obj oldMembers) := by
    have hopen' : openWith oldFiles ["settings.json"] defaults = _ :=
      openWith_of_takes kept_oldFiles takes_oldFiles
    rw [← Except.ok.inj (hopen'.symm.trans hopen)]
    rfl
  have hleaf : IsLeaf (membersOf defaults) syncDatePath := ⟨⟨.str "", by decide, rfl⟩, by decide⟩
  obtain ⟨s', hrun, hfound⟩ := hlast [.set syncDatePath (.str "2024"), .reopen]
    (fun path value hmem => by
      obtain ⟨rfl, rfl⟩ := Event.set.inj (by simpa using hmem)
      exact hleaf)
    fun before s₁ hbefore hrun => by
      -- the settings are opened again after one event
      obtain rfl : before = [.set syncDatePath (.str "2024")] := by
        match before with
        | [] => simp at hbefore
        | [e] => simpa using hbefore
        | _ :: _ :: _ => simpa using hbefore.length_le
      have hset : s₁ = (s.set syncDatePath (.str "2024")).2 := (Except.ok.inj hrun).symm
      rw [hset, root_set, if_neg (by decide), hroot]
      exact readsBack_oldMembers.2
  refine ⟨s, s', hopen, ?_, hrun, hfound _ _ (by decide) ?_⟩
  · rw [hroot]
    rfl
  · rfl

end Daybook.SettingsFile
