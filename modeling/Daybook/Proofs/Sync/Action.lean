import Daybook.Sync.Device

/-!
# Actions step by step

An action that begins with a step goes on where the step ends. The paths at which a device keeps
what it knows of backups have no empty part, so setting them always succeeds (`run_setSetting`).
-/

namespace Daybook.Sync.Action

variable {σ α β : Type} {d d' : Device σ}

theorem bind_of_ok {x : Action σ α} {a : α} (h : x.run d = .ok a d') (f : α → Action σ β) :
    (x >>= f).run d = (f a).run d' := by
  show EStateM.bind x f d = _
  rw [EStateM.bind, show x d = .ok a d' from h]
  rfl

theorem bind_of_error {x : Action σ α} {e : Failure} (h : x.run d = .error e d')
    (f : α → Action σ β) : (x >>= f).run d = .error e d' := by
  show EStateM.bind x f d = _
  rw [EStateM.bind, show x d = .error e d' from h]

theorem bind_eq_ok_iff {x : Action σ α} {f : α → Action σ β} {b : β} :
    (x >>= f).run d = .ok b d' ↔ ∃ a d₁, x.run d = .ok a d₁ ∧ (f a).run d₁ = .ok b d' := by
  cases hx : x.run d with
  | ok a d₁ =>
    rw [bind_of_ok hx]
    constructor
    · intro h
      exact ⟨a, d₁, rfl, h⟩
    · rintro ⟨a', d₂, h, h'⟩
      obtain ⟨rfl, rfl⟩ := EStateM.Result.ok.inj h
      exact h'
  | error e d₁ =>
    rw [bind_of_error hx]
    exact iff_of_false (fun h => nomatch h) fun ⟨_, _, h, _⟩ => nomatch h

/-! ## Single steps -/

@[simp] theorem run_pure (a : α) (d : Device σ) : (pure a : Action σ α).run d = .ok a d := rfl

@[simp] theorem run_get_bind (f : Device σ → Action σ β) (d : Device σ) :
    ((get : Action σ (Device σ)) >>= f).run d = (f d).run d := rfl

@[simp] theorem run_set_bind (d d' : Device σ) (f : PUnit → Action σ β) :
    ((set d' : Action σ PUnit) >>= f).run d = (f ⟨⟩).run d' := rfl

@[simp] theorem run_settle_ok_bind (a : α) (f : α → Action σ β) (d : Device σ) :
    ((settle (.ok a) : Action σ α) >>= f).run d = (f a).run d := rfl

@[simp] theorem run_settle_error_bind (e : Failure) (f : α → Action σ β) (d : Device σ) :
    ((settle (.error e) : Action σ α) >>= f).run d = .error e d := rfl

@[simp] theorem run_useToken_bind (token : String) (f : Unit → Action σ β) (d : Device σ) :
    (useToken token >>= f).run d = (f ()).run { d with remote := d.remote.withToken token } := rfl

@[simp] theorem run_enter_bind (phase : Phase) (f : Unit → Action σ β) (d : Device σ) :
    (enter phase >>= f).run d = (f ()).run { d with phase := phase } := rfl

theorem run_settle_bind_eq_ok_iff {x : Except Failure α} {f : α → Action σ β} {b : β} :
    (settle x >>= f).run d = .ok b d' ↔ ∃ a, x = .ok a ∧ (f a).run d = .ok b d' := by
  cases x with
  | ok a =>
    rw [run_settle_ok_bind]
    simp only [Except.ok.injEq, exists_eq_left']
  | error e =>
    rw [run_settle_error_bind]
    exact iff_of_false (fun h => nomatch h) fun ⟨_, h, _⟩ => nomatch h

theorem run_program (setup : Setup σ) (p : Program α) (d : Device σ) :
    (program setup p).run d =
      match p.run setup.engine d.database with
      | (.ok a, s) => .ok a { d with database := s }
      | (.error e, s) => .error e { d with database := s } := rfl

theorem run_setSetting {path : String} {keys : List String} (hk : Settings.keysOf path = keys)
    (hne : keys.any String.isEmpty = false) (value : Json) (d : Device σ) :
    (setSetting path value).run d =
      .ok ⟨⟩ { d with settings := Settings.setAt value keys d.settings } := by
  have hset : Settings.set d.settings path value = .ok (Settings.setAt value keys d.settings) := by
    rw [Settings.set, hk]
    simp [hne]
  rw [setSetting, run_get_bind, hset]
  rfl

theorem perform_of_ok {x : Action σ α} {a : α} (h : x.run d = .ok a d') :
    x.perform d = (.ok a, d') := by
  rw [perform, h]

theorem perform_of_error {x : Action σ α} {e : Failure} (h : x.run d = .error e d') :
    x.perform d = (.error e, d') := by
  rw [perform, h]

/-- What a program makes of the device, whether or not it succeeds. -/
theorem perform_program_snd (setup : Setup σ) (p : Program α) (d : Device σ) :
    ((program setup p).perform d).2 = { d with database := (p.run setup.engine d.database).2 } := by
  rw [perform, run_program]
  rcases p.run setup.engine d.database with ⟨_ | _, s⟩ <;> rfl

/-! ## What actions keep -/

/-- The action keeps an invariant, whether or not it succeeds. -/
def Keeps (I : Device σ → Prop) (x : Action σ α) : Prop := ∀ d, I d → I (x.perform d).2

section Keeps

variable {I : Device σ → Prop}

theorem keeps_pure (a : α) : Keeps I (pure a : Action σ α) := fun _ h => h

theorem keeps_get : Keeps I (get : Action σ (Device σ)) := fun _ h => h

theorem keeps_throw (e : Failure) : Keeps I (throw e : Action σ α) := fun _ h => h

theorem keeps_settle (x : Except Failure α) : Keeps I (settle x : Action σ α) := by
  cases x with
  | ok a => exact keeps_pure a
  | error e => exact keeps_throw e

theorem keeps_bind {x : Action σ α} {f : α → Action σ β} (hx : Keeps I x)
    (hf : ∀ a, Keeps I (f a)) : Keeps I (x >>= f) := by
  intro d hd
  have hd' := hx d hd
  cases hrun : x.run d with
  | ok a d' =>
    rw [perform_of_ok hrun] at hd'
    rw [perform, bind_of_ok hrun]
    exact hf a d' hd'
  | error e d' =>
    rw [perform_of_error hrun] at hd'
    rw [perform_of_error (bind_of_error hrun f)]
    exact hd'

theorem keeps_enter (h : ∀ d phase, I d → I { d with phase := phase }) (phase : Phase) :
    Keeps I (enter phase) := fun d hd => h d phase hd

theorem keeps_setSetting (h : ∀ d settings, I d → I { d with settings := settings }) (path : String)
    (value : Json) : Keeps I (setSetting path value) := by
  intro d hd
  rw [perform, setSetting, run_get_bind]
  cases Settings.set d.settings path value with
  | ok root => exact h d root hd
  | error e => exact hd

theorem keeps_program {setup : Setup σ} {p : Program α}
    (h : ∀ d, I d → I { d with database := (p.run setup.engine d.database).2 }) :
    Keeps I (program setup p) := by
  intro d hd
  rw [perform_program_snd]
  exact h d hd

end Keeps

/-! ## The settings of a device -/

/-- The settings with the identifier of a backup. -/
def withFileId (id : String) (settings : Json) : Json :=
  Settings.setAt (.str id) ["data", "fileId"] settings

/-- The settings with the time of a backup. -/
def withBackupDate (now : String) (settings : Json) : Json :=
  Settings.setAt (.str now) ["data", "dateBackup"] settings

/-- The settings with the time of a sync. -/
def withSyncDate (now : String) (settings : Json) : Json :=
  Settings.setAt (.str now) ["data", "dateSync"] settings

@[simp] theorem run_setSetting_fileId (id : String) (d : Device σ) :
    (setSetting Settings.fileIdPath (.str id)).run d =
      .ok ⟨⟩ { d with settings := withFileId id d.settings } :=
  run_setSetting (by decide) (by decide) _ d

@[simp] theorem run_setSetting_backupDate (now : String) (d : Device σ) :
    (setSetting Settings.backupDatePath (.str now)).run d =
      .ok ⟨⟩ { d with settings := withBackupDate now d.settings } :=
  run_setSetting (by decide) (by decide) _ d

@[simp] theorem run_setSetting_syncDate (now : String) (d : Device σ) :
    (setSetting Settings.syncDatePath (.str now)).run d =
      .ok ⟨⟩ { d with settings := withSyncDate now d.settings } :=
  run_setSetting (by decide) (by decide) _ d

end Daybook.Sync.Action
