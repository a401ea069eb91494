import Daybook.Proofs.Sync.Recovery
import Mathlib.Logic.Function.Basic

/-!
# Devices that share a remote store

Any number of devices edit the entities of a household, make backups and sync, in any order.
Whatever they do, and whether or not it succeeds, every device goes on serving the entities, and
every file of the store is the document of tables that serve them (**`World.Sane.run`**).

* `IsSane`: the invariant of a device and the store that it reaches;
* `World`, `Event`, `World.run`: devices, what happens to them, and runs of it.
-/

namespace Daybook.Sync

open Sql Store Daybook.Sync.Action

/-! ## One device -/

/-- Every file of the store is the document of tables that serve the entities. -/
def HoldsExports (r : RemoteStore) : Prop :=
  ∀ f ∈ r.files, ∃ db, Database.Serves Schema.models db ∧
    f.bytes = (exported db Schema.models {}).toGzip

/-- The device serves the entities, and the store that it reaches holds documents of such devices
under different identifiers. -/
structure IsSane (d : Device Storage) : Prop where
  serves : d.database.Holds (Database.Serves Schema.models)
  numbered : d.remote.Numbered
  exports : HoldsExports d.remote

variable {config : SyncConfig}

theorem keeps_program_of_onRows {α : Type} {p : Program α} (hp : OnRows p) :
    Keeps IsSane (program (household config) p) :=
  keeps_program fun _ hd => ⟨OnRows.serves hp hd.serves, hd.numbered, hd.exports⟩

/-! ### Imports -/

theorem onRows_clearTables {schemas : List Schema} : OnRows (clearTables schemas) := by
  induction schemas with
  | nil => trivial
  | cons s rest ih =>
    refine Program.calls_bind (Program.calls_attempt (onRows_change trivial)) fun result => ?_
    refine Program.calls_bind ih fun failures => ?_
    cases result <;> trivial

theorem onRows_writeTables {schemas : List Schema} (h : ∀ s ∈ schemas, NoBlobs s) (m : Moment)
    (replace : Bool) (d : Document) (written : KeyMap Nat) :
    OnRows (writeTables m replace schemas d written) := by
  induction schemas generalizing m d written with
  | nil => trivial
  | cons s rest ih =>
    have ih := ih fun s' hs' => h s' (List.mem_cons_of_mem _ hs')
    rw [writeTables]
    split
    · exact ih m _ written
    · exact ih m _ written
    · exact Program.calls_bind (onRows_writeMany (h s List.mem_cons_self) m _ _) fun n =>
        ih _ _ _

/-- An import runs statements on rows, and writes plain values. -/
theorem onRows_importAll {r : Schema.Registry} (h : ∀ s ∈ r.schemas, NoBlobs s) (m : Moment)
    (d : Document) (replace : Bool) : OnRows (importAll r m d replace) := by
  refine Program.calls_bind (Program.calls_ofExcept _) fun d' => ?_
  have hwrite : ∀ failures, OnRows ((writeTables m replace r.schemas d' []).bind fun written =>
      .done (⟨written, failures⟩ : ImportReport)) := fun _ =>
    Program.calls_bind (onRows_writeTables h m replace d' []) fun _ => trivial
  cases replace with
  | true =>
    refine Program.calls_bind ?_ hwrite
    refine Program.calls_bind onRows_clearTables fun failures => ?_
    exact Program.calls_bind (Program.calls_attempt (Program.calls_ask trivial)) fun _ => trivial
  | false => exact Program.calls_bind (Program.calls_done _) hwrite

/-! ### Operations -/

theorem noBlobs_models : ∀ s ∈ Schema.models, NoBlobs s := fun s hs =>
  (Schema.portable_models s hs).noBlobs

theorem keeps_edit {s : Schema} (hs : s ∈ Schema.models) (e : Edit) :
    Keeps IsSane (program (household config) (e.program s)) :=
  keeps_program_of_onRows (e.calls (noBlobs_models s hs))

/-- A device that serves the entities makes a backup, and its document is that of its tables. -/
theorem exists_backup (config : SyncConfig) (m : Moment) (token : String) {d : Device Storage}
    (h : IsSane d) :
    ∃ db st, Database.Serves Schema.models db ∧ st.Holds (Database.Serves Schema.models) ∧
      (backup (household config) m token).run d = .ok (nextInfo (household config) d.remote)
        { d with
          database := st
          settings := withBackupDate m.now (withFileId (nextInfo (household config) d.remote).id
            d.settings)
          remote := holding (household config) (d.remote.withToken token)
            (exported db Schema.models {}) } := by
  obtain ⟨c, hc, hserves⟩ := h.serves
  obtain ⟨st, hrun, hst⟩ := run_exportInto Schema.portable_models hc (fun s hs => by
    obtain ⟨t, ht, -⟩ := hserves s hs
    rw [ht]
    rfl) {}
  refine ⟨c.database, st, hserves, ⟨c, hst, hserves⟩, ?_⟩
  have heq := backup_eq (household config) m token d h.numbered.keyed
  have hexport : (exportAll (household config).registry).run (household config).engine d.database =
      (.ok (exported c.database Schema.models {}), st) := hrun
  rw [hexport] at heq
  exact heq

theorem keeps_backup (m : Moment) (token : String) :
    Keeps IsSane (backup (household config) m token) := by
  intro d h
  obtain ⟨db, st, hdb, hst, hrun⟩ := exists_backup config m token h
  rw [perform_of_ok hrun]
  refine ⟨hst, ?_, ?_⟩
  · exact ((h.numbered.withToken token).keeping _).add _ rfl
  · intro f hf
    rcases List.mem_cons.1 hf with rfl | hf
    · exact ⟨db, hdb, rfl⟩
    · exact h.exports f (List.mem_filter.1 hf).1

theorem keeps_sync (m : Moment) (token : String) :
    Keeps IsSane (sync (household config) m token) := by
  refine keeps_sync_of (fun _ _ h => ⟨h.serves, h.numbered, h.exports⟩)
    (fun _ _ h => ⟨h.serves, h.numbered, h.exports⟩)
    (fun _ _ h => ⟨h.serves, h.numbered, h.exports⟩) (fun document replace => ?_) token
  exact keeps_program_of_onRows (onRows_importAll noBlobs_models m document replace)

/-! ## Many devices -/

variable {ι : Type}

/-- Devices that share a remote store. -/
structure World (ι : Type) where
  device : ι → Device Storage
  remote : RemoteStore

/-- What happens on one of the devices. -/
inductive Event (ι : Type) where
  | edit (i : ι) (s : { s : Schema // s ∈ Schema.models }) (e : Edit)
  | backup (i : ι) (m : Moment) (token : String)
  | sync (i : ι) (m : Moment) (token : String)

namespace Event

/-- The device on which it happens. -/
def site : Event ι → ι
  | edit i _ _ | backup i _ _ | sync i _ _ => i

/-- What the device does, without its answer. -/
def action (config : SyncConfig) : Event ι → Action Storage Unit
  | edit _ s e => program (household config) (e.program s)
  | backup _ m token => do
    let _ ← Sync.backup (household config) m token
    pure ()
  | sync _ m token => do
    let _ ← Sync.sync (household config) m token
    pure ()

theorem keeps_action (config : SyncConfig) (event : Event ι) :
    Keeps IsSane (event.action config) := by
  cases event with
  | edit i s e => exact keeps_edit s.property e
  | backup i m token => exact keeps_bind (keeps_backup m token) fun _ => keeps_pure _
  | sync i m token => exact keeps_bind (keeps_sync m token) fun _ => keeps_pure _

/-! ### The device afterwards -/

theorem perform_edit (i : ι) (s : { s : Schema // s ∈ Schema.models }) (e : Edit)
    (d : Device Storage) : (((Event.edit i s e).action config).perform d).2 =
      { d with database := ((e.program s).run Storage.engine d.database).2 } :=
  perform_program_snd (household config) (e.program s) d

theorem perform_backup (i : ι) (m : Moment) (token : String) {d : Device Storage}
    (hkeyed : d.remote.Keyed) {document : Document}
    (hexport : ((exportAll ⟨Schema.models⟩).run Storage.engine d.database).1 = .ok document) :
    (((Event.backup i m token).action config).perform d).2 = { d with
      database := ((exportAll ⟨Schema.models⟩).run Storage.engine d.database).2
      settings := withBackupDate m.now (withFileId (nextInfo (household config) d.remote).id
        d.settings)
      remote := holding (household config) (d.remote.withToken token) document } := by
  have heq := backup_eq (household config) m token d hkeyed
  have hrun : (exportAll (household config).registry).run (household config).engine d.database =
      (.ok document, ((exportAll ⟨Schema.models⟩).run Storage.engine d.database).2) :=
    Prod.ext hexport rfl
  rw [hrun] at heq
  exact congrArg Prod.snd (perform_of_ok (bind_of_ok heq fun _ => pure ()))

theorem perform_sync (i : ι) {m : Moment} {token : String} {d d' : Device Storage}
    {report : ImportReport} (hsync : (Sync.sync (household config) m token).run d = .ok report d') :
    (((Event.sync i m token).action config).perform d).2 = d' :=
  congrArg Prod.snd (perform_of_ok (bind_of_ok hsync fun _ => pure ()))

end Event

namespace World

/-- A device, with the store that it shares. -/
def deviceAt (w : World ι) (i : ι) : Device Storage := { w.device i with remote := w.remote }

/-- Devices that are all the same. -/
def alike (d : Device Storage) : World ι := ⟨fun _ => d, d.remote⟩

theorem deviceAt_alike (d : Device Storage) (i : ι) : (alike d).deviceAt i = d := rfl

/-- The tables of every device are freshly migrated and edited, and the store is empty. -/
def IsStart (w : World ι) : Prop :=
  (∀ i, Kept Schema.models (w.device i).database) ∧ w.remote.files = []

/-- Every device is sane, with the store that it shares. -/
def Sane (w : World ι) : Prop := ∀ i, IsSane (w.deviceAt i)

theorem IsStart.sane {w : World ι} (h : w.IsStart) : w.Sane := by
  obtain ⟨hkept, hfiles⟩ := h
  intro i
  refine ⟨(hkept i).serves Schema.portable_models models_ne_nil nodup_models, ?_, ?_⟩
  · exact RemoteStore.numbered_of_files_eq_nil hfiles
  · intro f hf
    have hmem : f ∈ w.remote.files := hf
    rw [hfiles] at hmem
    exact absurd hmem List.not_mem_nil

variable [DecidableEq ι]

/-- The devices after an event, whether or not it succeeds. -/
def after (config : SyncConfig) (w : World ι) (event : Event ι) : World ι :=
  let d := ((event.action config).perform (w.deviceAt event.site)).2
  ⟨Function.update w.device event.site d, d.remote⟩

/-- The devices after a run of events. -/
def run (config : SyncConfig) (w : World ι) (events : List (Event ι)) : World ι :=
  events.foldl (after config) w

theorem deviceAt_after_site (w : World ι) (event : Event ι) :
    (w.after config event).deviceAt event.site =
      ((event.action config).perform (w.deviceAt event.site)).2 := by
  have hdevice : (w.after config event).device event.site =
      ((event.action config).perform (w.deviceAt event.site)).2 := Function.update_self _ _ _
  rw [deviceAt, hdevice]
  rfl

theorem deviceAt_after_of_ne (w : World ι) {event : Event ι} {i : ι} (h : i ≠ event.site) :
    (w.after config event).deviceAt i = { w.deviceAt i with
      remote := ((event.action config).perform (w.deviceAt event.site)).2.remote } := by
  have hdevice : (w.after config event).device i = w.device i := Function.update_of_ne h _ _
  rw [deviceAt, hdevice]
  rfl

/-- Events leave sane devices sane: the one on which they happen, and those that share its store. -/
theorem Sane.after {w : World ι} (h : w.Sane) (event : Event ι) : (w.after config event).Sane := by
  have hsite := event.keeps_action config _ (h event.site)
  intro i
  by_cases hi : i = event.site
  · rw [hi, deviceAt_after_site]
    exact hsite
  · rw [deviceAt_after_of_ne w hi]
    exact ⟨(h i).serves, hsite.numbered, hsite.exports⟩

/-- **Runs of events leave sane devices sane.** -/
theorem Sane.run (config : SyncConfig) {w : World ι} (h : w.Sane) (events : List (Event ι)) :
    (w.run config events).Sane := by
  induction events generalizing w with
  | nil => exact h
  | cons event rest ih => exact ih (h.after event)

end World

end Daybook.Sync
