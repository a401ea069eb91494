import Daybook.Proofs.Sync.Refusal
import Daybook.Proofs.Sync.TakeOver
import Mathlib.Logic.Relation

/-!
# How a sync ends

A sync ends without a backup, with one that cannot be downloaded or read, or with the import of its
document. Only a sync that succeeds remembers when it was. What is wrong with the backup, it fails
for before it writes, and then the database stays as it was (**`sync_outcome`**).

* `Ended`, **`takeOver_ended`**: the ways in which a sync ends, with the device that each leaves;
* `IsOfBackup`: what is wrong with a backup;
* `FailsTo`: syncs that fail.
-/

namespace Daybook

open Sync Action

/-! ## Settings -/

namespace Settings

theorem text?_eq_some {root : Json} {path id : String} (h : text? root path = some id) :
    get? root path = some (.str id) := by
  rw [text?] at h
  split at h
  · rename_i s hs
    split_ifs at h
    rw [hs, Option.some.inj h]
  · cases h

end Settings

namespace Sync

/-- To remember a backup does not change when the last sync was. -/
theorem get?_syncDate_remembered (id : String) (settings : Json) :
    Settings.get? (remembered id settings) Settings.syncDatePath =
      Settings.get? settings Settings.syncDatePath := by
  rw [remembered]
  split_ifs
  · exact get?_syncDate_withFileId id settings
  · rfl

theorem get?_fileId_remembered (id : String) (settings : Json) :
    Settings.get? (remembered id settings) Settings.fileIdPath = some (.str id) := by
  rw [remembered]
  split_ifs with h
  · exact Settings.get?_setAt_keysOf (by decide) _ _
  · exact Settings.text?_eq_some (not_not.1 h)

theorem get?_fileId_withSyncDate (now : String) (settings : Json) :
    Settings.get? (withSyncDate now settings) Settings.fileIdPath =
      Settings.get? settings Settings.fileIdPath :=
  Settings.get?_setAt_of_apart (by decide) (by decide) _ _

theorem get?_fileId_withBackupDate (now : String) (settings : Json) :
    Settings.get? (withBackupDate now settings) Settings.fileIdPath =
      Settings.get? settings Settings.fileIdPath :=
  Settings.get?_setAt_of_apart (by decide) (by decide) _ _

/-! ## Ends -/

section Ends

variable {σ : Type} {setup : Setup σ} {m : Moment} {token : String} {d d' : Device σ}

/-- The device that looks for a backup. -/
def searching (d : Device σ) (token : String) : Device σ :=
  { d with remote := d.remote.withToken token, phase := .downloading }

/-- The device that has downloaded the backup of an identifier. -/
def fetched (d : Device σ) (token id : String) : Device σ :=
  { d with
    settings := remembered id d.settings
    remote := d.remote.withToken token
    phase := .decompressing }

/-- The ways in which a sync ends, before it keeps whether that was a success. -/
inductive Ended (setup : Setup σ) (m : Moment) (token : String) (d : Device σ) :
    Except Failure ImportReport → Device σ → Prop
  | absent (h : (backups setup d.remote).head? = none) :
    Ended setup m token d (.error (.remoteIo .noBackup)) (searching d token)
  | unavailable (info : FileInfo) (e : Failure) (hinfo : (backups setup d.remote).head? = some info)
    (h : (d.remote.withToken token).download info.id = .error e) :
    Ended setup m token d (.error e) (searching d token)
  | unreadable (info : FileInfo) (bytes : Bytes) (e : Failure)
    (hinfo : (backups setup d.remote).head? = some info)
    (hbytes : (d.remote.withToken token).download info.id = .ok bytes)
    (h : Document.ofGzip bytes = .error e) :
    Ended setup m token d (.error e) (fetched d token info.id)
  | halted (info : FileInfo) (document : Document) (e : Failure) (s : σ)
    (hdocument : Downloads setup token d info document)
    (h : (importOf setup m d.settings document).run setup.engine d.database = (.error e, s)) :
    Ended setup m token d (.error e)
      { fetched d token info.id with database := s, phase := importPhase d.settings }
  | imported (info : FileInfo) (document : Document) (report : ImportReport) (s : σ)
    (hdocument : Downloads setup token d info document)
    (h : (importOf setup m d.settings document).run setup.engine d.database = (.ok report, s)) :
    Ended setup m token d (.ok report)
      { synced d m token info.id s with phase := importPhase d.settings }

theorem perform_takeIn_fetched {document : Document} {id : String} :
    (takeIn setup m document (fetched d token id).settings).perform (fetched d token id) =
      match (importOf setup m d.settings document).run setup.engine d.database with
      | (.ok report, s) =>
        (.ok report, { synced d m token id s with phase := importPhase d.settings })
      | (.error e, s) => (.error e,
        { fetched d token id with database := s, phase := importPhase d.settings }) := by
  have hcursor : cursor? (fetched d token id).settings = cursor? d.settings :=
    cursor?_remembered id d.settings
  have hphase : importPhase (fetched d token id).settings = importPhase d.settings := by
    rw [importPhase, hcursor, importPhase]
  have himport : importOf setup m (fetched d token id).settings document =
      importOf setup m d.settings document := by
    rw [importOf, hcursor, importOf]
  have hdatabase : (fetched d token id).database = d.database := rfl
  rw [perform, run_takeIn, hphase, himport, hdatabase]
  rcases (importOf setup m d.settings document).run setup.engine d.database with ⟨e | report, s⟩
  · rfl
  · rfl

/-- **How a sync ends.** -/
theorem takeOver_ended (setup : Setup σ) (m : Moment) (token : String) (d : Device σ) :
    Ended setup m token d ((takeOver setup m token).perform d).1
      ((takeOver setup m token).perform d).2 := by
  have hlist : (d.remote.withToken token).list setup.config.folder = .ok (backups setup d.remote) :=
    rfl
  simp only [takeOver, perform, run_useToken_bind, run_enter_bind, run_get_bind, hlist,
    run_settle_ok_bind]
  cases hinfo : (backups setup d.remote).head? with
  | none => exact .absent hinfo
  | some info =>
    dsimp only
    rw [run_get_bind]
    cases hbytes : (d.remote.withToken token).download info.id with
    | error e =>
      rw [run_settle_error_bind]
      exact .unavailable info e hinfo hbytes
    | ok bytes =>
      rw [run_settle_ok_bind, bind_of_ok (run_remember info.id _), run_enter_bind]
      cases hdocument : Document.ofGzip bytes with
      | error e =>
        rw [run_settle_error_bind]
        exact .unreadable info bytes e hinfo hbytes hdocument
      | ok document =>
        have hdownloads : Downloads setup token d info document := ⟨hinfo, bytes, hbytes, hdocument⟩
        rw [run_settle_ok_bind, run_get_bind]
        show Ended setup m token d
          ((takeIn setup m document (fetched d token info.id).settings).perform
            (fetched d token info.id)).1
          ((takeIn setup m document (fetched d token info.id).settings).perform
            (fetched d token info.id)).2
        rw [perform_takeIn_fetched]
        rcases hrun : (importOf setup m d.settings document).run setup.engine d.database with
          ⟨e | report, s⟩
        · exact .halted info document e s hdownloads hrun
        · exact .imported info document report s hdownloads hrun

/-- A sync ends like its steps, and keeps whether that was a success. -/
theorem perform_sync (setup : Setup σ) (m : Moment) (token : String) (d : Device σ) :
    (sync setup m token).perform d =
      (((takeOver setup m token).perform d).1,
        { ((takeOver setup m token).perform d).2 with
          phase := match ((takeOver setup m token).perform d).1 with
            | .ok _ => .success
            | .error _ => .failed }) := by
  rw [perform, run_sync, perform]
  cases (takeOver setup m token).run d <;> rfl

theorem Downloads.unique {info info' : FileInfo} {document document' : Document}
    (h : Downloads setup token d info document) (h' : Downloads setup token d info' document') :
    info = info' ∧ document = document' := by
  obtain ⟨hinfo, bytes, hbytes, hdocument⟩ := h
  obtain ⟨hinfo', bytes', hbytes', hdocument'⟩ := h'
  obtain rfl : info = info' := Option.some.inj (hinfo.symm.trans hinfo')
  obtain rfl : bytes = bytes' := Except.ok.inj (hbytes.symm.trans hbytes')
  exact ⟨rfl, Except.ok.inj (hdocument.symm.trans hdocument')⟩

/-- **A sync that fails does not remember when it was.** -/
theorem Ended.get?_syncDate {e : Failure} (h : Ended setup m token d (.error e) d') :
    Settings.get? d'.settings Settings.syncDatePath =
      Settings.get? d.settings Settings.syncDatePath := by
  cases h with
  | absent h => rfl
  | unavailable info e hinfo h => rfl
  | unreadable info bytes e hinfo hbytes h => exact get?_syncDate_remembered info.id d.settings
  | halted info document e s hdocument h => exact get?_syncDate_remembered info.id d.settings

end Ends

/-! ## What is wrong with a backup -/

/-- The failure is one of a remote store, of a file, or of a document and its dates. -/
inductive IsOfBackup : Failure → Prop
  | remote (fault : RemoteFault) : IsOfBackup (.remoteIo fault)
  | gzip : IsOfBackup .io
  | json : IsOfBackup .serialization
  | document (value : Json) : IsOfBackup (.invalidInput (.documentShape value))
  | record (table : String) (value : Json) : IsOfBackup (.invalidInput (.recordShape table value))
  | date (table column : String) (key value : Option Json) :
    IsOfBackup (.dateNormalization table column key value)

theorem IsOfBackup.of_isDateFailure {e : Failure} (h : IsDateFailure e) : IsOfBackup e := by
  obtain ⟨table, column, key, value, rfl⟩ := h
  exact .date table column key value

theorem IsWriteFailure.not_isOfBackup {e : Failure} (h : IsWriteFailure e) : ¬ IsOfBackup e := by
  intro hbackup
  cases h <;> cases hbackup

theorem isOfBackup_download {r : RemoteStore} {id : String} {e : Failure}
    (h : r.download id = .error e) : IsOfBackup e := by
  rw [RemoteStore.download, RemoteStore.authorized] at h
  split_ifs at h
  · rw [← Except.error.inj h]
    exact .remote _
  · split at h
    · cases h
    · rw [← Except.error.inj h]
      exact .remote _

theorem isOfBackup_recordsOf {table : String} {items : List Json} {e : Failure}
    (h : Document.recordsOf table items = .error e) : IsOfBackup e := by
  fun_induction Document.recordsOf table items with
  | case1 => cases h
  | case2 record rest ih => exact ih (Result.map_eq_error_iff.1 h)
  | case3 v rest hobj =>
    rw [← Except.error.inj h]
    exact .record table v

theorem isOfBackup_tablesOf {fields : List (String × Json)} {e : Failure}
    (h : Document.tablesOf fields = .error e) : IsOfBackup e := by
  fun_induction Document.tablesOf fields with
  | case1 => cases h
  | case2 table items rest ih =>
    rcases Result.bind_eq_error_iff.1 h with h | ⟨records, -, h⟩
    · exact isOfBackup_recordsOf h
    · rcases Result.bind_eq_error_iff.1 h with h | ⟨tables, -, h⟩
      · exact ih h
      · cases h
  | case3 field rest harr ih => exact ih h

/-- **A file that gives no document is no archive, no JSON, or has another shape.** -/
theorem isOfBackup_ofGzip {bytes : Bytes} {e : Failure} (h : Document.ofGzip bytes = .error e) :
    IsOfBackup e := by
  rw [Document.ofGzip] at h
  split at h
  · rw [Document.ofBytes] at h
    split at h
    · rw [Document.ofJson.eq_def] at h
      split at h
      · split_ifs at h
        exact isOfBackup_tablesOf (Result.map_eq_error_iff.1 h)
      · rw [← Except.error.inj h]
        exact .document _
    · rw [← Except.error.inj h]
      exact .json
  · rw [← Except.error.inj h]
    exact .gzip

/-! ## Outcomes -/

/-- What a sync imports of a document: all of it without a sync before, else what was changed
since. -/
def incoming (settings : Json) (document : Document) : Document :=
  match cursor? settings with
  | none => document
  | some cursor => document.updatedAfter cursor

theorem importOf_eq {σ : Type} (setup : Setup σ) (m : Moment) (settings : Json)
    (document : Document) : importOf setup m settings document =
      importAll setup.registry m (incoming settings document) (cursor? settings).isNone := by
  rw [importOf, incoming]
  cases cursor? settings <;> rfl

/-- A document is downloaded, and its dates are all taken. -/
def Accepts {σ : Type} (setup : Setup σ) (token : String) (d : Device σ) : Prop :=
  ∃ info document normal, Downloads setup token d info document ∧
    normalizeTables setup.registry.schemas (incoming d.settings document) = .ok normal

/-- A sync fails. -/
def FailsTo {σ : Type} (setup : Setup σ) (d d' : Device σ) : Prop :=
  ∃ m token e, (sync setup m token).perform d = (.error e, d')

variable {setup : Setup Storage} {m : Moment} {token : String} {d d' : Device Storage}

/-- What an import fails for tells whether the dates are all taken; if they are not, nothing is
written. -/
theorem importAll_eq_error {r : Schema.Registry} {document : Document} {replace : Bool}
    {st st' : Storage} {e : Failure}
    (h : (importAll r m document replace).run Storage.engine st = (.error e, st')) :
    (IsOfBackup e ↔ ¬ ∃ normal, normalizeTables r.schemas document = .ok normal) ∧
      (IsOfBackup e → st' = st) := by
  cases hnormal : normalizeTables r.schemas document with
  | error e' =>
    rw [importAll, hnormal] at h
    obtain ⟨he, rfl⟩ := Prod.mk.inj h
    rw [← Except.error.inj he]
    have hbackup := IsOfBackup.of_isDateFailure (error_normalizeTables hnormal)
    refine ⟨iff_of_true hbackup ?_, fun _ => rfl⟩
    rintro ⟨normal, h⟩
    cases h
  | ok normal =>
    have hwrite : IsWriteFailure e := isWriteFailure_of_normalizeTables hnormal (by rw [h])
    exact ⟨iff_of_false hwrite.not_isOfBackup (not_not.2 ⟨normal, rfl⟩),
      fun hbackup => absurd hbackup hwrite.not_isOfBackup⟩

/-- **What a sync fails for** tells whether the backup is at fault; if it is, the database stays as
it was. -/
theorem Ended.isOfBackup_iff (hengine : setup.engine = Storage.engine) {e : Failure}
    (h : Ended setup m token d (.error e) d') :
    (IsOfBackup e ↔ ¬ Accepts setup token d) ∧ (IsOfBackup e → d'.database = d.database) := by
  cases h with
  | absent h =>
    refine ⟨iff_of_true (.remote _) ?_, fun _ => rfl⟩
    rintro ⟨info, document, normal, hdocument, -⟩
    exact nomatch h.symm.trans hdocument.1
  | unavailable info e hinfo h =>
    refine ⟨iff_of_true (isOfBackup_download h) ?_, fun _ => rfl⟩
    rintro ⟨info', document, normal, ⟨hinfo', bytes, hbytes, -⟩, -⟩
    rw [← Option.some.inj (hinfo.symm.trans hinfo'), h] at hbytes
    cases hbytes
  | unreadable info bytes e hinfo hbytes h =>
    refine ⟨iff_of_true (isOfBackup_ofGzip h) ?_, fun _ => rfl⟩
    rintro ⟨info', document, normal, ⟨hinfo', bytes', hbytes', hdocument⟩, -⟩
    rw [← Option.some.inj (hinfo.symm.trans hinfo'), hbytes] at hbytes'
    rw [← Except.ok.inj hbytes', h] at hdocument
    cases hdocument
  | halted info document e s hdocument h =>
    rw [importOf_eq, hengine] at h
    obtain ⟨hiff, hsame⟩ := importAll_eq_error h
    refine ⟨hiff.trans (not_congr ?_), hsame⟩
    constructor
    · rintro ⟨normal, hnormal⟩
      exact ⟨info, document, normal, hdocument, hnormal⟩
    · rintro ⟨info', document', normal, hdocument', hnormal⟩
      obtain ⟨rfl, rfl⟩ := hdocument.unique hdocument'
      exact ⟨normal, hnormal⟩

/-- **The outcomes of a sync.** However many syncs fail, the time of the last sync is kept. A sync
that fails says so, and if the backup is at fault, the database stays as it was. A sync that
succeeds has imported the newest backup, all of it just if no sync before is known, and remembers
its identifier. -/
theorem sync_outcome (hengine : setup.engine = Storage.engine) (d : Device Storage) :
    (∀ d', Relation.ReflTransGen (FailsTo setup) d d' →
      Settings.get? d'.settings Settings.syncDatePath =
        Settings.get? d.settings Settings.syncDatePath) ∧
    (∀ m token e d', (sync setup m token).perform d = (.error e, d') →
      d'.phase = .failed ∧ (IsOfBackup e ↔ ¬ Accepts setup token d) ∧
      (IsOfBackup e → d'.database = d.database)) ∧
    ∀ m token report d', (sync setup m token).perform d = (.ok report, d') →
      d'.phase = .success ∧
      ∃ info document d₁, Downloads setup token d info document ∧
        Settings.get? d'.settings Settings.fileIdPath = some (.str info.id) ∧
        (takeOver setup m token).perform d = (.ok report, d₁) ∧
        (d₁.phase = .fullImport ↔ cursor? d.settings = none) ∧
        (importAll setup.registry m (incoming d.settings document) (cursor? d.settings).isNone).run
          Storage.engine d.database = (.ok report, d'.database) := by
  refine ⟨fun d' h => ?_, fun m token e d' h => ?_, fun m token report d' h => ?_⟩
  · -- by induction on the syncs, each of which keeps the time
    induction h with
    | refl => rfl
    | @tail d₁ d₂ _ hstep ih =>
      obtain ⟨m, token, e, h⟩ := hstep
      rw [perform_sync] at h
      obtain ⟨he, rfl⟩ := Prod.mk.inj h
      have hended := takeOver_ended setup m token d₁
      rw [he] at hended
      exact hended.get?_syncDate.trans ih
  · have hended := takeOver_ended setup m token d
    rw [perform_sync] at h
    obtain ⟨he, rfl⟩ := Prod.mk.inj h
    rw [he] at hended ⊢
    exact ⟨rfl, hended.isOfBackup_iff hengine⟩
  · have hended := takeOver_ended setup m token d
    rw [perform_sync] at h
    obtain ⟨hreport, rfl⟩ := Prod.mk.inj h
    rw [hreport]
    refine ⟨rfl, ?_⟩
    obtain ⟨result, d₁, hperform⟩ : ∃ result d₁, (takeOver setup m token).perform d = (result, d₁) :=
      ⟨_, _, rfl⟩
    rw [hperform] at hended hreport ⊢
    obtain rfl : result = .ok report := hreport
    cases hended with
    | imported info document report s hdocument h =>
      rw [importOf_eq, hengine] at h
      refine ⟨info, document, _, hdocument, ?_, rfl, ?_, h⟩
      · show Settings.get? (withSyncDate m.now (remembered info.id d.settings)) _ = _
        rw [get?_fileId_withSyncDate, get?_fileId_remembered]
      · show importPhase d.settings = .fullImport ↔ _
        rw [importPhase]
        cases cursor? d.settings with
        | none => exact iff_of_true rfl rfl
        | some cursor =>
          constructor
          · intro h
            cases h
          · intro h
            cases h

/-- Three bytes are no archive: the sync fails, and the database stays without tables. -/
theorem sync_outcome_tablelessDevice : noteSetup.engine = Storage.engine ∧
    ∃ e d', (sync noteSetup someMoment "t").perform tablelessDevice = (.error e, d') ∧
      IsOfBackup e ∧ d'.phase = .failed ∧ d'.database = tablelessDevice.database := by
  have hunpack : Document.ofGzip smallBackup.bytes = .error .io := by
    rw [Document.ofGzip, show Gzip.unpack? smallBackup.bytes = none by decide +kernel]
  obtain ⟨result, d', h⟩ : ∃ result d',
      (sync noteSetup someMoment "t").perform tablelessDevice = (result, d') := ⟨_, _, rfl⟩
  have haccepts : ¬ Accepts noteSetup "t" tablelessDevice := by
    rintro ⟨info, document, normal, ⟨hinfo, bytes, hbytes, hdocument⟩, -⟩
    obtain rfl : smallBackup.info = info := Option.some.inj hinfo
    obtain rfl : smallBackup.bytes = bytes := Except.ok.inj hbytes
    exact nomatch hunpack.symm.trans hdocument
  cases result with
  | ok report =>
    obtain ⟨-, info, document, d₁, ⟨hinfo, bytes, hbytes, hdocument⟩, -⟩ :=
      (@sync_outcome noteSetup rfl tablelessDevice).2.2 _ _ _ _ h
    obtain rfl : smallBackup.info = info := Option.some.inj hinfo
    obtain rfl : smallBackup.bytes = bytes := Except.ok.inj hbytes
    exact nomatch hunpack.symm.trans hdocument
  | error e =>
    obtain ⟨hphase, hiff, hsame⟩ :=
      (@sync_outcome noteSetup rfl tablelessDevice).2.1 _ _ _ _ h
    exact ⟨rfl, e, d', h, hiff.2 haccepts, hphase, hsame (hiff.2 haccepts)⟩

end Sync
end Daybook
