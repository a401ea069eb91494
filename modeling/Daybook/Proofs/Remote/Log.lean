import Daybook.History
import Daybook.Proofs.Remote.Files
import Daybook.Remote.Memory
import Mathlib.Data.List.Induction

/-!
# Logs of a remote store

What was asked of a remote store and what it answered tells all that it will answer: the files of a
folder are those that were uploaded to it and not deleted since, and a file that is not among them
cannot be downloaded or deleted. The identifiers of uploads never repeat, even when files are
deleted (**`RemoteStore.followsLog`**).

* `RemoteLog`: requests with their answers, with the uploads, deletions and files of a log;
* `RemoteLog.Consistent`: what holds of the log of a store;
* `Serves`, `FollowsLog`: answers as a log tells them.
-/

namespace Daybook

open RemoteStore

/-- Requests with their answers. -/
abbrev RemoteLog : Type := List (RemoteRequest × Except Failure RemoteAnswer)

namespace RemoteLog

/-- The token that a request sets. -/
def setToken? : RemoteRequest × Except Failure RemoteAnswer → Option String
  | (.setToken token, _) => some token
  | _ => none

/-- The file that a request uploads, with the information that is answered. -/
def uploaded? : RemoteRequest × Except Failure RemoteAnswer → Option RemoteFile
  | (.upload _ _ bytes folder, .ok (.info info)) => some ⟨info, folder, bytes⟩
  | _ => none

/-- The identifier of the file that a request deletes. -/
def deleted? : RemoteRequest × Except Failure RemoteAnswer → Option String
  | (.delete id, .ok _) => some id
  | _ => none

/-- The token that was set last. -/
def token? (t : RemoteLog) : Option String := (t.filterMap setToken?).getLast?

/-- The files that were ever uploaded. -/
def uploads (t : RemoteLog) : List RemoteFile := t.filterMap uploaded?

/-- The identifiers of the uploads. -/
def uploadedIds (t : RemoteLog) : List String := t.uploads.map fun f => f.info.id

/-- The identifiers of the files that were deleted. -/
def deletedIds (t : RemoteLog) : List String := t.filterMap deleted?

/-- The files that were uploaded and not deleted since, newest first. -/
def files : RemoteLog → List RemoteFile
  | [] => []
  | step :: later =>
    files later ++ (uploaded? step).toList.filter fun f => f.info.id ∉ deletedIds later

/-- The store after the requests of a log. -/
def store (t : RemoteLog) : RemoteStore where
  token := t.token?
  files := t.files
  uploads := t.uploads.length

/-! ## One more request -/

variable (t : RemoteLog) (step : RemoteRequest × Except Failure RemoteAnswer)

theorem token?_concat : token? (t ++ [step]) = (setToken? step).or t.token? := by
  unfold token?
  cases h : setToken? step <;> simp [h]

theorem uploads_concat : uploads (t ++ [step]) = t.uploads ++ (uploaded? step).toList := by
  unfold uploads
  cases h : uploaded? step <;> simp [h]

theorem uploadedIds_concat :
    uploadedIds (t ++ [step]) =
      t.uploadedIds ++ (uploaded? step).toList.map fun f => f.info.id := by
  simp [uploadedIds, uploads_concat]

theorem deletedIds_concat :
    deletedIds (t ++ [step]) = t.deletedIds ++ (deleted? step).toList := by
  unfold deletedIds
  cases h : deleted? step <;> simp [h]

/-- An upload comes before all other files, and a deletion takes a file away. -/
theorem files_concat : files (t ++ [step]) =
    (uploaded? step).toList ++ t.files.filter fun f => f.info.id ∉ (deleted? step).toList := by
  induction t with
  | nil => simp [files, deletedIds]
  | cons first later ih =>
    rw [List.cons_append, files, files, ih, deletedIds_concat, List.append_assoc,
      List.filter_append, List.filter_filter]
    simp [not_or, and_comm]

theorem store_concat : store (t ++ [step]) =
    { token := (setToken? step).or t.token?
      files := (uploaded? step).toList ++
        t.files.filter fun f => f.info.id ∉ (deleted? step).toList
      uploads := t.uploads.length + (uploaded? step).toList.length } := by
  rw [store, token?_concat, files_concat, uploads_concat, List.length_append]

/-- No request both uploads and deletes. -/
theorem deleted?_eq_none {step : RemoteRequest × Except Failure RemoteAnswer} {f : RemoteFile}
    (h : uploaded? step = some f) : deleted? step = none := by
  obtain ⟨request, answer⟩ := step
  cases request <;> first | rfl | exact nomatch h

/-! ## Logs of a store -/

/-- What holds of the log of a store. -/
structure Consistent (t : RemoteLog) : Prop where
  /-- The identifiers are those of the first upload, the second, and so on. -/
  ids : t.uploadedIds = (List.range t.uploads.length).map fun n => idOf (n + 1)
  /-- What was deleted was uploaded before. -/
  deleted : ∀ id ∈ t.deletedIds, id ∈ t.uploadedIds
  mem_files : ∀ f, f ∈ t.files ↔ f ∈ t.uploads ∧ f.info.id ∉ t.deletedIds
  numbered : t.store.Numbered

namespace Consistent

variable {t : RemoteLog} {step : RemoteRequest × Except Failure RemoteAnswer}

theorem nil : Consistent [] where
  ids := rfl
  deleted _ hid := absurd hid List.not_mem_nil
  mem_files _ := by simp [files, uploads]
  numbered := numbered_of_files_eq_nil rfl

/-- **No two uploads have the same identifier.** -/
theorem nodup (h : t.Consistent) : t.uploadedIds.Nodup := by
  rw [h.ids, List.nodup_map_iff fun m n hmn => Nat.succ.inj (idOf_injective hmn)]
  exact List.nodup_range

theorem fresh (h : t.Consistent) : idOf (t.uploads.length + 1) ∉ t.uploadedIds := by
  rw [h.ids, List.mem_map]
  rintro ⟨n, hn, hid⟩
  have := idOf_injective hid
  have := List.mem_range.1 hn
  omega

/-- One more upload has the next identifier, and one more deletion is that of an upload. -/
theorem concat (h : t.Consistent)
    (hup : ∀ f, uploaded? step = some f → f.info.id = idOf (t.uploads.length + 1))
    (hdel : ∀ id, deleted? step = some id → id ∈ t.uploadedIds) : Consistent (t ++ [step]) := by
  cases hf : uploaded? step with
  | none =>
    refine ⟨?_, fun id hid => ?_, fun g => ?_, ?_⟩
    · simpa [uploadedIds_concat, uploads_concat, hf] using h.ids
    · rw [deletedIds_concat, List.mem_append, Option.mem_toList] at hid
      rw [uploadedIds_concat, hf]
      simpa using hid.elim (h.deleted id) (hdel id)
    · simp [files_concat, uploads_concat, deletedIds_concat, hf, h.mem_files, and_assoc]
    · rw [store_concat, hf]
      exact h.numbered.keeping fun g => g.info.id ∉ (deleted? step).toList
  | some f =>
    have hid := hup f hf
    have hnone := deleted?_eq_none hf
    have hkept : f.info.id ∉ t.deletedIds := fun hmem => h.fresh (hid ▸ h.deleted _ hmem)
    refine ⟨?_, fun id hmem => ?_, fun g => ?_, ?_⟩
    · simp [uploadedIds_concat, uploads_concat, hf, h.ids, hid, List.range_succ]
    · rw [deletedIds_concat, hnone, Option.toList_none, List.append_nil] at hmem
      rw [uploadedIds_concat]
      exact List.mem_append_left _ (h.deleted id hmem)
    · simp only [files_concat, uploads_concat, deletedIds_concat, hf, hnone, h.mem_files,
        Option.toList_some, Option.toList_none, List.mem_append, List.mem_singleton,
        List.mem_filter, List.append_nil, List.not_mem_nil, not_false_eq_true, decide_true,
        and_true]
      constructor
      · rintro (rfl | hg)
        · exact ⟨.inr rfl, hkept⟩
        · exact ⟨.inl hg.1, hg.2⟩
      · rintro ⟨hg | rfl, hg'⟩
        · exact .inr ⟨hg, hg'⟩
        · exact .inl rfl
    · rw [store_concat, hf, hnone]
      simpa [Numbered, store] using h.numbered.add f hid

end Consistent
end RemoteLog

/-! ## Requests -/

/-- Requests by what is asked, where there is a token, and all at once, where there is none. -/
@[elab_as_elim]
theorem RemoteRequest.byToken {motive : RemoteRequest → Prop} (token : Option String)
    (q : RemoteRequest) (setToken : ∀ token, motive (.setToken token))
    (refused : token = none → ∀ q, (∀ token, q ≠ .setToken token) → motive q)
    (list : token.isSome → ∀ folder, motive (.list folder))
    (upload : token.isSome → ∀ name mimeType bytes folder,
      motive (.upload name mimeType bytes folder))
    (download : token.isSome → ∀ id, motive (.download id))
    (delete : token.isSome → ∀ id, motive (.delete id)) : motive q := by
  cases token with
  | none =>
    cases q with
    | setToken token => exact setToken token
    | list _ | upload _ _ _ _ | download _ | delete _ => exact refused rfl _ (by simp)
  | some token =>
    cases q with
    | setToken token => exact setToken token
    | list folder => exact list rfl folder
    | upload name mimeType bytes folder => exact upload rfl name mimeType bytes folder
    | download id => exact download rfl id
    | delete id => exact delete rfl id

namespace RemoteStore

variable {r : RemoteStore}

theorem authorized_eq_self {α : Type} (h : r.token.isSome) (request : Except Failure α) :
    r.authorized request = request := by
  have hn : r.token.isNone = false := by simpa using h
  rw [authorized, hn]
  rfl

/-- Without a token, nothing but a token is accepted. -/
theorem perform_of_token_eq_none (h : r.token = none) {q : RemoteRequest}
    (hq : ∀ token, q ≠ .setToken token) : r.perform q = (failure .noToken, r) := by
  cases q with
  | setToken token => exact absurd rfl (hq token)
  | list _ | upload _ _ _ _ | download _ | delete _ =>
    simp [perform, list, upload, download, delete, authorized, h, failure, Except.map]

theorem perform_list (h : r.token.isSome) (folder : String) : r.perform (.list folder) =
    (.ok (.infos ((r.files.filter fun f => f.folder = folder).map RemoteFile.info)), r) := by
  rw [perform, list, authorized_eq_self h]
  rfl

theorem perform_upload (h : r.token.isSome) (name mimeType : String) (bytes : Bytes)
    (folder : String) :
    r.perform (.upload name mimeType bytes folder) =
      let info : FileInfo := ⟨idOf (r.uploads + 1), name, some mimeType⟩
      (.ok (.info info),
        { r with files := ⟨info, folder, bytes⟩ :: r.files, uploads := r.uploads + 1 }) := by
  simp only [perform, upload, authorized_eq_self h]

/-- A file that is kept may be downloaded and deleted. -/
theorem perform_of_mem (h : r.token.isSome) (hkeyed : r.Keyed) {f : RemoteFile}
    (hf : f ∈ r.files) :
    r.perform (.download f.info.id) = (.ok (.bytes f.bytes), r) ∧
      r.perform (.delete f.info.id) = (.ok .done, r.keeping fun g => g.info.id ≠ f.info.id) := by
  have hid : f.info.id ∈ r.files.map fun g => g.info.id := List.mem_map_of_mem hf
  constructor
  · rw [perform, download, authorized_eq_self h, hkeyed.find?_eq hf]
    rfl
  · rw [perform, delete_eq h hid]

/-- A file that is not kept cannot be downloaded or deleted. -/
theorem perform_of_not_mem (h : r.token.isSome) {id : String}
    (hid : id ∉ r.files.map fun f => f.info.id) :
    r.perform (.download id) = (failure (.noFile id), r) ∧
      r.perform (.delete id) = (failure (.noFile id), r) := by
  have hfind : r.find? id = none := by
    rw [find?, List.find?_eq_none]
    intro f hf
    simpa using fun heq => hid (List.mem_map.2 ⟨f, hf, heq⟩)
  simp [perform, download, delete, authorized_eq_self h, hfind, failure, Except.map]

end RemoteStore

/-! ## Answers as a log tells them -/

/-- The answers of a store that was given a token, as a log tells them. -/
structure Serves (answer : RemoteRequest → Except Failure RemoteAnswer) (t : RemoteLog) :
    Prop where
  list : ∀ folder, answer (.list folder) =
    .ok (.infos ((t.files.filter fun f => f.folder = folder).map RemoteFile.info))
  /-- An upload gets a new identifier, while there are numbers left. -/
  upload : t.uploads.length + 1 < UInt64.size → ∀ name mimeType bytes folder, ∃ id,
    id ∉ t.uploadedIds ∧
      answer (.upload name mimeType bytes folder) = .ok (.info ⟨id, name, some mimeType⟩)
  /-- A file that was uploaded and not deleted is there. -/
  found : ∀ f ∈ t.uploads, f.info.id ∉ t.deletedIds →
    answer (.download f.info.id) = .ok (.bytes f.bytes) ∧
      answer (.delete f.info.id) = .ok .done
  /-- A file that was never uploaded, or is deleted, is not there. -/
  missing : ∀ id, id ∉ t.uploadedIds ∨ id ∈ t.deletedIds →
    answer (.download id) = failure (.noFile id) ∧ answer (.delete id) = failure (.noFile id)

/-- After its history, a store answers as the log of the history tells. -/
structure FollowsLog {σ : Type} (perform : σ → RemoteRequest → Except Failure RemoteAnswer × σ)
    (h : History σ RemoteRequest (Except Failure RemoteAnswer)) : Prop where
  /-- Without a token, nothing but a token is accepted. -/
  refuses : RemoteLog.token? h.steps = none → ∀ q, (∀ token, q ≠ .setToken token) →
    perform h.state q = (failure .noToken, h.state)
  serves : (RemoteLog.token? h.steps).isSome → Serves (fun q => (perform h.state q).1) h.steps
  /-- A request that fails changes nothing. -/
  unchanged : ∀ q e, (perform h.state q).1 = .error e → (perform h.state q).2 = h.state
  distinct : (RemoteLog.uploadedIds h.steps).Nodup

namespace RemoteLog

variable {t : RemoteLog}

/-- A request that sets no token, and neither uploads nor deletes a file. -/
theorem Consistent.concat_idle (h : t.Consistent)
    {step : RemoteRequest × Except Failure RemoteAnswer} (hset : setToken? step = none)
    (hup : uploaded? step = none) (hdel : deleted? step = none) :
    store (t ++ [step]) = t.store ∧ Consistent (t ++ [step]) := by
  constructor
  · rw [store_concat, hset, hup, hdel]
    simp [store]
  · exact h.concat (by simp [hup]) (by simp [hdel])

/-- **A log with one more request tells of the store after it.** -/
theorem Consistent.perform (h : t.Consistent) (q : RemoteRequest) :
    store (t ++ [(q, (t.store.perform q).1)]) = (t.store.perform q).2 ∧
      Consistent (t ++ [(q, (t.store.perform q).1)]) := by
  induction q using RemoteRequest.byToken t.store.token with
  | setToken token =>
    constructor
    · rw [store_concat]
      simp [setToken?, uploaded?, deleted?, store, RemoteStore.perform, withToken]
    · exact h.concat (by simp [uploaded?]) (by simp [deleted?])
  | refused htoken q hq =>
    rw [perform_of_token_eq_none htoken hq]
    cases q with
    | setToken token => exact absurd rfl (hq token)
    | list _ | upload _ _ _ _ | download _ | delete _ => exact h.concat_idle rfl rfl rfl
  | list _ _ | download _ _ => exact h.concat_idle rfl rfl rfl
  | upload htoken name mimeType bytes folder =>
    rw [perform_upload htoken]
    constructor
    · rw [store_concat]
      simp [setToken?, uploaded?, deleted?, store]
    · refine h.concat (fun f hf => ?_) (by simp [deleted?])
      rw [← Option.some.inj hf]
      rfl
  | delete htoken id =>
    by_cases hid : id ∈ t.files.map fun f => f.info.id
    · obtain ⟨f, hf, rfl⟩ := List.mem_map.1 hid
      rw [(perform_of_mem htoken h.numbered.keyed hf).2]
      constructor
      · rw [store_concat]
        simp [setToken?, uploaded?, deleted?, store, keeping]
      · refine h.concat (by simp [uploaded?]) fun id hid => ?_
        rw [← Option.some.inj hid]
        exact List.mem_map_of_mem ((h.mem_files f).1 hf).1
    · rw [(perform_of_not_mem htoken hid).2]
      exact h.concat_idle rfl rfl rfl

/-- A store answers as its log tells, once it was given a token. -/
theorem Consistent.serves (h : t.Consistent) (htoken : t.token?.isSome) :
    Serves (fun q => (t.store.perform q).1) t where
  list folder := congrArg Prod.fst (perform_list htoken folder)
  upload _ name mimeType bytes folder :=
    ⟨_, h.fresh, congrArg Prod.fst (perform_upload htoken name mimeType bytes folder)⟩
  found f hf hkept := by
    have hfile : f ∈ t.files := (h.mem_files f).2 ⟨hf, hkept⟩
    have hperform := perform_of_mem htoken h.numbered.keyed hfile
    exact ⟨congrArg Prod.fst hperform.1, congrArg Prod.fst hperform.2⟩
  missing id hid := by
    have hfile : id ∉ t.store.files.map fun f => f.info.id := by
      rw [List.mem_map]
      rintro ⟨f, hf, rfl⟩
      obtain ⟨hup, hkept⟩ := (h.mem_files f).1 hf
      exact hid.elim (fun hnew => hnew (List.mem_map_of_mem hup)) hkept
    have hperform := perform_of_not_mem htoken hfile
    exact ⟨congrArg Prod.fst hperform.1, congrArg Prod.fst hperform.2⟩

end RemoteLog

/-! ## Whole histories -/

namespace RemoteStore

/-- The store is the one that its log tells of. -/
theorem history_eq (qs : List RemoteRequest) :
    RemoteLog.store (history perform {} qs).steps = (history perform {} qs).state ∧
      RemoteLog.Consistent (history perform {} qs).steps := by
  induction qs using List.reverseRecOn with
  | nil => exact ⟨rfl, .nil⟩
  | append_singleton qs q ih =>
    rw [history_concat, History.next, ← ih.1]
    exact ih.2.perform q

theorem keyed_history (qs : List RemoteRequest) : (history perform {} qs).state.Keyed := by
  obtain ⟨hstore, hlog⟩ := history_eq qs
  rw [← hstore]
  exact hlog.numbered.keyed

theorem perform_error {r : RemoteStore} {q : RemoteRequest} {e : Failure}
    (h : (r.perform q).1 = .error e) : (r.perform q).2 = r := by
  cases q with
  | setToken token => cases h
  | list folder | download id => rfl
  | upload name mimeType bytes folder =>
    revert h
    rw [perform]
    cases r.upload name mimeType bytes folder <;> simp
  | delete id =>
    revert h
    rw [perform]
    cases r.delete id <;> simp

/-- **A store answers as the log of its requests tells.** -/
theorem followsLog (qs : List RemoteRequest) : FollowsLog perform (history perform {} qs) := by
  obtain ⟨hstore, hlog⟩ := history_eq qs
  refine ⟨fun htoken q hq => ?_, fun htoken => ?_, fun q e => perform_error, hlog.nodup⟩
  · rw [← hstore]
    exact perform_of_token_eq_none htoken hq
  · rw [← hstore]
    exact hlog.serves htoken

end RemoteStore
end Daybook
