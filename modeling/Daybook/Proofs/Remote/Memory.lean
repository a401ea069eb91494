import Daybook.Proofs.KeyMap
import Daybook.Proofs.Remote.Log

/-!
# The store in memory and its log

The store in memory keeps its files by the texts of their identifiers, and finds out which is newer
by their numbers. It answers like a store that keeps its files in the order of their uploads, and so
as the log of its requests tells (**`MemoryStore.history_followsLog`**), as long as the number of
uploads fits into its counter.

* `newestFirst_eq`: files with different numbers are sorted in one way only;
* `Represents`: the store in memory against the store that keeps an order;
* `Represents.perform`: both answer a request alike.
-/

namespace Daybook.MemoryStore

open RemoteStore (failure)

variable {m : MemoryStore} {r : RemoteStore} {files sorted : List MemoryFile}

/-! ## Sorting by numbers -/

theorem newestFirst_perm (files : List MemoryFile) : (newestFirst files).Perm files :=
  List.mergeSort_perm _ _

theorem pairwise_newestFirst (files : List MemoryFile) :
    (newestFirst files).Pairwise fun f g => g.number ≤ f.number := by
  refine (List.pairwise_mergeSort ?_ ?_ files).imp fun hle => by simpa using hle
  · simp only [decide_eq_true_eq]
    exact fun f g h hfg hgh => UInt64.le_trans hgh hfg
  · simp only [Bool.or_eq_true, decide_eq_true_eq]
    exact fun f g => UInt64.le_total g.number f.number

/-- A list of the same files whose numbers descend is the sorted one. -/
theorem newestFirst_eq (hperm : files.Perm sorted)
    (hsorted : sorted.Pairwise fun f g => g.number < f.number) : newestFirst files = sorted := by
  have hdistinct : (sorted.map MemoryFile.number).Nodup := by
    rw [List.Nodup, List.pairwise_map]
    exact hsorted.imp fun hlt => (UInt64.ne_of_lt hlt).symm
  have hall := (newestFirst_perm files).trans hperm
  refine List.Perm.eq_of_pairwise (fun f g hf hg hle hge => ?_) (pairwise_newestFirst files)
    (hsorted.imp UInt64.le_of_lt) hall
  exact List.inj_on_of_nodup_map hdistinct (hall.mem_iff.1 hf) hg (UInt64.le_antisymm hge hle)

/-- Different numbers descend. -/
theorem pairwise_lt_newestFirst (h : (files.map MemoryFile.number).Nodup) :
    (newestFirst files).Pairwise fun f g => g.number < f.number := by
  have hdistinct : ((newestFirst files).map MemoryFile.number).Nodup :=
    ((newestFirst_perm files).map _).nodup_iff.2 h
  rw [List.Nodup, List.pairwise_map] at hdistinct
  exact ((pairwise_newestFirst files).and hdistinct).imp fun h =>
    UInt64.lt_of_le_of_ne h.1 h.2.symm

/-- The files of a part are sorted like all files. -/
theorem newestFirst_filter (h : (files.map MemoryFile.number).Nodup) (p : MemoryFile → Bool) :
    newestFirst (files.filter p) = (newestFirst files).filter p :=
  newestFirst_eq ((newestFirst_perm files).symm.filter p) ((pairwise_lt_newestFirst h).filter p)

/-! ## The two stores -/

/-- The store in memory keeps the files of the other store, each by its identifier. -/
structure Represents (m : MemoryStore) (r : RemoteStore) : Prop where
  token : m.token = r.token
  counter : m.counter.toNat = r.uploads
  files : (newestFirst m.files.values).map MemoryFile.toRemoteFile = r.files
  ordered : m.files.Ordered
  ids : ∀ p ∈ m.files, p.1 = p.2.info.id
  numbers : ∀ p ∈ m.files, p.1 = RemoteStore.idOf p.2.number.toNat
  bounded : ∀ p ∈ m.files, p.2.number ≤ m.counter

namespace Represents

theorem empty : Represents {} {} where
  token := rfl
  counter := rfl
  files := by simp [newestFirst, KeyMap.values]
  ordered := .nil
  ids _ hp := absurd hp List.not_mem_nil
  numbers _ hp := absurd hp List.not_mem_nil
  bounded _ hp := absurd hp List.not_mem_nil

/-- No two files have the same number. -/
theorem nodup (h : Represents m r) : (m.files.values.map MemoryFile.number).Nodup := by
  have hids : (m.files.values.map MemoryFile.number).map (fun n => RemoteStore.idOf n.toNat) =
      m.files.keys := by
    rw [KeyMap.values, KeyMap.keys, List.map_map, List.map_map]
    exact List.map_congr_left fun p hp => (h.numbers p hp).symm
  refine List.Nodup.of_map (fun n : UInt64 => RemoteStore.idOf n.toNat) ?_
  rw [hids]
  exact KeyMap.Ordered.nodup_keys h.ordered

theorem mem_files_iff (h : Represents m r) {f : RemoteFile} :
    f ∈ r.files ↔ ∃ g, m.files.get? f.info.id = some g ∧ g.toRemoteFile = f := by
  rw [← h.files, List.mem_map]
  constructor
  · rintro ⟨g, hg, rfl⟩
    obtain ⟨id, hget⟩ := (KeyMap.mem_values_iff h.ordered).1 ((newestFirst_perm _).mem_iff.1 hg)
    have hid : id = g.info.id := h.ids _ (KeyMap.mem_of_get? hget)
    exact ⟨g, hid ▸ hget, rfl⟩
  · rintro ⟨g, hget, rfl⟩
    exact ⟨g, (newestFirst_perm _).mem_iff.2 ((KeyMap.mem_values_iff h.ordered).2 ⟨_, hget⟩), rfl⟩

/-- The file of an identifier, if there is one. -/
theorem file_eq (h : Represents m r) (id : String) :
    (∃ g, m.files.get? id = some g ∧ g.info.id = id ∧ g.toRemoteFile ∈ r.files) ∨
      m.files.get? id = none ∧ id ∉ r.files.map fun f => f.info.id := by
  cases hget : m.files.get? id with
  | some g =>
    have hid : id = g.info.id := h.ids _ (KeyMap.mem_of_get? hget)
    exact .inl ⟨g, rfl, hid.symm, h.mem_files_iff.2 ⟨g, hid ▸ hget, rfl⟩⟩
  | none =>
    refine .inr ⟨rfl, fun hmem => ?_⟩
    obtain ⟨f, hf, rfl⟩ := List.mem_map.1 hmem
    obtain ⟨g, hg, -⟩ := h.mem_files_iff.1 hf
    rw [hget] at hg
    cases hg

end Represents

/-! ## Requests -/

theorem authorized_eq_self {α : Type} (h : m.token.isSome)
    (reply : Except Failure α × MemoryStore) : m.authorized reply = reply := by
  have hn : m.token.isNone = false := by simpa using h
  rw [authorized, hn]
  rfl

/-- Without a token, nothing but a token is accepted. -/
theorem perform_of_token_eq_none (h : m.token = none) {q : RemoteRequest}
    (hq : ∀ token, q ≠ .setToken token) : m.perform q = (failure .noToken, m) := by
  cases q with
  | setToken token => exact absurd rfl (hq token)
  | list _ | upload _ _ _ _ | download _ | delete _ =>
    simp [perform, replied, list, upload, download, delete, authorized, h,
      RemoteStore.failure, Except.map]

theorem perform_list (h : m.token.isSome) (folder : String) : m.perform (.list folder) =
    (.ok (.infos ((newestFirst (m.files.values.filter fun f => f.folder = folder)).map
      fun f => f.info)), m) := by
  rw [perform, list, authorized_eq_self h]
  rfl

theorem perform_upload (h : m.token.isSome) (name mimeType : String) (bytes : Bytes)
    (folder : String) :
    m.perform (.upload name mimeType bytes folder) =
      let number := m.counter + 1
      let info : FileInfo := ⟨RemoteStore.idOf number.toNat, name, some mimeType⟩
      (.ok (.info info),
        { m with
          files := m.files.insert info.id ⟨⟨info, folder, bytes⟩, number⟩, counter := number }) := by
  rw [perform, upload, authorized_eq_self h]
  rfl

/-- A file that is kept may be downloaded and deleted. -/
theorem perform_of_get?_eq_some (h : m.token.isSome) {id : String} {f : MemoryFile}
    (hget : m.files.get? id = some f) :
    m.perform (.download id) = (.ok (.bytes f.bytes), m) ∧
      m.perform (.delete id) = (.ok .done, { m with files := m.files.erase id }) := by
  simp [perform, replied, download, delete, authorized_eq_self h, file, hget, Except.map]

/-- A file that is not kept cannot be downloaded or deleted. -/
theorem perform_of_get?_eq_none (h : m.token.isSome) {id : String}
    (hget : m.files.get? id = none) :
    m.perform (.download id) = (failure (.noFile id), m) ∧
      m.perform (.delete id) = (failure (.noFile id), m) := by
  simp [perform, replied, download, delete, authorized_eq_self h, file, hget,
    RemoteStore.failure, Except.map, KeyMap.erase_eq_self hget]

/-- A request that fails changes nothing. -/
theorem perform_error {q : RemoteRequest} {e : Failure} (h : (m.perform q).1 = .error e) :
    (m.perform q).2 = m := by
  induction q using RemoteRequest.byToken m.token with
  | setToken token => cases h
  | refused htoken q hq => rw [perform_of_token_eq_none htoken hq]
  | list htoken folder => rw [perform_list htoken]
  | upload htoken name mimeType bytes folder =>
    rw [perform_upload htoken] at h
    cases h
  | download htoken id =>
    cases hget : m.files.get? id with
    | none => rw [(perform_of_get?_eq_none htoken hget).1]
    | some f => rw [(perform_of_get?_eq_some htoken hget).1]
  | delete htoken id =>
    cases hget : m.files.get? id with
    | none => rw [(perform_of_get?_eq_none htoken hget).2]
    | some f =>
      rw [(perform_of_get?_eq_some htoken hget).2] at h
      cases h

/-! ## The stores side by side -/

/-- The files without the one of an identifier. -/
theorem Represents.values_erase (h : Represents m r) (id : String) :
    (m.files.erase id).values = m.files.values.filter fun f => f.info.id ≠ id := by
  rw [KeyMap.values, KeyMap.erase, KeyMap.values, List.filter_map]
  refine congrArg _ (List.filter_congr fun p hp => ?_)
  rw [Function.comp_apply, h.ids p hp]

theorem Represents.delete (h : Represents m r) (id : String) :
    Represents { m with files := m.files.erase id } (r.keeping fun f => f.info.id ≠ id) := by
  have hsub : ∀ p ∈ m.files.erase id, p ∈ m.files := fun p hp => (List.mem_filter.1 hp).1
  refine ⟨h.token, h.counter, ?_, KeyMap.ordered_erase h.ordered id,
    fun p hp => h.ids p (hsub p hp), fun p hp => h.numbers p (hsub p hp),
    fun p hp => h.bounded p (hsub p hp)⟩
  show (newestFirst (m.files.erase id).values).map _ = r.files.filter _
  rw [h.values_erase, newestFirst_filter h.nodup, ← h.files, List.filter_map]
  rfl

theorem Represents.toNat_counter_add_one (h : Represents m r)
    (hbound : r.uploads + 1 < UInt64.size) : (m.counter + 1).toNat = r.uploads + 1 := by
  rw [UInt64.toNat_add, h.counter]
  exact Nat.mod_eq_of_lt hbound

/-- The next number is greater than those of all files. -/
theorem Represents.number_lt (h : Represents m r) {number : UInt64}
    (hnumber : number.toNat = r.uploads + 1) {g : MemoryFile} (hg : g ∈ m.files.values) :
    g.number < number := by
  obtain ⟨p, hp, rfl⟩ := List.mem_map.1 hg
  have hle := UInt64.le_iff_toNat_le.1 (h.bounded p hp)
  rw [h.counter] at hle
  rw [UInt64.lt_iff_toNat_lt]
  omega

/-- No file has the identifier of the next number. -/
theorem Represents.get?_next (h : Represents m r) {number : UInt64}
    (hnumber : number.toNat = r.uploads + 1) :
    m.files.get? (RemoteStore.idOf number.toNat) = none := by
  rw [Option.eq_none_iff_forall_ne_some]
  intro g hg
  have hmem := KeyMap.mem_of_get? hg
  have hsame : number.toNat = g.number.toNat := RemoteStore.idOf_injective (h.numbers _ hmem)
  have hlt : g.number < number := h.number_lt hnumber (List.mem_map_of_mem hmem)
  rw [UInt64.lt_iff_toNat_lt] at hlt
  omega

/-- The next file comes before all others, wherever its identifier puts it. -/
theorem Represents.newestFirst_insert (h : Represents m r) {f : MemoryFile}
    (hnumber : f.number.toNat = r.uploads + 1)
    (hid : f.info.id = RemoteStore.idOf f.number.toNat) :
    newestFirst (m.files.insert f.info.id f).values = f :: newestFirst m.files.values := by
  have hnew : m.files.get? f.info.id = none := hid ▸ h.get?_next hnumber
  have hvalues : (m.files.insert f.info.id f).values.Perm (f :: newestFirst m.files.values) :=
    ((KeyMap.insert_perm hnew f).map Prod.snd).trans ((newestFirst_perm _).symm.cons f)
  refine newestFirst_eq hvalues (List.pairwise_cons.2 ⟨fun g hg => ?_,
    pairwise_lt_newestFirst h.nodup⟩)
  exact h.number_lt hnumber ((newestFirst_perm _).mem_iff.1 hg)

theorem Represents.upload (h : Represents m r) {f : MemoryFile}
    (hnumber : f.number.toNat = r.uploads + 1)
    (hid : f.info.id = RemoteStore.idOf f.number.toNat) :
    Represents { m with files := m.files.insert f.info.id f, counter := f.number }
      { r with files := f.toRemoteFile :: r.files, uploads := r.uploads + 1 } := by
  refine ⟨h.token, hnumber, ?_, KeyMap.ordered_insert h.ordered _ _, fun p hp => ?_,
    fun p hp => ?_, fun p hp => ?_⟩
  · show (newestFirst (m.files.insert f.info.id f).values).map _ = _
    rw [h.newestFirst_insert hnumber hid, List.map_cons, h.files]
  · obtain rfl | hp := KeyMap.mem_insert hp
    · rfl
    · exact h.ids p hp
  · obtain rfl | hp := KeyMap.mem_insert hp
    · exact hid
    · exact h.numbers p hp
  · obtain rfl | hp := KeyMap.mem_insert hp
    · exact UInt64.le_refl _
    · exact UInt64.le_of_lt (h.number_lt hnumber (List.mem_map_of_mem hp))

/-- **Both stores answer a request alike**, if the number of uploads fits into the counter. -/
theorem Represents.perform (h : Represents m r) (hkeyed : r.Keyed) (q : RemoteRequest)
    (hbound : (r.perform q).2.uploads < UInt64.size) :
    (m.perform q).1 = (r.perform q).1 ∧ Represents (m.perform q).2 (r.perform q).2 := by
  induction q using RemoteRequest.byToken r.token with
  | setToken token =>
    exact ⟨rfl, ⟨rfl, h.counter, h.files, h.ordered, h.ids, h.numbers, h.bounded⟩⟩
  | refused htoken q hq =>
    rw [perform_of_token_eq_none (h.token.trans htoken) hq,
      RemoteStore.perform_of_token_eq_none htoken hq]
    exact ⟨rfl, h⟩
  | list htoken folder =>
    rw [perform_list (h.token ▸ htoken), RemoteStore.perform_list htoken,
      newestFirst_filter h.nodup, ← h.files, List.filter_map, List.map_map]
    exact ⟨rfl, h⟩
  | upload htoken name mimeType bytes folder =>
    rw [RemoteStore.perform_upload htoken] at hbound
    have hnumber := h.toNat_counter_add_one hbound
    let f : MemoryFile :=
      ⟨⟨⟨RemoteStore.idOf (r.uploads + 1), name, some mimeType⟩, folder, bytes⟩, m.counter + 1⟩
    have hid : f.info.id = RemoteStore.idOf f.number.toNat :=
      congrArg RemoteStore.idOf hnumber.symm
    simp only [perform_upload (h.token ▸ htoken), RemoteStore.perform_upload htoken, hnumber]
    exact ⟨trivial, h.upload hnumber hid⟩
  | download htoken id =>
    have hm : m.token.isSome := h.token ▸ htoken
    obtain ⟨g, hget, rfl, hfile⟩ | ⟨hget, hfile⟩ := h.file_eq id
    · rw [(perform_of_get?_eq_some hm hget).1, (RemoteStore.perform_of_mem htoken hkeyed hfile).1]
      exact ⟨rfl, h⟩
    · rw [(perform_of_get?_eq_none hm hget).1, (RemoteStore.perform_of_not_mem htoken hfile).1]
      exact ⟨rfl, h⟩
  | delete htoken id =>
    have hm : m.token.isSome := h.token ▸ htoken
    obtain ⟨g, hget, rfl, hfile⟩ | ⟨hget, hfile⟩ := h.file_eq id
    · rw [(perform_of_get?_eq_some hm hget).2, (RemoteStore.perform_of_mem htoken hkeyed hfile).2]
      exact ⟨rfl, h.delete _⟩
    · rw [(perform_of_get?_eq_none hm hget).2, (RemoteStore.perform_of_not_mem htoken hfile).2]
      exact ⟨rfl, h⟩

/-- How many uploads there were can be told from the answers of either store. -/
theorem uploads_perform (h : m.token = r.token) (q : RemoteRequest) :
    (r.perform q).2.uploads =
      r.uploads + (RemoteLog.uploaded? (q, (m.perform q).1)).toList.length := by
  induction q using RemoteRequest.byToken r.token with
  | refused htoken q hq =>
    rw [perform_of_token_eq_none (h.trans htoken) hq,
      RemoteStore.perform_of_token_eq_none htoken hq]
    cases q <;> rfl
  | setToken _ | list _ _ | download _ _ => rfl
  | upload htoken name mimeType bytes folder =>
    rw [perform_upload (h ▸ htoken), RemoteStore.perform_upload htoken]
    rfl
  | delete htoken id =>
    rw [RemoteStore.perform, RemoteStore.delete, RemoteStore.authorized_eq_self htoken]
    cases r.find? id <;> rfl

/-- The store in memory and the other one have the same history. -/
theorem history_represents (qs : List RemoteRequest)
    (h : (RemoteLog.uploads (history perform {} qs).steps).length < UInt64.size) :
    (history perform {} qs).steps = (history RemoteStore.perform {} qs).steps ∧
      Represents (history perform {} qs).state (history RemoteStore.perform {} qs).state := by
  induction qs using List.reverseRecOn with
  | nil => exact ⟨rfl, .empty⟩
  | append_singleton qs q ih =>
    simp only [history_concat, History.next, RemoteLog.uploads_concat, List.length_append] at h ⊢
    obtain ⟨hsteps, hstate⟩ := ih (by omega)
    have hstore := congrArg RemoteStore.uploads (RemoteStore.history_eq qs).1
    rw [hsteps] at h
    have hperform := hstate.perform (RemoteStore.keyed_history qs) q (by
      rw [uploads_perform hstate.token, ← hstore]
      exact h)
    rw [hsteps, hperform.1]
    exact ⟨rfl, hperform.2⟩

/-- What one store serves, the other does. -/
theorem Represents.serves (h : Represents m r) (hkeyed : r.Keyed) (htoken : r.token.isSome)
    {t : RemoteLog} (huploads : r.uploads = t.uploads.length)
    (hbound : t.uploads.length < UInt64.size) (hserves : Serves (fun q => (r.perform q).1) t) :
    Serves (fun q => (m.perform q).1) t := by
  have hsame : ∀ q, (r.perform q).2.uploads < UInt64.size → (m.perform q).1 = (r.perform q).1 :=
    fun q hq => (h.perform hkeyed q hq).1
  -- only uploads need a number more
  have hrest : ∀ q, RemoteLog.uploaded? (q, (m.perform q).1) = none →
      (m.perform q).1 = (r.perform q).1 := by
    intro q hq
    refine hsame q ?_
    rw [uploads_perform h.token, hq, huploads]
    exact hbound
  refine ⟨fun folder => (hrest _ rfl).trans (hserves.list folder),
    fun hnext name mimeType bytes folder => ?_, fun f hf hkept => ?_, fun id hid => ?_⟩
  · obtain ⟨id, hnew, hanswer⟩ := hserves.upload hnext name mimeType bytes folder
    refine ⟨id, hnew, (hsame _ ?_).trans hanswer⟩
    rw [RemoteStore.perform_upload htoken, huploads]
    exact hnext
  · exact (hserves.found f hf hkept).imp (hrest _ rfl).trans (hrest _ rfl).trans
  · exact (hserves.missing id hid).imp (hrest _ rfl).trans (hrest _ rfl).trans

/-- **The store in memory answers as the log of its requests tells**, just like a store that keeps
its files in the order of their uploads: without a token it refuses everything and changes nothing;
with one it lists the files that were uploaded to a folder and not deleted since, newest first,
gives out the bytes of each under its identifier, and fails to find a file exactly if it was never
uploaded or is deleted, which changes nothing. No identifier is given to two uploads, as long as
there are fewer than the counter has numbers. -/
theorem history_followsLog (qs : List RemoteRequest)
    (h : (RemoteLog.uploads (history perform {} qs).steps).length < UInt64.size) :
    FollowsLog perform (history perform {} qs) ∧
      FollowsLog RemoteStore.perform (history RemoteStore.perform {} qs) ∧
        (history perform {} qs).steps = (history RemoteStore.perform {} qs).steps := by
  obtain ⟨hsteps, hstate⟩ := history_represents qs h
  obtain ⟨hstore, hlog⟩ := RemoteStore.history_eq qs
  have htoken : (history perform {} qs).state.token =
      RemoteLog.token? (history perform {} qs).steps := by
    rw [hstate.token, hsteps, ← hstore]
    rfl
  refine ⟨⟨fun hnone q hq => ?_, fun hsome => ?_, fun q e => perform_error, ?_⟩,
    RemoteStore.followsLog qs, hsteps⟩
  · exact perform_of_token_eq_none (htoken.trans hnone) hq
  · rw [hsteps] at h hsome ⊢
    exact hstate.serves (RemoteStore.keyed_history qs) (hstore ▸ hsome) (hstore ▸ rfl) h
      ((RemoteStore.followsLog qs).serves hsome)
  · rw [hsteps]
    exact hlog.nodup

/-- Eleven uploads, of which the second is deleted. -/
def elevenUploads : List RemoteRequest :=
  .setToken "token" :: List.replicate 11 (.upload "a" "b" [] "folder") ++ [.delete "mem-2"]

/-- The tenth file is kept before the third, and listed after the eleventh. -/
theorem history_followsLog_elevenUploads :
    (RemoteLog.uploads (history perform {} elevenUploads).steps).length < UInt64.size ∧
      ((history perform {} elevenUploads).state.perform (.list "folder")).1 =
        .ok (.infos ((["mem-11", "mem-10", "mem-9", "mem-8", "mem-7", "mem-6", "mem-5", "mem-4",
          "mem-3", "mem-1"]).map fun id => ⟨id, "a", some "b"⟩)) ∧
      ((history perform {} elevenUploads).state.perform (.delete "mem-2")).1 =
        .error (.remoteIo (.noFile "mem-2")) :=
  have hbound : (RemoteLog.uploads (history perform {} elevenUploads).steps).length <
      UInt64.size := by decide +kernel
  have hserves := (history_followsLog elevenUploads hbound).1.serves (by decide +kernel)
  ⟨hbound, (hserves.list "folder").trans (by rfl),
    (hserves.missing "mem-2" (.inr (by decide +kernel))).2⟩

end Daybook.MemoryStore
