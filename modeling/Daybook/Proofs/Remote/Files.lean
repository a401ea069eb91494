import Daybook.Remote
import Mathlib.Data.List.Nodup

/-!
# Files of a remote store

The identifiers of uploads never repeat, so a store that grew by uploads and deletions has each
identifier once (`Numbered.keyed`). Where that holds, a file is offered, that is, listed in its
folder and given out whole, just if the store keeps it and has an access token (`offers_iff`).

* `Keyed`, `Numbered`: no identifier twice; identifiers of uploads, newest first;
* `Offers`: a store lists a file and gives out its bytes;
* `delete_eq`: a deletion takes away the file of an identifier.
-/

namespace Daybook.RemoteStore

/-- No two files have the same identifier. -/
def Keyed (r : RemoteStore) : Prop := (r.files.map fun f => f.info.id).Nodup

/-- The identifiers are those of uploads, later uploads first. -/
def Numbered (r : RemoteStore) : Prop :=
  ∃ ks : List Nat, (r.files.map fun f => f.info.id) = ks.map idOf ∧
    ks.Pairwise (· > ·) ∧ ∀ k ∈ ks, k ≤ r.uploads

/-- The store lists the file in its folder, and gives out its bytes. -/
def Offers (r : RemoteStore) (f : RemoteFile) : Prop :=
  (∃ infos, r.list f.folder = .ok infos ∧ f.info ∈ infos) ∧ r.download f.info.id = .ok f.bytes

/-- The store without the files for which a test fails. -/
def keeping (r : RemoteStore) (p : RemoteFile → Bool) : RemoteStore :=
  { r with files := r.files.filter p }

/-! ## Identifiers -/

theorem idOf_injective : Function.Injective idOf := by
  intro m n h
  have hd : Nat.toDigits 10 m = Nat.toDigits 10 n := by
    simpa [idOf] using congrArg String.toList h
  rw [← Nat.ofDigitChars_ten_toDigits (n := m), hd, Nat.ofDigitChars_ten_toDigits]

theorem Numbered.keyed {r : RemoteStore} (h : r.Numbered) : r.Keyed := by
  obtain ⟨ks, hks, hsorted, -⟩ := h
  rw [Keyed, hks, List.nodup_map_iff idOf_injective]
  exact hsorted.imp Nat.ne_of_gt

theorem numbered_of_files_eq_nil {r : RemoteStore} (h : r.files = []) : r.Numbered :=
  ⟨[], by rw [h]; rfl, .nil, fun _ hk => absurd hk List.not_mem_nil⟩

theorem Numbered.withToken {r : RemoteStore} (h : r.Numbered) (token : String) :
    (r.withToken token).Numbered := h

/-- Files may be taken away. -/
theorem Numbered.keeping {r : RemoteStore} (h : r.Numbered) (p : RemoteFile → Bool) :
    (r.keeping p).Numbered := by
  obtain ⟨ks, hks, hsorted, hle⟩ := h
  have hsub : ((r.files.filter p).map fun f => f.info.id).Sublist (ks.map idOf) := by
    rw [← hks]
    exact List.filter_sublist.map _
  obtain ⟨ls, hls, he⟩ := List.sublist_map_iff.1 hsub
  exact ⟨ls, he, hsorted.sublist hls, fun k hk => hle k (hls.subset hk)⟩

/-- A file with the identifier of the next upload may be added. -/
theorem Numbered.add {r : RemoteStore} (h : r.Numbered) (f : RemoteFile)
    (hf : f.info.id = idOf (r.uploads + 1)) :
    { r with files := f :: r.files, uploads := r.uploads + 1 }.Numbered := by
  obtain ⟨ks, hks, hsorted, hle⟩ := h
  refine ⟨(r.uploads + 1) :: ks, by simp [hf, hks], ?_, ?_⟩
  · refine List.pairwise_cons.2 ⟨fun k hk => ?_, hsorted⟩
    have := hle k hk
    omega
  · intro k hk
    rcases List.mem_cons.1 hk with rfl | hk
    · exact Nat.le_refl _
    · exact Nat.le_succ_of_le (hle k hk)

/-! ## What is offered -/

variable {r : RemoteStore}

theorem Keyed.eq_of_mem (h : r.Keyed) {f g : RemoteFile} (hf : f ∈ r.files) (hg : g ∈ r.files)
    (hid : f.info.id = g.info.id) : f = g :=
  List.inj_on_of_nodup_map h hf hg hid

theorem Keyed.find?_eq (h : r.Keyed) {f : RemoteFile} (hf : f ∈ r.files) :
    r.find? f.info.id = some f := by
  have hsome : (r.find? f.info.id).isSome := by
    rw [find?, List.find?_isSome]
    exact ⟨f, hf, by simp⟩
  obtain ⟨g, hg⟩ := Option.isSome_iff_exists.1 hsome
  have hid : g.info.id = f.info.id := by simpa using List.find?_some hg
  rw [hg, h.eq_of_mem (List.mem_of_find?_eq_some hg) hf hid]

theorem mem_of_find?_eq_some {id : String} {f : RemoteFile} (h : r.find? id = some f) :
    f ∈ r.files ∧ f.info.id = id :=
  ⟨List.mem_of_find?_eq_some h, by simpa using List.find?_some h⟩

/-- **A file is offered just if it is kept and there is an access token.** -/
theorem offers_iff (h : r.Keyed) (f : RemoteFile) :
    r.Offers f ↔ r.token.isSome ∧ f ∈ r.files := by
  constructor
  · rintro ⟨⟨infos, hlist, hmem⟩, hdown⟩
    cases ht : r.token with
    | none => simp [list, authorized, ht, failure] at hlist
    | some token =>
      refine ⟨rfl, ?_⟩
      simp only [list, authorized, ht, Option.isNone_some, Bool.false_eq_true, if_false,
        Except.ok.injEq] at hlist
      subst hlist
      obtain ⟨g, hg, hinfo⟩ := List.mem_map.1 hmem
      obtain ⟨hgr, hfolder⟩ := List.mem_filter.1 hg
      have hbytes : g.bytes = f.bytes := by
        simpa [download, authorized, ht, ← hinfo, h.find?_eq hgr] using hdown
      obtain ⟨info, folder, bytes⟩ := f
      obtain ⟨info', folder', bytes'⟩ := g
      simp only [decide_eq_true_eq] at hfolder hinfo hbytes
      subst hfolder hinfo hbytes
      exact hgr
  · rintro ⟨ht, hf⟩
    have hn : r.token.isNone = false := by simpa using ht
    refine ⟨⟨_, by simp only [list, authorized, hn]; rfl, ?_⟩, ?_⟩
    · exact List.mem_map.2 ⟨f, List.mem_filter.2 ⟨hf, by simp⟩, rfl⟩
    · simp [download, authorized, hn, h.find?_eq hf]

/-- What is downloaded are the bytes of a file. -/
theorem exists_file_of_download {id : String} {bytes : Bytes} (h : r.download id = .ok bytes) :
    ∃ f ∈ r.files, f.bytes = bytes := by
  rw [download, authorized] at h
  split_ifs at h
  · exact nomatch h
  cases hfind : r.find? id with
  | none =>
    rw [hfind] at h
    exact nomatch h
  | some f =>
    rw [hfind] at h
    exact ⟨f, (mem_of_find?_eq_some hfind).1, Except.ok.inj h⟩

/-! ## Deletion -/

theorem keeping_keeping (p q : RemoteFile → Bool) :
    (r.keeping p).keeping q = r.keeping fun f => p f && q f := by
  simp only [RemoteStore.keeping, List.filter_filter, Bool.and_comm]

theorem Keyed.keeping (h : r.Keyed) (p : RemoteFile → Bool) : (r.keeping p).Keyed :=
  h.sublist (List.filter_sublist.map _)

theorem delete_eq {id : String} (ht : r.token.isSome)
    (hid : id ∈ r.files.map fun f => f.info.id) :
    r.delete id = .ok (r.keeping fun f => f.info.id ≠ id) := by
  have hn : r.token.isNone = false := by simpa using ht
  obtain ⟨f, hf, rfl⟩ := List.mem_map.1 hid
  have hfind : (r.find? f.info.id).isSome := by
    rw [find?, List.find?_isSome]
    exact ⟨f, hf, by simp⟩
  obtain ⟨g, hg⟩ := Option.isSome_iff_exists.1 hfind
  simp only [delete, authorized, hn, Bool.false_eq_true, if_false, hg, RemoteStore.keeping]

end Daybook.RemoteStore
