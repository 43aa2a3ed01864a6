import Gadget.Manager.Upgrade.SwapGate

/-!
# The chain of trust of a download

`download_and_verify` should return only bytes that the digest of the version vouches for, and leave
no other file at the destination when it fails. Names in the cache directory may be links, and the
temporary files are written through them. `Exposed` says when some behaviour of the servers can use
that; in all other directories the chain holds against every behaviour.
-/

namespace Gadget.Manager

open Rust Lib.FileSystem List Option Fs Except

variable {host : Host} {serviceId : ℕ} {dir : Path} {v : BinaryVersionInfo}

def Trusted (host : Host) (cacheDir : Path) (version : BinaryVersionInfo) :
    Except UpgradeError Path × Files → Prop
  | (.ok path, files) => ∃ bytes, files.read host.linkLimit path = some bytes ∧
      Pinned host version.sha256 bytes
  | (.error _, files) => ∀ bytes,
      files.read host.linkLimit (destPath host cacheDir version) = some bytes →
        Pinned host version.sha256 bytes

variable (host dir v)

lemma length_destPath : (destPath host dir v).length
      = (versionStem host dir v.versionId).length + 16 := by
  rw [destPath, length_append, length_hexEncode, length_take, v.sha256.2]
  rfl

lemma tempPath_ne_destPath : tempPath host dir v ≠ destPath host dir v := by
  intro h
  have hl := congrArg length h
  simp [tempPath] at hl

lemma assetPath_ne_destPath : assetPath host dir v ≠ destPath host dir v := by
  intro h
  have hl := congrArg length h
  rw [length_destPath] at hl
  simp [assetPath] at hl

lemma assetPath_ne_tempPath : assetPath host dir v ≠ tempPath host dir v := by
  intro h
  have hl := congrArg length h
  rw [tempPath, length_append, length_destPath] at hl
  simp [assetPath] at hl

variable {host dir v}

inductive Fetched (host : Host) (dest : Path) (files : Files) :
    Except UpgradeError Unit × Files → Prop
  | untouched (e : UpgradeError) : Fetched host dest files (.error e, files)
  | written (result : Except UpgradeError Unit) {name : Path} {bytes : Bytes}
      (hname : files.creates host.linkLimit dest = some name)
      (hbytes : bytes.length ≤ host.maxBytes) : Fetched host dest files (result, files.put name bytes)
  | purged (e : UpgradeError) {name : Path} {bytes : Bytes}
      (hname : files.creates host.linkLimit dest = some name)
      (hbytes : bytes.length ≤ host.maxBytes) :
      Fetched host dest files (.error e, removeFile (files.put name bytes) dest)

lemma put_put (files : Files) (name : Path) (a b : Bytes) :
    (files.put name a).put name b = files.put name b := Function.update_idem _ _ _

variable {name path : Path} {files : Files} {bytes : Bytes} {entry : ManifestBinary}

lemma fetched_receive (url : host.Url) {dest : Path}
    (hn : files.creates host.linkLimit dest = some name) (broken : Option String)
    (chunks : List Bytes) (hb : bytes.length ≤ host.maxBytes) :
    Fetched host dest files
      (receive host url dest name broken chunks bytes (files.put name bytes)) := by
  induction chunks generalizing bytes with
  | nil => cases broken <;> exact .written _ hn hb
  | cons chunk chunks ih =>
    rw [receive]
    split
    · exact .purged _ hn hb
    · rename_i hf
      rw [put_put]
      exact ih (by rw [length_append]; omega)

lemma fetched_download (srv : Server) (url : host.Url) (dest : Path) (files : Files) :
    Fetched host dest files (download host srv url dest files) := by
  have hf : ∀ left attempt lastError,
      Fetched host dest files (downloadFrom host url dest srv.answer files left attempt lastError) := by
    intro left
    induction left with
    | zero => exact fun _ _ => .untouched _
    | succ left ih =>
      intro attempt lastError
      rw [downloadFrom]
      split
      · exact ih _ _
      · exact ih _ _
      split
      · exact .untouched _
      split
      · exact .untouched _
      · rename_i name hn
        exact fetched_receive url hn _ _ (Nat.zero_le _)
  unfold download
  split
  · exact .untouched _
  · exact hf 4 0 ""

def breaking (bytes : Bytes) : Server := ⟨.ok (), fun _ => .body none [bytes] (some "reset")⟩

section

variable (hb : bytes.length ≤ host.maxBytes) (url : host.Url) {dest : Path}
  (hn : files.creates host.linkLimit dest = some name)

include hb hn

lemma download_serving :
    download host (serving bytes) url dest files = (.ok (), files.put name bytes) := by
  have hl : ¬ host.maxBytes < bytes.length := by omega
  simp [download, serving, downloadFrom, getD_none, hn, receive, hl, put_put]

lemma download_breaking :
    ∃ e, download host (breaking bytes) url dest files = (.error e, files.put name bytes) := by
  have hl : ¬ host.maxBytes < bytes.length := by omega
  simp only [download, breaking, downloadFrom, getD_none, Nat.not_lt_zero, if_false, hn,
    receive, length_nil, Nat.zero_add, hl, nil_append, put_put]
  exact ⟨_, rfl⟩

end

lemma readFile_eq_ok :
    host.readFile files path = .ok bytes ↔ files.read host.linkLimit path = some bytes :=
  okOr_eq_ok

lemma verifyBinaryDigest_eq_ok {sha : B256} {blake3 : Option B256} :
    host.verifyBinaryDigest files path sha blake3 = .ok () ↔
      ∃ bytes, files.read host.linkLimit path = some bytes ∧ host.sha256 bytes = sha ∧
        (blake3 = none ∨ blake3 = some (host.blake3 bytes)) := by
  unfold Host.verifyBinaryDigest
  cases hr : files.read host.linkLimit path with
  | none =>
    have he : host.readFile files path = .error (host.ioError files path) := by
      rw [Host.readFile, hr]
      rfl
    simp [he, Except.mapError, bind, Except.bind]
  | some bytes =>
    rw [readFile_eq_ok.mpr hr]
    rcases blake3 with _ | expected
    · simp [Except.mapError, bind, Except.bind, rejectIf_eq_ok]
    by_cases hb : host.blake3 bytes = expected
    · simp [Except.mapError, bind, Except.bind, hb, rejectIf]
    · simp [Except.mapError, bind, Except.bind, hb, rejectIf, Ne.symm hb]

def EntryDigests (host : Host) (entry : ManifestBinary) (bytes : Bytes) : Prop :=
  entry.sha256Bytes = .ok (host.sha256 bytes) ∧
    (entry.blake3Bytes = .ok none ∨ entry.blake3Bytes = .ok (some (host.blake3 bytes)))

lemma verifyAsset_eq_ok {asset : Path} {files' : Files}
    (h : verifyAsset host serviceId v entry asset files = (.ok (), files')) :
    files' = files ∧ ∃ bytes, files.read host.linkLimit asset = some bytes ∧
      EntryDigests host entry bytes := by
  unfold verifyAsset at h
  rcases hsha : entry.sha256Bytes with e | expectedSha
  · simp [hsha] at h
  rcases hb : entry.blake3Bytes with e | expectedBlake3
  · simp [hsha, hb] at h
  simp only [hsha, hb] at h
  rcases hv : host.verifyBinaryDigest files asset expectedSha expectedBlake3 with e | u
  · simp [hv] at h
  simp only [hv, Prod.mk.injEq, true_and] at h
  obtain ⟨bytes, hr, hby, hb'⟩ := verifyBinaryDigest_eq_ok.mp hv
  refine ⟨h.symm, bytes, hr, by rw [hsha, hby], ?_⟩
  rw [hb]
  exact hb'.imp (congrArg ok) (congrArg ok)

lemma verifyAsset_of_digests {asset : Path} (hr : files.read host.linkLimit asset = some bytes)
    (hd : EntryDigests host entry bytes) :
    verifyAsset host serviceId v entry asset files = (.ok (), files) := by
  unfold verifyAsset
  obtain ⟨hsha, hb | hb⟩ := hd
  · rw [hsha, hb]
    simp [verifyBinaryDigest_eq_ok.mpr ⟨bytes, hr, rfl, .inl rfl⟩]
  · rw [hsha, hb]
    simp [verifyBinaryDigest_eq_ok.mpr ⟨bytes, hr, rfl, .inr rfl⟩]

lemma manifestEntry_eq_ok {url : host.Url} :
    manifestEntry host serviceId v bytes = .ok (entry, url) ↔
      (∃ mf, parseManifest host bytes = .ok mf ∧ selectForCurrentPlatform host mf = some entry) ∧
      resolveUrl host entry.url = .ok url := by
  unfold manifestEntry
  rcases hp : parseManifest host bytes with e | mf
  · simp [Except.mapError, bind, Except.bind]
  simp only [Except.mapError, bind, Except.bind, Except.ok.injEq, exists_eq_left']
  rcases hs : selectForCurrentPlatform host mf with _ | selected
  · simp [okOr]
  simp only [okOr, some.injEq]
  cases hurl : resolveUrl host selected.url with
  | error e =>
    simp only [reduceCtorEq, false_iff, not_and]
    rintro rfl
    rw [hurl]
    simp
  | ok resolved =>
    simp only [pure, Except.pure, Except.ok.injEq, Prod.mk.injEq]
    constructor
    · rintro ⟨rfl, rfl⟩
      exact ⟨rfl, hurl⟩
    · rintro ⟨rfl, h⟩
      rw [hurl] at h
      exact ⟨rfl, Except.ok.inj h⟩

def WritesTo (host : Host) (files : Files) (p q : Path) : Prop :=
  ∃ name, files.creates host.linkLimit p = some name ∧ files.follow host.linkLimit q = some name

/-- Some bytes within the limit are not pinned by the version. -/
def Unvouched (host : Host) (version : BinaryVersionInfo) : Prop :=
  ∃ bytes : Bytes, bytes.length ≤ host.maxBytes ∧ ¬ Pinned host version.sha256 bytes

structure ManifestFor (host : Host) (version : BinaryVersionInfo) (bytes : Bytes)
    (entry : ManifestBinary) : Prop where
  limit : bytes.length ≤ host.maxBytes
  digest : host.sha256 bytes = version.sha256
  selected : ∃ manifest, parseManifest host bytes = .ok manifest ∧
    selectForCurrentPlatform host manifest = some entry
  resolved : ∃ url, resolveUrl host entry.url = .ok url

inductive Exposed (host : Host) (cacheDir : Path) (version : BinaryVersionInfo) (files : Files) : Prop
  | part (hwrites : WritesTo host files (tempPath host cacheDir version)
      (destPath host cacheDir version)) (hbytes : Unvouched host version)
  | asset (hmanifest : ∃ bytes entry, ManifestFor host version bytes entry)
      (hcreates : files.creates host.linkLimit (tempPath host cacheDir version) ≠ none)
      (hwrites : WritesTo host files (assetPath host cacheDir version)
        (destPath host cacheDir version)) (hbytes : Unvouched host version)
  | lost (hasset : ∃ bytes entry assetBytes, ManifestFor host version bytes entry ∧
        assetBytes.length ≤ host.maxBytes ∧ EntryDigests host entry assetBytes)
      (hcreates : files.creates host.linkLimit (assetPath host cacheDir version) ≠ none)
      (hover : tempPath host cacheDir version ∈
        files.visits host.linkLimit (assetPath host cacheDir version))
      (hdest : destPath host cacheDir version ∉
        files.visits host.linkLimit (assetPath host cacheDir version))
      (hdir : files (destPath host cacheDir version) ≠ some .dir)

/-- The cached binary is taken without a download. -/
def CacheHit (host : Host) (cacheDir : Path) (version : BinaryVersionInfo) (files : Files) : Prop :=
  uriLooksLikeManifest version.binaryUri = false ∧
    (host.verifyBinaryDigest files (destPath host cacheDir version) version.sha256 none).isOk = true

def cleared (host : Host) (cacheDir : Path) (version : BinaryVersionInfo) (files : Files) : Files :=
  if files.present host.linkLimit (destPath host cacheDir version) then
    removeFile files (destPath host cacheDir version)
  else files

def Unexposed (host : Host) (cacheDir : Path) (version : BinaryVersionInfo) (files : Files) : Prop :=
  CacheHit host cacheDir version files ∨ (∀ url, resolveUrl host version.binaryUri ≠ .ok url) ∨
    ¬ Exposed host cacheDir version (cleared host cacheDir version files)

/-- What stands at the destination is pinned by the version. -/
def DestVouched (host : Host) (cacheDir : Path) (version : BinaryVersionInfo) (files : Files) : Prop :=
  ∀ bytes, files.read host.linkLimit (destPath host cacheDir version) = some bytes →
    Pinned host version.sha256 bytes

variable {files : Files}

section

variable (h : DestVouched host dir v files)

include h

lemma DestVouched.removeFile (path : Path) : DestVouched host dir v (removeFile files path) := by
  unfold Manager.removeFile
  rcases hu : files.unlink path with _ | files'
  · exact h
  intro bytes hr
  rw [getD_some, unlink_eq_some hu] at hr
  exact h bytes (read_of_read_remove hr)

lemma DestVouched.put (hn : files.creates host.linkLimit path = some name)
    (hb : bytes.length ≤ host.maxBytes)
    (hs : WritesTo host files path (destPath host dir v) → ¬ Unvouched host v) :
    DestVouched host dir v (files.put name bytes) := by
  intro read hr
  have hne := next_of_creates hn
  by_cases hf : files.follow host.linkLimit (destPath host dir v) = some name
  · rw [read_put_of_follow bytes hf] at hr
    cases hr
    by_contra hnot
    exact hs ⟨name, hn, hf⟩ ⟨bytes, hb, hnot⟩
  · rw [read_put_of_ne hne bytes hf] at hr
    exact h read hr

lemma DestVouched.fetched {r : Except UpgradeError Unit × Files} (hf : Fetched host path files r)
    (hs : WritesTo host files path (destPath host dir v) → ¬ Unvouched host v) :
    DestVouched host dir v r.2 := by
  cases hf with
  | untouched e => exact h
  | written result hn hb => exact h.put hn hb hs
  | purged e hn hb => exact (h.put hn hb hs).removeFile path

lemma DestVouched.verifyAsset (serviceId : ℕ) (entry : ManifestBinary) (asset : Path) :
    DestVouched host dir v (verifyAsset host serviceId v entry asset files).2 := by
  unfold Manager.verifyAsset
  split
  · exact h
  · exact h
  · split
    · exact h.removeFile asset
    · exact h

end

lemma read_removeFile_of_not_mem (h : name ∉ files.visits host.linkLimit path) :
    (removeFile files name).read host.linkLimit path = files.read host.linkLimit path := by
  unfold removeFile
  rcases hu : files.unlink name with _ | files'
  · rfl
  rw [getD_some, unlink_eq_some hu]
  exact read_remove_of_not_mem h

lemma read_removeFile_of_mem (h : name ∈ files.visits host.linkLimit path) :
    (removeFile files name).read host.linkLimit path = none := by
  unfold removeFile
  cases hu : files.unlink name with
  | some files' =>
    rw [getD_some, unlink_eq_some hu]
    exact read_remove_of_mem h
  | none =>
    -- nothing was removed, because the way ends at the name and there is no file
    by_contra hr
    obtain ⟨bytes, hr⟩ := ne_none_iff_exists'.mp hr
    obtain ⟨q, hf, hfi⟩ := read_eq_some.mp hr
    obtain ⟨m, -, hm⟩ := follow_of_mem_visits hf h
    rcases m with _ | m
    · cases hm
    unfold unlink at hu
    split at hu
    · simp_all [follow, Fs.next]
    · simp_all [follow, Fs.next]
    · cases hu

lemma read_cleared (host : Host) (dir : Path) (v : BinaryVersionInfo) (files : Files) :
    (cleared host dir v files).read host.linkLimit (destPath host dir v) = none := by
  unfold cleared
  cases hp : files.present host.linkLimit (destPath host dir v) with
  | false =>
    simp only [Bool.false_eq_true, if_false]
    rcases hr : files.read host.linkLimit (destPath host dir v) with _ | bytes
    · rfl
    obtain ⟨q, hf, hfi⟩ := read_eq_some.mp hr
    simp [present, hf, hfi] at hp
  | true =>
    simp only [if_true, removeFile]
    unfold unlink
    split
    · rename_i hn
      rcases hl : host.linkLimit with _ | n
      · rfl
      simp [Fs.read, follow, Fs.next, hn]
    · rename_i hdir
      rcases hl : host.linkLimit with _ | n
      · rfl
      simp [Fs.read, follow, Fs.next, hdir]
    · rw [getD_some]
      rcases hl : host.linkLimit with _ | n
      · rfl
      simp [Fs.read, follow, Fs.next]

lemma install_spec (h : DestVouched host dir v files) (hpa : path ≠ destPath host dir v)
    (hre : files.read host.linkLimit path = some bytes)
    (hb : Pinned host v.sha256 bytes) :
    match install host files path (destPath host dir v) with
    | (.error _, files') => DestVouched host dir v files'
    | (.ok dest, files') => dest = destPath host dir v ∧
        files'.read host.linkLimit dest = some bytes ∧
        files.rename path dest = some files' ∧ files'.present host.linkLimit dest = true := by
  unfold install
  rcases hr : files.rename path (destPath host dir v) with _ | files'
  · exact h
  simp only [Host.makeExecutable]
  cases hp : files'.present host.linkLimit (destPath host dir v) with
  | false =>
    intro read hr'
    have hs := read_of_read_rename hpa hr hr'
    rw [hre] at hs
    cases hs
    exact hb
  | true =>
    simp only [if_true, Except.mapError]
    exact ⟨trivial, read_rename_of_present hpa hr hp hre, hr, hp⟩

def Swapped (host : Host) (cacheDir : Path) (version : BinaryVersionInfo) :
    Except UpgradeError Path × Files → Prop
  | (.error _, files) => DestVouched host cacheDir version files
  | (.ok path, files) => path = destPath host cacheDir version ∧
      tempPath host cacheDir version ∉ files.visits host.linkLimit path ∧
      ∃ bytes, files.read host.linkLimit path = some bytes ∧ Pinned host version.sha256 bytes

variable {assetName : Path} {assetBytes : Bytes}

section Harmless

variable (hu : ¬ Exposed host dir v files)
  (hn : files.creates host.linkLimit (tempPath host dir v) = some name)
  (ha : files.creates host.linkLimit (assetPath host dir v) = some assetName)
  (hm : ManifestFor host v bytes entry) (hal : assetBytes.length ≤ host.maxBytes)
  (hed : EntryDigests host entry assetBytes)

include hn ha hm hal hed in
lemma exposed_of_install {files' : Files}
    (hr : ((files.put name bytes).put assetName assetBytes).rename
      (assetPath host dir v) (destPath host dir v) = some files')
    (hp : files'.present host.linkLimit (destPath host dir v) = true)
    (hmem : tempPath host dir v ∈ files'.visits host.linkLimit (destPath host dir v)) :
    Exposed host dir v files := by
  obtain ⟨hte, hnd⟩ := creates_eq_some.mp hn
  obtain ⟨hf, had⟩ := creates_eq_some.mp ha
  have hnt : files.next name = none := next_of_follow hte
  have hn' : (files.put name bytes).next assetName = none := by
    rw [next_put hnt]
    exact next_of_follow hf
  obtain ⟨-, -, -, -, -, ht, hnot⟩ := follow_of_present_rename
    (assetPath_ne_destPath host dir v) hr hp
  obtain ⟨-, -, -, hdir, -⟩ := rename_eq_some hr
  rw [visits_put hn', visits_put hnt] at ht hnot
  refine .lost ⟨bytes, entry, assetBytes, hm, hal, hed⟩ (by rw [ha]; simp) ?_ hnot ?_
  · apply mem_of_mem_tail
    rw [← ht]
    rcases hl : host.linkLimit with _ | n
    · rw [hl] at hmem
      cases hmem
    rw [hl, visits] at hmem
    exact (mem_cons.mp hmem).resolve_left (tempPath_ne_destPath host dir v)
  · intro hd
    apply hdir
    have hne : destPath host dir v ≠ name := fun heq => hnd (heq ▸ hd)
    have hne' : destPath host dir v ≠ assetName := fun heq => had (heq ▸ hd)
    simp [put, hne, hne', hd]

include hu hn hm

include ha hal hed in
lemma swapped_install
    (hde : DestVouched host dir v ((files.put name bytes).put assetName assetBytes)) :
    Swapped host dir v (install host ((files.put name bytes).put assetName assetBytes)
        (assetPath host dir v) (destPath host dir v)) := by
  have hre : ((files.put name bytes).put assetName assetBytes).read host.linkLimit
      (assetPath host dir v) = some assetBytes := by
    have ha' := ha
    rw [← creates_put hn bytes] at ha'
    exact read_put_of_creates assetBytes ha'
  have hp : Pinned host v.sha256 assetBytes := by
    obtain ⟨mf, hpa, hse⟩ := hm.selected
    exact .inr ⟨bytes, mf, entry, hm.digest, hpa, hse, hed.1, hed.2⟩
  have hs := install_spec hde (assetPath_ne_destPath host dir v) hre hp
  rcases hi : install host ((files.put name bytes).put assetName assetBytes)
      (assetPath host dir v) (destPath host dir v) with ⟨result, files'⟩
  rw [hi] at hs
  rcases result with e | path
  · exact hs
  obtain ⟨rfl, hr', hr, hpr⟩ := hs
  exact ⟨rfl, fun hmem => hu (exposed_of_install hn ha hm hal hed hr hpr hmem), assetBytes, hr', hp⟩

lemma swapped_swapAsset (hde : DestVouched host dir v (files.put name bytes))
    (srv : Server) (url : host.Url) :
    Swapped host dir v (swapAsset host serviceId dir v srv entry url (files.put name bytes)) := by
  have hs : WritesTo host (files.put name bytes) (assetPath host dir v)
      (destPath host dir v) → ¬ Unvouched host v := by
    rintro ⟨assetName, hc, hfo⟩ hun
    rw [creates_put hn] at hc
    rw [follow_put (next_of_creates hn)] at hfo
    exact hu (.asset ⟨bytes, entry, hm⟩ (by rw [hn]; simp) ⟨assetName, hc, hfo⟩ hun)
  have hf := fetched_download srv url (assetPath host dir v) (files.put name bytes)
  simp only [swapAsset]
  cases hd : download host srv url (assetPath host dir v) (files.put name bytes) with
  | mk result files' =>
    rw [hd] at hf
    have hd' : DestVouched host dir v files' := hde.fetched hf hs
    rcases result with e | u
    · exact hd'
    simp only
    rcases hv : verifyAsset host serviceId v entry (assetPath host dir v)
        files' with ⟨result, files''⟩
    rcases result with e | u
    · have hd'' := hd'.verifyAsset serviceId entry (assetPath host dir v)
      rw [hv] at hd''
      exact hd''
    obtain ⟨rfl, b, hb, hdi⟩ := verifyAsset_eq_ok hv
    cases hf with
    | written _ ha hal =>
      rename_i assetName assetBytes
      rw [read_put_of_creates assetBytes ha] at hb
      cases hb
      rw [creates_put hn] at ha
      exact swapped_install hu hn ha hm hal hdi hd'

omit hm

variable (hl : bytes.length ≤ host.maxBytes)
  (hd : DestVouched host dir v (files.put name bytes))

include hl hd

lemma swapped_swapViaManifest (serviceId : ℕ) (srv : Server) :
    Swapped host dir v (swapViaManifest host serviceId dir v srv bytes (files.put name bytes)) := by
  have hr := read_put_of_creates bytes hn
  unfold swapViaManifest verifyAgainstOnchain
  rcases hv : host.verifyBinaryDigest (files.put name bytes) (tempPath host dir v)
      v.sha256 none with e | u
  · exact hd.removeFile _
  obtain ⟨b, hb, hsha, -⟩ := verifyBinaryDigest_eq_ok.mp hv
  rw [hr] at hb
  cases hb
  rcases he : manifestEntry host serviceId v bytes with e | selected
  · exact hd
  obtain ⟨entry, url⟩ := selected
  obtain ⟨hs, hurl⟩ := manifestEntry_eq_ok.mp he
  exact swapped_swapAsset hu hn ⟨hl, hsha, hs, ⟨url, hurl⟩⟩ hd srv url

lemma trusted_settleDownload (net : Network) :
    Trusted host dir v (settleDownload host serviceId dir v net (files.put name bytes)) := by
  have hr := read_put_of_creates bytes hn
  simp only [settleDownload, readFile_eq_ok.mpr hr]
  split
  · have hs := swapped_swapViaManifest hu hn hl hd serviceId net.asset
    rcases hre : swapViaManifest host serviceId dir v net.asset bytes
        (files.put name bytes) with ⟨result, files'⟩
    rw [hre] at hs
    rcases result with e | path
    · exact DestVouched.removeFile hs _
    obtain ⟨rfl, hv, read, hr', hp⟩ := hs
    exact ⟨read, by rw [read_removeFile_of_not_mem hv, hr'], hp⟩
  · unfold verifyAgainstOnchain
    rcases hve : host.verifyBinaryDigest (files.put name bytes)
        (tempPath host dir v) v.sha256 none with e | u
    · exact hd.removeFile _
    obtain ⟨b, hb, hsha, -⟩ := verifyBinaryDigest_eq_ok.mp hve
    rw [hr] at hb
    cases hb
    have hsp := install_spec hd (tempPath_ne_destPath host dir v) hr (.inl hsha)
    simp only
    rcases hi : install host (files.put name bytes) (tempPath host dir v)
        (destPath host dir v) with ⟨result, files'⟩
    rw [hi] at hsp
    rcases result with e | path
    · exact hsp
    obtain ⟨rfl, hr', -⟩ := hsp
    exact ⟨bytes, hr', .inl hsha⟩

end Harmless

lemma trusted_fetchAndVerify (hde : DestVouched host dir v files)
    (hs : (∀ url, resolveUrl host v.binaryUri ≠ .ok url) ∨
      ¬ Exposed host dir v files) (net : Network) :
    Trusted host dir v (fetchAndVerify host serviceId dir v net files) := by
  unfold fetchAndVerify
  rcases hurl : resolveUrl host v.binaryUri with e | url
  · exact hde
  have hu : ¬ Exposed host dir v files := hs.resolve_left fun h => h url hurl
  have hf := fetched_download net.published url (tempPath host dir v) files
  simp only
  cases hd : download host net.published url (tempPath host dir v) files with
  | mk result files' =>
    rw [hd] at hf
    have hd' : DestVouched host dir v files' := hde.fetched hf fun hw hb => hu (.part hw hb)
    rcases result with e | u
    · exact hd'
    cases hf with
    | written _ hn hl => exact trusted_settleDownload hu hn hl hd' net

lemma downloadAndVerify_of_hit (h : CacheHit host dir v files) (net : Network) :
    Trusted host dir v (downloadAndVerify host serviceId dir v net files) := by
  obtain ⟨huri, hok⟩ := h
  cases hv : host.verifyBinaryDigest files (destPath host dir v) v.sha256 none with
  | error e => simp [hv, Except.isOk, Except.toBool] at hok
  | ok u =>
    obtain ⟨bytes, hr, hsha, -⟩ := verifyBinaryDigest_eq_ok.mp hv
    have hp : files.present host.linkLimit (destPath host dir v) = true := by
      obtain ⟨q, hf, hfi⟩ := read_eq_some.mp hr
      simp [present, hf, hfi]
    simp only [downloadAndVerify, hp, huri, hok, Host.makeExecutable, and_self, if_true,
      Except.mapError]
    exact ⟨bytes, hr, .inl hsha⟩

lemma downloadAndVerify_of_miss (h : ¬ CacheHit host dir v files) (net : Network) :
    downloadAndVerify host serviceId dir v net files = fetchAndVerify host serviceId dir v net
          (cleared host dir v files) := by
  unfold downloadAndVerify cleared
  simp only
  split
  · exact if_neg h
  · rfl

lemma not_trusted_of_error {e : UpgradeError}
    (hr : files.read host.linkLimit (destPath host dir v) = some bytes)
    (hb : ¬ Pinned host v.sha256 bytes) :
    ¬ Trusted host dir v (.error e, files) :=
  fun h => hb (h bytes hr)

section Breakable

def Breakable (host : Host) (serviceId : ℕ) (cacheDir : Path) (version : BinaryVersionInfo)
    (files : Files) : Prop :=
  ∃ network, ¬ Trusted host cacheDir version
    (fetchAndVerify host serviceId cacheDir version network files)

variable (url : host.Url) (hurl : resolveUrl host v.binaryUri = .ok url)
  (hn : files.creates host.linkLimit (tempPath host dir v) = some name)
  (hma : ManifestFor host v bytes entry)

include hurl

lemma breakable_of_part (hw : WritesTo host files (tempPath host dir v) (destPath host dir v))
    (hb : Unvouched host v) : Breakable host serviceId dir v files := by
  obtain ⟨name, hn, hf⟩ := hw
  obtain ⟨bytes, hl, hnot⟩ := hb
  obtain ⟨e, hd⟩ := download_breaking hl url hn
  refine ⟨⟨breaking bytes, breaking bytes⟩, ?_⟩
  simp only [fetchAndVerify, hurl, hd]
  exact not_trusted_of_error (read_put_of_follow bytes hf) hnot

include hn hma in
lemma fetchAndVerify_of_manifest (serviceId : ℕ) (srv : Server) :
    ∃ aurl, fetchAndVerify host serviceId dir v ⟨serving bytes, srv⟩ files
      = ((swapAsset host serviceId dir v srv entry aurl (files.put name bytes)).1,
        removeFile (swapAsset host serviceId dir v srv entry aurl
          (files.put name bytes)).2 (tempPath host dir v)) := by
  obtain ⟨aurl, ha⟩ := hma.resolved
  obtain ⟨mf, hp, hs⟩ := hma.selected
  have hr := read_put_of_creates bytes hn
  have hv : host.verifyBinaryDigest (files.put name bytes) (tempPath host dir v)
      v.sha256 none = .ok () :=
    verifyBinaryDigest_eq_ok.mpr ⟨bytes, hr, hma.digest, .inl rfl⟩
  have he : manifestEntry host serviceId v bytes = .ok (entry, aurl) :=
    manifestEntry_eq_ok.mpr ⟨⟨mf, hp, hs⟩, ha⟩
  have hmo : bytesAreManifest host bytes = true := by
    rw [bytesAreManifest, hp]
    rfl
  refine ⟨aurl, ?_⟩
  simp [fetchAndVerify, hurl, download_serving hma.limit url hn, settleDownload,
    readFile_eq_ok.mpr hr, hmo, Bool.or_true, swapViaManifest, verifyAgainstOnchain, hv, he]

include hn hma in
lemma breakable_of_asset (hw : WritesTo host files (assetPath host dir v) (destPath host dir v))
    (hb : Unvouched host v) : Breakable host serviceId dir v files := by
  by_cases hp : WritesTo host files (tempPath host dir v) (destPath host dir v)
  · exact breakable_of_part url hurl hp hb
  obtain ⟨assetName, ha, hf⟩ := hw
  obtain ⟨assetBytes, hl, hnot⟩ := hb
  have hne := next_of_creates hn
  have ha' := ha
  rw [← creates_put hn bytes] at ha'
  have hf' : (files.put name bytes).follow host.linkLimit (destPath host dir v)
      = some assetName := by rw [follow_put hne, hf]
  -- the manifest is removed at the end, but is not on the way of the destination
  have hv : tempPath host dir v ∉
      ((files.put name bytes).put assetName assetBytes).visits host.linkLimit
        (destPath host dir v) := by
    rw [visits_put (next_of_follow hf'), visits_put hne]
    intro hmem
    obtain ⟨m, hm, ht⟩ := follow_of_mem_visits hf hmem
    exact hp ⟨assetName, creates_eq_some.mpr ⟨(follow_mono ht hm).1, (creates_eq_some.mp ha).2⟩, hf⟩
  obtain ⟨aurl, hfe⟩ := fetchAndVerify_of_manifest url hurl hn hma serviceId (breaking assetBytes)
  obtain ⟨e, hd⟩ := download_breaking hl aurl ha'
  refine ⟨⟨serving bytes, breaking assetBytes⟩, ?_⟩
  rw [hfe]
  simp only [swapAsset, hd]
  refine not_trusted_of_error ?_ hnot
  rw [read_removeFile_of_not_mem hv]
  exact read_put_of_follow assetBytes hf'

variable (ho : tempPath host dir v ∈
      files.visits host.linkLimit (assetPath host dir v))
  (hde : destPath host dir v ∉
    files.visits host.linkLimit (assetPath host dir v))
  (hdir : files (destPath host dir v) ≠ some .dir)

omit hurl in
include ho hde hdir in
lemma install_link (hf : files.follow host.linkLimit (assetPath host dir v) = some assetName)
    (assetBytes : Bytes) :
    ∃ files', install host (files.put assetName assetBytes) (assetPath host dir v)
        (destPath host dir v) = (.ok (destPath host dir v), files') ∧
      tempPath host dir v ∈ files'.visits host.linkLimit (destPath host dir v) := by
  have hne : files.next assetName = none := next_of_follow hf
  rw [← visits_put hne assetBytes] at ho hde
  rw [← follow_put hne assetBytes] at hf
  have hdir' : (files.put assetName assetBytes) (destPath host dir v) ≠ some .dir := by
    by_cases heq : destPath host dir v = assetName
    · simp [put, heq]
    · simpa [put, heq] using hdir
  have hfi : (files.put assetName assetBytes) assetName = some (.file assetBytes) := by
    simp [put]
  obtain ⟨n, hn⟩ : ∃ n, host.linkLimit = n + 1 := by
    rcases hl : host.linkLimit with _ | n
    · rw [hl] at hf
      cases hf
    exact ⟨n, rfl⟩
  rw [hn] at ho hde hf
  obtain ⟨x, hx, ho⟩ := (mem_visits_succ.mp ho).resolve_left (assetPath_ne_tempPath host dir v).symm
  obtain ⟨files', hr, hf', hs, hv, -⟩ := follow_rename_link (next_eq_some.mp hx) hdir' hde hf
  have hp : files'.present host.linkLimit (destPath host dir v) = true := by
    rw [hn]
    simp [present, hf', hs, hfi]
  refine ⟨files', ?_, ?_⟩
  · simp [install, hr, Host.makeExecutable, hp, Except.mapError]
  · rw [hn, hv]
    exact mem_cons_of_mem _ ho

include hma ho hde hdir in
lemma breakable_of_lost (hl : assetBytes.length ≤ host.maxBytes)
    (hdi : EntryDigests host entry assetBytes)
    (ha : files.creates host.linkLimit (assetPath host dir v) = some assetName) :
    Breakable host serviceId dir v files := by
  obtain ⟨hf, hn⟩ := creates_eq_some.mp ha
  -- both temporary names lead to one file
  have ht : files.creates host.linkLimit (tempPath host dir v) = some assetName := by
    obtain ⟨m, hm, hmf⟩ := follow_of_mem_visits hf ho
    exact creates_eq_some.mpr ⟨(follow_mono hmf hm).1, hn⟩
  have ha' := ha
  rw [← creates_put ht bytes] at ha'
  obtain ⟨aurl, hfe⟩ := fetchAndVerify_of_manifest url hurl ht hma serviceId (serving assetBytes)
  have hr := read_put_of_creates assetBytes ha
  obtain ⟨files', hi, hv⟩ := install_link ho hde hdir hf assetBytes
  refine ⟨⟨serving bytes, serving assetBytes⟩, ?_⟩
  rw [hfe]
  simp only [swapAsset, download_serving hl aurl ha', put_put, verifyAsset_of_digests hr hdi, hi]
  rintro ⟨read, hd, -⟩
  rw [read_removeFile_of_mem hv] at hd
  cases hd

lemma Exposed.breakable (he : Exposed host dir v files) (serviceId : ℕ) :
    Breakable host serviceId dir v files := by
  cases he with
  | part hw hb => exact breakable_of_part url hurl hw hb
  | asset hm hc hw hb =>
    obtain ⟨bytes, entry, hm⟩ := hm
    obtain ⟨name, hn⟩ := ne_none_iff_exists'.mp hc
    exact breakable_of_asset url hurl hn hm hw hb
  | lost ha hc ho hde hdir =>
    obtain ⟨bytes, entry, assetBytes, hm, hl, hd⟩ := ha
    obtain ⟨assetName, hn⟩ := ne_none_iff_exists'.mp hc
    exact breakable_of_lost url hurl hm ho hde hdir hl hd hn

end Breakable

/-- **The chain of trust.** A call ends with vouched bytes, or without others at the destination,
whatever the servers do, exactly when it fetches nothing or the links in the cache directory are
harmless. -/
theorem trusted_downloadAndVerify_iff (host : Host) (serviceId : ℕ) (cacheDir : Path)
    (version : BinaryVersionInfo) (files : Files) :
    (∀ network, Trusted host cacheDir version
      (downloadAndVerify host serviceId cacheDir version network files)) ↔
      Unexposed host cacheDir version files := by
  by_cases hhit : CacheHit host cacheDir version files
  · exact iff_of_true (downloadAndVerify_of_hit hhit) (.inl hhit)
  simp only [downloadAndVerify_of_miss hhit, Unexposed, hhit, false_or]
  constructor
  · intro h
    by_contra hnot
    push Not at hnot
    obtain ⟨⟨url, hurl⟩, he⟩ := hnot
    obtain ⟨network, hb⟩ := he.breakable url hurl serviceId
    exact hb (h network)
  · intro hs network
    refine trusted_fetchAndVerify (fun bytes hr => ?_) hs network
    rw [read_cleared] at hr
    cases hr

def zeroVersion : BinaryVersionInfo := ⟨1, B256.zero, ['b'], B256.zero, 0, false⟩

def linkedFiles : Files := fun path =>
  if path = tempPath plainHost [] zeroVersion then some (.link (destPath plainHost [] zeroVersion))
  else none

theorem refused_download_stays_at_destination :
    (downloadAndVerify plainHost 7 [] zeroVersion ⟨serving [1], serving []⟩ linkedFiles).1
      = .error (.sha256Mismatch 7 1 (hexEncode (List.replicate 32 0))
          (hexEncode (1 :: List.replicate 31 0))) ∧
    (downloadAndVerify plainHost 7 [] zeroVersion ⟨serving [1], serving []⟩ linkedFiles).2.read
      plainHost.linkLimit (destPath plainHost [] zeroVersion) = some [1] ∧
    ¬ Pinned plainHost zeroVersion.sha256 [1] := by
  refine ⟨by decide +kernel, by decide +kernel, ?_⟩
  rintro (hsha | ⟨bytes, manifest, -, -, hp, -⟩)
  · exact absurd hsha (by decide)
  · simp [parseManifest, bind, Except.bind, Except.mapError] at hp

end Gadget.Manager
