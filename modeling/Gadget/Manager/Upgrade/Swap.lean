import Gadget.Lib.FileSystem
import Gadget.Rust.HashMap
import Gadget.Rust.Text

/-!
# Versions, and the download and verification of a binary

Versions, policies and the shared record of upgrades. Then `download_and_verify` with everything it
calls: the cache of the destination file, the download with its retries, raw binaries and manifests, the
digest checks, and the purges and renamings.
-/

namespace Gadget.Manager

open Rust Lib.FileSystem

abbrev B256 := {bytes : Bytes // bytes.length = 32}

def B256.zero : B256 := ⟨List.replicate 32 0, List.length_replicate⟩

inductive UpgradePolicy where
  | approve
  | auto
  | manual

def UpgradePolicy.fromU8 : ℕ → UpgradePolicy
  | 0 => .approve
  | 1 => .auto
  | 2 => .manual
  | _ => .manual

structure BinaryVersionInfo where
  versionId : ℕ
  sha256 : B256
  binaryUri : List Char
  attestationHash : B256
  publishedAt : ℕ
  deprecated : Bool

def BinaryVersionInfo.hasAttestation (version : BinaryVersionInfo) : Bool :=
  decide (version.attestationHash ≠ B256.zero)

inductive IoError where
  | notFound
  | isADirectory
  | tooManyLinks
  deriving DecidableEq

def IoError.display : IoError → String
  | .notFound => "No such file or directory (os error 2)"
  | .isADirectory => "Is a directory (os error 21)"
  | .tooManyLinks => "Too many levels of symbolic links (os error 40)"

inductive ManagerError where
  | noFetchers
  | teeRuntimeUnavailable (reason : String)
  | hashMismatch (expected actual : List Char)
  | downloadFailed (url : List Char) (reason : String)
  | archiveTooLarge (url : List Char) (size max : ℕ)
  | missingIpfsGateway (url : List Char)
  | other (text : String)
  | io (e : IoError)
  | serialization (text : String)
  deriving DecidableEq

inductive UpgradeError where
  | noVersionsPublished (blueprintId : ℕ)
  | sha256Mismatch (serviceId versionId : ℕ) (expected actual : List Char)
  | attestationFailed (serviceId versionId : ℕ) (reason : String)
  | chainRead (text : String)
  | io (e : IoError)
  | manager (e : ManagerError)
  deriving DecidableEq

structure RunningBinary where
  versionId : ℕ
  sha256 : B256

inductive UpgradeOutcome where
  | swapped
  | sha256Mismatch
  | attestationFailed
  | downloadFailed

structure PendingUpgrade where
  serviceId : ℕ
  blueprintId : ℕ
  currentVersionId : Option ℕ
  currentSha256 : Option B256
  availableVersionId : ℕ
  availableSha256 : B256
  availableUri : List Char
  availableAttestationHash : B256
  policy : UpgradePolicy
  detectedAt : ℤ

structure UpgradeHistoryEntry where
  serviceId : ℕ
  blueprintId : ℕ
  fromVersionId : Option ℕ
  fromSha256 : Option B256
  toVersionId : ℕ
  toSha256 : B256
  policy : UpgradePolicy
  completedAt : ℤ
  outcome : UpgradeOutcome

def historyEntry (blueprintId serviceId : ℕ) (running : Option RunningBinary)
    (target : BinaryVersionInfo) (policy : UpgradePolicy) (outcome : UpgradeOutcome)
    (completedAt : ℤ) : UpgradeHistoryEntry where
  serviceId := serviceId
  blueprintId := blueprintId
  fromVersionId := running.map (·.versionId)
  fromSha256 := running.map (·.sha256)
  toVersionId := target.versionId
  toSha256 := target.sha256
  policy := policy
  completedAt := completedAt
  outcome := outcome

def historyCap : ℕ := 256

structure UpgradeState where
  running : HashMap ℕ RunningBinary
  policies : HashMap ℕ UpgradePolicy
  pending : HashMap ℕ PendingUpgrade
  history : List UpgradeHistoryEntry

namespace UpgradeState

def new : UpgradeState := ⟨∅, ∅, ∅, []⟩

variable (s : UpgradeState)

variable (serviceId : ℕ) (policy : UpgradePolicy)

def setRunning (running : RunningBinary) : UpgradeState :=
  { s with running := s.running.insert serviceId running }

def clearRunning : UpgradeState :=
  { s with running := s.running.erase serviceId, pending := s.pending.erase serviceId }

def setPolicy : UpgradeState :=
  { s with policies := s.policies.insert serviceId policy }

def recordPending (upgrade : PendingUpgrade) : UpgradeState :=
  { s with pending := s.pending.insert upgrade.serviceId upgrade }

def clearPending : UpgradeState :=
  { s with pending := s.pending.erase serviceId }

def pushHistory (entry : UpgradeHistoryEntry) : UpgradeState :=
  { s with history := (if historyCap ≤ s.history.length then s.history.tail else s.history) ++ [entry] }

@[simp] lemma running_setPolicy :
    (s.setPolicy serviceId policy).running = s.running := rfl

end UpgradeState

abbrev Path := List Char

abbrev Files := Fs Path Bytes

structure ManifestBinary where
  os : List Char
  arch : List Char
  url : List Char
  sha256 : List Char
  blake3 : Option (List Char)

structure BinaryManifest where
  schema : List Char
  binaries : List ManifestBinary

structure Host where
  Url : Type
  parseUrl : List Char → Except String Url
  urlText : Url → List Char
  sha256 : Bytes → B256
  blake3 : Bytes → B256
  /-- `serde_json::from_slice`. -/
  decodeManifest : Bytes → Except String BinaryManifest
  /-- `str::to_lowercase`. -/
  toLowercase : List Char → List Char
  /-- `std::env::consts`. -/
  os : List Char
  arch : List Char
  /-- `IPFS_GATEWAY_URL`. -/
  ipfsGateway : Option (List Char)
  /-- `MAX_ARCHIVE_BYTES`. -/
  maxArchiveBytes : Option (List Char)
  linkLimit : ℕ

inductive Response where
  | failed (text : String)
  | refused (status : String)
  | body (contentLength : Option ℕ) (chunks : List Bytes) (broken : Option String)

structure Server where
  client : Except String Unit
  answer : ℕ → Response

structure Network where
  published : Server
  asset : Server

variable (host : Host)

def manifestSchemaV1 : List Char :=
  ['t', 'a', 'n', 'g', 'l', 'e', '-', 'b', 'i', 'n', 'a', 'r', 'y', '-', 'm', 'a', 'n', 'i', 'f', 'e',
    's', 't', '/', 'v', '1']

variable (text : List Char)

def trimEndSlashes : List Char :=
  (text.reverse.dropWhile (· = '/')).reverse

def trimStartSlashes : List Char := text.dropWhile (· = '/')

def lastSegment : List Char := (text.reverse.takeWhile (· ≠ '/')).reverse

def uriLooksLikeManifest (uri : List Char) : Bool :=
  let path := uri.takeWhile fun c => decide (c ≠ '?' ∧ c ≠ '#')
  let name := lastSegment (trimEndSlashes path)
  (name.map Char.toLower).reverse.take 5 = "nosj.".toList

def parseManifest (bytes : Bytes) : Except ManagerError BinaryManifest := do
  let manifest ← (host.decodeManifest bytes).mapError ManagerError.serialization
  rejectIf (manifest.schema ≠ manifestSchemaV1)
    (.other ("unsupported binary manifest schema `" ++ String.ofList manifest.schema
      ++ "` (expected `" ++ String.ofList manifestSchemaV1 ++ "`)"))
  rejectIf (manifest.binaries = []) (.other "binary manifest lists no binaries")
  return manifest

def bytesAreManifest (bytes : Bytes) : Bool := (parseManifest host bytes).isOk

variable (value : List Char)

def normalizeArch : List Char :=
  let lower := host.toLowercase value
  if lower = "amd".toList then "x86".toList
  else if lower = "amd64".toList then "x86_64".toList
  else if lower = "arm64".toList then "aarch64".toList
  else lower

def containsText (needle text : List Char) : Bool := decide (needle <:+: text)

def normalizeOs : List Char :=
  let lower := host.toLowercase value
  if containsText "darwin".toList lower || containsText "macos".toList lower
      || decide (lower = "mac".toList ∨ lower = "osx".toList) then
    "macos".toList
  else if containsText "windows".toList lower then
    "windows".toList
  else if containsText "linux".toList lower then "linux".toList
  else if containsText "bsd".toList lower then "bsd".toList
  else if containsText "unknown".toList lower then
    "unknown".toList
  else lower

def formattedOs : List Char :=
  if host.os = "macos".toList then
    "apple-darwin".toList
  else if host.os = "windows".toList then
    "pc-windows-msvc".toList
  else if host.os = "linux".toList then
    "unknown-linux-gnu".toList
  else host.os

def selectForCurrentPlatform (manifest : BinaryManifest) : Option ManifestBinary :=
  manifest.binaries.find? fun binary =>
    decide (normalizeOs host binary.os = normalizeOs host (formattedOs host)) &&
      decide (normalizeArch host binary.arch = normalizeArch host host.arch)

def decodeHex32 (field : String) : Except ManagerError B256 := do
  let bytes ← (hexDecode (stripHexMarker value)).mapError fun err =>
    ManagerError.other ("manifest `" ++ field ++ "` is not valid hex: " ++ err)
  if h : bytes.length = 32 then return ⟨bytes, h⟩
  else
    throw (.other ("manifest `" ++ field ++ "` must be 32 bytes, got " ++ toString bytes.length))

def ManifestBinary.sha256Bytes (binary : ManifestBinary) : Except ManagerError B256 :=
  decodeHex32 binary.sha256 "sha256"

def ManifestBinary.blake3Bytes (binary : ManifestBinary) : Except ManagerError (Option B256) :=
  match binary.blake3 with
  | some hex => (decodeHex32 hex "blake3").map some
  | none => .ok none

/-- Bytes that a digest vouches for: directly, or through a manifest with this digest whose first
entry for this machine has their digests. -/
def Pinned (sha : B256) (bytes : Bytes) : Prop :=
  host.sha256 bytes = sha ∨
  ∃ manifestBytes manifest entry, host.sha256 manifestBytes = sha ∧
    parseManifest host manifestBytes = .ok manifest ∧
    selectForCurrentPlatform host manifest = some entry ∧
    entry.sha256Bytes = .ok (host.sha256 bytes) ∧
    (entry.blake3Bytes = .ok none ∨ entry.blake3Bytes = .ok (some (host.blake3 bytes)))

variable (files : Files)

variable (path : Path)

def Host.ioError : IoError :=
  match files.follow host.linkLimit path with
  | none => .tooManyLinks
  | some name =>
    match files name with
    | none => .notFound
    | some _ => .isADirectory

def Host.readFile : Except IoError Bytes :=
  okOr (files.read host.linkLimit path) (host.ioError files path)

def removeFile : Files := (files.unlink path).getD files

def Host.verifyBinaryDigest (expectedSha256 : B256) (expectedBlake3 : Option B256) :
    Except ManagerError Unit := do
  let bytes ← (host.readFile files path).mapError ManagerError.io
  match expectedBlake3 with
  | some expected =>
    rejectIf (host.blake3 bytes ≠ expected)
      (.hashMismatch (hexEncode expected.1) (hexEncode (host.blake3 bytes).1))
  | none => pure ()
  rejectIf (host.sha256 bytes ≠ expectedSha256)
    (.hashMismatch (hexEncode expectedSha256.1) (hexEncode (host.sha256 bytes).1))

def Host.makeExecutable : Except ManagerError Path :=
  if files.present host.linkLimit path then .ok path
  else .error (.other ("Failed to make the binary executable: "
    ++ (host.ioError files path).display))

def resolveUrl (raw : List Char) : Except UpgradeError host.Url :=
  match raw with
  | 'i' :: 'p' :: 'f' :: 's' :: ':' :: '/' :: '/' :: rest =>
    match host.ipfsGateway with
    | none => .error (.manager (.missingIpfsGateway raw))
    | some gateway =>
      (host.parseUrl (trimEndSlashes gateway ++ '/' :: trimStartSlashes rest)).mapError fun err =>
        .manager (.downloadFailed raw ("failed to build gateway URL: " ++ err))
  | _ => (host.parseUrl raw).mapError fun err => .manager (.downloadFailed raw err)

def Host.maxBytes : ℕ :=
  match (host.maxArchiveBytes.bind fun text => parseUnsigned (2 ^ 64 - 1) (text.map Char.toNat)).filter
      fun max => decide (0 < max) with
  | some max => max
  | none => 512 * 1024 * 1024

def receive (url : host.Url) (dest name : Path) (broken : Option String) :
    List Bytes → Bytes → Files → Except UpgradeError Unit × Files
  | [], _, files =>
    match broken with
    | none => (.ok (), files)
    | some reason => (.error (.manager (.downloadFailed (host.urlText url) reason)), files)
  | chunk :: chunks, written, files =>
    if host.maxBytes < written.length + chunk.length then
      (.error (.manager (.archiveTooLarge (host.urlText url) (written.length + chunk.length)
        host.maxBytes)), removeFile files dest)
    else
      receive url dest name broken chunks (written ++ chunk) (files.put name (written ++ chunk))

def downloadFrom (url : host.Url) (dest : Path) (answer : ℕ → Response) (files : Files) :
    ℕ → ℕ → String → Except UpgradeError Unit × Files
  | 0, _, lastError => (.error (.manager (.downloadFailed (host.urlText url) lastError)), files)
  | left + 1, attempt, _ =>
    match answer attempt with
    | .failed text => downloadFrom url dest answer files left (attempt + 1) text
    | .refused status => downloadFrom url dest answer files left (attempt + 1) ("HTTP " ++ status)
    | .body contentLength chunks broken =>
      if host.maxBytes < contentLength.getD 0 then
        (.error (.manager (.archiveTooLarge (host.urlText url) (contentLength.getD 0)
          host.maxBytes)), files)
      else
        match files.creates host.linkLimit dest with
        | none => (.error (.io (host.ioError files dest)), files)
        | some name => receive host url dest name broken chunks [] (files.put name [])

def download (server : Server) (url : host.Url) (dest : Path) (files : Files) :
    Except UpgradeError Unit × Files :=
  match server.client with
  | .error e => (.error (.chainRead ("http client: " ++ e)), files)
  | .ok () => downloadFrom host url dest server.answer files 4 0 ""

variable (cacheDir : Path)

def versionStem (versionId : ℕ) : Path :=
  cacheDir ++ "/binary-v".toList ++ Nat.toDigits 10 versionId ++ ['-']
    ++ host.arch ++ ['-']

variable (version : BinaryVersionInfo)

def destPath : Path :=
  versionStem host cacheDir version.versionId ++ hexEncode (version.sha256.1.take 8)

def tempPath : Path :=
  destPath host cacheDir version ++ ".part".toList

def assetPath : Path :=
  versionStem host cacheDir version.versionId ++ "asset.part".toList

def mapDigestError (serviceId versionId : ℕ) : ManagerError → UpgradeError
  | .hashMismatch expected actual => .sha256Mismatch serviceId versionId expected actual
  | other => .manager other

variable (serviceId : ℕ)

variable (version : BinaryVersionInfo)

def verifyAgainstOnchain (path : Path) (files : Files) : Except UpgradeError Unit × Files :=
  match host.verifyBinaryDigest files path version.sha256 none with
  | .error e => (.error (mapDigestError serviceId version.versionId e), removeFile files path)
  | .ok () => (.ok (), files)

def install (temp dest : Path) : Except UpgradeError Path × Files :=
  match files.rename temp dest with
  | none => (.error (.io (host.ioError files dest)), files)
  | some files => ((host.makeExecutable files dest).mapError UpgradeError.manager, files)

def manifestEntry (manifestBytes : Bytes) :
    Except UpgradeError (ManifestBinary × host.Url) := do
  let manifest ← (parseManifest host manifestBytes).mapError UpgradeError.manager
  let entry ← okOr (selectForCurrentPlatform host manifest)
    (.manager (.other ("binary manifest for service " ++ toString serviceId ++ " version "
      ++ toString version.versionId ++ " has no entry for " ++ String.ofList host.os ++ "/"
      ++ String.ofList host.arch)))
  let url ← resolveUrl host entry.url
  return (entry, url)

def verifyAsset (entry : ManifestBinary) (asset : Path) (files : Files) :
    Except UpgradeError Unit × Files :=
  match entry.sha256Bytes, entry.blake3Bytes with
  | .error e, _ => (.error (.manager e), files)
  | _, .error e => (.error (.manager e), files)
  | .ok expectedSha, .ok expectedBlake3 =>
    match host.verifyBinaryDigest files asset expectedSha expectedBlake3 with
    | .error e => (.error (mapDigestError serviceId version.versionId e), removeFile files asset)
    | .ok () => (.ok (), files)

def swapAsset (cacheDir : Path) (version : BinaryVersionInfo) (server : Server)
    (entry : ManifestBinary) (url : host.Url) (files : Files) : Except UpgradeError Path × Files :=
  let asset := assetPath host cacheDir version
  match download host server url asset files with
  | (.error e, files) => (.error e, files)
  | (.ok (), files) =>
    match verifyAsset host serviceId version entry asset files with
    | (.error e, files) => (.error e, files)
    | (.ok (), files) => install host files asset (destPath host cacheDir version)

def swapViaManifest (cacheDir : Path) (version : BinaryVersionInfo)
    (server : Server) (manifestBytes : Bytes) (files : Files) : Except UpgradeError Path × Files :=
  match verifyAgainstOnchain host serviceId version (tempPath host cacheDir version) files with
  | (.error e, files) => (.error e, files)
  | (.ok (), files) =>
    match manifestEntry host serviceId version manifestBytes with
    | .error e => (.error e, files)
    | .ok (entry, url) => swapAsset host serviceId cacheDir version server entry url files

def settleDownload (cacheDir : Path) (version : BinaryVersionInfo)
    (network : Network) (files : Files) : Except UpgradeError Path × Files :=
  let temp := tempPath host cacheDir version
  match host.readFile files temp with
  | .error e => (.error (.io e), files)
  | .ok downloaded =>
    if uriLooksLikeManifest version.binaryUri || bytesAreManifest host downloaded then
      let (result, files) :=
        swapViaManifest host serviceId cacheDir version network.asset downloaded files
      (result, removeFile files temp)
    else
      match verifyAgainstOnchain host serviceId version temp files with
      | (.error e, files) => (.error e, files)
      | (.ok (), files) => install host files temp (destPath host cacheDir version)

def fetchAndVerify (cacheDir : Path) (version : BinaryVersionInfo)
    (network : Network) (files : Files) : Except UpgradeError Path × Files :=
  match resolveUrl host version.binaryUri with
  | .error e => (.error e, files)
  | .ok url =>
    match download host network.published url (tempPath host cacheDir version) files with
    | (.error e, files) => (.error e, files)
    | (.ok (), files) => settleDownload host serviceId cacheDir version network files

def downloadAndVerify (cacheDir : Path) (version : BinaryVersionInfo)
    (network : Network) (files : Files) : Except UpgradeError Path × Files :=
  let dest := destPath host cacheDir version
  if files.present host.linkLimit dest then
    if uriLooksLikeManifest version.binaryUri = false ∧
        (host.verifyBinaryDigest files dest version.sha256 none).isOk then
      ((host.makeExecutable files dest).mapError UpgradeError.manager, files)
    else fetchAndVerify host serviceId cacheDir version network (removeFile files dest)
  else fetchAndVerify host serviceId cacheDir version network files

end Gadget.Manager
