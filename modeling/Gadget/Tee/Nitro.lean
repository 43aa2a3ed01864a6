import Gadget.Rust.Utf8
import Gadget.Tee.Attestation

/-!
# Nitro attestation documents

`NitroVerifier`: the decoder of a document, the check of its certificate chain and signature, the
checks of the policy, and the report that is made from the document.
-/

namespace Gadget.Tee

open Rust

inductive Cbor where
  | integer (n : ℤ)
  | bytes (bytes : Bytes)
  | float (bits : UInt64)
  | text (text : List Char)
  | bool (b : Bool)
  | null
  | tag (n : ℕ) (value : Cbor)
  | array (items : List Cbor)
  | map (entries : List (Cbor × Cbor))

def Cbor.asInteger : Cbor → Option ℤ
  | .integer n => some n
  | _ => none

def Cbor.asBytes : Cbor → Option Bytes
  | .bytes data => some data
  | _ => none

def Cbor.asText : Cbor → Option (List Char)
  | .text string => some string
  | _ => none

def Cbor.asArray : Cbor → Option (List Cbor)
  | .array items => some items
  | _ => none

def Cbor.asMap : Cbor → Option (List (Cbor × Cbor))
  | .map entries => some entries
  | _ => none

def unsignedOf (bits : ℕ) (n : ℤ) : Option ℕ := if 0 ≤ n ∧ n < 2 ^ bits then some n.toNat else none

structure DocumentFields where
  pcrs : ℕ → Option Bytes := fun _ => none
  certificate : Option Bytes := none
  cabundle : List Bytes := []
  nonce : Option Bytes := none
  timestampMs : ℕ := 0

structure NitroDocument where
  pcrs : ℕ → Option Bytes
  certificate : Bytes
  cabundle : List Bytes
  nonce : Option Bytes
  timestampMs : ℕ

def nitroProvider : String := "aws_nitro"

variable (reason : String)

def malformed : AttestationError := .malformed nitroProvider reason

def readPcrs : List (Cbor × Cbor) → (ℕ → Option Bytes) → Except AttestationError (ℕ → Option Bytes)
  | [], pcrs => .ok pcrs
  | (idx, digest) :: entries, pcrs => do
    let i ← okOr (idx.asInteger.bind (unsignedOf 8)) (malformed "PCR index out of range")
    let bytes ← okOr digest.asBytes (malformed "PCR value is not bytes")
    readPcrs entries (Function.update pcrs i (some bytes))

def readField (fields : DocumentFields) (key : List Char) (v : Cbor) :
    Except AttestationError DocumentFields :=
  if key = "pcrs".toList then
    match v.asMap with
    | some entries => do return { fields with pcrs := ← readPcrs entries fields.pcrs }
    | none => .ok fields
  else if key = "certificate".toList then .ok { fields with certificate := v.asBytes }
  else if key = "cabundle".toList then
    .ok { fields with cabundle := fields.cabundle ++ (v.asArray.getD []).filterMap Cbor.asBytes }
  else if key = "nonce".toList then .ok { fields with nonce := v.asBytes }
  else if key = "timestamp".toList then
    .ok { fields with timestampMs := (v.asInteger.bind (unsignedOf 64)).getD 0 }
  else .ok fields

def readFields : List (Cbor × Cbor) → DocumentFields → Except AttestationError DocumentFields
  | [], fields => .ok fields
  | (k, v) :: entries, fields =>
    match k.asText with
    | none => readFields entries fields
    | some key => do readFields entries (← readField fields key v)

structure BasicConstraints where
  ca : Bool
  pathLenConstraint : Option ℕ

structure NitroLibraries where
  CoseSign1 : Type
  Cert : Type
  Name : Type
  PublicKey : Type
  Time : Type
  VerifyingKey : Type
  Signature : Type
  decideName : DecidableEq Name
  fromTaggedSlice : Bytes → Except String CoseSign1
  fromSlice : Bytes → Except String CoseSign1
  payload : CoseSign1 → Option Bytes
  signature : CoseSign1 → Bytes
  toBeSigned : CoseSign1 → Bytes → Bytes
  cbor : Bytes → Except String Cbor
  parsePem : List Char → Except String Bytes
  fromDer : Bytes → Except String Cert
  time : ℕ → Except String Time
  isValidAt : Cert → Time → Bool
  issuer : Cert → Name
  subject : Cert → Name
  publicKey : Cert → PublicKey
  subjectPublicKey : Cert → Bytes
  basicConstraints : Cert → Except String (Option BasicConstraints)
  keyCertSign : Cert → Except String (Option Bool)
  verifySignature : Cert → Option PublicKey → Except String Unit
  verifyingKey : Bytes → Except String VerifyingKey
  signatureOf : Bytes → Except String Signature
  verify : VerifyingKey → Bytes → Signature → Except String Unit

instance (L : NitroLibraries) : DecidableEq L.Name := L.decideName

def libraryErr {α : Type} (error : String → AttestationError) (text : String) :
    Except String α → Except AttestationError α
  | .ok a => .ok a
  | .error e => .error (error (text ++ e))

def documentOf (entries : List (Cbor × Cbor)) : Except AttestationError NitroDocument := do
  let fields ← readFields entries {}
  let certificate ← okOr fields.certificate
    (malformed "attestation document missing leaf certificate")
  return ⟨fields.pcrs, certificate, fields.cabundle, fields.nonce, fields.timestampMs⟩

variable (L : NitroLibraries)

def decodeNitroDocument (payload : Bytes) : Except AttestationError NitroDocument := do
  let value ← libraryErr malformed "attestation document is not valid CBOR: " (L.cbor payload)
  let map ← okOr value.asMap (malformed "attestation document is not a CBOR map")
  documentOf map

def badSignature : AttestationError := .signature nitroProvider reason

def badClaim : AttestationError := .claim nitroProvider reason

def enforcePathLen (pathLen : Option ℕ) (subordinateDepth issuerIndex : ℕ) :
    Except AttestationError Unit :=
  match pathLen with
  | some max =>
    rejectIf (max < subordinateDepth) (badSignature ("cert " ++ toString issuerIndex ++
      " pathLenConstraint=" ++ toString max ++ " violated at depth " ++ toString subordinateDepth))
  | none => .ok ()

def enforceCaIssuer (issuer : L.Cert) (subordinateDepth issuerIndex : ℕ) :
    Except AttestationError Unit := do
  let constraints ← libraryErr badSignature
    ("cert " ++ toString issuerIndex ++ " basic-constraints malformed: ") (L.basicConstraints issuer)
  let bc ← okOr constraints (badSignature ("cert " ++ toString issuerIndex ++
    " used as issuer but has no BasicConstraints extension"))
  rejectIf (bc.ca = false) (badSignature ("cert " ++ toString issuerIndex ++
    " used as issuer but is not a CA (cA=false)"))
  enforcePathLen bc.pathLenConstraint subordinateDepth issuerIndex
  let usage ← libraryErr badSignature
    ("cert " ++ toString issuerIndex ++ " key-usage malformed: ") (L.keyCertSign issuer)
  rejectIf (usage = some false) (badSignature ("cert " ++ toString issuerIndex ++
    " keyUsage does not permit keyCertSign"))

def checkLink (now : L.Time) (i : ℕ) (subject issuer : L.Cert) : Except AttestationError Unit := do
  rejectIf (L.isValidAt subject now = false)
    (badClaim ("certificate " ++ toString i ++ " in chain is expired or not yet valid"))
  rejectIf (L.issuer subject ≠ L.subject issuer) (badSignature ("cert chain link " ++ toString i ++
    " -> " ++ toString (i + 1) ++ " broken: issuer/subject DN mismatch"))
  enforceCaIssuer L issuer i (i + 1)
  libraryErr badSignature
    ("cert chain link " ++ toString i ++ " -> " ++ toString (i + 1) ++ " failed: ")
    (L.verifySignature subject (some (L.publicKey issuer)))

def checkLinks (now : L.Time) : ℕ → List L.Cert → Except AttestationError Unit
  | i, subject :: issuer :: certs => do
    checkLink L now i subject issuer
    checkLinks now (i + 1) (issuer :: certs)
  | _, _ => .ok ()

def parseCerts : List Bytes → Except AttestationError (List L.Cert)
  | [] => .ok []
  | der :: ders => do
    let cert ← libraryErr badSignature "certificate in chain is not valid DER: " (L.fromDer der)
    let certs ← parseCerts ders
    return cert :: certs

def parseRootDer (rootPem : List Char) : Except AttestationError Bytes :=
  libraryErr (AttestationError.keys nitroProvider) "pinned root PEM is invalid: " (L.parsePem rootPem)

def checkRoot (now : L.Time) (root : L.Cert) : Except AttestationError Unit := do
  rejectIf (L.isValidAt root now = false)
    (badClaim "pinned AWS Nitro root certificate is expired")
  libraryErr badSignature "pinned root self-signature invalid: " (L.verifySignature root none)

def verifyCertChain (clock : ℕ) (doc : NitroDocument) (rootPem : List Char) :
    Except AttestationError Unit := do
  let rootDer ← parseRootDer L rootPem
  let certs ← parseCerts L (doc.certificate :: doc.cabundle.reverse)
  let root ← libraryErr badSignature "certificate in chain is not valid DER: " (L.fromDer rootDer)
  let now ← libraryErr badClaim "clock error: " (L.time clock)
  checkLinks L now 0 (certs ++ [root])
  checkRoot L now root

def verifyCoseSignature (sign1 : L.CoseSign1) (leafDer : Bytes) : Except AttestationError Unit := do
  let leaf ← libraryErr badSignature "leaf certificate is not valid DER: " (L.fromDer leafDer)
  let key ← libraryErr badSignature "leaf key is not a valid P-384 point: "
    (L.verifyingKey (L.subjectPublicKey leaf))
  libraryErr badSignature "COSE_Sign1 signature does not verify against leaf key: " (do
    let signature ← L.signatureOf (L.signature sign1)
    L.verify key (L.toBeSigned sign1 []) signature)

def allZero (bytes : Bytes) : Bool := bytes.all fun b => decide (b = 0)

def enforcePcr (expected : Option (List Char)) (pcr : Option Bytes) (missing mismatch : String) :
    Except AttestationError Unit :=
  match expected with
  | some digest => do
    let value ← okOr pcr (badClaim missing)
    rejectIf (eqIgnoreAsciiCase (hexEncode value) digest = false) (badClaim mismatch)
  | none => .ok ()

def enforceDebug (allowDebug : Bool) (pcr0 : Option Bytes) : Except AttestationError Unit :=
  rejectIf (allowDebug = false ∧ (pcr0.map allZero).getD false = true)
    (badClaim "PCR0 is all-zero (debug-mode enclave); rejected by policy")

def enforceNonce (expected : Option (List Char)) (nonce : Option Bytes) :
    Except AttestationError Unit :=
  match expected with
  | some text => do
    let value ← okOr nonce (badClaim "expected a nonce but document has none")
    rejectIf (value ≠ utf8 text) (badClaim "Nitro nonce mismatch")
  | none => .ok ()

variable (doc : NitroDocument)

def enforcePcrAndNoncePolicy (policy : AttestationPolicy) :
    Except AttestationError Unit := do
  enforceDebug policy.allowDebug (doc.pcrs 0)
  enforcePcr policy.expectedMeasurement (doc.pcrs 0)
    "expected a PCR0 measurement but document has none" "PCR0 measurement mismatch"
  enforcePcr policy.expectedImageDigest (doc.pcrs 8)
    "expected a PCR8 image digest but document has none" "PCR8 image digest mismatch"
  enforceNonce policy.expectedNonce doc.nonce

def enforceAge (maxAge : Option ℕ) (now issuedAt : ℕ) : Except AttestationError Unit :=
  match maxAge with
  | some secs =>
    rejectIf (secs < now - issuedAt) (badClaim ("Nitro document older than " ++ toString secs ++ "s"))
  | none => .ok ()

structure NitroVerifier where
  expectedPcr0 : Option (List Char)
  expectedPcr8 : Option (List Char)
  allowDebug : Bool
  rootCertPem : List Char

variable (V : NitroVerifier)

def NitroVerifier.policyWith (policy : AttestationPolicy) : AttestationPolicy :=
  { policy with
    allowDebug := V.allowDebug || policy.allowDebug
    expectedMeasurement := policy.expectedMeasurement.or V.expectedPcr0
    expectedImageDigest := policy.expectedImageDigest.or V.expectedPcr8 }

def pcrName (i : ℕ) : List Char := "pcr".toList ++ Nat.toDigits 10 i

def NitroDocument.registers : List (ℕ × Bytes) :=
  (List.range 256).filterMap fun i => (doc.pcrs i).map fun value => (i, value)

def NitroDocument.registerClaims : HashMap (List Char) Json :=
  HashMap.collect (doc.registers.map fun r => (pcrName r.1, .string (hexEncode r.2)))

def NitroDocument.custom : HashMap (List Char) Json :=
  match doc.nonce with
  | some nonce => doc.registerClaims.insert "nonce".toList (.string (fromUtf8Lossy nonce))
  | none => doc.registerClaims

def NitroDocument.claims : AttestationClaims :=
  { AttestationClaims.new with
    debugMode := ((doc.pcrs 0).map allZero).getD false
    bootMeasurements := doc.registers.map fun r => pcrName r.1 ++ ':' :: hexEncode r.2
    custom := doc.custom }

def NitroDocument.report (coseBytes : Bytes) : AttestationReport :=
  { provider := .awsNitro
    format := .nitroDocument
    issuedAtUnix := doc.timestampMs / 1000
    measurement := Measurement.sha384 (((doc.pcrs 0).map hexEncode).getD [])
    publicKeyBinding := none
    claims := doc.claims
    evidence := coseBytes }

def parseSign1 (coseBytes : Bytes) : Except String L.CoseSign1 :=
  match L.fromTaggedSlice coseBytes with
  | .ok sign1 => .ok sign1
  | .error _ => L.fromSlice coseBytes

def NitroVerifier.verifyDocument (clock now : ℕ) (coseBytes : Bytes)
    (policy : AttestationPolicy) : Except AttestationError VerifiedAttestation := do
  let sign1 ← libraryErr malformed "not a valid COSE_Sign1: " (parseSign1 L coseBytes)
  let payload ← okOr (L.payload sign1) (malformed "COSE_Sign1 has no payload")
  let doc ← decodeNitroDocument L payload
  verifyCertChain L clock doc V.rootCertPem
  verifyCoseSignature L sign1 doc.certificate
  enforcePcrAndNoncePolicy doc (V.policyWith policy)
  enforceAge (V.policyWith policy).maxAgeSecs now (doc.timestampMs / 1000)
  return ⟨doc.report coseBytes, .awsNitro⟩

def AttestationReport.HasDocument (report : AttestationReport) : Prop :=
  report.format = .nitroDocument ∧ report.evidence ≠ []

instance (report : AttestationReport) : Decidable report.HasDocument := by
  unfold AttestationReport.HasDocument
  infer_instance

def NitroVerifier.productionPolicy : AttestationPolicy :=
  { AttestationPolicy.production with
    expectedMeasurement := V.expectedPcr0
    expectedImageDigest := V.expectedPcr8
    allowDebug := V.allowDebug }

def NitroVerifier.verify (clock now : ℕ) (report : AttestationReport) :
    Except TeeError VerifiedAttestation := do
  checkProvider .awsNitro "AWS Nitro" report
  if report.HasDocument then
    (V.verifyDocument L clock now report.evidence V.productionPolicy).mapError
      AttestationError.toTeeError
  else do
    checkDebug "debug mode enclaves" V.allowDebug report
    checkMeasurement V.expectedPcr0 report
    return ⟨report, .awsNitro⟩

end Gadget.Tee
