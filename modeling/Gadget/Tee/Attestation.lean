import Gadget.Rust.HashMap
import Gadget.Rust.Json
import Gadget.Rust.Text

/-!
# Attestation reports and their verifiers

The types that all verifiers share, and the verifiers that only compare fields of a report. They
differ in the provider, in the words of their errors and in where the expected measurement is kept.
-/

namespace Gadget.Tee

open Rust

inductive TeeProvider where
  | awsNitro
  | azureSnp
  | gcpConfidential
  | intelTdx
  | amdSevSnp
  deriving DecidableEq

def TeeProvider.text : TeeProvider → String
  | .awsNitro => "aws_nitro"
  | .azureSnp => "azure_snp"
  | .gcpConfidential => "gcp_confidential"
  | .intelTdx => "intel_tdx"
  | .amdSevSnp => "amd_sev_snp"

inductive AttestationFormat where
  | nitroDocument
  | tdxQuote
  | sevSnpReport
  | azureMaaToken
  | gcpConfidentialToken
  | mock
  deriving DecidableEq

structure Measurement where
  algorithm : List Char
  digest : List Char

def Measurement.new (algorithm : String) (digest : List Char) : Measurement :=
  ⟨algorithm.toList, toAsciiLowercase digest⟩

def Measurement.sha384 (digest : List Char) : Measurement := Measurement.new "sha384" digest

structure PublicKeyBinding where
  publicKey : Bytes
  keyType : List Char
  bindingDigest : List Char

structure AttestationClaims where
  platformVersion : Option (List Char)
  debugMode : Bool
  bootMeasurements : List (List Char)
  signerId : Option (List Char)
  productId : Option (List Char)
  userData : Option Bytes
  custom : HashMap (List Char) Json

def AttestationClaims.new : AttestationClaims := ⟨none, false, [], none, none, none, ∅⟩

structure AttestationReport where
  provider : TeeProvider
  format : AttestationFormat
  issuedAtUnix : ℕ
  measurement : Measurement
  publicKeyBinding : Option PublicKeyBinding
  claims : AttestationClaims
  evidence : Bytes

structure VerifiedAttestation where
  report : AttestationReport
  verifiedBy : TeeProvider

inductive VerificationLevel where
  | structural
  | cryptographic

inductive AttestationError where
  | fetch (provider reason : String)
  | signature (provider reason : String)
  | claim (provider reason : String)
  | keys (provider reason : String)
  | unsatisfiable (provider reason : String)
  | malformed (provider reason : String)

def AttestationError.text : AttestationError → String
  | .fetch provider reason => "attestation fetch failed for " ++ provider ++ ": " ++ reason
  | .signature provider reason =>
    "attestation signature verification failed for " ++ provider ++ ": " ++ reason
  | .claim provider reason => "attestation claim rejected for " ++ provider ++ ": " ++ reason
  | .keys provider reason => "could not obtain signing keys for " ++ provider ++ ": " ++ reason
  | .unsatisfiable provider reason =>
    "require_tee unsatisfiable for " ++ provider ++ ": " ++ reason
  | .malformed provider reason => "malformed attestation for " ++ provider ++ ": " ++ reason

inductive TeeError where
  | attestationVerification (text : String)
  | measurementMismatch (expected actual : List Char)

def AttestationError.toTeeError (e : AttestationError) : TeeError :=
  .attestationVerification e.text

structure AttestationPolicy where
  expectedAudience : Option (List Char) := none
  expectedNonce : Option (List Char) := none
  expectedImageDigest : Option (List Char) := none
  expectedMeasurement : Option (List Char) := none
  allowDebug : Bool := false
  maxAgeSecs : Option ℕ := none

def AttestationPolicy.production : AttestationPolicy := { allowDebug := false, maxAgeSecs := some 600 }

def checkProvider (expected : TeeProvider) (label : String) (report : AttestationReport) :
    Except TeeError Unit :=
  rejectIf (report.provider ≠ expected)
    (.attestationVerification ("expected " ++ label ++ " provider, got " ++ report.provider.text))

def checkDebug (debugEntity : String) (allowDebug : Bool) (report : AttestationReport) :
    Except TeeError Unit :=
  rejectIf (report.claims.debugMode = true ∧ allowDebug = false)
    (.attestationVerification (debugEntity ++ " are not permitted"))

def checkMeasurement (expected : Option (List Char)) (report : AttestationReport) :
    Except TeeError Unit :=
  match expected with
  | some digest =>
    rejectIf (report.measurement.digest ≠ digest)
      (.measurementMismatch digest report.measurement.digest)
  | none => .ok ()

def structuralVerify (provider : TeeProvider) (label debugEntity : String)
    (expected : Option (List Char)) (allowDebug : Bool) (report : AttestationReport) :
    Except TeeError VerifiedAttestation := do
  checkProvider provider label report
  checkDebug debugEntity allowDebug report
  checkMeasurement expected report
  return ⟨report, provider⟩

/-- The verifiers for Azure and GCP, with what `verify` reads of them. -/
structure TokenVerifier where
  expectedMeasurement : Option (List Char)
  allowDebug : Bool

def TokenVerifier.verifyAzureSnp (V : TokenVerifier) :
    AttestationReport → Except TeeError VerifiedAttestation :=
  structuralVerify .azureSnp "Azure SNP" "debug mode VMs" V.expectedMeasurement V.allowDebug

def TokenVerifier.verifyGcpConfidential (V : TokenVerifier) :
    AttestationReport → Except TeeError VerifiedAttestation :=
  structuralVerify .gcpConfidential "GCP Confidential" "debug mode VMs" V.expectedMeasurement
    V.allowDebug

inductive NativePlatform where
  | tdx (expectedMrtd : Option (List Char))
  | sevSnp (expectedMeasurement : Option (List Char))

structure NativeVerifier where
  platform : NativePlatform
  allowDebug : Bool

def NativeVerifier.verify (V : NativeVerifier) :
    AttestationReport → Except TeeError VerifiedAttestation :=
  match V.platform with
  | .tdx expectedMrtd =>
    structuralVerify .intelTdx "Intel TDX" "debug mode TDs" expectedMrtd V.allowDebug
  | .sevSnp expectedMeasurement =>
    structuralVerify .amdSevSnp "AMD SEV-SNP" "debug mode guests" expectedMeasurement V.allowDebug

structure SevSnpVerifier where
  expectedMeasurement : Option (List Char)
  allowDebug : Bool

def SevSnpVerifier.toNative (V : SevSnpVerifier) : NativeVerifier :=
  ⟨.sevSnp V.expectedMeasurement, V.allowDebug⟩

structure TdxVerifier where
  expectedMrtd : Option (List Char)
  allowDebug : Bool

def TdxVerifier.toNative (V : TdxVerifier) : NativeVerifier := ⟨.tdx V.expectedMrtd, V.allowDebug⟩

end Gadget.Tee
