import PackageVet.Error

/-! How the analysis of a package ends. -/
namespace PackageVet

inductive Status where
  | benign
  | malicious
  | timeout
  | ingestionError
  | manifestMissing
  | codeMissing
  | emptyPackage
  | noSourceFiles
  | syntacticError
  | obfuscated
  | externalServiceError
  | programError
  deriving DecidableEq, Repr, Inhabited

namespace Status

def all : List Status :=
  [.benign, .malicious, .timeout, .ingestionError, .manifestMissing, .codeMissing, .emptyPackage,
   .noSourceFiles, .syntacticError, .obfuscated, .externalServiceError, .programError]

def name : Status → String
  | .benign => "benign"
  | .malicious => "malicious"
  | .timeout => "timeout"
  | .ingestionError => "ingestion-error"
  | .manifestMissing => "manifest-missing"
  | .codeMissing => "code-missing"
  | .emptyPackage => "empty-package"
  | .noSourceFiles => "no-source-files"
  | .syntacticError => "syntactic-error"
  | .obfuscated => "obfuscated"
  | .externalServiceError => "external-service-error"
  | .programError => "program-error"

/-- The exit code of a run over one package; the verdicts have the usual codes. -/
def exitCode : Status → Nat
  | .benign => 0
  | .malicious => 1
  | .timeout => 10
  | .ingestionError => 11
  | .manifestMissing => 12
  | .codeMissing => 13
  | .emptyPackage => 14
  | .noSourceFiles => 15
  | .syntacticError => 16
  | .obfuscated => 17
  | .externalServiceError => 18
  | .programError => 19

/-- Whether the package is flagged: both verdicts that do are meant. -/
def isFlagged : Status → Bool
  | .malicious | .obfuscated => true
  | _ => false

def ofVerdict (malicious : Bool) : Status := if malicious then .malicious else .benign

def ofError : AnalysisError → Status
  | .missingExport _ | .invalidExport .. => .ingestionError
  | .manifestMissing _ | .invalidManifest .. => .manifestMissing
  | .timeout _ => .timeout
  | .service _ => .externalServiceError
  | .file .. | .nesting | .unfinished => .programError

end Status

end PackageVet
