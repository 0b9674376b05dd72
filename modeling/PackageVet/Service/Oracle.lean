import PackageVet.Service.Error

/-! The oracle: a service that says whether a text is malicious in the role it plays. -/
namespace PackageVet

/-- The role of the text that is judged. -/
inductive Judgement where
  | command
  | executable
  | fileRead
  | fileWrite
  | searchPath
  | url
  | program
  | shellCommand
  | obfuscatedSource
  deriving DecidableEq, Repr, Inhabited

namespace Judgement

def all : List Judgement :=
  [.command, .executable, .fileRead, .fileWrite, .searchPath, .url, .program, .shellCommand,
   .obfuscatedSource]

def name : Judgement → String
  | .command => "command"
  | .executable => "executable"
  | .fileRead => "file-read"
  | .fileWrite => "file-write"
  | .searchPath => "search-path"
  | .url => "url"
  | .program => "program"
  | .shellCommand => "shell-command"
  | .obfuscatedSource => "obfuscated-source"

def ofName? (name : String) : Option Judgement := all.find? fun j => j.name = name

end Judgement

structure Oracle (σ : Type) where
  /-- Whether a text is malicious in its role. -/
  judge : Judgement → String → Request σ Bool

end PackageVet
