import PackageVet.Knowledge.Tables
import PackageVet.Service.Oracle
import PackageVet.Service.Probe

/-! Services that answer from a script and note what they are asked.

An analysis can be rehearsed with them: it then reaches nothing outside, and the notes show every
request in its order. -/
namespace PackageVet

/-- What is known so far, and what the services were asked, the earliest request first. -/
structure Rehearsal where
  tables : KnowledgeTables := {}
  judged : List (Judgement × String) := []
  probed : List (ProbeSite × List ProbeRequest) := []
  registered : List (String × List String) := []
  deriving Repr, Inhabited

/-- A knowledge store with a registry that holds some modules and fails on others. -/
structure KnowledgeScript where
  registry : List String := []
  registryFailures : List String := []
  classifyFailures : List String := []

def KnowledgeScript.store (script : KnowledgeScript) : KnowledgeStore Rehearsal :=
  let tables : KnowledgeStore Rehearsal := KnowledgeTables.store Rehearsal.tables
  { tables with
    classify := fun module_ =>
      if script.classifyFailures.contains module_ then
        throw (.transport "knowledge store" module_)
      else tables.classify module_
    registerModule := fun module_ dependencies => do
      modify fun r => { r with registered := r.registered ++ [(module_, dependencies)] }
      if script.registryFailures.contains module_ then
        throw (.transport "npm registry" module_)
      else if script.registry.contains module_ then
        modify fun r => { r with tables := r.tables.addThirdParty module_ }
        return true
      else tables.registerModule module_ dependencies }

/-- An oracle that finds a text malicious for its role or for a piece in it. -/
structure OracleScript where
  malicious : List Judgement := []
  pieces : List String := []
  failures : List Judgement := []

def OracleScript.oracle (script : OracleScript) : Oracle Rehearsal where
  judge judgement subject := do
    modify fun r => { r with judged := r.judged ++ [(judgement, subject)] }
    if script.failures.contains judgement then
      throw (.malformedResponse "oracle" judgement.name)
    else
      return script.malicious.contains judgement ||
        script.pieces.any fun piece => Text.contains subject piece

/-- A probe that sees the same values at every site, or fails. -/
structure ProbeScript where
  values : Option (Table String String) := none
  failure : Option String := none

def ProbeScript.probe (script : ProbeScript) : Probe Rehearsal where
  enabled := true
  evaluate site requests := do
    modify fun r => { r with probed := r.probed ++ [(site, requests)] }
    match script.failure with
    | some message => throw (.transport "argument probe" message)
    | none => return script.values

end PackageVet
