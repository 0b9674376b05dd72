import PackageVet.Analysis
import PackageVet.Proofs.FileTree
import PackageVet.Proofs.Report
import PackageVet.Proofs.Session.Steps

/-! The verdict of a report is what the report holds.

A report calls a package malicious exactly when it holds a finding, a script or files that were
judged to be obfuscated (`Report.Honest`). A match that is kept makes the report malicious also when
its finding is left out, but then a finding that covers it is there already (`Honest.record`). Along
with that, the number of findings that an analysis counts is the number that its report holds
(`Session.Honest`), over all phases (`allowed_honest`).

So whenever the analysis of a package ends with a status, the report that can be read afterwards in
the package's folder bears the status out (`run_bears_out`). -/
namespace PackageVet

/-! ### Honest reports -/

namespace Report
variable {r : Report}

/-- Whether a report holds anything against its package. -/
def HasEvidence (r : Report) : Prop :=
  0 < r.findingCount ∨ r.scripts ≠ [] ∨ r.obfuscation.isSome = true

/-- Whether a report calls its package malicious exactly for what it holds. -/
def Honest (r : Report) : Prop := r.malicious = true ↔ r.HasEvidence

theorem honest_empty : Honest {} := by
  simp [Honest, HasEvidence, findingCount, Phase.all, findings]

theorem honest_of_evidence (hmalicious : r.malicious = true) (h : r.HasEvidence) : r.Honest :=
  ⟨fun _ => h, fun _ => hmalicious⟩

theorem honest_setObfuscation (r : Report) (files : List String) :
    (r.setObfuscation files).Honest :=
  honest_of_evidence rfl (.inr (.inr rfl))

end Report

/-! ### Matches -/

namespace Matched
variable {s : Matched} {n : Nat}

/-- Whether a report is honest, and holds `n` findings and those that were added. -/
structure Honest (n : Nat) (s : Matched) : Prop where
  report : s.report.Honest
  count : s.report.findingCount = n + s.added

/-- A match that is kept leaves a finding, its own or one that covers it. -/
theorem Honest.record (h : s.Honest n) (phase : Phase) (arena : Arena) (p : Pattern) (m : Mapping) :
    (s.record phase arena p m).Honest n := by
  have hcount := s.report.findingCount_addFinding phase p.behavior
    { description := p.description, lines := p.locality m arena }
  have hpos := s.report.findingCount_addFinding_pos phase p.behavior
    { description := p.description, lines := p.locality m arena }
  have hbefore := h.count
  refine ⟨Report.honest_of_evidence rfl (.inl hpos), ?_⟩
  show (Report.addFinding ..).2.findingCount = n + if (Report.addFinding ..).1 then _ else _
  rw [hcount]
  split <;> omega

end Matched

/-- Looking for patterns keeps a report honest, however far it comes, and counts the findings that
it adds. -/
theorem honest_matchPatterns {σ : Type} {library : List Pattern} {reduced : ReducedGraph}
    {arena : Arena} {keep : Keeper σ} {phase : Phase} {deadline : Deadline σ} {report : Report}
    {x x' : σ} {result : Except AnalysisError PUnit} {matched : Matched} (h : report.Honest)
    (hrun : (matchPatterns library reduced arena keep phase deadline).run ({ report }, x) =
      (result, matched, x')) : matched.Honest report.findingCount := by
  have hstart : Matched.Honest report.findingCount { report } := ⟨h, rfl⟩
  have hkeeps := Looking.keeps_matchPatterns (P := Matched.Honest report.findingCount)
    (fun s _ hs => ⟨hs.report, hs.count⟩) (fun s p m hs => hs.record phase arena p m) library reduced
    keep deadline { report } x hstart
  rw [hrun] at hkeeps
  exact hkeeps

/-! ### Phases -/

namespace Session
variable {σ : Type} {c : SessionContext σ}

/-- Whether the report is honest and its findings are those that were counted. -/
structure Honest (s : Session) : Prop where
  report : s.report.Honest
  findings : s.findings = s.report.findingCount

theorem honest_recordScript (name : String) (profile : ScriptProfile) (r : Report) :
    (recordScript name profile r).Honest :=
  Report.honest_of_evidence rfl (.inr (.inl (Sorted.put_ne_nil name profile r.scripts)))

/-- What the phases do besides looking for patterns. -/
theorem allowsWork_honest :
    AllowsWork c (fun s t => s.Honest → t.Honest) fun s t => s.Honest → t.report.Honest where
  refl _ h := h
  trans hst htu h := htu (hst h)
  note _ _ _ h := ⟨h.report, h.findings⟩
  mark _ _ h := ⟨h.report, h.findings⟩
  scopes _ h := ⟨h.report, h.findings⟩
  build _ _ _ h := ⟨h.report, h.findings⟩
  split _ _ h := ⟨h.report, h.findings⟩
  stop hst h := (hst h).report
  before hst htu h := htu (hst h)

theorem allowsLooking_honest (phase : Phase) :
    AllowsLooking c phase (fun s t => s.Honest → t.Honest)
      fun s t => s.Honest → t.report.Honest where
  toAllowsWork := allowsWork_honest
  found hrun h := by
    have hmatched := honest_matchPatterns h.report hrun
    refine ⟨hmatched.report, ?_⟩
    show _ + _ = _
    rw [h.findings]
    exact hmatched.count.symm
  broken hrun h := (honest_matchPatterns h.report hrun).report

/-- No step of an analysis makes an honest session dishonest. Where it fails, findings may not have
been counted, but the report is honest still. -/
theorem allowed_honest :
    Allowed c (fun s t => s.Honest → t.Honest) fun s t => s.Honest → t.report.Honest where
  toAllowsWork := allowsWork_honest
  looking := allowsLooking_honest
  script _ name profile h := ⟨honest_recordScript name profile _, h.findings⟩

theorem honest_recordScripts (profiles : ScriptProfiles) {r : Report} (h : r.Honest) :
    (recordScripts profiles r).Honest ∧
      (recordScripts profiles r).findingCount = r.findingCount := by
  refine List.foldlRecOn (motive := fun (t : Report) =>
    t.Honest ∧ t.findingCount = r.findingCount) profiles _ ⟨h, rfl⟩ ?_
  rintro t ht ⟨name, profile⟩ -
  dsimp only
  split
  · exact ⟨honest_recordScript name profile t, ht.2⟩
  · exact ht

end Session

/-! ### Packages -/

namespace Analyzer
variable {σ α : Type} {a : Analyzer σ} {deadline : Deadline σ} {w : Workspace} {package folder path : String}
  {sources : PackageSources} {manifest : Manifest} {status : Status} {findings : Nat}
  {report : Report} {before after : FileTree × σ}

/-- Whether a report that can be read in the folder of a package bears out a status and a number of
findings. -/
structure BearsOut (w : Workspace) (package : String) (tree : FileTree) (status : Status)
    (findings : Nat) (report : Report) : Prop where
  written : tree.readText (FileTree.join (w.packageReportDir package) Report.fileName) =
    .ok report.render
  honest : report.malicious = true ↔ report.HasEvidence
  flagged : status = .malicious ∨ status = .obfuscated ↔ report.malicious = true
  findings : findings = report.findingCount

theorem run_ofFile_eq_ok {result : Except FileError α} {value : α}
    (h : (ofFile path result).run before = (.ok value, after)) :
    result = .ok value ∧ after = before := by
  cases result with
  | ok found =>
    cases h
    exact ⟨rfl, rfl⟩
  | error e => cases h

theorem readText_of_writeReport (h : (writeReport folder report).run before = (.ok ⟨⟩, after)) :
    after.1.readText (FileTree.join folder Report.fileName) = .ok report.render := by
  unfold writeReport write at h
  obtain ⟨tree, s₁, -, h⟩ := Effect.run_bind_eq_ok.mp h
  obtain ⟨made, s₂, -, h⟩ := Effect.run_bind_eq_ok.mp h
  obtain ⟨⟨⟩, s₃, -, h⟩ := Effect.run_bind_eq_ok.mp h
  obtain ⟨written, s₄, hwrite, h⟩ := Effect.run_bind_eq_ok.mp h
  cases h
  exact FileTree.readText_of_writeText (run_ofFile_eq_ok hwrite).1

/-- A session that was run through its phases is honest. -/
theorem honest_of_runSession {packageDir : String} {profiles : ScriptProfiles} {code : CodeGraph}
    {index : UnitIndex} {arena : Arena} {session : Session}
    (h : (a.runSession deadline packageDir sources manifest profiles code index arena).run before =
      (.ok session, after)) : session.Honest := by
  unfold runSession at h
  rw [ExceptT.run_mk] at h
  dsimp only at h
  have hstart : Session.Honest { code, state := { arena } } := ⟨Report.honest_empty, rfl⟩
  split at h
  next result session' services' hrun =>
    cases result with
    | ok =>
      cases h
      exact (Session.leaves_runPhases Session.allowed_honest _ _ _).ok hrun hstart
    | error e => cases h

/-- The phases, or the scripts alone where there is nothing else to look at. -/
theorem bearsOut_of_judge
    (h : (a.judge deadline w package sources manifest).run before = (.ok (status, findings), after)) :
    ∃ report, BearsOut w package after.1 status findings report := by
  unfold judge at h
  obtain ⟨profiles, s₁, -, h⟩ := Effect.run_bind_eq_ok.mp h
  obtain ⟨exports, s₂, -, h⟩ := Effect.run_bind_eq_ok.mp h
  split at h
  · obtain ⟨⟨⟩, s₃, hwrite, h⟩ := Effect.run_bind_eq_ok.mp h
    obtain ⟨hhonest, hcount⟩ := Session.honest_recordScripts profiles Report.honest_empty
    have hwritten := readText_of_writeReport hwrite
    -- only a report that is malicious gives the status malicious
    split at h
    · next hmalicious =>
      cases h
      exact ⟨_, hwritten, hhonest, by simp [hmalicious], hcount.symm⟩
    · next hbenign =>
      split at h
      · cases h
        exact ⟨_, hwritten, hhonest, by simp [hbenign], hcount.symm⟩
      · cases h
        exact ⟨_, hwritten, hhonest, by simp [hbenign], hcount.symm⟩
  · obtain ⟨code, s₃, -, h⟩ := Effect.run_bind_eq_ok.mp h
    obtain ⟨⟨index, arena⟩, s₄, -, h⟩ := Effect.run_bind_eq_ok.mp h
    obtain ⟨session, s₅, hsession, h⟩ := Effect.run_bind_eq_ok.mp h
    obtain ⟨⟨⟩, s₆, hwrite, h⟩ := Effect.run_bind_eq_ok.mp h
    have hhonest := honest_of_runSession hsession
    cases h
    refine ⟨session.report, readText_of_writeReport hwrite, hhonest.report, ?_, hhonest.findings⟩
    cases session.report.malicious <;> simp [Status.ofVerdict]

/-- Where the analysis of a package ends with a status, the package has no code, and nothing was
written; or the report that can be read afterwards calls it malicious exactly for what it holds, the
status says the same as the report, and the findings are as many as it holds. -/
theorem run_bears_out
    (h : (a.run deadline w package).run before = (.ok (status, findings), after)) :
    ((status = .codeMissing ∨ status = .emptyPackage) ∧ after = before) ∨
    ∃ report, BearsOut w package after.1 status findings report := by
  unfold run at h
  obtain ⟨tree, s₁, htree, h⟩ := Effect.run_bind_eq_ok.mp h
  cases htree
  split at h
  · cases h
    exact .inl ⟨.inl rfl, rfl⟩
  · obtain ⟨sources, s₂, hsources, h⟩ := Effect.run_bind_eq_ok.mp h
    split at h
    · cases h
      exact .inl ⟨.inr rfl, (run_ofFile_eq_ok hsources).2⟩
    · refine .inr ?_
      obtain ⟨manifest, s₃, -, h⟩ := Effect.run_bind_eq_ok.mp h
      obtain ⟨⟨⟩, s₄, -, h⟩ := Effect.run_bind_eq_ok.mp h
      split at h
      · exact bearsOut_of_judge h
      · obtain ⟨obfuscated, s₅, -, h⟩ := Effect.run_bind_eq_ok.mp h
        split at h
        · exact bearsOut_of_judge h
        · obtain ⟨⟨⟩, s₆, hwrite, h⟩ := Effect.run_bind_eq_ok.mp h
          cases h
          exact ⟨_, readText_of_writeReport hwrite, Report.honest_setObfuscation {} obfuscated,
            by simp [Report.setObfuscation], rfl⟩

/-- An analysis for which every function of the platform runs a command. -/
def wary : Analyzer Unit where
  knowledge :=
    { classify := fun _ => pure .builtin
      sensitiveCall := fun _ _ _ _ => pure [.executeCommand]
      registerModule := fun _ _ => pure false }
  patterns := [.ofKey "Suspicious commands" "execute a command" (.single .executeCommand) []]

/-- A package whose entry file is `eval(x)`, and its exports. -/
def evalPackage : FileTree :=
  .ofEntries
    [("code/p/package/package.json", some "\x7b\x7d"),
      ("code/p/package/index.js", some "eval(x)"),
      ("graphs/p/cpg/export.dot", some
        "digraph\x7b
          \"1\" [\"label\"=\"METHOD\" \"NAME\"=\":program\" \"FILENAME\"=\"package/index.js\"]
          \"2\" [\"label\"=\"CALL\" \"NAME\"=\"eval\" \"CODE\"=\"eval(x)\"]\x7d"),
      ("graphs/p/pdg/0.dot", some "digraph\x7b \"1\" -> \"2\" [\"label\"=\"CFG\"]\x7d")]

theorem computed_evalPackage :
    ((wary.run .unlimited {} "p").run (evalPackage, ())).1.toOption = some (.malicious, 1) := by
  decide +kernel

/-- The one finding that makes the package malicious is in the report that was written. -/
theorem run_bears_out_evalPackage :
    ((wary.run .unlimited {} "p").run (evalPackage, ())).1.toOption = some (.malicious, 1) ∧
    ∃ report,
      BearsOut {} "p" ((wary.run .unlimited {} "p").run (evalPackage, ())).2.1 .malicious 1 report := by
  refine ⟨computed_evalPackage, ?_⟩
  obtain ⟨after, hrun⟩ := Effect.run_of_toOption computed_evalPackage
  rcases run_bears_out hrun with ⟨hstatus, -⟩ | hreport
  · exact absurd hstatus (by decide)
  · rw [hrun]
    exact hreport

end Analyzer

end PackageVet
