import PackageVet.Proofs.Script
import PackageVet.Proofs.Session.Turns
import PackageVet.Proofs.Session.Verdict

/-! Install-time scripts are judged alike with and without code.

A package without code has its scripts recorded by `recordScripts`, one with code by the install
phase, which asks for less: there a script belongs in the report also if it only runs a sensitive
file. The two agree on the profiles that an analysis makes, since a shell command that runs a
sensitive file is made malicious and a node script runs none (`exists_run_scriptProfile`).

What either adds to a report is told by `Report.Grows`: scripts, submitted findings, and the verdict
that follows from both. A script adds itself if it is flagged, and what is found in its code
(`adds_installScript`), so the install phase adds the flagged scripts that it comes to and findings
of its own phase (`adds_installPhase`). The sets of scripts are the same (`scripts_judged_alike`),
but not the verdicts, since the code that a script runs counts too (`code_marks_report`). -/
namespace PackageVet

/-! ### What is added to a report -/

namespace Report
variable {r r' r'' : Report} {entries more : ScriptProfiles} {calls later : List Submission}

/-- The submissions decide on the findings together with those that were there. -/
theorem findings_after (h : r.findings = r'.findings) (calls : List Submission) :
    (r.after calls).findings = (r'.after calls).findings := by
  induction calls generalizing r r' with
  | nil => exact h
  | cons c rest ih =>
    refine ih ?_
    have hcovers : r.covers c.phase c.behavior c.finding =
        r'.covers c.phase c.behavior c.finding := by
      unfold covers
      rw [h]
    funext phase
    simp only [submit, addFinding, findings_setFindings, hcovers, h]

theorem after_append (r : Report) (calls later : List Submission) :
    r.after (calls ++ later) = (r.after calls).after later := by
  induction calls generalizing r with
  | nil => rfl
  | cons c rest ih => exact ih _

/-- Whether one report is another with some scripts recorded and some findings submitted, and is
malicious if that one was or if there is any of these. -/
structure Grows (r r' : Report) (entries : ScriptProfiles) (calls : List Submission) : Prop where
  scripts : r'.scripts = entries.foldl (fun known e => Sorted.put e.1 e.2 known) r.scripts
  findings : r'.findings = (r.after calls).findings
  malicious : r'.malicious = true ↔ r.malicious = true ∨ entries ≠ [] ∨ calls ≠ []

namespace Grows

theorem refl (r : Report) : r.Grows r [] [] := ⟨rfl, rfl, by simp⟩

theorem trans (h : r.Grows r' entries calls) (h' : r'.Grows r'' more later) :
    r.Grows r'' (entries ++ more) (calls ++ later) where
  scripts := by rw [h'.scripts, h.scripts, List.foldl_append]
  findings := by rw [h'.findings, findings_after h.findings, after_append]
  malicious := by
    rw [h'.malicious, h.malicious]
    simp only [ne_eq, List.append_eq_nil_iff]
    grind

end Grows

theorem grows_record (s : Matched) (phase : Phase) (arena : Arena) (p : Pattern) (m : Mapping) :
    s.report.Grows (s.record phase arena p m).report [] [.ofMatch phase p m arena] where
  scripts := by
    rw [report_record]
    show (setFindings ..).scripts = _
    cases phase <;> rfl
  findings := by
    rw [report_record]
    funext other
    cases other <;> rfl
  malicious := by simp [report_record]

/-- Whether one report is another with some scripts recorded, to which besides only findings of a
phase were submitted. -/
def Adds (phase : Phase) (entries : ScriptProfiles) (r r' : Report) : Prop :=
  ∃ calls, (∀ call ∈ calls, call.phase = phase) ∧ r.Grows r' entries calls

namespace Adds
variable {phase : Phase}

theorem refl (phase : Phase) (r : Report) : Adds phase [] r r := ⟨[], nofun, .refl r⟩

theorem trans (h : Adds phase entries r r') (h' : Adds phase more r' r'') :
    Adds phase (entries ++ more) r r'' := by
  obtain ⟨calls, hcalls, hgrows⟩ := h
  obtain ⟨later, hlater, hgrows'⟩ := h'
  exact ⟨calls ++ later, List.forall_mem_append.mpr ⟨hcalls, hlater⟩, hgrows.trans hgrows'⟩

end Adds

end Report

namespace Session
open Report (Adds)
variable {σ : Type} {c : SessionContext σ} {profiles : ScriptProfiles}

theorem adds_matchPatterns {library : List Pattern} {reduced : ReducedGraph} {arena : Arena}
    {keep : Keeper σ} {phase : Phase} {deadline : Deadline σ} {r : Report} {x x' : σ}
    {result : Except AnalysisError PUnit} {matched : Matched}
    (hrun : (matchPatterns library reduced arena keep phase deadline).run ({ report := r }, x) =
      (result, matched, x')) : Adds phase [] r matched.report := by
  have hrecord (s : Matched) (p : Pattern) (m : Mapping) (h : Adds phase [] r s.report) :
      Adds phase [] r (s.record phase arena p m).report :=
    h.trans ⟨_, by simp [Submission.ofMatch], Report.grows_record s phase arena p m⟩
  have hkeeps := Looking.keeps_matchPatterns (P := fun s => Adds phase [] r s.report)
    (fun s _ h => h) hrecord library reduced keep deadline { report := r } x (.refl phase r)
  rw [hrun] at hkeeps
  exact hkeeps

/-- Looking at code submits findings of its phase, and does nothing else to the report, failed or
not. -/
theorem allowsLooking_adds (c : SessionContext σ) (phase : Phase) :
    AllowsLooking c phase (fun s t => Adds phase [] s.report t.report)
      fun s t => Adds phase [] s.report t.report where
  refl s := .refl phase s.report
  trans := Adds.trans
  note s _ _ := .refl phase s.report
  mark s _ := .refl phase s.report
  scopes s := .refl phase s.report
  build s _ _ := .refl phase s.report
  split s _ := .refl phase s.report
  stop h := h
  before := Adds.trans
  found hrun := adds_matchPatterns hrun
  broken hrun := adds_matchPatterns hrun

/-! ### Scripts -/

/-- The scripts that belong in the report. -/
def flaggedScripts (profiles : ScriptProfiles) : ScriptProfiles :=
  profiles.filter fun e => isFlagged e.2

theorem grows_recordScript (name : String) (profile : ScriptProfile) (r : Report) :
    r.Grows (recordScript name profile r) [(name, profile)] [] where
  scripts := rfl
  findings := by
    funext phase
    cases phase <;> rfl
  malicious := by simp [recordScript]

theorem grows_recordScripts (profiles : ScriptProfiles) (r : Report) :
    r.Grows (recordScripts profiles r) (flaggedScripts profiles) [] := by
  induction profiles generalizing r with
  | nil => exact .refl r
  | cons entry rest ih =>
    have hrest : recordScripts (entry :: rest) r = recordScripts rest
        (if isFlagged entry.2 then recordScript entry.1 entry.2 r else r) := rfl
    rw [hrest, flaggedScripts, List.filter_cons]
    split
    · exact (grows_recordScript entry.1 entry.2 r).trans (ih _)
    · exact ih r

/-- What the install phase does for one script. -/
def installScript (c : SessionContext σ) (entry : String × ScriptProfile) : Step σ PUnit := do
  if isFlagged entry.2 || entry.2.runsSensitiveFile then
    change fun s => { s with report := recordScript entry.1 entry.2 s.report }
  if entry.2.needsAnalysis then
    entry.2.sourceFiles.forM fun file => analyzeProgram c file .install

theorem installPhase_cons (c : SessionContext σ) (entry : String × ScriptProfile)
    (rest : ScriptProfiles) :
    installPhase c (entry :: rest) = installScript c entry >>= fun _ => installPhase c rest := rfl

/-- Whether a profile is flagged if it runs a sensitive file. -/
def Judged (profile : ScriptProfile) : Prop :=
  profile.runsSensitiveFile = true → isFlagged profile = true

/-- A script that is flagged is recorded, and its code is looked at. -/
theorem adds_installScript {entry : String × ScriptProfile} (h : Judged entry.2) (s : Session)
    (services : σ) :
    Adds .install (flaggedScripts [entry]) s.report
      ((installScript c entry).run (s, services)).2.1.report := by
  have hfiles := (leaves_sourceFiles (allowsLooking_adds c .install) entry.2).always
  unfold installScript
  by_cases hflagged : isFlagged entry.2 = true
  · have hentries : flaggedScripts [entry] = [entry] := by simp [flaggedScripts, hflagged]
    have hrecorded : Adds .install [entry] s.report (recordScript entry.1 entry.2 s.report) :=
      ⟨[], nofun, grows_recordScript entry.1 entry.2 s.report⟩
    rw [hentries, hflagged, Bool.true_or, if_pos rfl]
    exact hrecorded.trans
      (hfiles { s with report := recordScript entry.1 entry.2 s.report } services)
  · have hentries : flaggedScripts [entry] = [] := by simp [flaggedScripts, hflagged]
    have hquiet : (isFlagged entry.2 || entry.2.runsSensitiveFile) = false := by
      rw [Bool.or_eq_false_iff]
      exact ⟨Bool.eq_false_iff.mpr hflagged, Bool.eq_false_iff.mpr fun hruns => hflagged (h hruns)⟩
    rw [hentries, hquiet, if_neg Bool.false_ne_true]
    exact hfiles s services

/-- The install phase records the flagged scripts that it comes to, and it comes to all of them
unless it fails at one. -/
theorem adds_installPhase (h : ∀ entry ∈ profiles, Judged entry.2) (s : Session) (services : σ) :
    ∃ seen, seen <+: profiles ∧
      Adds .install (flaggedScripts seen) s.report
        ((installPhase c profiles).run (s, services)).2.1.report ∧
      (((installPhase c profiles).run (s, services)).1 = .ok ⟨⟩ → seen = profiles) := by
  induction profiles generalizing s services with
  | nil => exact ⟨[], List.prefix_refl _, .refl _ _, fun _ => rfl⟩
  | cons entry rest ih =>
    obtain ⟨hentry, hrest⟩ := List.forall_mem_cons.mp h
    have hscript := adds_installScript (c := c) hentry s services
    rw [installPhase_cons, Effect.run_bind]
    rcases hrun : (installScript c entry).run (s, services) with ⟨e | ⟨⟩, s₁, services₁⟩ <;>
      rw [hrun] at hscript
    · exact ⟨[entry], List.prefix_append [entry] rest, hscript, nofun⟩
    · obtain ⟨seen, hseen, hadds, hall⟩ := ih hrest s₁ services₁
      have hflagged : flaggedScripts (entry :: seen) =
          flaggedScripts [entry] ++ flaggedScripts seen := List.filter_append [entry] seen
      refine ⟨entry :: seen, List.cons_prefix_cons.mpr ⟨rfl, hseen⟩, ?_, fun hok => ?_⟩
      · rw [hflagged]
        exact hscript.trans hadds
      · rw [hall hok]

end Session

/-! ### Profiles -/

namespace Analyzer
open Session
variable {σ : Type} {a : Analyzer σ}

/-- Whether the oracle, if there is one, judges every shell command. -/
def JudgesCommands (a : Analyzer σ) : Prop :=
  ∀ oracle ∈ a.oracle, ∀ command services, ∃ verdict services',
    (oracle.judge .shellCommand command).run services = (.ok verdict, services')

theorem run_ask_of_ok {α : Type} {request : Request σ α} {value : α} {services services' : σ}
    (h : request.run services = (.ok value, services')) (tree : FileTree) :
    (ask request).run (tree, services) = (.ok value, tree, services') := by
  unfold ask Request.lift
  rw [Effect.run_bind_eq_ok]
  refine ⟨(tree, services), (tree, services), rfl, ?_⟩
  rw [h]
  rfl

/-- A shell command that runs a sensitive file is made malicious, and a node script runs none. -/
theorem exists_run_scriptProfile (h : a.JudgesCommands) (name command : String) (tree : FileTree)
    (services : σ) :
    ∃ profile services', (a.scriptProfile name command).run (tree, services) =
      (.ok profile, tree, services') ∧ Judged profile := by
  unfold scriptProfile
  dsimp only
  split
  · next hnode =>
    refine ⟨_, services, rfl, fun hruns => ?_⟩
    rw [ScriptProfile.runsSensitiveFile_of_node hnode] at hruns
    cases hruns
  · next hkind =>
    have hshell : (ScriptProfile.ofCommand name command).kind = .shellCommand := by
      cases hkind' : (ScriptProfile.ofCommand name command).kind with
      | node => exact absurd hkind' hkind
      | shellCommand => rfl
    split
    · exact ⟨_, services, rfl, fun _ => by simp [isFlagged, hshell]⟩
    · next hruns =>
      split
      · next oracle horacle =>
        obtain ⟨verdict, services', hjudged⟩ := h oracle horacle command services
        refine ⟨{ ScriptProfile.ofCommand name command with malicious := verdict }, services', ?_,
          fun hsensitive => absurd hsensitive hruns⟩
        exact Effect.run_bind_eq_ok.mpr
          ⟨verdict, (tree, services'), run_ask_of_ok hjudged tree, rfl⟩
      · exact ⟨_, services, rfl, fun hsensitive => absurd hsensitive hruns⟩

/-- A text can be written to a file exactly if any other can. -/
theorem isSome_writeText (t : FileTree) (path text other : String) :
    (t.writeText path text).toOption.isSome = (t.writeText path other).toOption.isSome := by
  unfold FileTree.writeText
  cases t.resolve path with
  | error e => rfl
  | ok place =>
    dsimp only [bind, Except.bind]
    rcases t.entryAt? place with _ | _ | _ <;>
      rcases t.entryAt? place.dropLast with _ | _ | _ <;> rfl

theorem run_write (tree : FileTree) (services : σ) (folder name text : String) :
    (write folder name text).run (tree, services) =
      match tree.createFolder folder with
      | .error e => (.error (.file folder e.message), tree, services)
      | .ok made =>
        match made.writeText (FileTree.join folder name) text with
        | .error e => (.error (.file (FileTree.join folder name) e.message), made, services)
        | .ok written => (.ok ⟨⟩, written, services) := by
  have hfiles : (files : Step σ FileTree).run (tree, services) = (.ok tree, tree, services) := rfl
  unfold write
  rw [Effect.run_bind, hfiles]
  dsimp only
  cases tree.createFolder folder with
  | error e => rfl
  | ok made =>
    show ((ofFile _ _ : Step σ FileTree) >>= _).run (made, services) = _
    dsimp only
    cases made.writeText (FileTree.join folder name) text <;> rfl

/-- Whether a file can be written does not depend on what is written. -/
theorem write_fails_or_succeeds (tree : FileTree) (folder name : String) :
    (∀ text (services : σ), ∃ e s,
      (write folder name text).run (tree, services) = (.error e, s)) ∨
    ∀ text (services : σ), ∃ s, (write folder name text).run (tree, services) = (.ok ⟨⟩, s) := by
  simp only [run_write]
  cases tree.createFolder folder with
  | error e => exact .inl fun _ services => ⟨_, _, rfl⟩
  | ok made =>
    dsimp only
    cases hempty : (made.writeText (FileTree.join folder name) "").toOption.isSome with
    | false =>
      refine .inl fun text services => ?_
      have htext := (isSome_writeText made (FileTree.join folder name) text "").trans hempty
      cases hwritten : made.writeText (FileTree.join folder name) text with
      | error e => exact ⟨_, _, rfl⟩
      | ok written =>
        rw [hwritten] at htext
        cases htext
    | true =>
      refine .inr fun text services => ?_
      have htext := (isSome_writeText made (FileTree.join folder name) text "").trans hempty
      cases hwritten : made.writeText (FileTree.join folder name) text with
      | error e =>
        rw [hwritten] at htext
        cases htext
      | ok written => exact ⟨_, rfl⟩

/-- Whether no profiles were kept by an earlier analysis. -/
def KeepsNone (tree : FileTree) (reportDir : String) : Prop :=
  (tree.readText (FileTree.join reportDir ScriptProfiles.fileName)).toOption.bind
    ScriptProfiles.parse? = none

instance (tree : FileTree) (reportDir : String) : Decidable (KeepsNone tree reportDir) :=
  inferInstanceAs (Decidable (_ = none))

/-- Where nothing was kept and the profiles can be written, they are made. -/
theorem exists_run_scriptProfiles {tree : FileTree} {reportDir : String} (h : a.JudgesCommands)
    (hnone : KeepsNone tree reportDir)
    (hwrite : ∀ text (services : σ), ∃ s,
      (write reportDir ScriptProfiles.fileName text).run (tree, services) = (.ok ⟨⟩, s))
    (manifest : Manifest) (services : σ) :
    ∃ profiles after, (a.scriptProfiles manifest reportDir).run (tree, services) =
        (.ok profiles, after) ∧
      Sorted.Ascending profiles ∧ ∀ entry ∈ profiles, Judged entry.2 := by
  -- the oracle is asked, but no file changes until all profiles are there
  obtain ⟨made, ⟨tree', services'⟩, hmade, htree, hjudged⟩ := Effect.exists_run_mapM
    (f := fun (script : String × String) =>
      (do return (script.1, ← a.scriptProfile script.1 script.2) : Step σ (String × ScriptProfile)))
    (I := fun (s : FileTree × σ) => s.1 = tree)
    (Q := fun (entry : String × ScriptProfile) => Judged entry.2)
    (fun script s hs => by
      obtain ⟨profile, services', hrun, hprofile⟩ :=
        exists_run_scriptProfile h script.1 script.2 s.1 s.2
      exact ⟨(script.1, profile), _, Effect.run_bind_eq_ok.mpr ⟨profile, _, hrun, rfl⟩, hs,
        hprofile⟩)
    manifest.scripts (s := (tree, services)) rfl
  have hsame : tree' = tree := htree
  rw [hsame] at hmade
  obtain ⟨after, hafter⟩ := hwrite (ScriptProfiles.render (Sorted.ofEntries made)) services'
  refine ⟨Sorted.ofEntries made, after, ?_, Sorted.ascending_ofEntries made,
    fun entry hentry => hjudged entry (Sorted.ofEntries_subset made hentry)⟩
  unfold scriptProfiles
  refine Effect.run_bind_eq_ok.mpr ⟨tree, (tree, services), rfl, ?_⟩
  dsimp only
  rw [hnone]
  exact Effect.run_bind_eq_ok.mpr ⟨made, _, hmade,
    Effect.run_bind_eq_ok.mpr ⟨⟨⟩, after, hafter, rfl⟩⟩

/-- **Scripts are judged alike with and without code.** If the profiles of the scripts can be
written at all, they are made. In a package without code the flagged scripts are recorded, and
nothing else is added to the report. In a package with code the install phase records the same ones
(up to the script at which it fails, if it does), and submits findings of the installation. Either
way the report is malicious if it was before or if anything was added. -/
theorem scripts_judged_alike (h : a.JudgesCommands) {tree : FileTree} {reportDir : String}
    (hnone : KeepsNone tree reportDir) (manifest : Manifest) (services : σ) :
    (∀ text, ∃ e s, (write reportDir ScriptProfiles.fileName text).run (tree, services) =
      (.error e, s)) ∨
    ∃ profiles after,
      (a.scriptProfiles manifest reportDir).run (tree, services) = (.ok profiles, after) ∧
      (recordScripts profiles {}).scripts = flaggedScripts profiles ∧
      (∀ r : Report, r.Grows (recordScripts profiles r) (flaggedScripts profiles) []) ∧
      ∀ (c : SessionContext σ) (s : Session) (services : σ),
        let run := (installPhase c profiles).run (s, services)
        ∃ seen calls, seen <+: profiles ∧ (run.1 = .ok ⟨⟩ → seen = profiles) ∧
          (∀ call ∈ calls, call.phase = .install) ∧
          s.report.Grows run.2.1.report (flaggedScripts seen) calls := by
  rcases write_fails_or_succeeds tree reportDir ScriptProfiles.fileName with hfails | hwrites
  · exact .inl fun text => hfails text services
  · obtain ⟨profiles, after, hrun, hascending, hjudged⟩ :=
      exists_run_scriptProfiles h hnone hwrites manifest services
    have hflagged : Sorted.Ascending (flaggedScripts profiles) := hascending.filter _
    refine .inr ⟨profiles, after, hrun, ?_, grows_recordScripts profiles, fun c s services => ?_⟩
    · exact (grows_recordScripts profiles {}).scripts.trans (Sorted.foldl_put_of_ascending hflagged)
    · obtain ⟨seen, hseen, ⟨calls, hcalls, hgrows⟩, hall⟩ :=
        adds_installPhase (c := c) hjudged s services
      exact ⟨seen, calls, hseen, hall, hcalls, hgrows⟩

/-- A package whose entry file is `eval(x)`. -/
def evalAtInstall : Sample where
  code := .sketch
    [(1, "METHOD", [("NAME", ":program"), ("FILENAME", "package/index.js")]),
      (2, "CALL", [("NAME", "eval"), ("CODE", "eval(x)")])] []
  exports := ["digraph \x7b 1 -> 2 [label=CFG] \x7d"]

/-- The analysis of that package for which every function of the platform runs a command. -/
def waryContext : SessionContext Unit :=
  { evalAtInstall.session with knowledge := wary.knowledge, patterns := wary.patterns }

/-- The profiles of some scripts, where nothing was kept before. -/
def profilesOf (scripts : List (String × String)) : ScriptProfiles :=
  ((wary.scriptProfiles { scripts } "reports").run ({}, ())).1.toOption.getD []

/-- The report of the package after an installation with some scripts. -/
def installed (scripts : List (String × String)) : Report :=
  ((installPhase waryContext (profilesOf scripts)).run (evalAtInstall.start, ())).2.1.report

def shellAndNode : List (String × String) :=
  [("preinstall", "bash setup.sh"), ("install", "node index.js")]

theorem judgesCommands_wary : wary.JudgesCommands := nofun

theorem computed_shellAndNode :
    KeepsNone {} "reports" ∧
    ((write "reports" ScriptProfiles.fileName "" : Step Unit PUnit).run
      ({}, ())).1.toOption.isSome ∧
    (flaggedScripts (profilesOf shellAndNode)).map Prod.fst = ["preinstall"] ∧
    ((installPhase waryContext (profilesOf shellAndNode)).run
      (evalAtInstall.start, ())).1.toOption.isSome ∧
    (installed shellAndNode).install ≠ [] := by
  decide +kernel

/-- One script is recorded, and a finding is submitted for the code that the other one runs. -/
theorem scripts_judged_alike_shellAndNode :
    wary.JudgesCommands ∧ KeepsNone {} "reports" ∧
    ∃ profiles after,
      (wary.scriptProfiles { scripts := shellAndNode } "reports").run ({}, ()) =
        (.ok profiles, after) ∧
      (flaggedScripts profiles).map Prod.fst = ["preinstall"] ∧
      (recordScripts profiles {}).scripts = flaggedScripts profiles ∧
      ∃ calls, calls ≠ [] ∧ (∀ call ∈ calls, call.phase = .install) ∧
        Report.Grows {} (installed shellAndNode) (flaggedScripts profiles) calls := by
  obtain ⟨hnone, hwrite, hnames, hthrough, hfound⟩ := computed_shellAndNode
  refine ⟨judgesCommands_wary, hnone, ?_⟩
  rcases scripts_judged_alike judgesCommands_wary hnone { scripts := shellAndNode } () with
    hfails | ⟨profiles, after, hrun, hscripts, -, hinstall⟩
  · obtain ⟨e, s, hfailed⟩ := hfails ""
    rw [hfailed] at hwrite
    cases hwrite
  · have hprofiles : profilesOf shellAndNode = profiles := by
      rw [profilesOf, hrun]
      rfl
    rw [hprofiles] at hnames hthrough
    obtain ⟨⟨⟩, hok⟩ := Option.isSome_iff_exists.mp hthrough
    obtain ⟨s', hphase⟩ := Effect.run_of_toOption hok
    obtain ⟨seen, calls, -, hall, hcalls, hgrows⟩ := hinstall waryContext evalAtInstall.start ()
    cases hall (congrArg Prod.fst hphase)
    rw [installed, hprofiles] at hfound ⊢
    refine ⟨profiles, after, hrun, hnames, hscripts, calls, ?_, hcalls, hgrows⟩
    rintro rfl
    exact hfound (congrFun hgrows.findings .install)

def nodeOnly : List (String × String) := [("install", "node index.js")]

/-- No script is recorded here, but the code that one of them runs makes the report malicious. -/
theorem code_marks_report :
    wary.JudgesCommands ∧ KeepsNone {} "reports" ∧ evalAtInstall.start.report = {} ∧
    ((wary.scriptProfiles { scripts := nodeOnly } "reports").run ({}, ())).1.toOption =
      some (profilesOf nodeOnly) ∧
    ((installPhase waryContext (profilesOf nodeOnly)).run
      (evalAtInstall.start, ())).1.toOption = some ⟨⟩ ∧
    (installed nodeOnly).scripts = (recordScripts (profilesOf nodeOnly) {}).scripts ∧
    ¬ ((installed nodeOnly).malicious = true ↔ (installed nodeOnly).scripts ≠ []) := by
  refine ⟨judgesCommands_wary, ?_⟩
  decide +kernel

end Analyzer

end PackageVet
