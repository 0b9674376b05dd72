import PackageVet.Matching
import PackageVet.Proofs.Sorted

/-! What a report keeps of the findings that are submitted to it.

A finding is left out when one that is there already covers it (`Locality.Covers`). However many
findings are submitted, those kept for a behaviour of a phase are some of those submitted for it, in
their order; none is covered by an earlier one, and whatever was left out is covered by one that
stays (`Accounts`). One submission keeps the account (`Accounts.offer`) and touches nothing but its
own behaviour in its own phase (`find?_submit_of_ne`), so a report that was empty at first accounts
for all of them (`submissions_accounted`). -/
namespace PackageVet

/-! ### The number of findings -/

/-- The number of findings of all behaviours. -/
def Behaviors.count (behaviors : Behaviors) : Nat := (behaviors.flatMap Prod.snd).length

/-- Findings added to a behaviour are added to the number. -/
theorem Behaviors.count_upsert (behavior : String) (more : List Finding) (behaviors : Behaviors) :
    Behaviors.count (Sorted.upsert behavior (fun found => found.getD [] ++ more) behaviors) =
      behaviors.count + more.length := by
  unfold Behaviors.count
  induction behaviors with
  | nil => simp [Sorted.upsert]
  | cons entry rest ih =>
    unfold Sorted.upsert
    split
    · simp
      omega
    · simp
      omega
    · simp only [List.flatMap_cons, List.length_append, ih]
      omega

/-- A behaviour that has a finding counts. -/
theorem Behaviors.count_pos_of_find? {behavior : String} {behaviors : Behaviors}
    {findings : List Finding} {f : Finding}
    (hfound : Sorted.find? behavior behaviors = some findings) (hf : f ∈ findings) :
    0 < behaviors.count := by
  obtain ⟨entry, hentry, rfl⟩ := Option.map_eq_some_iff.mp hfound
  have hmem : f ∈ behaviors.flatMap Prod.snd :=
    List.mem_flatMap.mpr ⟨entry, List.mem_of_find?_eq_some hentry, hf⟩
  exact List.length_pos_of_mem hmem

namespace Report
variable {r : Report}

theorem findingCount_eq (r : Report) :
    r.findingCount = r.install.count + r.imported.count + r.run.count := by
  simp only [findingCount, Phase.all, findings, Behaviors.count, List.flatMap_cons,
    List.flatMap_nil, List.append_nil, List.length_append]
  omega

theorem count_findings_le (r : Report) (phase : Phase) :
    Behaviors.count (r.findings phase) ≤ r.findingCount := by
  rw [findingCount_eq]
  cases phase <;> simp only [findings] <;> omega

theorem findingCount_setFindings (r : Report) (phase : Phase) (behaviors : Behaviors) {n : Nat}
    (h : behaviors.count = Behaviors.count (r.findings phase) + n) :
    (r.setFindings phase behaviors).findingCount = r.findingCount + n := by
  rw [findingCount_eq, findingCount_eq]
  cases phase <;> simp only [setFindings, findings] at h ⊢ <;> omega

/-- A finding that is covered has another one beside it. -/
theorem findingCount_pos_of_covers {phase : Phase} {behavior : String} {f : Finding}
    (h : r.covers phase behavior f = true) : 0 < r.findingCount := by
  unfold covers at h
  cases hfound : Sorted.find? behavior (r.findings phase) with
  | none => simp [hfound] at h
  | some findings =>
    simp only [hfound, Option.getD_some, List.any_eq_true] at h
    obtain ⟨other, hother, -⟩ := h
    have hpos := Behaviors.count_pos_of_find? hfound hother
    have hle := r.count_findings_le phase
    omega

theorem findingCount_addFinding (r : Report) (phase : Phase) (behavior : String) (f : Finding) :
    (r.addFinding phase behavior f).2.findingCount =
      if (r.addFinding phase behavior f).1 then r.findingCount + 1 else r.findingCount := by
  unfold addFinding
  dsimp only
  rw [findingCount_setFindings r phase _ (Behaviors.count_upsert ..)]
  cases r.covers phase behavior f <;> simp

/-- After a finding was offered there is one, be it this or one that covers it. -/
theorem findingCount_addFinding_pos (r : Report) (phase : Phase) (behavior : String) (f : Finding) :
    0 < (r.addFinding phase behavior f).2.findingCount := by
  rw [findingCount_addFinding]
  by_cases hcovered : r.covers phase behavior f = true
  · have hpos := findingCount_pos_of_covers hcovered
    split <;> omega
  · have hadded : (r.addFinding phase behavior f).1 = true := by simp [addFinding, hcovered]
    rw [if_pos hadded]
    omega

end Report

/-! ### Covering -/

/-- Whether a locality covers another: it has as many files, and every file of the other with all
the lines that the other has in it. -/
def Locality.Covers (wide narrow : Locality) : Prop :=
  narrow.length = wide.length ∧
    ∀ file lines, (file, lines) ∈ narrow → ∃ covering, (file, covering) ∈ wide ∧ lines ⊆ covering

theorem Locality.Covers.refl (l : Locality) : l.Covers l :=
  ⟨rfl, fun _ lines hmem => ⟨lines, hmem, List.Subset.refl _⟩⟩

namespace Finding
variable {f other : Finding} {found offered : List Finding}

theorem isCoveredBy_iff (h : (other.lines.map Prod.fst).Nodup) :
    f.isCoveredBy other = true ↔ other.lines.Covers f.lines := by
  rw [isCoveredBy, Bool.or_eq_true, Bool.and_eq_true, decide_eq_true_eq, decide_eq_true_eq,
    List.all_eq_true]
  constructor
  · rintro (rfl | ⟨hlength, hall⟩)
    · exact .refl _
    · refine ⟨hlength, fun file lines hmem => ?_⟩
      have hfile := hall (file, lines) hmem
      dsimp only at hfile
      cases hfound : Sorted.find? file other.lines with
      | none => simp [hfound] at hfile
      | some covering =>
        rw [hfound] at hfile
        refine ⟨covering, Sorted.mem_of_find? hfound, fun line hline => ?_⟩
        exact List.contains_iff_mem.mp (List.all_eq_true.mp hfile line hline)
  · rintro ⟨hlength, hall⟩
    refine .inr ⟨hlength, fun entry hmem => ?_⟩
    obtain ⟨covering, hcovering, hsub⟩ := hall entry.1 entry.2 hmem
    dsimp only
    rw [Sorted.find?_of_mem h hcovering]
    exact List.all_eq_true.mpr fun line hline => List.contains_iff_mem.mpr (hsub hline)

/-- The findings of a behaviour after one more is submitted. -/
def offer (found : List Finding) (f : Finding) : List Finding :=
  if found.any f.isCoveredBy then found else found ++ [f]

/-- Whether the findings kept account for those submitted. -/
structure Accounts (offered found : List Finding) : Prop where
  sublist : found.Sublist offered
  uncovered : found.Pairwise fun earlier later => ¬ earlier.lines.Covers later.lines
  covered : ∀ f ∈ offered, ∃ g ∈ found, g.lines.Covers f.lines

theorem accounts_nil : Accounts [] [] := ⟨.refl _, .nil, fun f hf => by cases hf⟩

theorem Accounts.offer (h : Accounts offered found)
    (hfiles : ∀ g ∈ offered, (g.lines.map Prod.fst).Nodup) (f : Finding) :
    Accounts (offered ++ [f]) (offer found f) := by
  have hcovers (g : Finding) (hg : g ∈ found) :
      f.isCoveredBy g = true ↔ g.lines.Covers f.lines :=
    isCoveredBy_iff (hfiles g (h.sublist.subset hg))
  unfold Finding.offer
  split
  · next hany =>
    obtain ⟨g, hg, hcovered⟩ := List.any_eq_true.mp hany
    refine ⟨h.sublist.trans (List.sublist_append_left ..), h.uncovered, fun f' hf' => ?_⟩
    rcases List.mem_append.mp hf' with hf' | hf'
    · exact h.covered f' hf'
    · cases List.mem_singleton.mp hf'
      exact ⟨g, hg, (hcovers g hg).mp hcovered⟩
  · next hnone =>
    refine ⟨h.sublist.append (.refl _), ?_, fun f' hf' => ?_⟩
    · refine List.pairwise_append.mpr ⟨h.uncovered, List.pairwise_singleton .., ?_⟩
      intro g hg f' hf'
      cases List.mem_singleton.mp hf'
      exact fun hcovered => hnone (List.any_eq_true.mpr ⟨g, hg, (hcovers g hg).mpr hcovered⟩)
    · rcases List.mem_append.mp hf' with hf' | hf'
      · obtain ⟨g, hg, hcovered⟩ := h.covered f' hf'
        exact ⟨g, List.mem_append_left _ hg, hcovered⟩
      · cases List.mem_singleton.mp hf'
        exact ⟨f, List.mem_append_right _ (List.mem_singleton_self f), .refl _⟩

theorem Accounts.foldl_offer {more : List Finding} (h : Accounts offered found)
    (hfiles : ∀ g ∈ offered ++ more, (g.lines.map Prod.fst).Nodup) :
    Accounts (offered ++ more) (more.foldl Finding.offer found) := by
  induction more generalizing offered found with
  | nil => simpa using h
  | cons f rest ih =>
    have hnext := h.offer (fun g hg => hfiles g (List.mem_append_left _ hg)) f
    rw [List.append_cons] at hfiles ⊢
    exact ih hnext hfiles

end Finding

/-! ### Submissions -/

/-- A finding submitted for a behaviour of a phase. Its locality is a map from files. -/
structure Submission where
  phase : Phase
  behavior : String
  finding : Finding
  files_nodup : (finding.lines.map Prod.fst).Nodup

/-- The findings submitted for a behaviour of a phase. -/
def Submission.submitted (calls : List Submission) (phase : Phase) (behavior : String) :
    List Finding :=
  (calls.filter fun c => c.phase = phase ∧ c.behavior = behavior).map Submission.finding

theorem Pattern.ascending_locality (p : Pattern) (m : Mapping) (arena : Arena) :
    Sorted.Ascending (p.locality m arena) := by
  refine List.foldlRecOn (motive := fun (lines : Locality) => Sorted.Ascending lines) _ _ .nil ?_
  intro lines hlines node _
  split
  · exact hlines
  · exact Sorted.ascending_upsert hlines

/-- What a match submits. -/
def Submission.ofMatch (phase : Phase) (p : Pattern) (m : Mapping) (arena : Arena) :
    Submission where
  phase
  behavior := p.behavior
  finding := { description := p.description, lines := p.locality m arena }
  files_nodup := (p.ascending_locality m arena).nodup_keys

namespace Report
open Submission

/-- The findings kept for a behaviour of a phase. -/
def stored (r : Report) (phase : Phase) (behavior : String) : List Finding :=
  (Sorted.find? behavior (r.findings phase)).getD []

def submit (r : Report) (c : Submission) : Bool × Report := r.addFinding c.phase c.behavior c.finding

/-- A match that is kept is submitted, and makes the report malicious. -/
theorem report_record (s : Matched) (phase : Phase) (arena : Arena) (p : Pattern) (m : Mapping) :
    (s.record phase arena p m).report =
      { (s.report.submit (.ofMatch phase p m arena)).2 with malicious := true } := rfl

/-- The report after some submissions. -/
def after (r : Report) : List Submission → Report
  | [] => r
  | c :: rest => (r.submit c).2.after rest

/-- The answers to some submissions: whether each was added. -/
def answers (r : Report) : List Submission → List Bool
  | [] => []
  | c :: rest => (r.submit c).1 :: (r.submit c).2.answers rest

/-- Whether the behaviours of every phase are in order. -/
def Ordered (r : Report) : Prop := ∀ phase, Sorted.Ascending (r.findings phase)

theorem findings_setFindings (r : Report) (phase other : Phase) (behaviors : Behaviors) :
    (r.setFindings phase behaviors).findings other =
      if other = phase then behaviors else r.findings other := by
  cases phase <;> cases other <;> rfl

variable {r : Report} {c : Submission} {phase : Phase} {behavior : String}

theorem ordered_empty : Ordered {} := by
  intro phase
  cases phase <;> exact List.Pairwise.nil

theorem Ordered.submit (h : r.Ordered) (c : Submission) : (r.submit c).2.Ordered := by
  intro phase
  simp only [Report.submit, addFinding, findings_setFindings]
  split
  · exact Sorted.ascending_upsert (h c.phase)
  · exact h phase

theorem stored_submit_self (h : r.Ordered) (c : Submission) :
    (r.submit c).2.stored c.phase c.behavior =
      Finding.offer (r.stored c.phase c.behavior) c.finding := by
  have hcovers : (r.stored c.phase c.behavior).any c.finding.isCoveredBy =
      r.covers c.phase c.behavior c.finding := rfl
  rw [Finding.offer, hcovers]
  simp only [stored, submit, addFinding, findings_setFindings, if_true,
    Sorted.find?_upsert_self (h c.phase), Option.getD_some]
  split <;> simp

/-- Other phases and behaviours are not touched. -/
theorem find?_submit_of_ne (hne : ¬ (c.phase = phase ∧ c.behavior = behavior)) :
    Sorted.find? behavior ((r.submit c).2.findings phase) =
      Sorted.find? behavior (r.findings phase) := by
  simp only [submit, addFinding, findings_setFindings]
  split
  · next hphase =>
    rw [hphase]
    exact Sorted.find?_upsert_of_ne fun hbehavior => hne ⟨hphase.symm, hbehavior.symm⟩
  · rfl

theorem mem_behaviors_submit :
    behavior ∈ ((r.submit c).2.findings phase).map Prod.fst ↔
      (c.phase = phase ∧ c.behavior = behavior) ∨ behavior ∈ (r.findings phase).map Prod.fst := by
  simp only [submit, addFinding, findings_setFindings]
  split
  · next hphase =>
    subst hphase
    rw [Sorted.mem_keys_upsert]
    simp [eq_comm]
  · next hphase => simp [Ne.symm hphase]

/-! ### All submissions -/

theorem stored_after (h : r.Ordered) (calls : List Submission) (phase : Phase) (behavior : String) :
    (r.after calls).stored phase behavior =
      (submitted calls phase behavior).foldl Finding.offer (r.stored phase behavior) := by
  induction calls generalizing r with
  | nil => rfl
  | cons c rest ih =>
    rw [after, ih (h.submit c)]
    by_cases hc : c.phase = phase ∧ c.behavior = behavior
    · obtain ⟨rfl, rfl⟩ := hc
      rw [stored_submit_self h c]
      simp [submitted]
    · rw [stored, find?_submit_of_ne hc]
      simp [submitted, hc, stored]

theorem mem_behaviors_after (calls : List Submission) :
    behavior ∈ ((r.after calls).findings phase).map Prod.fst ↔
      (∃ c ∈ calls, c.phase = phase ∧ c.behavior = behavior) ∨
        behavior ∈ (r.findings phase).map Prod.fst := by
  induction calls generalizing r with
  | nil => simp [after]
  | cons c rest ih =>
    rw [after, ih, mem_behaviors_submit]
    simp only [List.mem_cons, exists_eq_or_imp]
    exact or_left_comm.trans or_assoc.symm

/-- As many findings are new as submissions were added. -/
theorem findingCount_after (r : Report) (calls : List Submission) :
    (r.after calls).findingCount = r.findingCount + (r.answers calls).count true := by
  induction calls generalizing r with
  | nil => rfl
  | cons c rest ih =>
    have hcount : (r.submit c).2.findingCount =
        if (r.submit c).1 then r.findingCount + 1 else r.findingCount :=
      r.findingCount_addFinding ..
    rw [after, ih, hcount, answers, List.count_cons]
    cases (r.submit c).1
    · simp
    · simp
      omega

theorem hasInformationStealing_iff (r : Report) :
    r.hasInformationStealing = true ↔
      ∃ phase, informationStealing ∈ (r.findings phase).map Prod.fst := by
  have hall (phase : Phase) : phase ∈ Phase.all := by cases phase <;> decide
  simp only [hasInformationStealing, List.any_eq_true, decide_eq_true_eq, List.mem_map]
  constructor
  · intro h
    obtain ⟨phase, -, hkey⟩ := h
    exact ⟨phase, hkey⟩
  · intro h
    obtain ⟨phase, hkey⟩ := h
    exact ⟨phase, hall phase, hkey⟩

/-- **A report accounts for everything that was submitted to it.** -/
theorem submissions_accounted (calls : List Submission) :
    let r := after {} calls
    (∀ phase behavior,
      Finding.Accounts (submitted calls phase behavior) (r.stored phase behavior) ∧
      (behavior ∈ (r.findings phase).map Prod.fst ↔
        ∃ c ∈ calls, c.phase = phase ∧ c.behavior = behavior)) ∧
    (answers {} calls).count true = r.findingCount ∧
    (r.hasInformationStealing = true ↔ ∃ c ∈ calls, c.behavior = informationStealing) ∧
    ∀ (before : Report) (c : Submission) (phase : Phase) (behavior : String),
      ¬ (c.phase = phase ∧ c.behavior = behavior) →
        Sorted.find? behavior ((before.submit c).2.findings phase) =
          Sorted.find? behavior (before.findings phase) := by
  intro r
  have hkeys (phase : Phase) (behavior : String) :
      behavior ∈ (r.findings phase).map Prod.fst ↔
        ∃ c ∈ calls, c.phase = phase ∧ c.behavior = behavior := by
    refine (mem_behaviors_after calls).trans (or_iff_left ?_)
    cases phase <;> exact List.not_mem_nil
  refine ⟨fun phase behavior => ⟨?_, hkeys phase behavior⟩, ?_, ?_, ?_⟩
  · have hstored : r.stored phase behavior =
        (submitted calls phase behavior).foldl Finding.offer [] := by
      rw [stored_after ordered_empty]
      cases phase <;> rfl
    rw [hstored]
    refine Finding.accounts_nil.foldl_offer fun f hf => ?_
    obtain ⟨c, -, rfl⟩ := List.mem_map.mp hf
    exact c.files_nodup
  · rw [findingCount_after, show findingCount {} = 0 by rfl, Nat.zero_add]
  · rw [hasInformationStealing_iff]
    simp only [hkeys]
    constructor
    · intro h
      obtain ⟨_, c, hc, -, hb⟩ := h
      exact ⟨c, hc, hb⟩
    · intro h
      obtain ⟨c, hc, hb⟩ := h
      exact ⟨c.phase, c, hc, rfl, hb⟩
  · exact fun _ _ _ _ => find?_submit_of_ne

def wide : Finding := { description := "wide", lines := [("a.js", [1, 2, 3])] }

def narrow : Finding := { description := "narrow", lines := [("a.js", [2])] }

def elsewhere : Finding := { description := "elsewhere", lines := [("a.js", [2]), ("b.js", [9])] }

/-- A finding, the same again, one that it covers and one that has a file more. -/
def overlapping : List Submission :=
  [⟨.run, "B", wide, by decide⟩, ⟨.run, "B", wide, by decide⟩, ⟨.run, "B", narrow, by decide⟩,
   ⟨.run, "B", elsewhere, by decide⟩]

/-- The covered one in another phase. -/
def covered : Submission := ⟨.install, informationStealing, narrow, by decide⟩

theorem submissions_accounted_overlapping :
    Finding.Accounts [wide, wide, narrow, elsewhere] [wide, elsewhere] ∧
    (after {} (overlapping ++ [covered])).findingCount = 3 ∧
    (after {} (overlapping ++ [covered])).hasInformationStealing = true ∧
    Sorted.find? "B" (((after {} overlapping).submit covered).2.findings .run) =
      some [wide, elsewhere] := by
  have hrun : (after {} overlapping).stored .run "B" = [wide, elsewhere] ∧
      Sorted.find? "B" ((after {} overlapping).findings .run) = some [wide, elsewhere] ∧
      (answers {} (overlapping ++ [covered])).count true = 3 := by decide +kernel
  obtain ⟨hstored, hfound, hanswers⟩ := hrun
  obtain ⟨-, hcount, hstealing, huntouched⟩ := submissions_accounted (overlapping ++ [covered])
  refine ⟨?_, hcount.symm.trans hanswers, ?_, ?_⟩
  · rw [← hstored]
    exact ((submissions_accounted overlapping).1 .run "B").1
  · exact hstealing.mpr ⟨covered, List.mem_append_right _ (List.mem_singleton_self _), rfl⟩
  · rw [huntouched (after {} overlapping) covered .run "B" (by decide), hfound]

end Report

end PackageVet
