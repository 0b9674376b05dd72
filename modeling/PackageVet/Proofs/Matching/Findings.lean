import PackageVet.Proofs.Effect
import PackageVet.Proofs.Matching.Matches

/-! When a report becomes malicious.

Looking for a library of patterns goes pattern by pattern: one that is subsumed by a pattern with
matches is passed over, whatever became of those matches. Each step keeps `Matched.After`, so at the
end the report is malicious exactly if it was before, or if a match is kept of a pattern that no
earlier one with matches subsumes (`Confirms`). A kept match can so be lost to an earlier pattern
whose own matches are all rejected. -/
namespace PackageVet

/-- Whether a keeper never fails and decides by the pattern and the match alone. -/
def Keeper.Decides {σ : Type} (keep : Keeper σ) (keeps : Pattern → Mapping → Bool) : Prop :=
  ∀ p m arena report, Effect.Gives (keep p m arena report) (keeps p m)

/-! ### One pattern -/

namespace Matched
variable {r : ReducedGraph} {arena : Arena} {keeps : Pattern → Mapping → Bool} {phase : Phase}
  {s : Matched} {p : Pattern}

/-- Records a match of a pattern if it is kept. -/
def recordKept (arena : Arena) (keeps : Pattern → Mapping → Bool) (phase : Phase) (p : Pattern)
    (s : Matched) (m : Mapping) : Matched :=
  if keeps p m then s.record phase arena p m else s

/-- What looking for one pattern comes to. -/
def searched (r : ReducedGraph) (arena : Arena) (keeps : Pattern → Mapping → Bool) (phase : Phase)
    (s : Matched) (p : Pattern) : Matched :=
  if s.matched.any p.isSubsumedBy ∨ p.matchesIn r = [] then s
  else (p.matchesIn r).foldl (recordKept arena keeps phase p) { s with matched := s.matched ++ [p] }

theorem matched_foldl_recordKept (found : List Mapping) :
    (found.foldl (recordKept arena keeps phase p) s).matched = s.matched := by
  refine List.foldlRecOn (motive := fun (s' : Matched) => s'.matched = s.matched) _ _ rfl ?_
  intro s' h m _
  unfold recordKept
  split
  · exact h
  · exact h

theorem malicious_foldl_recordKept (found : List Mapping) :
    (found.foldl (recordKept arena keeps phase p) s).report.malicious = true ↔
      s.report.malicious = true ∨ ∃ m ∈ found, keeps p m = true := by
  induction found generalizing s with
  | nil => simp
  | cons m rest ih =>
    rw [List.foldl_cons, ih, recordKept, List.exists_mem_cons_iff]
    cases hm : keeps p m with
    | false => simp
    | true => simp [record]

end Matched

namespace Looking
variable {σ α : Type} {r : ReducedGraph} {arena : Arena} {keep : Keeper σ}
  {keeps : Pattern → Mapping → Bool} {phase : Phase} {p : Pattern}

/-- Whether a step always succeeds and changes what was found in one way. -/
def Does (step : Looking σ PUnit) (f : Matched → Matched) : Prop :=
  ∀ s x, ∃ x', step.run (s, x) = (.ok ⟨⟩, f s, x')

theorem does_forM {step : α → Looking σ PUnit} {f : Matched → α → Matched} {xs : List α}
    (h : ∀ a ∈ xs, Does (step a) (f · a)) : Does (xs.forM step) (xs.foldl f ·) := by
  induction xs with
  | nil => exact fun s x => ⟨x, rfl⟩
  | cons a rest ih =>
    intro s x
    obtain ⟨x₁, hfirst⟩ := h a (List.mem_cons_self ..) s x
    obtain ⟨x', hrest⟩ := ih (fun a ha => h a (List.mem_cons_of_mem _ ha)) (f s a) x₁
    exact ⟨x', (Effect.run_bind_of_ok hfirst).trans hrest⟩

theorem does_judge (hkeep : keep.Decides keeps) (m : Mapping) :
    Does (judge arena keep phase .unlimited p m) (Matched.recordKept arena keeps phase p · m) := by
  intro s x
  obtain ⟨x', hrun⟩ := hkeep p m arena s.report x
  have hcheck : ((Deadline.unlimited : Deadline σ).check.onSecond : Looking σ PUnit).run (s, x) =
      (.ok ⟨⟩, s, x) := rfl
  have hstate : (state : Looking σ Matched).run (s, x) = (.ok s, s, x) := rfl
  have hkept : ((keep p m arena s.report).onSecond : Looking σ Bool).run (s, x) =
      (.ok (keeps p m), s, x') := by
    rw [Effect.run_onSecond, hrun]
  refine ⟨x', ?_⟩
  rw [judge, Effect.run_bind_of_ok hcheck, Effect.run_bind_of_ok hstate,
    Effect.run_bind_of_ok hkept]
  unfold Matched.recordKept
  cases keeps p m <;> rfl

theorem does_search (hp : p.head ∈ p.categories) (hkeep : keep.Decides keeps) :
    Does (search r arena keep phase .unlimited p) (Matched.searched r arena keeps phase · p) := by
  intro s x
  have hstate : (state : Looking σ Matched).run (s, x) = (.ok s, s, x) := rfl
  rw [search, Effect.run_bind_of_ok hstate]
  dsimp only [Matched.searched]
  by_cases hskip : (r.nodesWith p.head).isEmpty || s.matched.any p.isSubsumedBy
  · have hnothing : s.matched.any p.isSubsumedBy = true ∨ p.matchesIn r = [] :=
      (Bool.or_eq_true_iff.mp hskip).symm.imp_right (Pattern.matchesIn_eq_nil_of_head hp)
    rw [if_pos hskip, if_pos hnothing]
    exact ⟨x, rfl⟩
  · obtain ⟨-, hsubsumed⟩ := not_or.mp (fun h => hskip (Bool.or_eq_true_iff.mpr h))
    have hfound : ((p.findMatches r (.unlimited : Deadline σ)).onSecond : Looking σ _).run (s, x) =
        (.ok (p.matchesIn r), s, x) := by
      rw [Pattern.findMatches_unlimited]
      rfl
    rw [if_neg hskip, Effect.run_bind_of_ok hfound]
    by_cases hnone : p.matchesIn r = []
    · rw [if_pos (List.isEmpty_iff.mpr hnone), if_pos (.inr hnone)]
      exact ⟨x, rfl⟩
    · rw [if_neg (fun h => hnone (List.isEmpty_iff.mp h)), if_neg (not_or.mpr ⟨hsubsumed, hnone⟩)]
      exact does_forM (fun m _ => does_judge hkeep m) { s with matched := s.matched ++ [p] } x

end Looking

/-! ### A library -/

/-- Whether a match of a pattern is kept. -/
def Pattern.HasKept (p : Pattern) (r : ReducedGraph) (keeps : Pattern → Mapping → Bool) : Prop :=
  ∃ found, (p.findMatches r .unlimited).run () = (.ok found, ()) ∧ ∃ m ∈ found, keeps p m = true

/-- Whether a pattern is passed over: one before it has matches and asks for all that it asks
for. -/
def Pattern.PassedOver (p : Pattern) (r : ReducedGraph) (earlier : List Pattern) : Prop :=
  ∃ q ∈ earlier, q.HasMatch r ∧ p.isSubsumedBy q = true

/-- Whether a library has a kept match of a pattern that is not passed over. -/
def Confirms (library : List Pattern) (r : ReducedGraph) (keeps : Pattern → Mapping → Bool) :
    Prop :=
  ∃ earlier p later, library = earlier ++ p :: later ∧ ¬ p.PassedOver r earlier ∧ p.HasKept r keeps

section
variable {r : ReducedGraph} {keeps : Pattern → Mapping → Bool} {p : Pattern}
  {done : List Pattern}

theorem Pattern.hasKept_iff : p.HasKept r keeps ↔ ∃ m ∈ p.matchesIn r, keeps p m = true := by
  unfold HasKept
  rw [findMatches_unlimited]
  constructor
  · rintro ⟨found, ⟨⟩, hfound⟩
    exact hfound
  · exact fun h => ⟨_, rfl, h⟩

theorem confirms_concat : Confirms (done ++ [p]) r keeps ↔
    Confirms done r keeps ∨ (¬ p.PassedOver r done ∧ p.HasKept r keeps) := by
  constructor
  · rintro ⟨earlier, q, later, heq, hq⟩
    rcases List.eq_nil_or_concat later with rfl | ⟨later, last, rfl⟩
    · obtain ⟨rfl, he⟩ := List.append_inj' heq rfl
      cases he
      exact .inr hq
    · have hsplit : done ++ [p] = (earlier ++ q :: later) ++ [last] := by simpa using heq
      obtain ⟨rfl, -⟩ := List.append_inj' hsplit rfl
      exact .inl ⟨earlier, q, later, rfl, hq⟩
  · rintro (⟨earlier, q, later, rfl, hq⟩ | hp)
    · exact ⟨earlier, q, later ++ [p], by simp, hq⟩
    · exact ⟨done, p, [], rfl, hp⟩

end

namespace Matched
variable {r : ReducedGraph} {arena : Arena} {keeps : Pattern → Mapping → Bool} {phase : Phase}
  {report : Report} {s : Matched} {p : Pattern} {done : List Pattern}

/-- What holds after looking for some patterns. -/
structure After (r : ReducedGraph) (keeps : Pattern → Mapping → Bool) (report : Report)
    (done : List Pattern) (s : Matched) : Prop where
  matched : ∀ q ∈ s.matched, q ∈ done ∧ q.HasMatch r
  covers : ∀ q ∈ done, q.HasMatch r → ∃ wider ∈ s.matched, q.isSubsumedBy wider = true
  malicious : s.report.malicious = true ↔ report.malicious = true ∨ Confirms done r keeps

/-- Patterns that were passed over themselves make no difference, as subsumption is transitive. -/
theorem After.passedOver_iff (h : After r keeps report done s) :
    p.PassedOver r done ↔ s.matched.any p.isSubsumedBy = true := by
  rw [List.any_eq_true]
  constructor
  · rintro ⟨q, hq, hmatch, hpq⟩
    obtain ⟨wider, hwider, hsub⟩ := h.covers q hq hmatch
    exact ⟨wider, hwider, Pattern.isSubsumedBy_trans hpq hsub⟩
  · rintro ⟨q, hq, hpq⟩
    obtain ⟨hdone, hmatch⟩ := h.matched q hq
    exact ⟨q, hdone, hmatch, hpq⟩

/-- One more pattern. -/
theorem After.searched (h : After r keeps report done s) (arena : Arena) (phase : Phase)
    (p : Pattern) :
    After r keeps report (done ++ [p]) (Matched.searched r arena keeps phase s p) := by
  unfold Matched.searched
  split
  · next hskip =>
    -- nothing is looked for, or nothing is found
    refine ⟨fun q hq => ?_, fun q hq hmatch => ?_, ?_⟩
    · obtain ⟨hdone, hmatch⟩ := h.matched q hq
      exact ⟨List.mem_append_left _ hdone, hmatch⟩
    · rcases List.mem_append.mp hq with hdone | hlast
      · exact h.covers q hdone hmatch
      · cases List.mem_singleton.mp hlast
        have hany := hskip.resolve_right (Pattern.hasMatch_iff_matchesIn.mp hmatch)
        exact List.any_eq_true.mp hany
    · have hnot : ¬ (¬ p.PassedOver r done ∧ p.HasKept r keeps) := by
        rw [h.passedOver_iff, Pattern.hasKept_iff]
        rintro ⟨hany, m, hm, -⟩
        exact List.ne_nil_of_mem hm (hskip.resolve_left hany)
      rw [h.malicious, confirms_concat, or_iff_left hnot]
  · next hsearch =>
    obtain ⟨hany, hfound⟩ := not_or.mp hsearch
    have hself : p.HasMatch r := Pattern.hasMatch_iff_matchesIn.mpr hfound
    refine ⟨?_, ?_, ?_⟩
    · rw [matched_foldl_recordKept]
      intro q hq
      rcases List.mem_append.mp hq with hold | hlast
      · obtain ⟨hdone, hmatch⟩ := h.matched q hold
        exact ⟨List.mem_append_left _ hdone, hmatch⟩
      · cases List.mem_singleton.mp hlast
        exact ⟨List.mem_append_right _ hlast, hself⟩
    · rw [matched_foldl_recordKept]
      intro q hq hmatch
      rcases List.mem_append.mp hq with hdone | hlast
      · obtain ⟨wider, hwider, hsub⟩ := h.covers q hdone hmatch
        exact ⟨wider, List.mem_append_left _ hwider, hsub⟩
      · cases List.mem_singleton.mp hlast
        exact ⟨p, List.mem_append_right _ hlast, Pattern.isSubsumedBy_refl p⟩
    · rw [malicious_foldl_recordKept, ← Pattern.hasKept_iff, h.malicious, confirms_concat,
        h.passedOver_iff, or_assoc]
      simp [hany]

theorem After.foldl_searched (library : List Pattern) (h : After r keeps report done s) :
    After r keeps report (done ++ library)
      (library.foldl (Matched.searched r arena keeps phase) s) := by
  induction library generalizing done s with
  | nil => simpa using h
  | cons p rest ih =>
    have hrest := ih (h.searched arena phase p)
    rwa [List.append_assoc] at hrest

theorem after_nil (r : ReducedGraph) (keeps : Pattern → Mapping → Bool) (report : Report) :
    After r keeps report [] { report } := by
  refine ⟨by simp, by simp, ?_⟩
  have hnot : ¬ Confirms [] r keeps := by
    rintro ⟨earlier, p, later, heq, -⟩
    simp at heq
  rw [or_iff_left hnot]

end Matched

theorem does_matchPatterns {σ : Type} {library : List Pattern} (r : ReducedGraph) (arena : Arena)
    {keep : Keeper σ} {keeps : Pattern → Mapping → Bool} (phase : Phase)
    (hlibrary : ∀ p ∈ library, p.head ∈ p.categories) (hkeep : keep.Decides keeps) :
    Looking.Does (matchPatterns library r arena keep phase .unlimited)
      (library.foldl (Matched.searched r arena keeps phase) ·) := by
  unfold matchPatterns
  split
  · next hempty =>
    intro s x
    -- nothing matches in a graph without nodes
    have hsame : library.foldl (Matched.searched r arena keeps phase) s = s := by
      refine List.foldlRecOn (motive := fun (s' : Matched) => s' = s) _ _ rfl ?_
      intro s' hs p hp
      have hnone : (r.nodesWith p.head).isEmpty = true := by
        simp [ReducedGraph.nodesWith, List.isEmpty_iff.mp hempty]
      rw [Matched.searched, if_pos (.inr (Pattern.matchesIn_eq_nil_of_head (hlibrary p hp) hnone)),
        hs]
    refine ⟨x, ?_⟩
    dsimp only
    rw [hsame]
    rfl
  · exact Looking.does_forM fun p hp => Looking.does_search (hlibrary p hp) hkeep

/-- **After looking for a library, a report is malicious exactly if it was before, or if a match is
kept of a pattern that is not passed over.** -/
theorem matchPatterns_malicious_iff {σ : Type} (library : List Pattern) (r : ReducedGraph)
    (arena : Arena) (keep : Keeper σ) (keeps : Pattern → Mapping → Bool) (phase : Phase)
    (report : Report) (hlibrary : ∀ p ∈ library, p.WellFormed) (hkeep : keep.Decides keeps)
    (state : σ) :
    ∃ found state',
      (matchPatterns library r arena keep phase .unlimited).run ({ report }, state) =
        (.ok ⟨⟩, found, state') ∧
      (found.report.malicious = true ↔ report.malicious = true ∨ Confirms library r keeps) := by
  obtain ⟨state', hrun⟩ :=
    does_matchPatterns r arena phase (fun p hp => (hlibrary p hp).head) hkeep { report } state
  exact ⟨_, state', hrun, ((Matched.after_nil r keeps report).foldl_searched library).malicious⟩

/-! ### A kept match that is lost -/

/-- A command is executed before a request. -/
def commandThenRequest : Pattern :=
  .ofKey "Suspicious commands" "execute a command"
    (.pair ⟨.executeCommand, .control, .httpRequest⟩) []

/-- A request is made. -/
def anyRequest : Pattern :=
  .ofKey "Suspicious requests" "make a request" (.single .httpRequest) []

/-- A command at the first node, a request at the second. -/
def commandAndRequest : ReducedGraph :=
  (({} : ReducedGraph).addNode 1 .executeCommand |>.addNode 2 .httpRequest).addEdge 1 2 .control []

/-- With the wider pattern later in the library, the match of the narrower one counts. -/
theorem matchPatterns_malicious_iff_anyRequest :
    ∃ found state',
      (matchPatterns [anyRequest, commandThenRequest] commandAndRequest {}
        (fun p _ _ _ => pure p.isSingle : Keeper Unit) .imported .unlimited).run
          ({ report := {} }, ()) = (.ok ⟨⟩, found, state') ∧ found.report.malicious = true := by
  have hlibrary : ∀ p ∈ [anyRequest, commandThenRequest], p.WellFormed := by
    simp only [List.forall_mem_cons]
    exact ⟨Pattern.wellFormed_ofKey .., Pattern.wellFormed_ofKey .., by simp⟩
  obtain ⟨found, state', hrun, hmalicious⟩ := matchPatterns_malicious_iff
    [anyRequest, commandThenRequest] commandAndRequest {}
    (fun p _ _ _ => pure p.isSingle : Keeper Unit) (fun p _ => p.isSingle) .imported {} hlibrary
    (fun p _ _ _ => Effect.gives_pure p.isSingle) ()
  have hfirst : ¬ anyRequest.PassedOver commandAndRequest [] := by
    rintro ⟨q, hq, -⟩
    cases hq
  have hkept : anyRequest.HasKept commandAndRequest fun p _ => p.isSingle :=
    Pattern.hasKept_iff.mpr (by decide)
  exact ⟨found, state', hrun, hmalicious.mpr (.inr ⟨[], _, _, rfl, hfirst, hkept⟩)⟩

/-- With the wider pattern first, all of whose matches are rejected, a kept match of the narrower
one is lost. -/
theorem kept_match_passed_over :
    ¬ ∀ (library : List Pattern) (r : ReducedGraph) (arena : Arena) (keep : Keeper Unit)
      (keeps : Pattern → Mapping → Bool) (phase : Phase) (report : Report),
      (∀ p ∈ library, p.WellFormed) → r.Built → keep.Decides keeps →
      (∃ p ∈ library, p.HasKept r keeps) →
      ∃ found state',
        (matchPatterns library r arena keep phase .unlimited).run ({ report }, ()) =
          (.ok ⟨⟩, found, state') ∧ found.report.malicious = true := by
  intro h
  have hlibrary : ∀ p ∈ [commandThenRequest, anyRequest], p.WellFormed := by
    simp only [List.forall_mem_cons]
    exact ⟨Pattern.wellFormed_ofKey .., Pattern.wellFormed_ofKey .., by simp⟩
  have hbuilt : commandAndRequest.Built := .addEdge _ _ _ _ (.addNode _ _ (.addNode _ _ .empty))
  have hkept : anyRequest.HasKept commandAndRequest fun p _ => p.isSingle :=
    Pattern.hasKept_iff.mpr (by decide)
  obtain ⟨found, state', hrun, hmalicious⟩ := h [commandThenRequest, anyRequest]
    commandAndRequest {} (fun p _ _ _ => pure p.isSingle) (fun p _ => p.isSingle) .imported {}
    hlibrary hbuilt (fun p _ _ _ => Effect.gives_pure p.isSingle) ⟨anyRequest, by simp, hkept⟩
  cases hrun
  exact absurd hmalicious (by decide)

end PackageVet
