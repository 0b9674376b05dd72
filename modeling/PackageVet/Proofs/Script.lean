import PackageVet.Script

/-! Which scripts run a file into which the analysis cannot see.

A name that is found in a command ends as it was looked for (`hasEnding_of_longestName`), so the
files of a node script all end in `.js`, and those of a shell command in one of five ways
(`hasEnding_of_mem_run`). The ending of a name decides its extension and how the name can end at all
(`extension?_append`, `endsWith_append`).

So no file of a node script is sensitive (`runsSensitiveFile_of_node`). Of the files of a shell
command those with the extensions `sh`, `exe` and `md` are, but also those with `cmd`, which ends in
the same letters as `md` (`runsSensitiveFile_iff_extension`, `cmd_flagged`). -/
namespace PackageVet

/-! ### Extensions -/

namespace Text

theorem splitFirst?_append_left {mark : Char} {cs : List Char} (h : mark ∈ cs) (more : List Char) :
    splitFirst? mark (cs ++ more) =
      (splitFirst? mark cs).map fun p => (p.1, p.2 ++ more) := by
  induction cs with
  | nil => cases h
  | cons c cs ih =>
    by_cases hc : c = mark
    · simp [splitFirst?, hc]
    · have hcs : mark ∈ cs := (List.mem_cons.mp h).resolve_left (Ne.symm hc)
      simp [splitFirst?, hc, ih hcs, Function.comp_def]

/-- How a text ends is decided by its last characters. -/
theorem endsWith_append {ending suffix : String} {stem : List Char}
    (h : ending.toList.length ≤ suffix.toList.length) :
    endsWith (String.ofList (stem ++ suffix.toList)) ending = endsWith suffix ending := by
  rw [Bool.eq_iff_iff, endsWith, endsWith, List.isSuffixOf_iff_suffix, List.isSuffixOf_iff_suffix,
    String.toList_ofList]
  constructor
  · intro hends
    exact List.suffix_of_suffix_length_le hends (List.suffix_append ..) h
  · intro hends
    exact hends.trans (List.suffix_append ..)

end Text

/-- What stands after the last dot of a name. -/
def extension? (file : String) : Option String :=
  (Text.splitLast? '.' file.toList).map fun p => String.ofList p.2

theorem extension?_append {suffix : String} (h : '.' ∈ suffix.toList) (stem : List Char) :
    extension? (String.ofList (stem ++ suffix.toList)) = extension? suffix := by
  have hdot : '.' ∈ suffix.toList.reverse := List.mem_reverse.mpr h
  unfold extension? Text.splitLast?
  rw [String.toList_ofList, List.reverse_append, Text.splitFirst?_append_left hdot]
  simp [Function.comp_def]

/-! ### Names in a command -/

/-- Whether a name has one of some endings. -/
def HasEnding (endings : List String) (name : List Char) : Prop :=
  ∃ stem, ∃ ending ∈ endings, name = stem ++ ending.toList

theorem hasEnding_of_longestName {isAllowed : Char → Bool} {endings : List String}
    {taken cs name after : List Char} {best : Option (List Char × List Char)}
    (h : longestName isAllowed endings taken best cs = some (name, after))
    (hbest : ∀ found ∈ best, HasEnding endings found.1) : HasEnding endings name := by
  induction cs generalizing taken best with
  | nil => exact hbest (name, after) h
  | cons c rest ih =>
    rw [longestName] at h
    generalize hhere : (if taken.isEmpty = true then none else _) = here at h
    have hnext : ∀ found ∈ here.orElse fun _ => best, HasEnding endings found.1 := by
      intro found hfound
      cases here with
      | none => exact hbest found hfound
      | some here =>
        cases hfound
        split at hhere
        · cases hhere
        · -- the name that ends here is what was passed and the ending
          obtain ⟨ending, hending, hname⟩ := List.exists_of_findSome?_eq_some hhere
          obtain ⟨rest', -, hname⟩ := Option.bind_eq_some_iff.mp hname
          split at hname
          · cases hname
            exact ⟨taken.reverse, ending, hending, rfl⟩
          · cases hname
    split at h
    · exact ih h hnext
    · exact hnext (name, after) h

/-- Whatever is found in a text is found at a place of it. -/
theorem exists_of_mem_findAll {find? : List Char → Option (List Char × List Char)}
    {fuel cs : List Char} {file : String} (h : file ∈ findAll find? fuel cs) :
    ∃ rest name after, find? rest = some (name, after) ∧ file = String.ofList name := by
  fun_induction findAll find? fuel cs with
  | case1 => cases h
  | case2 => cases h
  | case3 _ fuel c rest name after hfound ih =>
    rcases List.mem_cons.mp h with rfl | h
    · exact ⟨_, name, after, hfound, rfl⟩
    · exact ih h
  | case4 _ fuel c rest _ ih => exact ih h

theorem hasEnding_of_nodeScript? {cs name after : List Char}
    (h : nodeScript? cs = some (name, after)) : HasEnding [".js"] name := by
  unfold nodeScript? at h
  split at h
  · split at h
    · exact hasEnding_of_longestName h nofun
    · cases h
  · cases h

/-- The endings that are looked for in a command of a kind. -/
def ScriptKind.endings : ScriptKind → List String
  | .node => [".js"]
  | .shellCommand => [".sh", ".exe", ".md", ".bat", ".cmd"]

namespace ScriptProfile
variable {phase command file : String}

theorem hasEnding_of_mem_run (h : file ∈ (ofCommand phase command).run) :
    ∃ stem, ∃ ending ∈ (ofCommand phase command).kind.endings,
      file = String.ofList (stem ++ ending.toList) := by
  unfold ofCommand at h ⊢
  dsimp only at h ⊢
  split at h
  · next hempty =>
    rw [if_pos hempty]
    obtain ⟨rest, name, after, hfound, rfl⟩ := exists_of_mem_findAll h
    obtain ⟨stem, ending, hending, rfl⟩ := hasEnding_of_longestName hfound nofun
    exact ⟨stem, ending, hending, rfl⟩
  · next hempty =>
    rw [if_neg hempty]
    obtain ⟨rest, name, after, hfound, rfl⟩ := exists_of_mem_findAll h
    obtain ⟨stem, ending, hending, rfl⟩ := hasEnding_of_nodeScript? hfound
    exact ⟨stem, ending, hending, rfl⟩

/-! ### Sensitive files -/

/-- Whether a name ends like that of a file into which the analysis cannot see. -/
def isSensitive (file : String) : Bool :=
  ["md", "sh", "exe"].any fun ending => Text.endsWith file ending

theorem runsSensitiveFile_eq (p : ScriptProfile) :
    p.runsSensitiveFile = p.run.any isSensitive := rfl

theorem isSensitive_append {suffix : String} (h : 3 ≤ suffix.toList.length) (stem : List Char) :
    isSensitive (String.ofList (stem ++ suffix.toList)) = isSensitive suffix := by
  have hshort : ∀ ending ∈ ["md", "sh", "exe"], ending.toList.length ≤ 3 := by decide
  have hends : ∀ ending ∈ ["md", "sh", "exe"],
      Text.endsWith (String.ofList (stem ++ suffix.toList)) ending =
        Text.endsWith suffix ending := fun ending hending =>
    Text.endsWith_append (Nat.le_trans (hshort ending hending) h)
  rw [Bool.eq_iff_iff, isSensitive, isSensitive, List.any_eq_true, List.any_eq_true]
  exact exists_congr fun ending => and_congr_right fun hending => by rw [hends ending hending]

/-- The scripts of a node command can all be analysed. -/
theorem runsSensitiveFile_of_node (h : (ofCommand phase command).kind = .node) :
    (ofCommand phase command).runsSensitiveFile = false := by
  rw [runsSensitiveFile_eq, List.any_eq_false]
  intro file hfile
  obtain ⟨stem, ending, hending, rfl⟩ := hasEnding_of_mem_run hfile
  rw [h] at hending
  cases List.mem_singleton.mp hending
  rw [isSensitive_append (by decide)]
  decide

/-- The extension of a name that can be found in a command decides whether it is sensitive. -/
theorem isSensitive_iff_extension (h : file ∈ (ofCommand phase command).run) :
    isSensitive file = true ↔ ∃ ext ∈ ["sh", "exe", "md", "cmd"], extension? file = some ext := by
  have hendings : ∀ kind : ScriptKind, ∀ ending ∈ kind.endings,
      '.' ∈ ending.toList ∧ 3 ≤ ending.toList.length ∧
      (isSensitive ending = true ↔
        ∃ ext ∈ ["sh", "exe", "md", "cmd"], extension? ending = some ext) := by
    intro kind
    cases kind <;> decide +kernel
  obtain ⟨stem, ending, hending, rfl⟩ := hasEnding_of_mem_run h
  obtain ⟨hdot, hlong, hiff⟩ := hendings _ ending hending
  rw [isSensitive_append hlong, extension?_append hdot]
  exact hiff

/-- **A command is flagged for the extensions of its files.** These are `sh`, `exe` and `md`, and
`cmd`. -/
theorem runsSensitiveFile_iff_extension (phase command : String) :
    (ofCommand phase command).runsSensitiveFile = true ↔
      ∃ file ∈ (ofCommand phase command).run, ∃ ext ∈ ["sh", "exe", "md", "cmd"],
        extension? file = some ext := by
  rw [runsSensitiveFile_eq, List.any_eq_true]
  exact exists_congr fun file => and_congr_right fun hfile => isSensitive_iff_extension hfile

/-- A batch file is flagged, though none of the extensions that are meant is its own. -/
theorem cmd_flagged :
    ¬ ((ofCommand "install" "run.cmd").runsSensitiveFile = true ↔
      ∃ file ∈ (ofCommand "install" "run.cmd").run, ∃ ext ∈ ["sh", "exe", "md"],
        extension? file = some ext) := by
  decide +kernel

end ScriptProfile

end PackageVet
