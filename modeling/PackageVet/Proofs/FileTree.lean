import PackageVet.FileTree

/-! A text that was written is there to be read.

Writing a file changes what is at its place and nothing else. That place was no folder, so every way
through the folders of the tree leads where it led before (`resolve_of_folders`), and at the end of
its path the file has the text that was written (`readText_of_writeText`). -/
namespace PackageVet.FileTree
variable {t t' : FileTree} {path text : String} {place : List String}

theorem folder_of_step {name : String} {next : List String} (h : t.step place name = .ok next) :
    t.entryAt? place = some .folder := by
  unfold step at h
  split at h
  · next hfolder => exact hfolder
  · cases h
  · cases h

/-- Another tree with the same folders takes the same steps. -/
theorem foldlM_step_of_folders (hfolders : ∀ p, t.entryAt? p = some .folder →
      t'.entryAt? p = some .folder) (names : List String) (start : List String)
    (h : names.foldlM t.step start = .ok place) : names.foldlM t'.step start = .ok place := by
  induction names generalizing start with
  | nil => exact h
  | cons name rest ih =>
    rw [List.foldlM_cons] at h ⊢
    cases hstep : t.step start name with
    | error e =>
      rw [hstep] at h
      cases h
    | ok next =>
      have hfolder := folder_of_step hstep
      have hsame : t'.step start name = .ok next := by
        rw [← hstep]
        unfold step
        rw [hfolder, hfolders start hfolder]
      rw [hstep] at h
      rw [hsame]
      exact ih next h

theorem resolve_of_folders
    (hfolders : ∀ p, t.entryAt? p = some .folder → t'.entryAt? p = some .folder)
    (h : t.resolve path = .ok place) : t'.resolve path = .ok place := by
  unfold resolve at h ⊢
  by_cases hpath : (path = "" || Path.isAbsolute path) = true
  · rw [if_pos hpath] at h
    cases h
  · rw [if_neg hpath] at h ⊢
    exact foldlM_step_of_folders hfolders _ _ h

theorem entryAt?_insert (t : FileTree) {place : List String} (hplace : place ≠ [])
    (entry : FileEntry) (other : List String) :
    entryAt? { entries := t.entries.insert place entry } other =
      if other = place then some entry else t.entryAt? other := by
  unfold entryAt?
  by_cases hempty : other = []
  · subst hempty
    simp [hplace.symm]
  · simp only [List.isEmpty_iff, hempty, if_false, Table.get?_insert]

/-- What writing a text does to a tree. -/
theorem writeText_eq_ok (h : t.writeText path text = .ok t') :
    ∃ place, t.resolve path = .ok place ∧ t.entryAt? place ≠ some .folder ∧
      t' = { entries := t.entries.insert place (.file (some text)) } := by
  unfold writeText at h
  cases hresolve : t.resolve path with
  | error e =>
    rw [hresolve] at h
    cases h
  | ok place =>
    rw [hresolve] at h
    simp only [bind, Except.bind] at h
    split at h
    · cases h
    · next _ hnot =>
      cases h
      exact ⟨place, rfl, hnot, rfl⟩
    · cases h
    · cases h

theorem readText_of_writeText (h : t.writeText path text = .ok t') :
    t'.readText path = .ok text := by
  obtain ⟨place, hresolve, hnot, rfl⟩ := writeText_eq_ok h
  have hplace : place ≠ [] := by
    rintro rfl
    exact hnot rfl
  have hentry := t.entryAt?_insert hplace (.file (some text))
  have hfolders : ∀ p, t.entryAt? p = some .folder →
      entryAt? { entries := t.entries.insert place (.file (some text)) } p = some .folder := by
    intro p hp
    have hne : p ≠ place := fun heq => hnot (heq ▸ hp)
    rw [hentry, if_neg hne, hp]
  have hread : entryAt? { entries := t.entries.insert place (.file (some text)) } place =
      some (.file (some text)) := by
    rw [hentry, if_pos rfl]
  unfold readText
  rw [resolve_of_folders hfolders hresolve]
  simp only [bind, Except.bind]
  rw [hread]
  rfl

end PackageVet.FileTree
