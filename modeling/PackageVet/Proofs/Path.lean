import PackageVet.Path

/-! The folded form of a path.

Folding keeps a stack of segments that has names on top and below them steps up, of which an
absolute path has none (`Folded`). The text of such a stack is taken apart into the same stack again
(`stack_render`). So a folded path is folded no further, and it can stand for the path that it was
made from wherever that path is continued (`normalize_append_slash`).

A path leads from a folder to a folder (`follow`). Each step of folding keeps where a path leads
(`foldr_enter_fold`), and nothing else of it: two paths have the same folded form exactly if they
lead to the same place from every folder (`normalize_eq_iff`). -/
namespace PackageVet

/-! ### Pieces of a text -/

namespace Text

theorem splitOn_eq (mark : Char) (cs : List Char) : splitOn mark cs = cs.splitOn mark := by
  induction cs with
  | nil => rfl
  | cons c cs ih =>
    rw [splitOn, List.splitOn_cons_eq_if_modifyHead, ih]
    simp only [beq_iff_eq]
    split
    · rfl
    · cases hpieces : cs.splitOn mark with
      | nil => exact absurd hpieces (List.splitOn_ne_nil mark cs)
      | cons piece rest => rfl

theorem mark_not_mem_of_mem_splitOn {mark : Char} {cs piece : List Char}
    (h : piece ∈ splitOn mark cs) : mark ∉ piece := by
  induction cs generalizing piece with
  | nil =>
    cases List.mem_singleton.mp h
    exact List.not_mem_nil
  | cons c cs ih =>
    unfold splitOn at h
    split at h
    · rcases List.mem_cons.mp h with rfl | h
      · exact List.not_mem_nil
      · exact ih h
    · next hc =>
      cases hpieces : splitOn mark cs with
      | nil => exact absurd hpieces (splitOn_ne_nil mark cs)
      | cons first rest =>
        rw [hpieces] at h ih
        rcases List.mem_cons.mp h with rfl | h
        · have hfirst : mark ∉ first := ih (List.mem_cons_self ..)
          simp [hfirst, Ne.symm hc]
        · exact ih (List.mem_cons_of_mem _ h)

end Text

namespace Path
variable {absolute : Bool} {kept names : List String} {segment path : String}

/-! ### Segments -/

theorem slash_not_mem_of_mem_segments (h : segment ∈ segments path) : '/' ∉ segment.toList := by
  obtain ⟨piece, hpiece, rfl⟩ := List.mem_map.mp h
  rw [String.toList_ofList]
  exact Text.mark_not_mem_of_mem_splitOn hpiece

theorem segments_append_slash (a b : String) :
    segments (a ++ "/" ++ b) = segments a ++ segments b := by
  have htext : (a ++ "/" ++ b).toList = a.toList ++ '/' :: b.toList := by simp
  rw [segments, htext, Text.splitOn_eq, List.splitOn_append_cons_self, List.map_append]
  simp only [segments, Text.splitOn_eq]

theorem segments_intercalate (hne : kept ≠ []) (h : ∀ s ∈ kept, '/' ∉ s.toList) :
    segments ("/".intercalate kept) = kept := by
  have hpieces : ∀ piece ∈ kept.map String.toList, '/' ∉ piece := by
    intro piece hpiece
    obtain ⟨s, hs, rfl⟩ := List.mem_map.mp hpiece
    exact h s hs
  rw [segments, String.toList_intercalate, Text.splitOn_eq]
  show List.map _ (List.splitOn '/' (['/'].intercalate _)) = kept
  rw [List.splitOn_intercalate '/' hpieces (by simpa using hne), List.map_map]
  exact List.map_id'' (fun s => String.ofList_toList) kept

/-- The segments of a path. The slash in front of an absolute path ends none. -/
def parts (path : String) : List String :=
  if isAbsolute path then (segments path).tail else segments path

/-- In an absolute path, an empty segment stands before the first slash. -/
theorem segments_of_isAbsolute (h : isAbsolute path = true) :
    segments path = "" :: (segments path).tail := by
  unfold isAbsolute at h
  unfold segments
  cases htext : path.toList with
  | nil => simp [htext] at h
  | cons c rest =>
    have hc : c = '/' := by simpa [htext] using h
    simp [Text.splitOn, hc]

/-! ### Folded stacks -/

/-- Whether a segment is a name, and not a step that stays or goes up. -/
structure IsName (segment : String) : Prop where
  ne_empty : segment ≠ ""
  ne_dot : segment ≠ "."
  ne_up : segment ≠ ".."
  slash_not_mem : '/' ∉ segment.toList

/-- Whether a stack of segments, the nearest first, is folded. -/
def Folded (absolute : Bool) (kept : List String) : Prop :=
  ∃ names up, kept = names ++ List.replicate up ".." ∧ (∀ name ∈ names, IsName name) ∧
    (absolute = true → up = 0)

theorem folded_nil : Folded absolute [] :=
  ⟨[], 0, rfl, fun _ h => absurd h List.not_mem_nil, fun _ => rfl⟩

theorem kind_of_segment (h : '/' ∉ segment.toList) :
    (segment = "" ∨ segment = ".") ∨ segment = ".." ∨ IsName segment := by
  by_cases hstay : segment = "" ∨ segment = "."
  · exact .inl hstay
  · by_cases hup : segment = ".."
    · exact .inr (.inl hup)
    · obtain ⟨hempty, hdot⟩ := not_or.mp hstay
      exact .inr (.inr ⟨hempty, hdot, hup, h⟩)

theorem fold_stay (h : segment = "" ∨ segment = ".") : fold absolute kept segment = kept :=
  if_pos h

theorem fold_name (h : IsName segment) : fold absolute kept segment = segment :: kept := by
  simp [fold, h.ne_empty, h.ne_dot, h.ne_up]

/-- A step up takes back the name before it. -/
theorem fold_up_name (h : IsName segment) : fold absolute (segment :: kept) ".." = kept := by
  simp [fold, h.ne_up]

/-- With no name to take back, a step up is kept; at the top of an absolute path it leads
nowhere. -/
theorem fold_up_replicate (up : Nat) (h : absolute = true → up = 0) :
    fold absolute (List.replicate up "..") ".." =
      List.replicate (if absolute then 0 else up + 1) ".." := by
  cases absolute with
  | true => simp [h rfl, fold]
  | false =>
    cases up with
    | zero => rfl
    | succ up => simp [fold, List.replicate_succ]

theorem Folded.fold (h : Folded absolute kept) (hsegment : '/' ∉ segment.toList) :
    Folded absolute (Path.fold absolute kept segment) := by
  obtain ⟨names, up, rfl, hnames, hup⟩ := h
  rcases kind_of_segment hsegment with hstay | rfl | hname
  · rw [fold_stay hstay]
    exact ⟨names, up, rfl, hnames, hup⟩
  · cases names with
    | nil =>
      rw [List.nil_append, fold_up_replicate up hup]
      exact ⟨[], _, rfl, hnames, fun h => if_pos h⟩
    | cons name rest =>
      rw [List.cons_append, fold_up_name (hnames name (List.mem_cons_self ..))]
      exact ⟨rest, up, rfl, fun n hn => hnames n (List.mem_cons_of_mem name hn), hup⟩
  · rw [fold_name hname]
    refine ⟨segment :: names, up, rfl, fun n hn => ?_, hup⟩
    rcases List.mem_cons.mp hn with rfl | hn
    · exact hname
    · exact hnames n hn

theorem Folded.foldl {more : List String} (h : Folded absolute kept)
    (hmore : ∀ s ∈ more, '/' ∉ s.toList) :
    Folded absolute (more.foldl (Path.fold absolute) kept) := by
  induction more generalizing kept with
  | nil => exact h
  | cons s rest ih =>
    exact ih (h.fold (hmore s (List.mem_cons_self ..)))
      (fun s' hs' => hmore s' (List.mem_cons_of_mem s hs'))

/-- Folding the segments of a folded stack builds it up again. -/
theorem Folded.foldl_reverse (h : Folded absolute kept) :
    kept.reverse.foldl (Path.fold absolute) [] = kept := by
  obtain ⟨names, up, rfl, hnames, hup⟩ := h
  rw [List.foldl_reverse]
  induction names with
  | nil =>
    induction up with
    | zero => rfl
    | succ up ih =>
      have hrelative : absolute = false := by
        cases absolute with
        | true => cases hup rfl
        | false => rfl
      subst hrelative
      rw [List.nil_append] at ih ⊢
      rw [List.replicate_succ, List.foldr_cons, ih nofun]
      exact fold_up_replicate up nofun
  | cons name rest ih =>
    rw [List.cons_append, List.foldr_cons, ih fun n hn => hnames n (List.mem_cons_of_mem name hn)]
    exact fold_name (hnames name (List.mem_cons_self ..))

theorem Folded.plain (h : Folded absolute kept) (hsegment : segment ∈ kept) :
    segment ≠ "" ∧ segment ≠ "." ∧ '/' ∉ segment.toList := by
  obtain ⟨names, up, rfl, hnames, -⟩ := h
  rcases List.mem_append.mp hsegment with hname | hup
  · have h := hnames segment hname
    exact ⟨h.ne_empty, h.ne_dot, h.slash_not_mem⟩
  · cases List.eq_of_mem_replicate hup
    decide

/-! ### The text of a stack -/

theorem render_ne_empty (absolute : Bool) (kept : List String) : render absolute kept ≠ "" := by
  unfold render
  split
  · simp
  · split
    · decide
    · assumption

/-- Below the top of a tree or the folder it starts from, a folded stack has its own segments. -/
theorem Folded.segments_intercalate (h : Folded absolute kept) (hne : kept ≠ []) :
    segments ("/".intercalate kept.reverse) = kept.reverse :=
  Path.segments_intercalate (by simpa using hne) fun _ hs => (h.plain (List.mem_reverse.mp hs)).2.2

theorem segments_render_absolute (kept : List String) :
    segments (render true kept) = "" :: segments ("/".intercalate kept) := by
  have happend := segments_append_slash "" ("/".intercalate kept)
  rw [String.empty_append] at happend
  exact happend

theorem segments_render_relative (h : Folded false kept) :
    segments (render false kept.reverse) = if kept = [] then ["."] else kept.reverse := by
  split
  · next hkept =>
    subst hkept
    decide
  · next hkept =>
    have hsegments := h.segments_intercalate hkept
    have hne : "/".intercalate kept.reverse ≠ "" := by
      intro hempty
      have hmem : "" ∈ kept.reverse := by
        rw [← hsegments, hempty]
        decide
      exact (h.plain (List.mem_reverse.mp hmem)).1 rfl
    simpa [render, hne] using hsegments

theorem isAbsolute_render (h : Folded absolute kept) :
    isAbsolute (render absolute kept.reverse) = absolute := by
  cases absolute with
  | true => simp [render, isAbsolute]
  | false =>
    rw [Bool.eq_false_iff]
    intro habsolute
    have hsegments := segments_of_isAbsolute habsolute
    rw [segments_render_relative h] at hsegments
    split at hsegments
    · exact absurd (List.cons.inj hsegments).1 (by decide)
    · have hmem : "" ∈ kept.reverse := by
        rw [hsegments]
        exact List.mem_cons_self ..
      exact (h.plain (List.mem_reverse.mp hmem)).1 rfl

/-- The text of a folded stack has its segments, or the one that stands for none. -/
theorem parts_render (h : Folded absolute kept) :
    parts (render absolute kept.reverse) =
      if kept = [] then [if absolute then "" else "."] else kept.reverse := by
  rw [parts, isAbsolute_render h]
  cases absolute with
  | true =>
    rw [if_pos rfl, segments_render_absolute, List.tail_cons]
    split
    · next hkept =>
      subst hkept
      decide
    · next hkept => exact h.segments_intercalate hkept
  | false =>
    rw [if_neg Bool.false_ne_true, if_neg Bool.false_ne_true]
    exact segments_render_relative h

/-- The folded segments of a path, the nearest first. -/
def stack (path : String) : List String := (segments path).foldl (fold (isAbsolute path)) []

theorem normalize_eq (path : String) :
    normalize path = render (isAbsolute path) (stack path).reverse := rfl

theorem folded_stack (path : String) : Folded (isAbsolute path) (stack path) :=
  folded_nil.foldl fun _ => slash_not_mem_of_mem_segments

theorem stack_eq_foldl_parts (path : String) :
    stack path = (parts path).foldl (fold (isAbsolute path)) [] := by
  unfold stack parts
  split
  · next h =>
    rw [segments_of_isAbsolute h, List.foldl_cons, fold_stay (.inl rfl), List.tail_cons]
  · rfl

/-- A folded stack can be read off its text. -/
theorem stack_render (h : Folded absolute kept) : stack (render absolute kept.reverse) = kept := by
  rw [stack_eq_foldl_parts, isAbsolute_render h, parts_render h]
  split
  · next hkept =>
    rw [hkept, List.foldl_cons, List.foldl_nil]
    cases absolute <;> exact fold_stay (by decide)
  · exact h.foldl_reverse

/-! ### Folded paths -/

theorem isAbsolute_normalize (path : String) : isAbsolute (normalize path) = isAbsolute path :=
  isAbsolute_render (folded_stack path)

theorem stack_normalize (path : String) : stack (normalize path) = stack path :=
  stack_render (folded_stack path)

theorem normalize_eq_of_stack {a b : String} (habsolute : isAbsolute a = isAbsolute b)
    (hstack : stack a = stack b) : normalize a = normalize b := by
  rw [normalize_eq, normalize_eq, habsolute, hstack]

theorem isAbsolute_append_slash {a : String} (ha : a ≠ "") (b : String) :
    isAbsolute (a ++ "/" ++ b) = isAbsolute a := by
  have hne : a.toList ≠ [] := fun h => ha (String.toList_eq_nil_iff.mp h)
  unfold isAbsolute
  rw [String.toList_append, String.toList_append, List.append_assoc, List.head?_append,
    Option.or_of_isSome (List.isSome_head?.mpr hne)]

theorem stack_append_slash {a : String} (ha : a ≠ "") (b : String) :
    stack (a ++ "/" ++ b) = (segments b).foldl (fold (isAbsolute a)) (stack a) := by
  rw [stack, isAbsolute_append_slash ha, segments_append_slash, List.foldl_append, ← stack]

/-- A path can be folded before it is continued. -/
theorem normalize_append_slash {a : String} (ha : a ≠ "") (b : String) :
    normalize (a ++ "/" ++ b) = normalize (normalize a ++ "/" ++ b) := by
  have hne : normalize a ≠ "" := render_ne_empty _ _
  apply normalize_eq_of_stack
  · rw [isAbsolute_append_slash ha, isAbsolute_append_slash hne, isAbsolute_normalize]
  · rw [stack_append_slash ha, stack_append_slash hne, isAbsolute_normalize, stack_normalize]

/-- Whether a path is folded: no segment stays in place, and steps up come first and only in a
relative path. The folder that a path starts from and the top of the tree have a segment all the
same. -/
structure IsNormal (path : String) : Prop where
  moves : path = "." ∨ path = "/" ∨ ∀ s ∈ parts path, s ≠ "" ∧ s ≠ "."
  up : ∃ up rest, parts path = List.replicate up ".." ++ rest ∧ ".." ∉ rest ∧
    (isAbsolute path = true → up = 0)

theorem isNormal_normalize (path : String) : IsNormal (normalize path) := by
  have hfolded := folded_stack path
  have hparts := parts_render hfolded
  rw [← normalize_eq] at hparts
  have habsolute := isAbsolute_normalize path
  by_cases hstack : stack path = []
  · -- nothing is left of the path
    rw [if_pos hstack] at hparts
    have htext : normalize path = if isAbsolute path then "/" else "." := by
      rw [normalize_eq, hstack]
      cases isAbsolute path <;> decide
    refine ⟨?_, 0, _, hparts, ?_, fun _ => rfl⟩
    · rw [htext]
      cases isAbsolute path <;> decide
    · cases isAbsolute path <;> decide
  · rw [if_neg hstack] at hparts
    refine ⟨.inr (.inr fun s hs => ?_), ?_⟩
    · rw [hparts] at hs
      have hplain := hfolded.plain (List.mem_reverse.mp hs)
      exact ⟨hplain.1, hplain.2.1⟩
    · obtain ⟨names, up, hnames, hname, hup⟩ := hfolded
      refine ⟨up, names.reverse, ?_, ?_, ?_⟩
      · rw [hparts, hnames, List.reverse_append, List.reverse_replicate]
      · intro hmem
        exact (hname ".." (List.mem_reverse.mp hmem)).ne_up rfl
      · rwa [habsolute]

/-! ### Where a path leads -/

/-- The folder that a segment leads to. A folder is the list of the names that lead to it, the
nearest first, and above the top is the top. -/
def enter (segment : String) (folder : List String) : List String :=
  if segment = "" ∨ segment = "." then folder
  else if segment = ".." then folder.tail
  else segment :: folder

/-- The place that a path leads to from a folder. -/
def follow (folder : List String) (path : String) : List String :=
  (segments path).foldl (fun folder segment => enter segment folder)
    (if isAbsolute path then [] else folder)

theorem enter_name (h : IsName segment) (folder : List String) :
    enter segment folder = segment :: folder := by
  simp [enter, h.ne_empty, h.ne_dot, h.ne_up]

theorem enter_replicate_up (up : Nat) (folder : List String) :
    (List.replicate up "..").foldr enter folder = folder.drop up := by
  induction up with
  | zero => rfl
  | succ up ih =>
    rw [List.replicate_succ, List.foldr_cons, ih]
    show (folder.drop up).tail = _
    rw [List.tail_drop]

/-- A folded stack leads some folders up, and down again by its names. -/
theorem foldr_enter (hnames : ∀ name ∈ names, IsName name) (up : Nat) (folder : List String) :
    (names ++ List.replicate up "..").foldr enter folder = names ++ folder.drop up := by
  induction names with
  | nil => exact enter_replicate_up up folder
  | cons name rest ih =>
    rw [List.cons_append, List.foldr_cons, ih fun n hn => hnames n (List.mem_cons_of_mem name hn)]
    exact enter_name (hnames name (List.mem_cons_self ..)) _

/-- Folding one more segment is following it. -/
theorem foldr_enter_fold {folder : List String} (h : Folded absolute kept)
    (hsegment : '/' ∉ segment.toList) (htop : absolute = true → folder = []) :
    (fold absolute kept segment).foldr enter folder = enter segment (kept.foldr enter folder) := by
  obtain ⟨names, up, rfl, hnames, hup⟩ := h
  rcases kind_of_segment hsegment with hstay | rfl | hname
  · rw [fold_stay hstay]
    exact (if_pos hstay).symm
  · cases names with
    | nil =>
      rw [List.nil_append, fold_up_replicate up hup, enter_replicate_up, enter_replicate_up]
      show _ = (folder.drop up).tail
      cases absolute with
      | true => simp [htop rfl]
      | false => simp
    | cons name rest =>
      have hname := hnames name (List.mem_cons_self ..)
      rw [List.cons_append, fold_up_name hname, List.foldr_cons, enter_name hname]
      rfl
  · rw [fold_name hname]
    rfl

theorem foldr_enter_foldl {folder more : List String} (h : Folded absolute kept)
    (hmore : ∀ s ∈ more, '/' ∉ s.toList) (htop : absolute = true → folder = []) :
    (more.foldl (fold absolute) kept).foldr enter folder =
      more.foldl (fun folder segment => enter segment folder) (kept.foldr enter folder) := by
  induction more generalizing kept with
  | nil => rfl
  | cons s rest ih =>
    have hs := hmore s (List.mem_cons_self ..)
    have hrest := ih (h.fold hs) fun s' hs' => hmore s' (List.mem_cons_of_mem s hs')
    rw [List.foldl_cons, hrest, foldr_enter_fold h hs htop]
    rfl

/-- A path leads where its folded segments lead. -/
theorem follow_eq (folder : List String) (path : String) :
    follow folder path = (stack path).foldr enter (if isAbsolute path then [] else folder) :=
  (foldr_enter_foldl folded_nil (fun _ => slash_not_mem_of_mem_segments) (fun h => if_pos h)).symm

theorem empty_not_mem (h : ∀ name ∈ names, IsName name) : "" ∉ names :=
  fun hmem => (h "" hmem).ne_empty rfl

theorem append_replicate_inj {others : List String} {n m : Nat} (hnames : "" ∉ names)
    (hothers : "" ∉ others) (h : names ++ List.replicate n "" = others ++ List.replicate m "") :
    names = others ∧ n = m := by
  have hkeep {l : List String} (hl : "" ∉ l) (k : Nat) :
      (l ++ List.replicate k "").filter (· ≠ "") = l := by
    have hself : l.filter (· ≠ "") = l :=
      List.filter_eq_self.mpr fun s hs => decide_eq_true fun he => hl (he ▸ hs)
    rw [List.filter_append, hself]
    simp
  have hsame : names = others := by
    rw [← hkeep hnames n, ← hkeep hothers m, h]
  subst hsame
  exact ⟨rfl, by simpa using congrArg List.length (List.append_cancel_left h)⟩

/-- From a folder whose names are all empty one can see how far a path leads up. -/
theorem follow_replicate_empty {up : Nat} (hstack : stack path = names ++ List.replicate up "..")
    (hnames : ∀ name ∈ names, IsName name) (n : Nat) :
    follow (List.replicate n "") path =
      names ++ List.replicate (if isAbsolute path then 0 else n - up) "" := by
  rw [follow_eq, hstack, foldr_enter hnames]
  split
  · simp
  · rw [List.drop_replicate]

/-- Folding forgets all of a path but where it leads. -/
theorem normalize_eq_iff {a b : String} :
    normalize a = normalize b ↔ ∀ folder, follow folder a = follow folder b := by
  constructor
  · intro h folder
    rw [follow_eq, follow_eq, ← stack_normalize a, ← isAbsolute_normalize a, h, stack_normalize,
      isAbsolute_normalize]
  · intro h
    obtain ⟨names, up, ha, hnames, hup⟩ := folded_stack a
    obtain ⟨others, up', hb, hothers, hup'⟩ := folded_stack b
    have hfollow := h (List.replicate (up + up' + 1) "")
    rw [follow_replicate_empty ha hnames, follow_replicate_empty hb hothers] at hfollow
    obtain ⟨rfl, hlength⟩ :=
      append_replicate_inj (empty_not_mem hnames) (empty_not_mem hothers) hfollow
    -- a relative path leaves a folder of the chain, an absolute path none
    have hsame : isAbsolute a = isAbsolute b ∧ up = up' := by
      cases habsolute : isAbsolute a with
      | true =>
        cases habsolute' : isAbsolute b with
        | true => exact ⟨rfl, (hup habsolute).trans (hup' habsolute').symm⟩
        | false =>
          simp only [habsolute, habsolute', if_true, Bool.false_eq_true, if_false] at hlength
          omega
      | false =>
        cases habsolute' : isAbsolute b with
        | true =>
          simp only [habsolute, habsolute', if_true, Bool.false_eq_true, if_false] at hlength
          omega
        | false =>
          simp only [habsolute, habsolute', Bool.false_eq_true, if_false] at hlength
          exact ⟨rfl, by omega⟩
    exact normalize_eq_of_stack hsame.1 (by rw [ha, hb, hsame.2])

/-- **Folding gives a canonical form.** A folded path is absolute exactly if the path was, is
normal, and is folded no further; a path can be folded before it is continued; and two paths are
folded alike exactly if they lead to the same place from every folder. -/
theorem normalize_canonical :
    (∀ path, isAbsolute (normalize path) = isAbsolute path ∧ IsNormal (normalize path) ∧
      normalize (normalize path) = normalize path) ∧
    (∀ a b, a ≠ "" → normalize (a ++ "/" ++ b) = normalize (normalize a ++ "/" ++ b)) ∧
    ∀ a b, normalize a = normalize b ↔ ∀ folder, follow folder a = follow folder b := by
  refine ⟨fun path => ⟨isAbsolute_normalize path, isNormal_normalize path, ?_⟩,
    fun a b ha => normalize_append_slash ha b, fun a b => normalize_eq_iff⟩
  exact normalize_eq_of_stack (isAbsolute_normalize path) (stack_normalize path)

/-- Steps up that go beyond where a path started. -/
theorem normalize_canonical_above :
    "lib/../.." ≠ "" ∧ normalize ("lib/../.." ++ "/" ++ "./a.js") = "../a.js" ∧
    IsNormal "../a.js" ∧ normalize (".." ++ "/" ++ "./a.js") = "../a.js" := by
  obtain ⟨hform, hsteps, -⟩ := normalize_canonical
  have hcomputed : normalize ("lib/../.." ++ "/" ++ "./a.js") = "../a.js" ∧
      normalize "lib/../.." = ".." := by decide +kernel
  obtain ⟨hpath, hfolder⟩ := hcomputed
  have hnormal := (hform ("lib/../.." ++ "/" ++ "./a.js")).2.1
  have hstep := hsteps "lib/../.." "./a.js" (by decide)
  rw [hpath] at hnormal hstep
  rw [hfolder] at hstep
  exact ⟨by decide, hpath, hnormal, hstep.symm⟩

end Path

end PackageVet
