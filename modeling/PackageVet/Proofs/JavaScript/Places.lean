import PackageVet.JavaScript.Source

/-! Places in a source and offsets in its bytes.

The place at the end of a piece of text is one line more than it has line feeds, and as many columns
as there are characters after the last of them (`placeAfter`). Counting through a text from its
start, `position` gives this place for the offset at which a piece ends (`position_append`).
`offset?` goes the other way: it drops whole lines and then the characters of one line, so it finds
the piece again (`offset?_append`), and whatever it finds is the end of a piece
(`split_of_offset?`). -/
namespace PackageVet.JavaScript.Source
variable {before after lines line rest : List Char}

/-! ### Bytes -/

def byteCount (cs : List Char) : Nat := (String.ofList cs).utf8ByteSize

@[simp] theorem byteCount_nil : byteCount [] = 0 := rfl

@[simp] theorem byteCount_append (xs ys : List Char) :
    byteCount (xs ++ ys) = byteCount xs + byteCount ys := by
  simp [byteCount, String.ofList_append]

@[simp] theorem byteCount_cons (c : Char) (cs : List Char) :
    byteCount (c :: cs) = c.utf8Size + byteCount cs := by
  simp [byteCount, String.ofList_cons]

/-! ### Lines -/

/-- The place at which the text after a piece starts. -/
def placeAfter (before : List Char) : Nat × Nat :=
  (1 + before.count '\n', (before.reverse.takeWhile (· ≠ '\n')).length)

theorem placeAfter_feed (before : List Char) :
    placeAfter (before ++ ['\n']) = ((placeAfter before).1 + 1, 0) := by
  simp [placeAfter]
  omega

theorem placeAfter_concat {c : Char} (hc : c ≠ '\n') (before : List Char) :
    placeAfter (before ++ [c]) = ((placeAfter before).1, (placeAfter before).2 + 1) := by
  simp [placeAfter, hc]

/-- Whether a text is made of whole lines: it ends with a line feed, or it is empty. -/
def WholeLines (lines : List Char) : Prop := ∀ c ∈ lines.getLast?, c = '\n'

theorem wholeLines_nil : WholeLines [] := nofun

theorem wholeLines_cons {c : Char} :
    WholeLines (c :: lines) ↔ WholeLines lines ∧ (lines = [] → c = '\n') := by
  cases lines with
  | nil => simp [WholeLines]
  | cons d rest => simp [WholeLines, List.getLast?_cons_cons]

/-- Any text is some whole lines and the beginning of one more. -/
theorem exists_wholeLines (text : List Char) :
    ∃ lines line, text = lines ++ line ∧ WholeLines lines ∧ '\n' ∉ line := by
  induction text with
  | nil => exact ⟨[], [], rfl, wholeLines_nil, List.not_mem_nil⟩
  | cons c text ih =>
    obtain ⟨lines, line, rfl, hlines, hline⟩ := ih
    by_cases hstart : lines = [] ∧ c ≠ '\n'
    · obtain ⟨rfl, hc⟩ := hstart
      exact ⟨[], c :: line, rfl, hlines, by simp [hline, hc.symm]⟩
    · refine ⟨c :: lines, line, rfl, wholeLines_cons.mpr ⟨hlines, fun hempty => ?_⟩, hline⟩
      exact Decidable.byContradiction fun hc => hstart ⟨hempty, hc⟩

theorem placeAfter_wholeLines (hlines : WholeLines lines) (hline : '\n' ∉ line) :
    placeAfter (lines ++ line) = (1 + lines.count '\n', line.length) := by
  have hend : lines.reverse.takeWhile (· ≠ '\n') = [] := by
    cases hreverse : lines.reverse with
    | nil => rfl
    | cons c rest =>
      have hc : c = '\n' := hlines c (by simp [← List.head?_reverse, hreverse])
      simp [hc]
  have hall : ∀ c ∈ line.reverse, decide (c ≠ '\n') = true := by
    intro c hc
    exact decide_eq_true fun he => hline (he ▸ List.mem_reverse.mp hc)
  rw [placeAfter, List.count_append, List.count_eq_zero_of_not_mem hline, List.reverse_append,
    List.takeWhile_append_of_pos hall, hend, List.append_nil, List.length_reverse, Nat.add_zero]

/-! ### From places to offsets -/

theorem dropLines_wholeLines (hlines : WholeLines lines) (offset : Nat) (rest : List Char) :
    dropLines (lines.count '\n') offset (lines ++ rest) =
      some (offset + byteCount lines, rest) := by
  induction lines generalizing offset with
  | nil => simp [dropLines]
  | cons c lines ih =>
    obtain ⟨hwhole, hlast⟩ := wholeLines_cons.mp hlines
    by_cases hc : c = '\n'
    · subst hc
      rw [List.count_cons_self, List.cons_append, dropLines, if_pos rfl, ih hwhole, byteCount_cons,
        ← Nat.add_assoc]
      rfl
    · -- the line that the character is in ends later
      have hfeed : '\n' ∈ lines := by
        cases hend : lines.getLast? with
        | none => exact absurd (hlast (List.getLast?_eq_none_iff.mp hend)) hc
        | some d =>
          rw [← hwhole d hend]
          exact List.mem_of_getLast? hend
      obtain ⟨n, hn⟩ := Nat.exists_eq_add_one.mpr (List.count_pos_iff.mpr hfeed)
      have hrest := ih hwhole (offset + c.utf8Size)
      rw [hn] at hrest
      rw [List.count_cons_of_ne hc, hn, List.cons_append, dropLines, if_neg hc, hrest,
        byteCount_cons, Nat.add_assoc]

theorem dropColumns_length (hline : '\n' ∉ line) (offset : Nat) (rest : List Char) :
    dropColumns line.length offset (line ++ rest) = some (offset + byteCount line) := by
  induction line generalizing offset with
  | nil => simp [dropColumns]
  | cons c line ih =>
    obtain ⟨hc, hline⟩ := not_or.mp ((not_congr List.mem_cons).mp hline)
    rw [List.length_cons, List.cons_append, dropColumns, if_neg (Ne.symm hc), ih hline,
      byteCount_cons, Nat.add_assoc]

/-- The place after a piece of a text has the offset at which the piece ends. -/
theorem offset?_append (before after : List Char) :
    offset? (before ++ after) (placeAfter before).1 (placeAfter before).2 =
      some (byteCount before) := by
  obtain ⟨lines, line, rfl, hlines, hline⟩ := exists_wholeLines before
  have hcount : 1 + lines.count '\n' - 1 = lines.count '\n' := by omega
  rw [placeAfter_wholeLines hlines hline, offset?, if_neg (by omega), hcount, List.append_assoc,
    dropLines_wholeLines hlines, Option.bind_some]
  dsimp only
  rw [dropColumns_length hline, byteCount_append, Nat.zero_add]

theorem split_of_dropLines {n offset offset' : Nat} {cs : List Char}
    (h : dropLines n offset cs = some (offset', rest)) :
    ∃ lines, cs = lines ++ rest ∧ offset' = offset + byteCount lines ∧ WholeLines lines ∧
      lines.count '\n' = n := by
  fun_induction dropLines n offset cs with
  | case1 offset cs =>
    cases h
    exact ⟨[], rfl, rfl, wholeLines_nil, rfl⟩
  | case2 => cases h
  | case3 n offset rest ih =>
    obtain ⟨lines, rfl, rfl, hlines, rfl⟩ := ih h
    refine ⟨'\n' :: lines, rfl, ?_, wholeLines_cons.mpr ⟨hlines, fun _ => rfl⟩, ?_⟩
    · rw [byteCount_cons, ← Nat.add_assoc]
      rfl
    · rw [List.count_cons_self]
  | case4 n offset c rest hc ih =>
    obtain ⟨lines, rfl, rfl, hlines, hcount⟩ := ih h
    refine ⟨c :: lines, rfl, ?_, wholeLines_cons.mpr ⟨hlines, fun hempty => ?_⟩, ?_⟩
    · rw [byteCount_cons, Nat.add_assoc]
    · subst hempty
      cases hcount
    · rw [List.count_cons_of_ne hc, hcount]

theorem split_of_dropColumns {n offset offset' : Nat} {cs : List Char}
    (h : dropColumns n offset cs = some offset') :
    ∃ line rest, cs = line ++ rest ∧ offset' = offset + byteCount line ∧ '\n' ∉ line ∧
      line.length = n := by
  fun_induction dropColumns n offset cs with
  | case1 offset cs =>
    cases h
    exact ⟨[], cs, rfl, rfl, List.not_mem_nil, rfl⟩
  | case2 => cases h
  | case3 => cases h
  | case4 n offset c rest hc ih =>
    obtain ⟨line, rest, rfl, rfl, hline, rfl⟩ := ih h
    refine ⟨c :: line, rest, rfl, ?_, ?_, rfl⟩
    · rw [byteCount_cons, Nat.add_assoc]
    · exact List.not_mem_cons_of_ne_of_not_mem (Ne.symm hc) hline

/-- The offset of a place is the end of a piece of the text. -/
theorem split_of_offset? {text : List Char} {line column offset : Nat}
    (h : offset? text line column = some offset) :
    ∃ before after, text = before ++ after ∧ offset = byteCount before ∧
      placeAfter before = (line, column) := by
  unfold offset? at h
  split at h
  · cases h
  · next hline =>
    obtain ⟨⟨start, rest⟩, hlines, hcolumns⟩ := Option.bind_eq_some_iff.mp h
    obtain ⟨lines, rfl, rfl, hwhole, hcount⟩ := split_of_dropLines hlines
    obtain ⟨last, after, rfl, rfl, hlast, rfl⟩ := split_of_dropColumns hcolumns
    refine ⟨lines ++ last, after, by simp, by simp, ?_⟩
    rw [placeAfter_wholeLines hwhole hlast, hcount]
    congr 1
    omega

/-! ### From offsets to places -/

/-- Counting on from the place after a piece of text, through one more piece. -/
theorem positionFrom_append (done before after : List Char) :
    positionFrom (byteCount (done ++ before)) (byteCount done) (placeAfter done).1
      (placeAfter done).2 (before ++ after) = placeAfter (done ++ before) := by
  induction before generalizing done with
  | nil =>
    unfold positionFrom
    rw [List.append_nil, if_pos rfl]
  | cons c before ih =>
    have hsize : 0 < c.utf8Size := c.utf8Size_pos
    have hbytes : byteCount (done ++ [c]) = byteCount done + c.utf8Size := by simp
    have hrest := ih (done ++ [c])
    rw [List.append_assoc, List.singleton_append, hbytes] at hrest
    have htotal : byteCount (done ++ c :: before) =
        byteCount done + (c.utf8Size + byteCount before) := by simp
    unfold positionFrom
    rw [List.cons_append, if_neg (by omega), if_neg (by omega)]
    dsimp only
    by_cases hc : c = '\n'
    · subst hc
      rw [placeAfter_feed] at hrest
      rw [if_pos rfl]
      exact hrest
    · rw [placeAfter_concat hc] at hrest
      rw [if_neg hc]
      exact hrest

/-- The offset at which a piece of a text ends has the place after the piece. -/
theorem position_append (before after : List Char) :
    position (before ++ after) (byteCount before) = placeAfter before :=
  positionFrom_append [] before after

/-! ### Both ways -/

/-- **Places and offsets are converted into each other.** The place of the offset of a place is that
place; the offset of the place of an offset between two characters, or at either end, is that
offset; and this place is that of the line feeds and the characters before it. -/
theorem places_convert (text : String) :
    (∀ line column offset, offset? text.toList line column = some offset →
      position text.toList offset = (line, column)) ∧
    (∀ offset : String.Pos.Raw, offset.IsValid text →
      offset? text.toList (position text.toList offset.byteIdx).1
        (position text.toList offset.byteIdx).2 = some offset.byteIdx) ∧
    ∀ before after, text = before ++ after →
      position text.toList before.utf8ByteSize = placeAfter before.toList := by
  have hplace (before after : String) (htext : text = before ++ after) :
      position text.toList before.utf8ByteSize = placeAfter before.toList := by
    have h := position_append before.toList after.toList
    rwa [← String.toList_append, ← htext, byteCount, String.ofList_toList] at h
  refine ⟨fun line column offset h => ?_, fun offset hoffset => ?_, hplace⟩
  · obtain ⟨before, after, htext, rfl, hbefore⟩ := split_of_offset? h
    rw [htext, position_append, hbefore]
  · obtain ⟨before, after, htext, rfl⟩ := String.Pos.Raw.isValid_iff_exists_append.mp hoffset
    have h := offset?_append before.toList after.toList
    rw [← String.toList_append, ← htext, byteCount, String.ofList_toList] at h
    rw [String.byteIdx_rawEndPos, hplace before after htext]
    exact h

/-- Two lines with characters of one, two and four bytes. -/
def mixed : String := "é\r\n😀x"

/-- The place after the long character, the line feed itself, and the end of the text. -/
theorem places_convert_mixed :
    (offset? mixed.toList 2 1 = some 8 ∧ position mixed.toList 8 = (2, 1)) ∧
    (String.Pos.Raw.IsValid mixed ⟨3⟩ ∧ position mixed.toList 3 = (1, 2) ∧
      offset? mixed.toList 1 2 = some 3) ∧
    mixed = mixed ++ "" ∧ position mixed.toList 9 = placeAfter mixed.toList := by
  obtain ⟨hplaces, hoffsets, hpieces⟩ := places_convert mixed
  have hcomputed : offset? mixed.toList 2 1 = some 8 ∧ String.Pos.Raw.IsValid mixed ⟨3⟩ ∧
      position mixed.toList 3 = (1, 2) ∧ mixed.utf8ByteSize = 9 := by decide +kernel
  obtain ⟨hoffset, hvalid, hfeed, hsize⟩ := hcomputed
  have hback := hoffsets ⟨3⟩ hvalid
  have hend := hpieces mixed "" (by simp)
  rw [hfeed] at hback
  rw [hsize] at hend
  exact ⟨⟨hoffset, hplaces 2 1 8 hoffset⟩, ⟨hvalid, hfeed, hback⟩, by simp, hend⟩

end PackageVet.JavaScript.Source
