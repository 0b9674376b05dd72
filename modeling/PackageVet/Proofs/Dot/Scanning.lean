import PackageVet.Proofs.Dot.Document

/-! Scanning what was written.

Between tokens the scanner reads a written mark as its token and a gap as nothing (`Reads`). Only a
word is not at its end yet when its letters are read: the character after it ends it, unless that is
a letter too (`Reads.word`). So marks are read one by one, if no word runs into another one
(`Spaced`) or into a gap (`reads_spell`). -/
namespace PackageVet.Dot

/-! ### Characters of words -/

/-- A blank of ASCII is no letter. -/
theorem isBare_of_isBlank {c : Char} (hblank : Text.isBlank c = true) (hascii : c.toNat < 128) :
    isBare c = false := by
  have hranges : ∀ r ∈ Text.blankRanges, r = (9, 13) ∨ r = (32, 32) ∨ 128 ≤ r.1 := by decide
  have hcode : c.toNat ∈ [9, 10, 11, 12, 13, 32] := by
    obtain ⟨r, hr, hin⟩ := List.any_eq_true.mp hblank
    simp only [Bool.and_eq_true, decide_eq_true_eq] at hin
    rcases hranges r hr with rfl | rfl | hbeyond
    · simp only [List.mem_cons, List.not_mem_nil]
      omega
    · simp only [List.mem_cons, List.not_mem_nil]
      omega
    · omega
  have hnone : ∀ n ∈ [9, 10, 11, 12, 13, 32], isBare (Char.ofNat n) = false := by decide
  rw [← Char.ofNat_toNat c]
  exact hnone c.toNat hcode

namespace Scanner

/-- The line after a character. -/
def lineAfter (line : Nat) (c : Char) : Nat := if c = '\n' then line + 1 else line

theorem advance_eq (line : Nat) (mode : Mode) (lexemes : List Lexeme) (c : Char) :
    advance ⟨line, mode, lexemes⟩ c = ⟨lineAfter line c, mode, lexemes⟩ := by
  unfold advance lineAfter
  split <;> rfl

theorem run_cons {s s' : Scanner} {c : Char} (h : s.step c = .ok s') (rest : List Char) :
    s.run (c :: rest) = s'.run rest := by
  rw [run, h]
  rfl

/-- Whether a text is read as some tokens, wherever one may start. -/
def Reads (cs : List Char) (tokens : List Token) : Prop :=
  ∀ line lineStart lexemes, ∃ line' lineStart' lexemes',
    Scanner.run ⟨line, .between lineStart, lexemes⟩ cs =
      .ok ⟨line', .between lineStart', lexemes'⟩ ∧
    lexemes'.map Lexeme.token = tokens.reverse ++ lexemes.map Lexeme.token

namespace Reads
variable {a b cs : List Char} {tokens later : List Token}

theorem nil : Reads [] [] := fun line lineStart lexemes => ⟨line, lineStart, lexemes, rfl, rfl⟩

theorem append (ha : Reads a tokens) (hb : Reads b later) : Reads (a ++ b) (tokens ++ later) := by
  intro line lineStart lexemes
  obtain ⟨line₁, start₁, lexemes₁, hrun₁, htokens₁⟩ := ha line lineStart lexemes
  obtain ⟨line₂, start₂, lexemes₂, hrun₂, htokens₂⟩ := hb line₁ start₁ lexemes₁
  refine ⟨line₂, start₂, lexemes₂, ?_, ?_⟩
  · rw [run_append, hrun₁]
    exact hrun₂
  · rw [htokens₂, htokens₁, List.reverse_append, List.append_assoc]

end Reads

/-! ### Gaps -/

theorem step_comment {previous c : Char} (h : ¬ (previous = '*' ∧ c = '/')) (line : Nat)
    (lexemes : List Lexeme) :
    step ⟨line, .blockComment previous, lexemes⟩ c =
      .ok ⟨lineAfter line c, .blockComment c, lexemes⟩ := by
  simp only [step, if_neg h, advance_eq]

/-- A comment ends with its first end mark. -/
theorem run_comment {body : List Char} {previous : Char} (h : ¬ ['*', '/'] <:+: previous :: body)
    (line : Nat) (lexemes : List Lexeme) :
    ∃ line', Scanner.run ⟨line, .blockComment previous, lexemes⟩ (body ++ ['*', '/']) =
      .ok ⟨line', .between false, lexemes⟩ := by
  induction body generalizing previous line with
  | nil =>
    have hstar : ¬ (previous = '*' ∧ '*' = '/') := fun hclose => absurd hclose.2 (by decide)
    refine ⟨line, ?_⟩
    rw [List.nil_append, run_cons (step_comment hstar line lexemes)]
    rfl
  | cons c rest ih =>
    rw [List.infix_cons_iff, not_or] at h
    have hopen : ¬ (previous = '*' ∧ c = '/') := by
      rintro ⟨rfl, rfl⟩
      exact h.1 ⟨rest, rfl⟩
    rw [List.cons_append, run_cons (step_comment hopen line lexemes)]
    exact ih h.2 _

theorem reads_piece (p : Piece) : Reads p.write [] := by
  intro line lineStart lexemes
  cases p with
  | blank c hblank =>
    by_cases hnewline : c = '\n'
    · subst hnewline
      exact ⟨_, _, lexemes, rfl, rfl⟩
    · refine ⟨line, lineStart, lexemes, ?_, rfl⟩
      have hstep : step ⟨line, .between lineStart, lexemes⟩ c =
          .ok ⟨line, .between lineStart, lexemes⟩ := by
        simp only [step, stepBetween, if_neg hnewline, if_pos hblank]
      exact run_cons hstep []
  | comment body hopen =>
    have hbody : ¬ ['*', '/'] <:+: Char.ofNat 0 :: body := by
      rw [List.infix_cons_iff, not_or]
      exact ⟨fun hprefix => absurd (List.cons_prefix_cons.mp hprefix).1 (by decide), hopen⟩
    obtain ⟨line', hrun⟩ := run_comment hbody line lexemes
    exact ⟨line', false, lexemes, hrun, rfl⟩

theorem reads_gap (g : Gap) : Reads g.write [] := by
  induction g with
  | nil => exact .nil
  | cons p rest ih => exact (reads_piece p).append ih

/-! ### Marks -/

theorem step_quoted {c : Char} (h : ¬ (c = '"' ∨ c = '\\')) (line start : Nat) (text : List Char)
    (lexemes : List Lexeme) :
    step ⟨line, .quoted start text, lexemes⟩ c =
      .ok ⟨lineAfter line c, .quoted start (c :: text), lexemes⟩ := by
  rw [not_or] at h
  simp only [step, if_neg h.1, if_neg h.2, advance_eq]

theorem run_escape (cs text : List Char) (line start : Nat) (lexemes : List Lexeme) :
    ∃ line', Scanner.run ⟨line, .quoted start text, lexemes⟩ (escape cs) =
      .ok ⟨line', .quoted start (cs.reverse ++ text), lexemes⟩ := by
  induction cs generalizing text line with
  | nil => exact ⟨line, rfl⟩
  | cons c rest ih =>
    rw [List.reverse_cons, List.append_assoc, List.singleton_append, escape]
    split
    · next h =>
      -- the backslash before the character is dropped
      have hbackslash : step ⟨line, .quoted start text, lexemes⟩ '\\' =
          .ok ⟨line, .escaped start text, lexemes⟩ := rfl
      have hescaped : step ⟨line, .escaped start text, lexemes⟩ c =
          .ok ⟨line, .quoted start (c :: text), lexemes⟩ := by
        simp only [step, if_pos h]
      rw [run_cons hbackslash, run_cons hescaped]
      exact ih (c :: text) line
    · next h =>
      rw [run_cons (step_quoted h line start text lexemes)]
      exact ih (c :: text) _

theorem reads_quoted (text : String) : Reads (Mark.quoted text).write [.id text] := by
  intro line lineStart lexemes
  obtain ⟨line', hrun⟩ := run_escape text.toList [] line line lexemes
  have hquote : step ⟨line, .between lineStart, lexemes⟩ '"' =
      .ok ⟨line, .quoted line [], lexemes⟩ := rfl
  refine ⟨line', false, ⟨.id text, line⟩ :: lexemes, ?_, rfl⟩
  rw [Mark.write, run_cons hquote, run_append, hrun]
  show Except.ok (emitId ⟨line', _, lexemes⟩ line (text.toList.reverse ++ [])) = _
  rw [emitId, List.append_nil, List.reverse_reverse, String.ofList_toList]
  rfl

theorem reads_mark {m : Mark} (h : m.isWord = false) : Reads m.write [m.token] := by
  cases m with
  | word w => cases h
  | quoted text => exact reads_quoted text
  | separator s => cases s <;> exact fun line _ lexemes => ⟨line, _, _, rfl, rfl⟩
  | _ => exact fun line _ lexemes => ⟨line, _, _, rfl, rfl⟩

/-! ### Words -/

/-- Whether a text begins with a character that ends a word. -/
def Apart (cs : List Char) : Prop := ∃ c rest, cs = c :: rest ∧ isBare c = false

theorem Apart.append {cs : List Char} (h : Apart cs) (more : List Char) : Apart (cs ++ more) := by
  obtain ⟨c, rest, rfl, hc⟩ := h
  exact ⟨c, rest ++ more, rfl, hc⟩

/-- The letters of a word. -/
theorem run_word (w : Word) (line : Nat) (lineStart : Bool) (lexemes : List Lexeme) :
    Scanner.run ⟨line, .between lineStart, lexemes⟩ w.text.toList =
      .ok ⟨line, .bare line w.text.toList.reverse, lexemes⟩ := by
  cases w with
  | digraph => rfl
  | subgraph => rfl
  | defaults subject => cases subject <;> rfl

/-- A word ends where a text begins that is apart from it. -/
theorem Reads.word {cs : List Char} {tokens : List Token} (h : Reads cs tokens) (hcs : Apart cs)
    (w : Word) : Reads (w.text.toList ++ cs) (.id w.text :: tokens) := by
  intro line lineStart lexemes
  obtain ⟨c, rest, rfl, hc⟩ := hcs
  obtain ⟨line', lineStart', lexemes', hrun, htokens⟩ :=
    h line false (⟨.id w.text, line⟩ :: lexemes)
  have hname : String.ofList w.text.toList.reverse.reverse = w.text := by
    rw [List.reverse_reverse, String.ofList_toList]
  have hends : ¬ isBare c = true := by simp [hc]
  -- the character after the word is taken as if the word had been read before it
  have hstep : step ⟨line, .bare line w.text.toList.reverse, lexemes⟩ c =
      step ⟨line, .between false, ⟨.id w.text, line⟩ :: lexemes⟩ c := by
    simp only [step, stepBare, if_neg hends, emitId, emit, hname]
  refine ⟨line', lineStart', lexemes', ?_, ?_⟩
  · rw [run_append, run_word, ← hrun]
    show Scanner.run ⟨line, .bare line w.text.toList.reverse, lexemes⟩ (c :: rest) = _
    rw [run, run, hstep]
  · rw [htokens]
    simp

end Scanner

/-! ### Texts -/

/-- Whether every word of some marks has a mark after it that is no word. -/
def Spaced : List Mark → Prop
  | [] => True
  | m :: rest => (m.isWord = true → ∃ next ∈ rest.head?, next.isWord = false) ∧ Spaced rest

theorem Spaced.cons {m : Mark} {marks : List Mark} (hm : m.isWord = false) (h : Spaced marks) :
    Spaced (m :: marks) :=
  ⟨fun hword => absurd (hm.symm.trans hword) (by decide), h⟩

theorem Spaced.word {w : Word} {next : Mark} {marks : List Mark} (hnext : next.isWord = false)
    (h : Spaced (next :: marks)) : Spaced (.word w :: next :: marks) :=
  ⟨fun _ => ⟨next, rfl, hnext⟩, h⟩

theorem Spaced.append {a b : List Mark} (ha : Spaced a) (hb : Spaced b) : Spaced (a ++ b) := by
  induction a with
  | nil => exact hb
  | cons m rest ih =>
    refine ⟨fun hm => ?_, ih ha.2⟩
    obtain ⟨next, hnext, hword⟩ := ha.1 hm
    obtain ⟨more, rfl⟩ := List.head?_eq_some_iff.mp hnext
    exact ⟨next, rfl, hword⟩

/-- Marks other than words can stand anywhere. -/
theorem spaced_of_none {marks : List Mark} (h : ∀ m ∈ marks, m.isWord = false) : Spaced marks := by
  induction marks with
  | nil => trivial
  | cons m rest ih =>
    exact .cons (h m List.mem_cons_self) (ih fun n hn => h n (List.mem_cons_of_mem m hn))

theorem apart_of_isWord {m : Mark} (h : m.isWord = false) : Scanner.Apart m.write := by
  cases m with
  | word w => cases h
  | quoted text => exact ⟨'"', _, rfl, by decide⟩
  | separator s => cases s <;> exact ⟨_, [], rfl, by decide⟩
  | arrow => exact ⟨'-', ['>'], rfl, by decide⟩
  | _ => exact ⟨_, [], rfl, by decide⟩

theorem Gap.apart_append {g : Gap} (hg : g.EndsWord) {cs : List Char} (hcs : Scanner.Apart cs) :
    Scanner.Apart (g.write ++ cs) := by
  cases g with
  | nil => exact hcs
  | cons p rest =>
    cases p with
    | blank c hblank => exact ⟨c, _, rfl, isBare_of_isBlank hblank hg⟩
    | comment body hopen => exact ⟨'/', _, rfl, by decide⟩

/-- Marks are read as their tokens, whatever stands between them. -/
theorem reads_spell {marks : List Mark} (hspaced : Spaced marks) {layout : Nat → Gap}
    (hlayout : ∀ i w, marks[i]? = some (.word w) → (layout i).EndsWord) :
    Scanner.Reads (spell layout marks) (marks.map Mark.token) := by
  induction marks generalizing layout with
  | nil => exact .nil
  | cons m rest ih =>
    have hrest : Scanner.Reads (spell (fun i => layout (i + 1)) rest) (rest.map Mark.token) :=
      ih hspaced.2 fun i w hi => hlayout (i + 1) w hi
    have hgap := (Scanner.reads_gap (layout 0)).append hrest
    cases hm : m.isWord with
    | false => exact (Scanner.reads_mark hm).append hgap
    | true =>
      obtain ⟨w, rfl⟩ : ∃ w, m = .word w := by
        cases m with
        | word w => exact ⟨w, rfl⟩
        | _ => cases hm
      obtain ⟨next, hnext, hnot⟩ := hspaced.1 rfl
      obtain ⟨more, rfl⟩ := List.head?_eq_some_iff.mp hnext
      have happart := Gap.apart_append (hlayout 0 w rfl)
        ((apart_of_isWord hnot).append ((layout 1).write ++ spell (fun i => layout (i + 2)) more))
      exact hgap.word happart w

/-- The tokens of a text of marks. -/
theorem scan_spell {marks : List Mark} (hspaced : Spaced marks) (lead : Gap) {layout : Nat → Gap}
    (hlayout : ∀ i w, marks[i]? = some (.word w) → (layout i).EndsWord) :
    ∃ lexemes, scan (String.ofList (lead.write ++ spell layout marks)) = .ok lexemes ∧
      lexemes.map Lexeme.token = marks.map Mark.token := by
  obtain ⟨line, lineStart, lexemes, hrun, htokens⟩ :=
    ((Scanner.reads_gap lead).append (reads_spell hspaced hlayout)) 1 true []
  refine ⟨lexemes.reverse, ?_, ?_⟩
  · rw [scan, String.toList_ofList, hrun]
    rfl
  · rw [List.map_reverse, htokens]
    simp

end PackageVet.Dot
