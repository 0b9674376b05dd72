/-! Cutting and joining text.

Texts are cut as lists of characters. What was put before a mark is cut off at it again
(`splitOn_append`, `splitFirst?_append`), and so is a line (`lines_append`). -/
namespace PackageVet.Text

/-! ### Beginnings and ends -/

def startsWith (s start : String) : Bool := start.toList.isPrefixOf s.toList

def endsWith (s ending : String) : Bool := ending.toList.isSuffixOf s.toList

/-- What follows a beginning, if the text starts with it. -/
def afterStart? : List Char → List Char → Option (List Char)
  | cs, [] => some cs
  | [], _ :: _ => none
  | c :: cs, s :: start => if c = s then afterStart? cs start else none

def stripStart? (s start : String) : Option String :=
  (afterStart? s.toList start.toList).map String.ofList

def stripEnd? (s ending : String) : Option String :=
  (afterStart? s.toList.reverse ending.toList.reverse).map fun cs => String.ofList cs.reverse

/-- Whether a piece stands somewhere in a text. -/
def occursIn (piece : List Char) : List Char → Bool
  | [] => piece.isEmpty
  | c :: cs => piece.isPrefixOf (c :: cs) || occursIn piece cs

def contains (s piece : String) : Bool := occursIn piece.toList s.toList

/-! ### Splitting -/

/-- The pieces of a text between the places where a character stands. -/
def splitOn (mark : Char) : List Char → List (List Char)
  | [] => [[]]
  | c :: cs =>
    if c = mark then [] :: splitOn mark cs
    else match splitOn mark cs with
      | [] => [[c]]
      | piece :: rest => (c :: piece) :: rest

/-- The pieces with the mark between them. -/
def joinWith (mark : Char) : List (List Char) → List Char
  | [] => []
  | [piece] => piece
  | piece :: rest => piece ++ mark :: joinWith mark rest

theorem splitOn_ne_nil (mark : Char) (cs : List Char) : splitOn mark cs ≠ [] := by
  cases cs with
  | nil => simp [splitOn]
  | cons c cs =>
    simp only [splitOn]
    split
    · simp
    · split <;> simp

/-- A piece that ends at a mark is the first one. -/
theorem splitOn_append {mark : Char} {piece : List Char} (h : mark ∉ piece) (rest : List Char) :
    splitOn mark (piece ++ mark :: rest) = piece :: splitOn mark rest := by
  induction piece with
  | nil => simp [splitOn]
  | cons c piece ih =>
    have hc : c ≠ mark := fun he => h (he ▸ List.mem_cons_self ..)
    simp [splitOn, hc, ih (fun hm => h (List.mem_cons_of_mem c hm))]

/-- What stands before and after the first place of a character. -/
def splitFirst? (mark : Char) : List Char → Option (List Char × List Char)
  | [] => none
  | c :: cs =>
    if c = mark then some ([], cs)
    else (splitFirst? mark cs).map fun (before, after) => (c :: before, after)

theorem splitFirst?_append {mark : Char} {before : List Char} (h : mark ∉ before)
    (after : List Char) : splitFirst? mark (before ++ mark :: after) = some (before, after) := by
  induction before with
  | nil => simp [splitFirst?]
  | cons c before ih =>
    have hc : c ≠ mark := fun he => h (he ▸ List.mem_cons_self ..)
    simp [splitFirst?, hc, ih (fun hm => h (List.mem_cons_of_mem c hm))]

/-- What stands before and after the last place of a character. -/
def splitLast? (mark : Char) (cs : List Char) : Option (List Char × List Char) :=
  (splitFirst? mark cs.reverse).map fun (after, before) => (before.reverse, after.reverse)

/-- The text without the same character repeated at its end. -/
def trimEnd (mark : Char) (cs : List Char) : List Char :=
  (cs.reverse.dropWhile (· = mark)).reverse

/-! ### Lines -/

/-- A line without the carriage return that may end it. -/
def dropReturn (line : List Char) : List Char :=
  if line.getLast? = some '\r' then line.dropLast else line

/-- The lines of a text. A line ends at a line feed, and a carriage return before it is not part of
the line; nothing after the last line feed is no line. -/
def lines (cs : List Char) : List (List Char) :=
  match (splitOn '\n' cs).reverse with
  | [] => []
  | last :: rest =>
    let ended := rest.reverse.map dropReturn
    if last.isEmpty then ended else ended ++ [last]

/-- A line that does not end in a carriage return is read as it is. -/
theorem lines_append {line : List Char} (hfeed : '\n' ∉ line) (hreturn : line.getLast? ≠ some '\r')
    (rest : List Char) : lines (line ++ '\n' :: rest) = line :: lines rest := by
  have hne : (splitOn '\n' rest).reverse ≠ [] := by simpa using splitOn_ne_nil '\n' rest
  unfold lines
  rw [splitOn_append hfeed, List.reverse_cons]
  cases hpieces : (splitOn '\n' rest).reverse with
  | nil => exact absurd hpieces hne
  | cons last before =>
    simp only [List.cons_append, List.reverse_append, List.reverse_singleton, List.map_cons,
      List.nil_append, dropReturn, hreturn, if_false]
    split <;> rfl

/-- So many spaces. -/
def spaces (n : Nat) : String := String.ofList (List.replicate n ' ')

end PackageVet.Text
