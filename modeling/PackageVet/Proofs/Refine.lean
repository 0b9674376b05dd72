import PackageVet.Proofs.Effect
import PackageVet.Refine
import PackageVet.Service.Rehearsal

/-! How the arguments of a call come back from the probe.

The requests are numbered over the dynamic arguments only, each value comes back on a line of a log
under its number, and the values are put between the literals again. What the logging statements
write is said by the parts that they are made of (`logText`). Nothing is lost on the way: a
placeholder is read up to the first colon, so a value may hold colons and placeholders of its own
(`logEntry?_line`), and the first value under a placeholder counts, so nothing that is written later
takes its place (`get?_readProbeLog_entryLines`). -/
namespace PackageVet
open JavaScript (Source)
open JavaScript.Source (Argument)

/-! ### Placeholders -/

/-- Texts under the placeholders `#1`, `#2` and so on; `number` of them were used before. -/
def numbered (number : Nat) : List String → List (String × String)
  | [] => []
  | text :: rest => ("#" ++ toString (number + 1), text) :: numbered (number + 1) rest

theorem toList_placeholder (n : Nat) : ("#" ++ toString n).toList = '#' :: Nat.toDigits 10 n := by
  simp

theorem placeholder_injective {m n : Nat} (h : "#" ++ toString m = "#" ++ toString n) : m = n := by
  have hlists := congrArg String.toList h
  rw [toList_placeholder, toList_placeholder] at hlists
  have hdigits := congrArg (Nat.ofDigitChars 10 · 0) (List.cons.inj hlists).2
  simpa [Nat.ofDigitChars_ten_toDigits] using hdigits

/-- A placeholder is a hash and digits. -/
theorem not_mem_placeholder {c : Char} (n : Nat) (hhash : c ≠ '#') (hdigit : c.isDigit = false) :
    c ∉ ("#" ++ toString n).toList := by
  rw [toList_placeholder, List.mem_cons]
  intro h
  rcases h with h | h
  · exact hhash h
  · rw [Nat.isDigit_of_mem_toDigits (by omega) (by omega) h] at hdigit
    cases hdigit

theorem key_of_mem_numbered {number : Nat} {texts : List String} {entry : String × String}
    (h : entry ∈ numbered number texts) : ∃ n, number < n ∧ entry.1 = "#" ++ toString n := by
  induction texts generalizing number with
  | nil => cases h
  | cons text rest ih =>
    rcases List.mem_cons.mp h with h | h
    · rw [h]
      exact ⟨number + 1, by omega, rfl⟩
    · obtain ⟨n, hn, hkey⟩ := ih h
      exact ⟨n, by omega, hkey⟩

/-- No placeholder is used twice, so each entry is the first one under its own. -/
theorem find?_numbered_append {number : Nat} {texts : List String} {entry : String × String}
    (h : entry ∈ numbered number texts) (more : List (String × String)) :
    Table.find? entry.1 (numbered number texts ++ more) = some entry.2 := by
  induction texts generalizing number with
  | nil => cases h
  | cons text rest ih =>
    rcases List.mem_cons.mp h with h | h
    · simp [h, numbered, Table.find?]
    · obtain ⟨n, hn, hkey⟩ := key_of_mem_numbered h
      have hne : "#" ++ toString (number + 1) ≠ entry.1 := by
        rw [hkey]
        intro he
        have := placeholder_injective he
        omega
      rw [numbered, List.cons_append, Table.find?, if_neg hne]
      exact ih h

/-! ### The log -/

/-- What a part of a logging statement is, given the value of the expression. -/
def LogPart.written (value : String) : LogPart → String
  | .label placeholder => placeholder ++ ":"
  | .value _ => value
  | .lineEnd => "\n"

/-- What the logging statement of a request writes, given the value of its expression. -/
def ProbeRequest.written (request : ProbeRequest) (value : String) : String :=
  String.join (request.logParts.map (LogPart.written value))

theorem ProbeRequest.written_eq (request : ProbeRequest) (value : String) :
    request.written value = request.placeholder ++ ":" ++ value ++ "\n" := by
  simp [written, logParts, LogPart.written, String.append_assoc]

/-- What the logging statements of some requests write, given the values of their expressions. -/
def logText (requests : List ProbeRequest) (values : List String) : String :=
  String.join (List.zipWith ProbeRequest.written requests values)

/-- Lines with a placeholder and a value each. -/
def entryLines (entries : List (String × String)) : String :=
  String.join (entries.map fun entry => entry.1 ++ ":" ++ entry.2 ++ "\n")

/-- Whether a value that ends a line is read as it was written. -/
def OneLine (value : String) : Prop := '\n' ∉ value.toList ∧ value.toList.getLast? ≠ some '\r'

instance (value : String) : Decidable (OneLine value) := inferInstanceAs (Decidable (_ ∧ _))

def logEntries (log : List Char) : List (String × String) := (Text.lines log).filterMap logEntry?

theorem logEntry?_line (n : Nat) (value : String) :
    logEntry? (("#" ++ toString n).toList ++ ':' :: value.toList) =
      some ("#" ++ toString n, value) := by
  have hcolon : ':' ∉ ("#" ++ toString n).toList := not_mem_placeholder n (by decide) (by decide)
  have hhead : ("#" ++ toString n).toList.head? = some '#' := by
    rw [toList_placeholder]
    rfl
  unfold logEntry?
  rw [Text.splitFirst?_append hcolon]
  simp only [hhead, if_true, String.ofList_toList]

theorem lines_logged (n : Nat) {value : String} (h : OneLine value) (rest : List Char) :
    Text.lines (("#" ++ toString n).toList ++ ':' :: value.toList ++ '\n' :: rest) =
      (("#" ++ toString n).toList ++ ':' :: value.toList) :: Text.lines rest := by
  apply Text.lines_append
  · intro hmem
    rcases List.mem_append.mp hmem with hmem | hmem
    · exact not_mem_placeholder n (by decide) (by decide) hmem
    · exact h.1 (by simpa using hmem)
  · -- the line ends in what the value ends in, or in the colon
    rw [List.getLast?_append, List.getLast?_cons]
    cases hlast : value.toList.getLast? with
    | none => simp
    | some c => simpa [hlast] using h.2

theorem logEntries_entryLines {number : Nat} {values : List String} (h : ∀ v ∈ values, OneLine v)
    (further : String) :
    logEntries (entryLines (numbered number values) ++ further).toList =
      numbered number values ++ logEntries further.toList := by
  induction values generalizing number with
  | nil => simp [numbered, entryLines]
  | cons value rest ih =>
    have hline : (entryLines (numbered number (value :: rest)) ++ further).toList =
        ("#" ++ toString (number + 1)).toList ++ ':' :: value.toList ++
          '\n' :: (entryLines (numbered (number + 1) rest) ++ further).toList := by
      simp [entryLines, numbered]
    rw [hline, logEntries, lines_logged _ (h value (List.mem_cons_self ..)), List.filterMap_cons,
      logEntry?_line]
    exact congrArg _ (ih fun v hv => h v (List.mem_cons_of_mem value hv))

/-- The table with an entry, unless it has one under the placeholder. -/
def keepFirst (table : Table String String) (entry : String × String) : Table String String :=
  if table.contains entry.1 then table else table.insert entry.1 entry.2

theorem get?_foldl_keepFirst (entries : List (String × String)) (table : Table String String)
    (key : String) :
    (entries.foldl keepFirst table).get? key = (table.get? key).or (Table.find? key entries) := by
  induction entries generalizing table with
  | nil => simp [Table.find?]
  | cons entry rest ih =>
    obtain ⟨k, v⟩ := entry
    rw [List.foldl_cons, ih]
    unfold keepFirst Table.contains
    by_cases hk : key = k
    · subst hk
      cases htable : table.get? key <;> simp [htable, Table.find?]
    · cases htable : table.get? k <;>
        simp [Table.get?_insert_of_ne, hk, Ne.symm hk, Table.find?]

theorem get?_readProbeLog (log key : String) :
    (readProbeLog log).get? key = Table.find? key (logEntries log.toList) := by
  have hfold : readProbeLog log = (logEntries log.toList).foldl keepFirst {} := rfl
  rw [hfold, get?_foldl_keepFirst]
  rfl

/-- Each value is read under its own placeholder, whatever it holds and whatever follows. -/
theorem get?_readProbeLog_entryLines {values : List String} (h : ∀ v ∈ values, OneLine v)
    (further : String) {entry : String × String} (hentry : entry ∈ numbered 0 values) :
    (readProbeLog (entryLines (numbered 0 values) ++ further)).get? entry.1 = some entry.2 := by
  rw [get?_readProbeLog, logEntries_entryLines h]
  exact find?_numbered_append hentry _

/-! ### Arguments and their values -/

namespace JavaScript.Source.Argument

/-- The code that the probe has to evaluate. -/
def code? : Argument → Option String
  | .literal _ => none
  | .dynamic code => some code

/-- What stands for an argument in the text of a call, given the value that it has if it is
dynamic. -/
def textWith (value : String) : Argument → String
  | .literal text => text
  | .dynamic _ => value

end JavaScript.Source.Argument

/-- The values of the dynamic arguments among some arguments with their values. -/
def dynamicValues (valued : List (Argument × String)) : List String :=
  (valued.filter fun a => a.1.code?.isSome).map Prod.snd

/-- The texts of some arguments with their values, between blanks. -/
def textOf (valued : List (Argument × String)) : String :=
  " ".intercalate (valued.map fun a => a.1.textWith a.2)

/-- What the probe is asked: the codes of the dynamic arguments, numbered from one. -/
def requestsFor (number : Nat) (arguments : List Argument) : List ProbeRequest :=
  (numbered number (arguments.filterMap Argument.code?)).map fun entry =>
    { placeholder := entry.1, expression := entry.2 }

theorem argumentParts_requests (number : Nat) (arguments : List Argument) :
    (argumentParts number arguments).2 = requestsFor number arguments := by
  induction arguments generalizing number with
  | nil => rfl
  | cons argument rest ih =>
    cases argument with
    | literal text => exact ih number
    | dynamic code => exact congrArg _ (ih (number + 1))

/-- The logging statements write the values under the placeholders, in the order of the
arguments. -/
theorem logText_requestsFor (number : Nat) (valued : List (Argument × String)) :
    logText (requestsFor number (valued.map Prod.fst)) (dynamicValues valued) =
      entryLines (numbered number (dynamicValues valued)) := by
  induction valued generalizing number with
  | nil => rfl
  | cons a rest ih =>
    obtain ⟨argument, value⟩ := a
    cases argument with
    | literal text => exact ih number
    | dynamic code =>
      let request : ProbeRequest := ⟨"#" ++ toString (number + 1), code⟩
      show String.join (request.written value :: List.zipWith ProbeRequest.written _ _) =
        String.join ((request.placeholder ++ ":" ++ value ++ "\n") :: List.map _ _)
      rw [String.join_cons, String.join_cons, request.written_eq]
      exact congrArg _ (ih (number + 1))

theorem requestsFor_eq_nil {valued : List (Argument × String)} :
    requestsFor 0 (valued.map Prod.fst) = [] ↔ dynamicValues valued = [] := by
  induction valued with
  | nil => simp [requestsFor, dynamicValues, numbered]
  | cons a rest ih =>
    obtain ⟨argument, value⟩ := a
    cases argument with
    | literal text => exact ih
    | dynamic code =>
      constructor
      · intro h
        cases h
      · intro h
        cases h

/-- What is put in the place of a part, if it is known. -/
def ArgumentPart.fill? (table : Table String String) : ArgumentPart → Option String
  | .text known => some known
  | .placeholder name => table.get? name

/-- The parts fill up to the arguments, in their order, when each placeholder has its value. -/
theorem filterMap_fill?_argumentParts {number : Nat} {valued : List (Argument × String)}
    {table : Table String String}
    (h : ∀ entry ∈ numbered number (dynamicValues valued), table.get? entry.1 = some entry.2) :
    (argumentParts number (valued.map Prod.fst)).1.filterMap (ArgumentPart.fill? table) =
      valued.map fun a => a.1.textWith a.2 := by
  induction valued generalizing number with
  | nil => rfl
  | cons a rest ih =>
    obtain ⟨argument, value⟩ := a
    cases argument with
    | literal text => exact congrArg _ (ih h)
    | dynamic code =>
      have hvalue : table.get? ("#" ++ toString (number + 1)) = some value :=
        h _ (List.mem_cons_self ..)
      have hrest := ih fun entry he => h entry (List.mem_cons_of_mem _ he)
      simp only [List.map_cons, argumentParts, List.filterMap_cons, ArgumentPart.fill?, hvalue]
      exact congrArg _ hrest

theorem fillParts_argumentParts {valued : List (Argument × String)} {table : Table String String}
    (h : ∀ entry ∈ numbered 0 (dynamicValues valued), table.get? entry.1 = some entry.2) :
    fillParts table (argumentParts 0 (valued.map Prod.fst)).1 = textOf valued := by
  have hfill : fillParts table (argumentParts 0 (valued.map Prod.fst)).1 =
      " ".intercalate ((argumentParts 0 (valued.map Prod.fst)).1.filterMap
        (ArgumentPart.fill? table)) := rfl
  rw [hfill, filterMap_fill?_argumentParts h, textOf]

/-! ### The text of a call -/

namespace Refiner
variable {σ : Type} {r : Refiner σ} {node : ProgramNode} {s s' : σ}

/-- The call at a node as the source shows it, and the statement around it. -/
structure CallAt (r : Refiner σ) (node : ProgramNode) where
  text : String
  arguments : List Argument
  /-- The line and the column at which the statement starts. -/
  start : Nat × Nat
  placed : ¬ (node.line = unknownPosition ∨ node.file = "")
  read : (r.files.readText (FileTree.join r.packageDir node.file)).toOption = some text
  called : (Source.ofText text).callArguments? node.line
    (if node.column = unknownPosition then 0 else node.column) = some arguments
  enclosed : (Source.ofText text).statementStart? node.line
    (if node.column = unknownPosition then 0 else node.column) = some start

/-- Where the probe looks. -/
def CallAt.site (call : r.CallAt node) : ProbeSite :=
  { packageDir := r.packageDir, file := node.file, line := call.start.1, column := call.start.2 }

/-- A source in which a call is found was read. -/
theorem CallAt.tree?_isNone (call : r.CallAt node) :
    (Source.ofText call.text).tree?.isNone = false := by
  cases htree : (Source.ofText call.text).tree? with
  | none =>
    have hcalled := call.called
    simp [Source.callArguments?, htree] at hcalled
  | some tree => rfl

/-- The text of a call without dynamic arguments is known at once. -/
theorem CallAt.run_argumentText?_of_nil (call : r.CallAt node)
    (h : requestsFor 0 call.arguments = []) :
    (r.argumentText? node).run s =
      (.ok (some (fillParts {} (argumentParts 0 call.arguments).1)), s) := by
  unfold argumentText?
  simp only [call.placed, call.read, call.tree?_isNone, call.called,
    argumentParts_requests, h]
  rfl

/-- Otherwise the probe is asked once, and what it saw is filled in. -/
theorem CallAt.run_argumentText? (call : r.CallAt node) (henabled : r.probe.enabled = true)
    (h : requestsFor 0 call.arguments ≠ []) {table : Table String String}
    (hprobe : (r.probe.evaluate call.site (requestsFor 0 call.arguments)).run s =
      (.ok (some table), s')) :
    (r.argumentText? node).run s =
      (.ok (some (fillParts table (argumentParts 0 call.arguments).1)), s') := by
  have hrequests : (requestsFor 0 call.arguments).isEmpty = false := by simpa using h
  unfold argumentText?
  simp only [call.placed, call.read, call.tree?_isNone, call.called,
    argumentParts_requests, hrequests, call.enclosed, henabled]
  exact Effect.run_bind_eq_ok.mpr ⟨some table, s', hprobe, rfl⟩

/-- Whether a match is judged by the arguments of a node: there is a rule for its pattern, the
report does not make the judgement pointless, and the match has a node for the rule. -/
structure JudgedBy (r : Refiner σ) (p : Pattern) (m : Mapping) (arena : Arena) (report : Report)
    (oracle : Oracle σ) (rule : RefinementRule) (node : ProgramNode) : Prop where
  asked : r.oracle = some oracle
  ruled : refinementRules.lookup p.description = some rule
  needed : (rule.skipWhenStealing && report.hasInformationStealing) = false
  found : (m.node? rule.category).bind arena.get? = some node

theorem JudgedBy.run_keep {p : Pattern} {m : Mapping} {arena : Arena} {report : Report}
    {oracle : Oracle σ} {rule : RefinementRule}
    (h : r.JudgedBy p m arena report oracle rule node) {text : String} (hne : text ≠ "")
    (htext : (r.argumentText? node).run s = (.ok (some text), s')) :
    (r.keep p m arena report).run s = (oracle.judge rule.judgement text).run s' := by
  unfold keep
  simp only [h.ruled, h.needed, h.asked, h.found]
  refine (Effect.run_bind ..).trans ?_
  rw [htext]
  -- `hne` rules out the branch for a call without arguments
  simp only

/-- The oracle judges the literals of a call and the values of its dynamic arguments, in the order
of the arguments and between single blanks, when the probe read them from what the logging
statements wrote and whatever was written later. The probe is asked only if an argument is
dynamic. -/
theorem arguments_intact (call : r.CallAt node) (valued : List (Argument × String))
    (hvalued : valued.map Prod.fst = call.arguments) (hlines : ∀ v ∈ dynamicValues valued, OneLine v)
    (further : String) (henabled : r.probe.enabled = true)
    (hprobe : dynamicValues valued ≠ [] →
      (r.probe.evaluate call.site (requestsFor 0 call.arguments)).run s =
        (.ok (some (readProbeLog (logText (requestsFor 0 call.arguments) (dynamicValues valued) ++
          further))), s')) :
    let seen := if dynamicValues valued = [] then s else s'
    (r.argumentText? node).run s = (.ok (some (textOf valued)), seen) ∧
    ∀ (p : Pattern) (m : Mapping) (arena : Arena) (report : Report) (oracle : Oracle σ)
      (rule : RefinementRule), r.JudgedBy p m arena report oracle rule node →
        textOf valued ≠ "" →
        (r.keep p m arena report).run s = (oracle.judge rule.judgement (textOf valued)).run seen := by
  intro seen
  have htext : (r.argumentText? node).run s = (.ok (some (textOf valued)), seen) := by
    by_cases hnone : dynamicValues valued = []
    · have hrequests := requestsFor_eq_nil.mpr hnone
      rw [hvalued] at hrequests
      rw [call.run_argumentText?_of_nil hrequests, ← hvalued,
        fillParts_argumentParts (by simp [hnone, numbered])]
      simp [seen, hnone]
    · have hrequests := mt requestsFor_eq_nil.mp hnone
      rw [hvalued] at hrequests
      rw [call.run_argumentText? henabled hrequests (hprobe hnone), ← hvalued, logText_requestsFor,
        fillParts_argumentParts fun _ => get?_readProbeLog_entryLines hlines further]
      simp [seen, hnone]
  exact ⟨htext, fun _ _ _ _ _ _ h hne => h.run_keep hne htext⟩

/-- A literal between two dynamic arguments, whose values look like lines of the log. -/
def betweenValues : List (Argument × String) :=
  [(.dynamic "x", "1:#2:z"), (.literal "a b", ""), (.dynamic "y", "#1:q")]

/-- A refiner whose probe also finds a later line under the first placeholder. -/
def lateLine : Refiner Rehearsal where
  files := FileTree.ofEntries [("p/i.js", some "exec(x,'a b',y)")]
  packageDir := "p"
  oracle := some (OracleScript.oracle {})
  probe := ProbeScript.probe
    { values := some (readProbeLog (logText (requestsFor 0 (betweenValues.map Prod.fst))
        (dynamicValues betweenValues) ++ "#1:late\n")) }

def execNode : ProgramNode := { id := 1, unit := 1, kind := "CALL", line := 1, file := "i.js" }

def execPattern : Pattern :=
  .ofKey "code execution" "execute a command" (.single .executeCommand) []

theorem computed_execNode :
    (lateLine.files.readText (FileTree.join lateLine.packageDir execNode.file)).toOption =
      some "exec(x,'a b',y)" ∧
    (Source.ofText "exec(x,'a b',y)").callArguments? 1 0 = some (betweenValues.map Prod.fst) ∧
    (Source.ofText "exec(x,'a b',y)").statementStart? 1 0 = some (1, 0) := by
  decide +kernel

def execCall : lateLine.CallAt execNode where
  text := "exec(x,'a b',y)"
  arguments := betweenValues.map Prod.fst
  start := (1, 0)
  placed := by decide
  read := computed_execNode.1
  called := computed_execNode.2.1
  enclosed := computed_execNode.2.2

theorem judgedBy_execPattern :
    lateLine.JudgedBy execPattern { nodes := [(.executeCommand, 1)] } (Table.ofList [(1, execNode)])
      {} (OracleScript.oracle {}) { category := .executeCommand, judgement := .command } execNode where
  asked := rfl
  ruled := by decide
  needed := rfl
  found := by decide

/-- Neither a value that looks like another placeholder nor a later line shifts anything. -/
theorem arguments_intact_lateLine :
    textOf betweenValues = "1:#2:z a b #1:q" ∧
    ((lateLine.argumentText? execNode).run {}).1 = .ok (some (textOf betweenValues)) ∧
    ((lateLine.keep execPattern { nodes := [(.executeCommand, 1)] } (Table.ofList [(1, execNode)])
      {}).run {}).2.judged = [(.command, textOf betweenValues)] := by
  have h := arguments_intact (s := {}) execCall betweenValues rfl (by decide) "#1:late\n" rfl
    (fun _ => rfl)
  have hkeep := h.2 _ _ _ _ _ _ judgedBy_execPattern (by decide)
  refine ⟨by decide, by rw [h.1], ?_⟩
  rw [hkeep]
  rfl

end Refiner

end PackageVet
