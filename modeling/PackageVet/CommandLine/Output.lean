import PackageVet.Analysis
import PackageVet.Json.Printer
import PackageVet.Pattern.Library
import PackageVet.Text.Double

/-! What the program prints: the outcomes of an analysis, as lines or as JSON, and the list of
patterns. -/
namespace PackageVet.CommandLine

def version : String := "0.1.0"

/-! ### Outcomes -/

/-- The text with spaces after it, up to a width. -/
def padRight (width : Nat) (s : String) : String := s ++ Text.spaces (width - s.length)

def padLeft (width : Nat) (s : String) : String := Text.spaces (width - s.length) ++ s

/-- Seconds with two places, rounded. -/
def seconds (d : Duration) : String :=
  let hundredths := Text.roundDiv d.nanoseconds 10000000
  let rest := hundredths % 100
  toString (hundredths / 100) ++ "." ++ (if rest < 10 then "0" else "") ++ toString rest ++ "s"

def outcomeLine (o : Outcome) : String :=
  let findings := if 0 < o.findings then " (" ++ toString o.findings ++ " finding(s))" else ""
  padRight 24 o.package ++ " " ++ o.status.name ++ findings ++ " " ++ seconds o.elapsed ++ "\n"

def flaggedCount (outcomes : List Outcome) : Nat :=
  (outcomes.filter fun o => o.status.isFlagged).length

/-- A line for each package, and a summary where there are several. -/
def prettyOutcomes (outcomes : List Outcome) : String :=
  let summary :=
    if 1 < outcomes.length then
      "\nAnalyzed " ++ toString outcomes.length ++ " package(s), " ++
        toString (flaggedCount outcomes) ++ " flagged\n"
    else ""
  String.join (outcomes.map outcomeLine) ++ summary

/-- How many packages have each status, in the order of its name. -/
def statusCounts (outcomes : List Outcome) : List (String × Nat) :=
  outcomes.foldl (fun counts o => Sorted.upsert o.status.name (fun n => n.getD 0 + 1) counts) []

def outcomeJson (o : Outcome) : JsonValue :=
  .record
    [("package", .text o.package), ("status", .text o.status.name), ("findings", .nat o.findings),
     ("elapsed", .nat (o.elapsed.nanoseconds / 1000000))]

def outcomesJson (reportDir : String) (outcomes : List Outcome) : JsonValue :=
  .record
    [("version", .text "1.0"),
     ("metadata", .record
       [("malgraph_version", .text version), ("report_dir", .text reportDir)]),
     ("summary", .record
       [("total_packages", .nat outcomes.length),
        ("flagged", .nat (flaggedCount outcomes)),
        ("by_status", .record ((statusCounts outcomes).map fun (name, n) => (name, .nat n)))]),
     ("packages", .array (outcomes.map outcomeJson))]

/-- One package ends with its own code; several end with that of a flagged one, or else with the
first that is not nought. -/
def exitCode : List Outcome → Nat
  | [single] => single.status.exitCode
  | outcomes =>
    if outcomes.any fun o => o.status.isFlagged then Status.malicious.exitCode
    else ((outcomes.map fun o => o.status.exitCode).find? (· ≠ 0)).getD 0

/-! ### Patterns -/

/-- The triples of a pattern, or its only category. -/
def patternShape (p : Pattern) : String :=
  match p.key with
  | .single c => toString c.id
  | .pair _ =>
    ", ".intercalate (p.triples.map fun t =>
      toString t.head.id ++ " -" ++ t.kind.name ++ "-> " ++ toString t.tail.id)

def patternLines (p : Pattern) : String :=
  "  [" ++ p.behavior ++ "] " ++ p.description ++ "\n      " ++ patternShape p ++ "\n"

def categoryLine (c : Category) : String :=
  "  " ++ padLeft 2 (toString c.id) ++ "  " ++ c.description ++ "\n"

/-- The patterns and the categories; with a filter, only those of one category. -/
def patternList (library : PatternLibrary) (filter : Option Category) : String :=
  let patterns := library.filter fun p => filter.all fun c => p.categories.contains c
  let categories := Category.all.filter fun c => filter.all (· = c)
  "Patterns\n" ++ String.join (patterns.map patternLines) ++ "\nCategories\n" ++
    String.join (categories.map categoryLine)

end PackageVet.CommandLine
