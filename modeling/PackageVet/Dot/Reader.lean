import PackageVet.Dot.Graph
import PackageVet.Dot.Token

/-! Reading a DOT text as a graph.

The reader takes one token at a time. It reads node statements, edge chains and their attribute
lists; it reads over default attributes, assignments and the suffixes of node names, and takes the
statements of nested blocks as statements of the graph, so that of a block only its depth is
kept. -/
namespace PackageVet.Dot

/-- What the attribute lists being read belong to: the ids of a statement, or nothing. -/
inductive Subject where
  | defaults
  | statement (ids : List String)
  deriving DecidableEq, Repr

/-- What the reader waits for. Inside the graph, `depth` counts the blocks around the current one;
the ids of a chain and the attributes are kept with the last one first. -/
inductive Expecting where
  | keyword (strict : Bool)
  | name
  | opening
  | statement (depth : Nat)
  | afterId (depth : Nat) (first : String)
  | subgraphName (depth : Nat)
  | subgraphBody (depth : Nat)
  | assigned (depth : Nat)
  | chain (depth : Nat) (ids : List String)
  | suffix (depth : Nat) (ids : List String)
  | edgeTarget (depth : Nat) (ids : List String)
  | attributeKey (depth : Nat) (subject : Subject) (attributes : List (String × String))
  | afterKey (depth : Nat) (subject : Subject) (attributes : List (String × String)) (key : String)
  | attributeValue (depth : Nat) (subject : Subject) (attributes : List (String × String))
      (key : String)
  | afterList (depth : Nat) (subject : Subject) (attributes : List (String × String))
  | nothing
  deriving DecidableEq, Repr

structure Reader where
  expecting : Expecting := .keyword false
  graph : Graph := {}
  deriving DecidableEq, Repr

/-- A token that does not fit. The fault stands at the token, or after it where the token was
taken as the one expected. -/
structure Fault where
  message : String
  taken : Bool
  deriving DecidableEq, Repr

namespace Reader

def expect (r : Reader) (expecting : Expecting) : Except Fault Reader := .ok { r with expecting }

def notAnId (token : Option Token) : String :=
  "expected identifier, found " ++ Token.render? token

def notAnAttribute (token : Option Token) : String :=
  "unexpected " ++ Token.render? token ++ " in attribute list"

/-- Whether a keyword is spelled, in letters of either case. -/
def isKeyword (text keyword : String) : Bool := text.toLower = keyword

def close (r : Reader) (subject : Subject) (attributes : List (String × String)) : Reader :=
  match subject with
  | .defaults => r
  | .statement ids => { r with graph := r.graph.addStatement ids.reverse attributes.reverse }

/-- A token where a statement may start. -/
def atStatement (r : Reader) (depth : Nat) : Token → Except Fault Reader
  | .closeBrace =>
    match depth with
    | 0 => r.expect .nothing
    | depth + 1 => r.expect (.statement depth)
  | .separator => r.expect (.statement depth)
  | .openBrace => r.expect (.statement (depth + 1))
  | .id text => if text = "subgraph" then r.expect (.subgraphName depth)
      else r.expect (.afterId depth text)
  | token => .error { message := "unexpected token " ++ token.render, taken := false }

/-- A token after the ids of a statement. -/
def atChain (r : Reader) (depth : Nat) (ids : List String) : Token → Except Fault Reader
  | .colon => r.expect (.suffix depth ids)
  | .edge => r.expect (.edgeTarget depth ids)
  | .openBracket => r.expect (.attributeKey depth (.statement ids) [])
  | token => (r.close (.statement ids) []).atStatement depth token

/-- A token inside an attribute list. -/
def atAttribute (r : Reader) (depth : Nat) (subject : Subject)
    (attributes : List (String × String)) : Token → Except Fault Reader
  | .closeBracket => r.expect (.afterList depth subject attributes)
  | .separator => r.expect (.attributeKey depth subject attributes)
  | .id key => r.expect (.afterKey depth subject attributes key)
  | token => .error { message := notAnAttribute (some token), taken := true }

def step (r : Reader) (token : Token) : Except Fault Reader :=
  match r.expecting with
  | .keyword strict =>
    match token with
    | .id text =>
      if !strict && isKeyword text "strict" then r.expect (.keyword true)
      else if isKeyword text "digraph" || isKeyword text "graph" then r.expect .name
      else .error { message := "expected 'digraph', found '" ++ text ++ "'", taken := true }
    | token => .error { message := notAnId (some token), taken := true }
  | .name =>
    match token with
    | .id _ => r.expect .opening
    | .openBrace => r.expect (.statement 0)
    | _ => .error { message := "expected '\x7b'", taken := true }
  | .opening =>
    match token with
    | .openBrace => r.expect (.statement 0)
    | _ => .error { message := "expected '\x7b'", taken := true }
  | .statement depth => r.atStatement depth token
  | .afterId depth first =>
    match token with
    | .openBracket =>
      if first = "node" ∨ first = "edge" ∨ first = "graph" then
        r.expect (.attributeKey depth .defaults [])
      else r.atChain depth [first] token
    | .equals => r.expect (.assigned depth)
    | token => r.atChain depth [first] token
  | .subgraphName depth =>
    match token with
    | .id _ => r.expect (.subgraphBody depth)
    | .openBrace => r.expect (.statement (depth + 1))
    | token => r.atStatement depth token
  | .subgraphBody depth =>
    match token with
    | .openBrace => r.expect (.statement (depth + 1))
    | token => r.atStatement depth token
  | .assigned depth =>
    match token with
    | .id _ => r.expect (.statement depth)
    | token => .error { message := notAnId (some token), taken := true }
  | .chain depth ids => r.atChain depth ids token
  | .suffix depth ids =>
    match token with
    | .id _ => r.expect (.chain depth ids)
    | token => r.atChain depth ids token
  | .edgeTarget depth ids =>
    match token with
    | .id text => r.expect (.chain depth (text :: ids))
    | token => .error { message := notAnId (some token), taken := true }
  | .attributeKey depth subject attributes => r.atAttribute depth subject attributes token
  | .afterKey depth subject attributes key =>
    match token with
    | .equals => r.expect (.attributeValue depth subject attributes key)
    | token => r.atAttribute depth subject ((key, "true") :: attributes) token
  | .attributeValue depth subject attributes key =>
    match token with
    | .id value => r.expect (.attributeKey depth subject ((key, value) :: attributes))
    | token => .error { message := notAnId (some token), taken := true }
  | .afterList depth subject attributes =>
    match token with
    | .openBracket => r.expect (.attributeKey depth subject attributes)
    | token => (r.close subject attributes).atStatement depth token
  | .nothing => .error { message := "unexpected content after graph body", taken := false }

/-- The graph once the tokens have ended. -/
def finish (r : Reader) : Except String Graph :=
  match r.expecting with
  | .nothing => .ok r.graph
  | .keyword _ | .assigned _ | .edgeTarget .. | .attributeValue .. => .error (notAnId none)
  | .name | .opening => .error "expected '\x7b'"
  | .attributeKey .. | .afterKey .. => .error (notAnAttribute none)
  | .statement _ | .afterId .. | .subgraphName _ | .subgraphBody _ | .chain .. | .suffix ..
  | .afterList .. => .error "unexpected end of input, expected '\x7d'"

/-- Reads tokens to their end, `lastLine` being the line of the last one. -/
def run (r : Reader) (lastLine : Nat) : List Lexeme → Except Error Reader
  | [] => .ok r
  | lexeme :: rest =>
    match r.step lexeme.token with
    | .ok r => r.run lastLine rest
    | .error fault =>
      let line := if fault.taken then (rest.head?.map Lexeme.line).getD lastLine else lexeme.line
      .error { message := fault.message, line }

end Reader

/-- The line of the last token, the first line where there is none. -/
def lastLine (lexemes : List Lexeme) : Nat := (lexemes.getLast?.map Lexeme.line).getD 1

def Graph.ofLexemes (lexemes : List Lexeme) : Except Error Graph :=
  match ({} : Reader).run (lastLine lexemes) lexemes with
  | .error e => .error e
  | .ok r =>
    match r.finish with
    | .ok g => .ok g
    | .error message => .error { message, line := lastLine lexemes }

def Graph.parse (text : String) : Except Error Graph := (scan text).bind Graph.ofLexemes

end PackageVet.Dot
