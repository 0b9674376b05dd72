import PackageVet.Config
import PackageVet.Json.Decode
import PackageVet.Json.Reader
import PackageVet.Service.Oracle
import PackageVet.Service.Retry
import PackageVet.Service.Web
import PackageVet.Text.Alphanumeric
import PackageVet.Text.Blank

/-! An oracle that asks a language model over a chat interface.

Every judgement has its instructions, and the first word of the answer is the verdict. -/
namespace PackageVet

def Judgement.instructions : Judgement → String
  | .command =>
    "You review arguments of Node.js command execution APIs. Answer Yes when the " ++
    "command downloads and runs files, runs a local shell script or executable, opens " ++
    "a reverse shell, deletes system or user files, or collects local data and sends " ++
    "it to a remote host or a DNS lookup. Answer No for echoing, deleting local build " ++
    "artifacts, downloads that are not executed, and strings you cannot judge. " ++
    "Answer only Yes or No."
  | .executable =>
    "You review arguments of a Node.js API that runs an executable file. Answer Yes " ++
    "for .bat, .exe, .sh or markdown files. Answer No for JavaScript files and for " ++
    "strings that are not file names. Answer only Yes or No."
  | .fileRead =>
    "You review the path argument of a Node.js file-reading API. Answer Yes when it " ++
    "reads credentials, private keys or certificates, shell profiles or histories, " ++
    "system configuration, npm or Node.js core files, or metadata directories such as " ++
    ".env, .svn or .github. Answer No for package manifests and ordinary project " ++
    "configuration. Answer only Yes or No."
  | .fileWrite =>
    "You review the path argument of a Node.js file-writing API. Answer Yes when it " ++
    "writes to shell profiles or histories, system configuration, ssh, passwd, shadow " ++
    "or ssl paths, npm or Node.js core files, or the filesystem root. Answer No for " ++
    "JavaScript sources and package manifests. Answer only Yes or No."
  | .searchPath =>
    "You review the argument of a Node.js file search API. Answer Yes when it searches " ++
    "home directories, credential stores, browser profiles, wallets or system " ++
    "directories. Answer only Yes or No."
  | .url =>
    "You review the argument of a Node.js API that opens a network connection or sends " ++
    "data. Locate the URL and answer Yes when it is suspicious: shortened or obfuscated " ++
    "links, misspelled or random domains, raw IP addresses, unusual ports, or requests " ++
    "for personal data. Answer only Yes or No."
  | .program =>
    "You review a JavaScript code string that is evaluated at run time. Answer Yes when " ++
    "the code is potentially malicious. Answer only Yes or No."
  | .shellCommand =>
    "You review an npm install-time shell script. Answer Yes when it collects local " ++
    "data and sends it out, downloads and runs files, opens a reverse shell, deletes " ++
    "important files or runs a local shell script or executable. Answer No for " ++
    "downloads that are not executed, invalid commands and ordinary build steps. " ++
    "Answer only Yes or No."
  | .obfuscatedSource =>
    "You review a JavaScript source file. Answer Yes when the code is deliberately " ++
    "obfuscated, for example hex-encoded identifiers, string array rotation, packed " ++
    "eval payloads or control-flow flattening. Minified code is not obfuscated. " ++
    "Answer only Yes or No."

/-- Whether the first word of an answer is yes. -/
def isYes (answer : String) : Bool :=
  let word := (Text.trimLeft answer.toList).takeWhile Text.isAlphanumeric
  word.map Char.toLower = "yes".toList

structure ChatOracle where
  endpoint : String := "https://api.openai.com/v1"
  model : String := "gpt-3.5-turbo"
  key : String
  policy : RetryPolicy := {}
  deriving DecidableEq, Repr

namespace ChatOracle

def service : String := "oracle"

/-- The oracle of a configuration; the key is in the environment, and without it there is none. -/
def ofConfig? (config : OracleConfig) (environment : String → Option String) :
    Option ChatOracle := do
  let key ← environment config.keyVariable
  let oracle : ChatOracle := { key, policy := config.retryPolicy }
  return {
    oracle with
    endpoint := config.endpoint.getD oracle.endpoint
    model := config.model.getD oracle.model }

def message (role content : String) : JsonValue :=
  .record [("role", .text role), ("content", .text content)]

/-- The model answers a subject under instructions, and without chance. -/
def request (oracle : ChatOracle) (instructions subject : String) : WebRequest where
  method := "POST"
  url := String.ofList (Text.trimEnd '/' oracle.endpoint.toList) ++ "/chat/completions"
  headers := [("Authorization", "Bearer " ++ oracle.key), ("Content-Type", "application/json")]
  body := some (.record
    [("model", .text oracle.model),
     ("messages", .array [message "system" instructions, message "user" subject]),
     ("temperature", .number { negative := false, digits := 0, scale := 0, isInteger := false })])

/-- The content of a message, which may be missing. -/
def contentOf? (value : JsonValue) : Option (Option String) := do
  match ← value.fields? ["content"] with
  | [content] => JsonValue.nullable JsonValue.text? content
  | _ => none

def choiceOf? (value : JsonValue) : Option (Option String) := do
  match ← value.fields? ["message"] with
  | [some message] => contentOf? message
  | _ => none

/-- The contents of the choices in a response; none where it is no chat response. -/
def contents? (body : String) : Option (List (Option String)) := do
  match ← (← JsonValue.parse? body).fields? ["choices"] with
  | [some choices] => choices.list? choiceOf?
  | _ => none

/-- The failure on a response that cannot be read. -/
def unreadable : ServiceError := .malformedResponse service "error decoding response body"

/-- The content of the first choice. -/
def answer (response : WebResponse) : Except ServiceError String := do
  if !response.isSuccess then throw (.transport service ("HTTP " ++ response.statusText))
  match contents? response.body with
  | none => throw unreadable
  | some contents =>
    match contents.head?.join with
    | some content => return content
    | none => throw (.malformedResponse service "response has no message content")

def complete {σ : Type} (oracle : ChatOracle) (web : Web σ) (instructions subject : String) :
    Request σ String := do
  let response ← web.ask service (oracle.request instructions subject)
  match answer response with
  | .ok content => return content
  | .error e => throw e

def oracle {σ : Type} (o : ChatOracle) (web : Web σ) : Oracle σ where
  judge judgement subject := do
    return isYes (← withRetry service o.policy (o.complete web judgement.instructions subject))

end ChatOracle

end PackageVet
