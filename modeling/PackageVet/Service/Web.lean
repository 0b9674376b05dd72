import PackageVet.Json.Value
import PackageVet.Service.Error
import PackageVet.Text.Cut

/-! Requests over the web.

A `Web` answers requests; everything on this side of it is decided here: what is asked, and how the
address is written on the request line. -/
namespace PackageVet

structure WebRequest where
  method : String
  url : String
  headers : List (String × String) := []
  body : Option JsonValue := none
  deriving Repr, Inhabited

structure WebResponse where
  status : Nat
  body : String := ""
  deriving DecidableEq, Repr, Inhabited

structure Web (σ : Type) where
  /-- The answer to a request, or why there is none. -/
  send : WebRequest → Effect String σ WebResponse

/-- Where nothing can be reached. -/
def Web.offline {σ : Type} : Web σ where
  send request := throw ("error sending request for url (" ++ request.url ++ ")")

/-- A request of a service, which fails when it is not answered. -/
def Web.ask {σ : Type} (web : Web σ) (service : String) (request : WebRequest) :
    Request σ WebResponse := ExceptT.mk do
  match ← (web.send request).run with
  | .ok response => pure (.ok response)
  | .error message => pure (.error (.transport service message))

/-! ### Statuses -/

namespace WebResponse

def isSuccess (r : WebResponse) : Bool := 200 ≤ r.status && r.status < 300

/-- The phrases that go with statuses. -/
def reasons : List (Nat × String) :=
  [(100, "Continue"), (101, "Switching Protocols"), (102, "Processing"), (200, "OK"),
   (201, "Created"), (202, "Accepted"), (203, "Non Authoritative Information"),
   (204, "No Content"), (205, "Reset Content"), (206, "Partial Content"), (207, "Multi-Status"),
   (208, "Already Reported"), (226, "IM Used"), (300, "Multiple Choices"),
   (301, "Moved Permanently"), (302, "Found"), (303, "See Other"), (304, "Not Modified"),
   (305, "Use Proxy"), (307, "Temporary Redirect"), (308, "Permanent Redirect"),
   (400, "Bad Request"), (401, "Unauthorized"), (402, "Payment Required"), (403, "Forbidden"),
   (404, "Not Found"), (405, "Method Not Allowed"), (406, "Not Acceptable"),
   (407, "Proxy Authentication Required"), (408, "Request Timeout"), (409, "Conflict"),
   (410, "Gone"), (411, "Length Required"), (412, "Precondition Failed"),
   (413, "Payload Too Large"), (414, "URI Too Long"), (415, "Unsupported Media Type"),
   (416, "Range Not Satisfiable"), (417, "Expectation Failed"), (418, "I'm a teapot"),
   (421, "Misdirected Request"), (422, "Unprocessable Entity"), (423, "Locked"),
   (424, "Failed Dependency"), (425, "Too Early"), (426, "Upgrade Required"),
   (428, "Precondition Required"), (429, "Too Many Requests"),
   (431, "Request Header Fields Too Large"), (451, "Unavailable For Legal Reasons"),
   (500, "Internal Server Error"), (501, "Not Implemented"), (502, "Bad Gateway"),
   (503, "Service Unavailable"), (504, "Gateway Timeout"), (505, "HTTP Version Not Supported"),
   (506, "Variant Also Negotiates"), (507, "Insufficient Storage"), (508, "Loop Detected"),
   (510, "Not Extended"), (511, "Network Authentication Required")]

def statusText (r : WebResponse) : String :=
  toString r.status ++ " " ++ (reasons.lookup r.status).getD "<unknown status code>"

end WebResponse

/-! ### The request line -/

namespace WebRequest

/-- One byte, as a percent sign and two digits. -/
def percent (byte : Nat) : List Char :=
  let digit (n : Nat) : Char := Char.ofNat (if n < 10 then 48 + n else 55 + n)
  ['%', digit (byte / 16), digit (byte % 16)]

/-- A character as it may stand in an address: controls, what lies beyond ASCII and some others are
written by their bytes. -/
def encodeChar (reserved : List Char) (c : Char) : List Char :=
  if c.toNat < 33 || 126 < c.toNat || reserved.contains c then
    (String.singleton c).toUTF8.toList.flatMap fun byte => percent byte.toNat
  else [c]

def encode (reserved : List Char) (cs : List Char) : List Char := cs.flatMap (encodeChar reserved)

def pathReserved : List Char :=
  ['"', '#', '<', '>', '?', Char.ofNat 96, Char.ofNat 123, Char.ofNat 125]

def queryReserved : List Char := ['"', '#', '<', '>', Char.ofNat 39]

/-- An address is read without blanks and controls at its ends, and without line breaks and tabs
anywhere. -/
def clean (url : String) : List Char :=
  let isSpace (c : Char) : Bool := c.toNat ≤ 32
  let cs := url.toList.dropWhile isSpace
  ((cs.reverse.dropWhile isSpace).reverse).filter fun c => c ≠ '\t' && c ≠ '\n' && c ≠ '\r'

/-- What follows the scheme and the host. -/
def afterHost (cs : List Char) : List Char :=
  let rest := match Text.splitFirst? ':' cs with
    | some (_, '/' :: '/' :: rest) => rest
    | _ => cs
  rest.dropWhile fun c => c ≠ '/' && c ≠ '?' && c ≠ '#' && c ≠ '\\'

/-- How many dots a segment consists of, written as such or by their bytes. -/
def dots : List Char → Option Nat
  | [] => some 0
  | '.' :: rest => (dots rest).map (· + 1)
  | '%' :: '2' :: e :: rest => if e = 'e' || e = 'E' then (dots rest).map (· + 1) else none
  | _ => none

/-- The segments of a path; one dot stays, two go up, and at the end both leave a folder. -/
def foldSegments (kept : List (List Char)) : List (List Char) → List (List Char)
  | [] => kept.reverse
  | [last] =>
    match dots last with
    | some 1 => ([] :: kept).reverse
    | some 2 => ([] :: kept.tail).reverse
    | _ => (last :: kept).reverse
  | segment :: rest =>
    match dots segment with
    | some 1 => foldSegments kept rest
    | some 2 => foldSegments kept.tail rest
    | _ => foldSegments (segment :: kept) rest

/-- The path and the query of the address. -/
def target (r : WebRequest) : String :=
  let cs := (afterHost (clean r.url)).takeWhile (· ≠ '#')
  let path := (cs.takeWhile (· ≠ '?')).map fun c => if c = '\\' then '/' else c
  let query := cs.dropWhile (· ≠ '?')
  let segments := foldSegments [] (Text.splitOn '/' (path.drop 1))
  let path := '/' :: Text.joinWith '/' (segments.map (encode pathReserved))
  String.ofList (path ++ encode queryReserved query)

def line (r : WebRequest) : String := r.method ++ " " ++ r.target ++ " HTTP/1.1"

def header? (r : WebRequest) (name : String) : Option String := r.headers.lookup name

end WebRequest

end PackageVet
