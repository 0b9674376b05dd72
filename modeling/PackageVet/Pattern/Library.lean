import PackageVet.Pattern

/-! The patterns that are looked for unless others are given. -/
namespace PackageVet

/-- Patterns in the order in which they are looked for. -/
abbrev PatternLibrary := List Pattern

namespace PatternLibrary
open Category

def stealing : String := "Information Stealing"
def command : String := "Malicious Command Execution"
def code : String := "Malicious Code Execution"
def file : String := "Malicious File Operation"
def network : String := "Suspicious Network Communication"

/-- A pattern of one category. -/
def one (behavior description : String) (c : Category) : Pattern :=
  .ofKey behavior description (.single c) []

/-- A pattern of data that goes through some categories in turn. -/
def dataThrough (behavior description : String) (head next : Category) (rest : List Category) :
    Pattern :=
  let triples := ((next :: rest).zip rest).map fun (a, b) => ⟨a, .data, b⟩
  .ofKey behavior description (.pair ⟨head, .data, next⟩) triples

/-- A pattern of one category after another. -/
def after (behavior description : String) (head tail : Category) : Pattern :=
  .ofKey behavior description (.pair ⟨head, .control, tail⟩) []

def standard : PatternLibrary :=
  [dataThrough stealing "manipulate path - read local file - send through network communication"
     manipulatePath readFile [sendData],
   dataThrough stealing "read local file - send through network communication"
     readFile sendData [],
   dataThrough stealing "read local file - send through HTTP request" readFile httpRequest [],
   dataThrough stealing "search file - send through network" searchFile sendData [],
   dataThrough stealing "get system information - send through HTTP request"
     systemInfo httpRequest [],
   dataThrough stealing "get user information - send through HTTP request" userInfo httpRequest [],
   dataThrough code "read from file - execute dynamically created program"
     readFile dynamicProgram [],
   dataThrough code "receive data - execute dynamically created program"
     receiveData dynamicProgram [],
   dataThrough command "execute a command - send result through HTTP request"
     executeCommand httpRequest [],
   after command "execute a command - make HTTP request" executeCommand httpRequest,
   dataThrough file "make HTTP request - write data to local sensitive path"
     httpRequest writeFile [],
   after file "change file mode - write data to file" changePermissions writeFile,
   dataThrough file "read file - write data to file" readFile writeFile [],
   dataThrough network "encode data - data rep - send through network communication"
     encode dataRepresentation [networkCommunication],
   dataThrough network "encode data - send through network communication"
     encode networkCommunication [],
   one command "execute a command" executeCommand,
   one command "spawn a new process" spawnProcess,
   one command "run an executable file" runExecutable,
   one code "execute a dynamically created program" dynamicProgram]

end PatternLibrary

end PackageVet
