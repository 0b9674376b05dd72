import PackageVet.Text.Blank
import PackageVet.Text.Cut
import PackageVet.Text.Decimal

/-! The categories of sensitive behaviour.

A category is a number from 1 to 39 with a description; the bounds are part of the type. The
knowledge tables write a list of categories with hyphens between the numbers. -/
namespace PackageVet

structure Category where
  id : Nat
  positive : 0 < id
  bounded : id ≤ 39
  deriving DecidableEq, Repr

namespace Category

def descriptions : List String :=
  ["manipulate the path",
   "read input data from hardware devices",
   "get the path or directory information",
   "get system information",
   "get user information",
   "search for a file",
   "copy or move a file or directory",
   "delete a file or directory",
   "modify the permissions or ownership",
   "create a file or directory",
   "read data from a byte array, or stream",
   "read data from a file",
   "write data to a byte array, or stream",
   "write data to a file",
   "compress data",
   "decompress data",
   "create a writable stream",
   "create a readable stream",
   "open a file",
   "make HTTP request",
   "resolve the DNS",
   "create a network server or communication",
   "send data over the network",
   "receive data over the network",
   "configure the network",
   "get network information",
   "start listening",
   "create a data representation",
   "encode the data",
   "decode the data",
   "create a cipher object",
   "create a decipher object",
   "cipher the data",
   "decipher the data",
   "spawn a new process",
   "run an executable file",
   "execute a command",
   "pipe the data",
   "execute a dynamically created program"]

theorem eq_of_id_eq {c d : Category} (h : c.id = d.id) : c = d := by
  cases c
  cases d
  cases h
  rfl

theorem descriptions_length : descriptions.length = 39 := rfl

def ofId? (id : Nat) : Option Category :=
  if h : 0 < id ∧ id ≤ 39 then some ⟨id, h.1, h.2⟩ else none

def description (c : Category) : String :=
  descriptions.get ⟨c.id - 1, by
    have := c.positive
    have := c.bounded
    rw [descriptions_length]
    omega⟩

/-- Every category, in ascending order. -/
def all : List Category := (List.range 39).filterMap fun i => ofId? (i + 1)

def ofDescription? (text : String) : Option Category :=
  (descriptions.findIdx? (· = text)).bind fun i => ofId? (i + 1)

/-- The number of a category in decimal, blanks around it allowed. -/
def ofText? (text : String) : Option Category :=
  (Text.readUnsigned 255 (Text.trim text.toList)).bind ofId?

/-- Categories whose calls into other packages carry the category as a hint. -/
def isInterest (c : Category) : Bool :=
  [6, 7, 9, 10, 17, 18, 19, 20, 22, 31, 32].contains c.id

/-- The categories of a hyphenated list; pieces that are no category are left out. -/
def listOfText (text : String) : List Category :=
  (Text.splitOn '-' text.toList).filterMap fun piece => ofText? (String.ofList piece)

def firstInterest? (cs : List Category) : Option Category := cs.find? isInterest

/-! ### Categories with a name of their own -/

def manipulatePath : Category := ⟨1, by decide, by decide⟩
def systemInfo : Category := ⟨4, by decide, by decide⟩
def userInfo : Category := ⟨5, by decide, by decide⟩
def searchFile : Category := ⟨6, by decide, by decide⟩
def deleteFile : Category := ⟨8, by decide, by decide⟩
def changePermissions : Category := ⟨9, by decide, by decide⟩
def readFile : Category := ⟨12, by decide, by decide⟩
def writeFile : Category := ⟨14, by decide, by decide⟩
def httpRequest : Category := ⟨20, by decide, by decide⟩
def networkCommunication : Category := ⟨22, by decide, by decide⟩
def sendData : Category := ⟨23, by decide, by decide⟩
def receiveData : Category := ⟨24, by decide, by decide⟩
def dataRepresentation : Category := ⟨28, by decide, by decide⟩
def encode : Category := ⟨29, by decide, by decide⟩
def decode : Category := ⟨30, by decide, by decide⟩
def spawnProcess : Category := ⟨35, by decide, by decide⟩
def runExecutable : Category := ⟨36, by decide, by decide⟩
def executeCommand : Category := ⟨37, by decide, by decide⟩
def dynamicProgram : Category := ⟨39, by decide, by decide⟩

end Category

/-! ### Classes of created objects -/

/-- Factories and constructors by full name, with the class under which the methods of what they
return are listed. -/
def factoryClasses : List (String × String) :=
  [("Buffer", "buf"), ("Buffer.alloc", "buf"), ("Buffer.allocUnsafe", "buf"),
   ("Buffer.allocUnsafeSlow", "buf"), ("Buffer.concat", "buf"), ("Buffer.copyBytesFrom", "buf"),
   ("Buffer.from", "buf"),
   ("buffer.Blob", "blob"), ("fs.openAsBlob", "blob"),
   ("crypto.createCipheriv", "cipher"), ("crypto.createCipher", "cipher"),
   ("crypto.createDecipheriv", "decipher"), ("crypto.createDecipher", "decipher"),
   ("crypto.createHash", "hash"),
   ("crypto.createHmac", "hmac"),
   ("crypto.X509Certificate", "x509"),
   ("crypto.createDiffieHellman", "diffieHellman"),
   ("fsPromises.open", "filehandle"),
   ("fs.opendir", "dir"), ("fs.opendirSync", "dir"), ("fsPromises.opendir", "dir"),
   ("fs.watch", "watcher"), ("fs.watchFile", "watcher"),
   ("fs.createReadStream", "readStream"),
   ("fs.stat", "stats"), ("fs.lstat", "stats"), ("fs.fstat", "stats"),
   ("fs.createWriteStream", "writeStream"),
   ("http.request", "request"), ("https.request", "request"),
   ("http.createServer", "server"), ("https.createServer", "server"),
   ("net.createServer", "server"), ("tls.createServer", "server"),
   ("net.createConnection", "socket"), ("net.connect", "socket"), ("net.Socket", "socket"),
   ("dgram.createSocket", "socket"),
   ("tls.connect", "tlsSocket"),
   ("vm.Script", "script"),
   ("events.EventEmitter", "emitter")]

/-- The class of the object that a factory or constructor returns. -/
def factoryClass? (fullName : String) : Option String := factoryClasses.lookup fullName

end PackageVet
