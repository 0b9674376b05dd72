import PackageVet.Knowledge.Tables

/-! What is known about modules before anything is added: the modules and globals of the platform,
and the sensitive functions of them and of some well-known packages. -/
namespace PackageVet.KnowledgeTables

def platformModules : List String :=
  ["assert", "async_hooks", "buffer", "child_process", "cluster", "console", "constants",
   "crypto", "dgram", "diagnostics_channel", "dns", "domain", "events", "fs", "fs/promises",
   "http", "http2", "https", "inspector", "module", "net", "os", "path", "perf_hooks", "process",
   "punycode", "querystring", "readline", "repl", "stream", "string_decoder", "sys", "timers",
   "tls", "trace_events", "tty", "url", "util", "v8", "vm", "wasi", "worker_threads", "zlib"]

/-- Globals, listed with the modules because code reaches them without `require`. -/
def platformGlobals : List String :=
  ["Buffer", "JSON", "Function", "URL", "atob", "btoa", "eval", "fetch", "globalThis",
   "setInterval", "setTimeout"]

/-- The sensitive functions of the platform with their category, by module or class. -/
def platformFunctions : List (String × List (String × Nat)) :=
  [("fs", [("readFile", 12), ("readFileSync", 12), ("writeFile", 14), ("writeFileSync", 14),
     ("appendFile", 14), ("appendFileSync", 14), ("readdir", 6), ("readdirSync", 6),
     ("exists", 6), ("existsSync", 6), ("stat", 3), ("statSync", 3), ("unlink", 8),
     ("unlinkSync", 8), ("rm", 8), ("rmSync", 8), ("rmdir", 8), ("rmdirSync", 8), ("chmod", 9),
     ("chmodSync", 9), ("chown", 9), ("chownSync", 9), ("mkdir", 10), ("mkdirSync", 10),
     ("copyFile", 7), ("copyFileSync", 7), ("rename", 7), ("renameSync", 7),
     ("createReadStream", 18), ("createWriteStream", 17), ("open", 19), ("openSync", 19)]),
   ("fs.promises", [("readFile", 12), ("writeFile", 14), ("readdir", 6)]),
   ("fs/promises", [("readFile", 12), ("writeFile", 14)]),
   ("readStream", [("pipe", 38)]),
   ("writeStream", [("write", 13)]),
   ("child_process", [("exec", 37), ("execSync", 37), ("spawn", 35), ("spawnSync", 35),
     ("fork", 35), ("execFile", 36), ("execFileSync", 36)]),
   ("http", [("request", 20), ("get", 20), ("createServer", 22)]),
   ("https", [("request", 20), ("get", 20), ("createServer", 22)]),
   ("request", [("write", 23), ("end", 23)]),
   ("net", [("connect", 22), ("createConnection", 22), ("Socket", 22), ("createServer", 22)]),
   ("tls", [("connect", 22)]),
   ("dgram", [("createSocket", 22)]),
   ("socket", [("connect", 22), ("write", 23), ("send", 23), ("on", 24), ("pipe", 38)]),
   ("server", [("listen", 27)]),
   ("dns", [("lookup", 21), ("resolve", 21), ("resolve4", 21), ("resolveTxt", 21)]),
   ("os", [("hostname", 4), ("platform", 4), ("type", 4), ("arch", 4), ("release", 4), ("cpus", 4),
     ("totalmem", 4), ("userInfo", 5), ("homedir", 5), ("networkInterfaces", 26)]),
   ("path", [("join", 1), ("resolve", 1)]),
   ("Buffer", [("from", 28)]),
   ("buf", [("toString", 29)]),
   ("atob", [("atob", 30)]),
   ("btoa", [("btoa", 29)]),
   ("crypto", [("createCipheriv", 31), ("createCipher", 31), ("createDecipheriv", 32),
     ("createDecipher", 32)]),
   ("cipher", [("update", 33), ("final", 33)]),
   ("decipher", [("update", 34), ("final", 34)]),
   ("zlib", [("gzip", 15), ("gzipSync", 15), ("deflate", 15), ("gunzip", 16), ("gunzipSync", 16),
     ("inflate", 16)]),
   ("eval", [("eval", 39)]),
   ("vm", [("runInNewContext", 39), ("runInThisContext", 39), ("runInContext", 39),
     ("Script", 39)]),
   ("script", [("runInThisContext", 39), ("runInNewContext", 39)]),
   ("fetch", [("fetch", 20)])]

/-- The sensitive functions of packages with their category. -/
def packageFunctions : List (String × List (String × Nat)) :=
  [("axios", [("axios", 20), ("get", 20), ("post", 20), ("request", 20)]),
   ("request", [("request", 20), ("get", 20), ("post", 20)]),
   ("node-fetch", [("node-fetch", 20)]),
   ("got", [("got", 20)]),
   ("shelljs", [("exec", 37)]),
   ("execa", [("execa", 37)])]

def addFunctions (t : KnowledgeTables) (derivation : Derivation)
    (functions : List (String × List (String × Nat))) : KnowledgeTables :=
  functions.foldl (fun t (qualifier, names) =>
    names.foldl (fun t (name, id) =>
      t.addFunction derivation qualifier name (Category.ofId? id).toList) t) t

def standard : KnowledgeTables :=
  let t : KnowledgeTables :=
    { builtins := Sorted.ofList (platformModules ++ platformGlobals)
      thirdParty := Sorted.ofList (packageFunctions.map Prod.fst) }
  (t.addFunctions .builtin platformFunctions).addFunctions .thirdParty packageFunctions

end PackageVet.KnowledgeTables
