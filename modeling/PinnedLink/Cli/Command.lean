import PinnedLink.Cli.Words

/-!
# Commands

The four things that the program does, with the flags of each, and how a command line is read.
-/

namespace PinnedLink.Cli

/-- How to connect, or to wait for a connection. -/
structure ConnectionWords where
  config : Option String
  host : Option String
  port : Option String
  cert : String
  key : String
  trust : Option String
  maxBodyLen : Option String
deriving DecidableEq, Repr

/-- What is asked of the program. -/
inductive Command where
  /-- Make an identity for hosts, in two files. -/
  | genCert (out : String) (hosts : List String)
  | listen (connection : ConnectionWords)
  | connect (connection : ConnectionWords) (texts : List String)
  | version
deriving DecidableEq, Repr

/-- A command by its name, with what it takes. -/
structure Shape where
  name : String
  about : String
  flags : List Flag
  /-- What stands for its plain words in messages, if it takes any. -/
  texts? : Option String
deriving DecidableEq, Repr

namespace Flag

def logLevel : Flag :=
  { setting "log-level" "LOG_LEVEL" none with
    about := "Default log filter when RUST_LOG is unset"
    fallback := some "info" }

def out : Flag :=
  { setting "out" "OUT" none with
    short := some 'o'
    about := "Output path prefix; writes <out>.crt and <out>.key"
    fallback := some "sealwire" }

def san : Flag :=
  { setting "san" "SANS" none with
    about := "Subject alternative names"
    fallback := some "localhost"
    repeatable := true }

def config : Flag := file "config" "CONFIG" "JSON transport config; flags and env override it" none false
def host : Flag := setting "host" "HOST" (some "SEALWIRE_HOST")
def port : Flag := setting "port" "PORT" (some "SEALWIRE_PORT")
def cert : Flag := file "cert" "CERT" "Certificate chain (PEM)" (some "SEALWIRE_CERT") true
def key : Flag := file "key" "KEY" "Private key (PEM)" (some "SEALWIRE_KEY") true
def trust : Flag :=
  file "trust" "TRUST" "Peer certificate to pin (PEM); defaults to our own certificate"
    (some "SEALWIRE_TRUST") false
def maxBodyLen : Flag := setting "max-body-len" "MAX_BODY_LEN" none

/-- The flags of a connection. -/
def connection : List Flag := [config, host, port, cert, key, trust, maxBodyLen]

end Flag

namespace Shape

def genCert : Shape :=
  { name := "gen-cert", about := "Generate a self-signed PEM identity", flags := [.out, .san],
    texts? := none }

def listen : Shape :=
  { name := "listen", about := "Accept one peer and echo every message back until it closes",
    flags := Flag.connection, texts? := none }

def connect : Shape :=
  { name := "connect", about := "Connect, send each message and print its echo",
    flags := Flag.connection, texts? := some "MESSAGES" }

def version : Shape :=
  { name := "version", about := "Show version information", flags := [], texts? := none }

/-- All commands. -/
def all : List Shape := [genCert, listen, connect, version]

end Shape

/-- What comes of a command line. -/
inductive Request where
  | run (c : Command)
  /-- Explain a command, or the whole program. -/
  | explain (about : Option Shape)
  /-- Explain the whole program to somebody who asked for nothing. -/
  | explainNothing
  | complain (c : Complaint)
deriving DecidableEq, Repr

namespace Command

/-- The names of what is required and missing. -/
def missingOf (shape : Shape) (w : Words) (environment : List (String × String)) :
    Except Stop (List String) := do
  let flags ← (shape.flags.filter Flag.required).filterM fun f =>
    return (← w.values environment f).isEmpty
  let texts := match shape.texts? with
    | some name => if w.plain.isEmpty then ["<" ++ name ++ ">..."] else []
    | none => []
  return flags.map Flag.shown ++ texts

/-- The words of a connection. -/
def connectionOf (w : Words) (environment : List (String × String)) :
    Except Stop ConnectionWords := do
  let look := w.value? environment
  return {
    config := ← look .config
    host := ← look .host
    port := ← look .port
    cert := (← look .cert).getD ""
    key := (← look .key).getD ""
    trust := ← look .trust
    maxBodyLen := ← look .maxBodyLen }

/-- A command of a shape with its words. -/
def ofWords (shape : Shape) (w : Words) (environment : List (String × String)) :
    Except Stop Command := do
  let missing ← missingOf shape w environment
  if !missing.isEmpty then .error (.complaint (.missing missing))
  else if shape = .genCert then
    return .genCert ((← w.value? environment .out).getD "") (← w.values environment .san)
  else if shape = .listen then return .listen (← connectionOf w environment)
  else if shape = .connect then return .connect (← connectionOf w environment) w.plain
  else return .version

/-- Reads what follows the name of a command. -/
def readFor (shape : Shape) (environment : List (String × String)) (words : List String) :
    Except Stop Command := do
  let mode := if shape.texts?.isSome then Words.PlainWords.collect else .refuse
  let (w, _) ← Words.read (shape.flags ++ [.logLevel]) mode .empty words
  ofWords shape w environment

end Command

namespace Request

/-- Why a command line was not read to its end becomes what is done about it. -/
def ofStop (about : Option Shape) : Stop → Request
  | .help => .explain about
  | .complaint c => .complain c

/-- Reads what follows a request for help. -/
def readHelp : List String → Request
  | [] => .explain none
  | name :: _ =>
    match Shape.all.find? fun s => s.name == name with
    | some shape => .explain (some shape)
    | none => if name = "help" then .explain none else .complain (.unknownCommand name)

/-- Reads a command line. -/
def read (environment : List (String × String)) (words : List String) : Request :=
  if words.isEmpty then .explainNothing
  else match Words.read [.logLevel] .stop .empty words with
    | .error stop => ofStop none stop
    | .ok (_, []) => .complain .missingCommand
    | .ok (_, name :: rest) =>
      match Shape.all.find? fun s => s.name == name with
      | none => if name = "help" then readHelp rest else .complain (.unknownCommand name)
      | some shape =>
        match Command.readFor shape environment rest with
        | .error stop => ofStop (some shape) stop
        | .ok c => .run c

end Request

end PinnedLink.Cli
