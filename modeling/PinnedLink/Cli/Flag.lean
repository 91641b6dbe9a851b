/-!
# Flags

A flag is given with a value on the command line, or in the environment, or has a value of its own.
The value follows the flag in the next word, or after an equals sign in the same one.
-/

namespace PinnedLink.Cli

/-- A flag with a value. -/
structure Flag where
  /-- The name after two hyphens. -/
  long : String
  /-- The letter after one hyphen. -/
  short : Option Char
  /-- What stands for the value in messages. -/
  placeholder : String
  about : String
  /-- The variable of the environment that is looked at if the flag is not given. -/
  envName : Option String
  /-- The value if there is no other. -/
  fallback : Option String
  required : Bool
  /-- May be given more than once. -/
  repeatable : Bool
  /-- An empty value is no value. -/
  nonempty : Bool
deriving DecidableEq, Repr

/-- Why words are not understood. -/
inductive Complaint where
  | unexpected (word : String)
  | unknownCommand (word : String)
  | missingCommand
  | missingValue (flag : Flag)
  | repeated (flag : Flag)
  | missing (shown : List String)
deriving DecidableEq, Repr

namespace Flag

/-- A flag as messages show it. -/
def shown (f : Flag) : String := "--" ++ f.long ++ " <" ++ f.placeholder ++ ">"

/-- A flag that stands for a setting and may be left out. -/
def setting (long placeholder : String) (envName : Option String) : Flag :=
  { long, short := none, placeholder, about := "", envName, fallback := none, required := false,
    repeatable := false, nonempty := false }

/-- A flag that names a file. -/
def file (long placeholder about : String) (envName : Option String) (required : Bool) : Flag :=
  { long, short := none, placeholder, about, envName, fallback := none, required,
    repeatable := false, nonempty := true }

end Flag

/-- The text of a complaint, up to the first line break. -/
def Complaint.message : Complaint → String
  | .unexpected word => "unexpected argument '" ++ word ++ "' found"
  | .unknownCommand word => "unrecognized subcommand '" ++ word ++ "'"
  | .missingCommand => "'sealwire' requires a subcommand but one was not provided"
  | .missingValue flag => "a value is required for '" ++ flag.shown ++ "' but none was supplied"
  | .repeated flag => "the argument '" ++ flag.shown ++ "' cannot be used multiple times"
  | .missing shown =>
    "the following required arguments were not provided:"
      ++ String.join (shown.map fun name => "\n  " ++ name)

/-- A word of the command line. -/
inductive Word where
  | flag (f : Flag) (value? : Option String)
  /-- All words behind this one are plain. -/
  | escape
  | help
  | plain (text : String)
  | unknown (shown : String)
deriving DecidableEq, Repr

/-- The text before the first equals sign, and the text behind it if there is one. -/
def splitEquals : List Char → List Char × Option (List Char)
  | [] => ([], none)
  | '=' :: rest => ([], some rest)
  | c :: rest =>
    let (name, value?) := splitEquals rest
    (c :: name, value?)

/-- What a word that starts with two hyphens is. -/
def classifyLong (flags : List Flag) (text : List Char) : Word :=
  let (name, value?) := splitEquals text
  let name := String.ofList name
  if name = "" then if value?.isNone then .escape else .unknown "--"
  else if name = "help" then .help
  else match flags.find? fun f => f.long == name with
    | some f => .flag f (value?.map String.ofList)
    | none => .unknown ("--" ++ name)

/-- What a word that starts with one hyphen and has more is. -/
def classifyShort (flags : List Flag) (letter : Char) (rest : List Char) : Word :=
  if letter = 'h' then .help
  else match flags.find? fun f => f.short == some letter with
    | none => .unknown (String.ofList ['-', letter])
    | some f =>
      match rest with
      | [] => .flag f none
      | '=' :: value => .flag f (some (String.ofList value))
      | value => .flag f (some (String.ofList value))

/-- What a word is. -/
def classify (flags : List Flag) (word : String) : Word :=
  match word.toList with
  | '-' :: '-' :: text => classifyLong flags text
  | '-' :: letter :: rest => classifyShort flags letter rest
  | _ => .plain word

/-- A word that cannot be the value of the flag before it. -/
def looksLikeFlag (word : String) : Bool :=
  match word.toList with
  | '-' :: _ :: _ => true
  | _ => false

end PinnedLink.Cli
