import PinnedLink.Cli.Command

/-!
# Explanations of commands

The text that help prints: what the program or a command does, how it is called, and its commands or
flags in two columns.
-/

namespace PinnedLink.Cli

/-- A line with two columns. -/
structure Row where
  left : String
  right : String
deriving DecidableEq, Repr

/-- Rows as lines whose second column starts at one place. -/
def Row.align (rows : List Row) : String :=
  let width := (rows.map fun r => r.left.length).foldl max 0
  String.join (rows.map fun r =>
    if r.right.isEmpty then "  " ++ r.left ++ "\n"
    else "  " ++ r.left ++ String.ofList (List.replicate (width - r.left.length) ' ') ++ "  "
      ++ r.right ++ "\n")

/-- What is said of a flag besides its purpose. -/
def Flag.notes (f : Flag) : List String :=
  (f.envName.toList.map fun name => "[env: " ++ name ++ "=]")
    ++ f.fallback.toList.map fun value => "[default: " ++ value ++ "]"

/-- The row of a flag. -/
def Flag.row (f : Flag) : Row :=
  let letter := match f.short with
    | some c => "-" ++ String.ofList [c] ++ ", "
    | none => "    "
  let about := if f.about.isEmpty then [] else [f.about]
  { left := letter ++ f.shown, right := " ".intercalate (about ++ f.notes) }

/-- The row of the request for help. -/
def helpRow : Row := { left := "-h, --help", right := "Print help" }

/-- The options of a command. -/
def optionTable (flags : List Flag) : String :=
  "Options:\n" ++ Row.align (flags.map Flag.row ++ [helpRow])

/-- How a command is called. -/
def Shape.usage (s : Shape) : String :=
  let required := (s.flags.filter Flag.required).map Flag.shown
  let texts := s.texts?.toList.map fun name => "<" ++ name ++ ">..."
  "Usage: " ++ " ".intercalate (["sealwire", s.name, "[OPTIONS]"] ++ required ++ texts)

/-- The explanation of a command. -/
def Shape.explain (s : Shape) : String :=
  let arguments := match s.texts? with
    | some name => "Arguments:\n" ++ Row.align [⟨"<" ++ name ++ ">...", "Messages to send"⟩] ++ "\n"
    | none => ""
  s.about ++ "\n\n" ++ s.usage ++ "\n\n" ++ arguments ++ optionTable (s.flags ++ [.logLevel])

/-- The explanation of the program. -/
def explainProgram : String :=
  let rows := (Shape.all.map fun s => Row.mk s.name s.about)
    ++ [⟨"help", "Print this message or the help of the given subcommand(s)"⟩]
  "Sealwire secure transport tools\n\nUsage: sealwire [OPTIONS] <COMMAND>\n\nCommands:\n"
    ++ Row.align rows ++ "\n" ++ optionTable [.logLevel]

/-- What the program says of its version. -/
def versionLine : String := "sealwire 0.1.0"

/-- A complaint as it is printed. -/
def Complaint.report (c : Complaint) : String :=
  "error: " ++ c.message ++ "\n\nFor more information, try '--help'.\n"

end PinnedLink.Cli
