import PinnedLink.Cli.Flag

/-!
# Reading the words of a command line

`Words.read` sorts words into values of flags and plain words.  It stops at the first word that is not
understood, and at a request for help.  `Words.value` then looks for the value of a flag: among the
words, in the environment, and at last in the flag itself.
-/

namespace PinnedLink.Cli

/-- Words that have been sorted. -/
structure Words where
  /-- Values that were given to flags, by the flags' names, the first one first. -/
  given : List (String × String)
  plain : List String
deriving DecidableEq, Repr

/-- Why reading stops. -/
inductive Stop where
  | help
  | complaint (c : Complaint)
deriving DecidableEq, Repr

namespace Words

/-- No words. -/
def empty : Words := { given := [], plain := [] }

/-- The values that were given to a flag. -/
def valuesOf (w : Words) (f : Flag) : List String :=
  (w.given.filter fun g => g.1 == f.long).map Prod.snd

/-- Notes a value. -/
def give (w : Words) (f : Flag) (value : String) : Except Stop Words :=
  if f.nonempty && value.isEmpty then .error (.complaint (.missingValue f))
  else if !f.repeatable && !(w.valuesOf f).isEmpty then .error (.complaint (.repeated f))
  else .ok { w with given := w.given ++ [(f.long, value)] }

/-- What to do with plain words. -/
inductive PlainWords where
  /-- Reading ends before the first one. -/
  | stop
  | collect
  | refuse
deriving DecidableEq, Repr

/-- Sorts words; what is left over comes back with them. -/
def read (flags : List Flag) (mode : PlainWords) (w : Words) :
    List String → Except Stop (Words × List String)
  | [] => .ok (w, [])
  | word :: rest =>
    match classify flags word with
    | .help => .error .help
    | .unknown shown => .error (.complaint (.unexpected shown))
    | .escape =>
      match mode, rest with
      | .collect, rest => .ok ({ w with plain := w.plain ++ rest }, [])
      | _, [] => .ok (w, [])
      | .stop, next :: _ => .error (.complaint (.unknownCommand next))
      | .refuse, next :: _ => .error (.complaint (.unexpected next))
    | .plain text =>
      match mode with
      | .stop => .ok (w, text :: rest)
      | .collect => read flags mode { w with plain := w.plain ++ [text] } rest
      | .refuse => .error (.complaint (.unexpected text))
    | .flag f (some value) =>
      match w.give f value with
      | .ok w => read flags mode w rest
      | .error e => .error e
    | .flag f none =>
      match rest with
      | [] => .error (.complaint (.missingValue f))
      | value :: rest =>
        if looksLikeFlag value then .error (.complaint (.missingValue f))
        else match w.give f value with
          | .ok w => read flags mode w rest
          | .error e => .error e

/-- The values of a flag: given ones, or else the one of the environment, or else its own. -/
def values (w : Words) (environment : List (String × String)) (f : Flag) :
    Except Stop (List String) :=
  match w.valuesOf f with
  | [] =>
    match f.envName.bind fun name => environment.lookup name with
    | some value =>
      if f.nonempty && value.isEmpty then .error (.complaint (.missingValue f)) else .ok [value]
    | none => .ok f.fallback.toList
  | given => .ok given

/-- The value of a flag. -/
def value? (w : Words) (environment : List (String × String)) (f : Flag) :
    Except Stop (Option String) :=
  (w.values environment f).map List.head?

end Words

end PinnedLink.Cli
