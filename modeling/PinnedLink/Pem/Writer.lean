import PinnedLink.Pem.Section

/-!
# Writing PEM text

A section is written as its begin line, its base64 text in lines of sixty-four characters, and its end
line.
-/

namespace PinnedLink.Pem

namespace Base64

/-- The digits, by their values. -/
def alphabet : List Char :=
  "ABCDEFGHIJKLMNOPQRSTUVWXYZabcdefghijklmnopqrstuvwxyz0123456789+/".toList

/-- The digit of a value. -/
def digit (value : Nat) : Char := alphabet.getD value '='

/-- The text of up to three bytes. -/
def encodeGroup (group : Bytes) : List Char :=
  let value := BigEndian.readNat (group ++ List.replicate (3 - group.length) 0)
  let digits := [value >>> 18 % 64, value >>> 12 % 64, value >>> 6 % 64, value % 64].map digit
  digits.take (group.length + 1) ++ List.replicate (3 - group.length) '='

/-- The text of bytes. -/
def encode : Bytes → List Char
  | a :: b :: c :: rest => encodeGroup [a, b, c] ++ encode rest
  | [] => []
  | rest => encodeGroup rest

end Base64

/-- Characters in a line. -/
def lineLength : Nat := 64

/-- Cuts a text into lines. -/
def wrap (text : List Char) : List (List Char) :=
  if _h : text = [] then []
  else text.take lineLength :: wrap (text.drop lineLength)
termination_by text.length
decreasing_by
  have : 0 < text.length := List.length_pos_iff.2 _h
  simp [lineLength]
  omega

/-- Writes a section. -/
def write (kind : Kind) (content : Bytes) : String :=
  "-----BEGIN " ++ kind.label ++ "-----\n"
    ++ String.join ((wrap (Base64.encode content)).map fun line => String.ofList line ++ "\n")
    ++ "-----END " ++ kind.label ++ "-----\n"

end PinnedLink.Pem
