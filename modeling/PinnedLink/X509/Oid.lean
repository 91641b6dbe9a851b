import PinnedLink.Bytes.Hex

/-!
# Object identifiers

An identifier is a path of numbers, written in base 128 with the first two numbers in one byte.  Two
identifiers are the same if their bytes are.  `Oid.shortNames` has the names of the identifiers that
occur in names and algorithms.
-/

namespace PinnedLink.X509

/-- An object identifier, by its bytes. -/
structure Oid where
  bytes : Bytes
deriving DecidableEq, Repr

namespace Oid

/-- The base-128 digits of a number, most significant first, all but the last marked. -/
def base128 (n : Nat) : Bytes :=
  go (n / 128) [UInt8.ofNat (n % 128)]
where
  /-- Puts the marked digits of a number in front. -/
  go (n : Nat) (rest : Bytes) : Bytes :=
    if h : n = 0 then rest else go (n / 128) (UInt8.ofNat (128 + n % 128) :: rest)
  termination_by n
  decreasing_by omega

/-- The identifier of a path. -/
def ofPath : List Nat → Oid
  | a :: b :: rest => ⟨UInt8.ofNat (40 * a + b) :: rest.flatMap base128⟩
  | _ => ⟨[]⟩

/-- The base-128 numbers of a byte string; one whose end is missing counts as far as it goes. -/
def numbersFrom (acc : Nat) (started : Bool) : Bytes → List Nat
  | [] => if started then [acc] else []
  | b :: rest =>
    let acc := acc * 128 + b.toNat % 128
    if b < 128 then acc :: numbersFrom 0 false rest else numbersFrom acc true rest

/-- Most bits that a number of the path takes, in whole groups of seven. -/
def widest (widest current : Nat) : Bytes → Nat
  | [] => widest
  | b :: rest =>
    if b < 128 then Oid.widest (max widest (current + 7)) 0 rest
    else Oid.widest widest (current + 7) rest

/-- The path, as far as its numbers fit 64 bits. -/
def path? (o : Oid) : Option (List Nat) :=
  if 64 < widest 0 0 o.bytes then none
  else match o.bytes with
    | [] => some []
    | [0] => some [0]
    | b :: rest => some (b.toNat / 40 :: b.toNat % 40 :: numbersFrom 0 false rest)

/-- The path with points, or else the bytes in hexadecimal. -/
def text (o : Oid) : String :=
  match o.path? with
  | some path => ".".intercalate (path.map toString)
  | none => " ".intercalate (o.bytes.map fun b => Hex.encode [b])

/-- Attributes of names by the last number of `2.5.4`. -/
def attributeNames : List (Nat × String) := [
  (0, "objectClass"), (1, "aliasedEntryName"), (2, "knowledgeInformation"), (3, "CN"),
  (4, "surname"), (5, "serialNumber"), (6, "C"), (7, "L"), (8, "ST"), (9, "streetAddress"),
  (10, "O"), (11, "OU"), (12, "title"), (13, "description"), (14, "searchGuide"),
  (15, "businessCategory"), (17, "postalCode"), (41, "name"), (42, "givenName"),
  (43, "initials"), (44, "generationQualifier"), (45, "uniqueIdentifier"), (46, "dnQualifier")]

/-- Extensions of certificates by the last number of `2.5.29`. -/
def extensionNames : List (Nat × String) := [
  (9, "subjectDirectoryAttributes"), (14, "subjectKeyIdentifier"), (15, "keyUsage"),
  (16, "privateKeyUsagePeriod"), (17, "subjectAltName"), (18, "issuerAltName"),
  (19, "basicConstraints"), (20, "crlNumber"), (21, "reasonCode"), (24, "invalidityDate"),
  (27, "deltaCRLIndicator"), (28, "issuingDistributionPoint"), (29, "certificateIssuer"),
  (30, "nameConstraints"), (31, "crlDistributionPoints"), (32, "certificatePolicies"),
  (33, "policyMappings"), (35, "authorityKeyIdentifier"), (36, "policyConstraints"),
  (37, "extendedKeyUsage"), (46, "freshestCRL"), (54, "inhibitAnyPolicy")]

/-- RSA algorithms by the last number of `1.2.840.113549.1.1`. -/
def rsaNames : List (Nat × String) := [
  (1, "rsaEncryption"), (2, "md2WithRSAEncryption"), (3, "md4WithRSAEncryption"),
  (4, "md5WithRSAEncryption"), (5, "sha1WithRSAEncryption"), (10, "rsassa-pss"),
  (11, "sha256WithRSAEncryption"), (12, "sha384WithRSAEncryption"),
  (13, "sha512WithRSAEncryption"), (14, "sha224WithRSAEncryption")]

/-- Attributes of signed messages by the last number of `1.2.840.113549.1.9`. -/
def messageNames : List (Nat × String) := [
  (1, "Email"), (2, "unstructuredName"), (3, "contentType"), (4, "id-messageDigest"),
  (5, "signingTime"), (7, "challengePassword"), (14, "extensionRequest"),
  (15, "smimeCapabilities"), (20, "friendlyName")]

/-- Names of single identifiers. -/
def otherNames : List (List Nat × String) := [
  ([0, 9, 2342, 19200300, 100, 1, 1], "uid"),
  ([0, 9, 2342, 19200300, 100, 1, 25], "DC"),
  ([1, 2, 840, 10040, 4, 1], "dsa"),
  ([1, 2, 840, 10040, 4, 3], "dsa-with-sha1"),
  ([1, 2, 840, 10045, 2, 1], "id-ecPublicKey"),
  ([1, 2, 840, 10045, 3, 1, 7], "prime256v1"),
  ([1, 2, 840, 10045, 4, 3, 1], "ecdsa-with-SHA224"),
  ([1, 2, 840, 10045, 4, 3, 2], "ecdsa-with-SHA256"),
  ([1, 2, 840, 10045, 4, 3, 3], "ecdsa-with-SHA384"),
  ([1, 2, 840, 10045, 4, 3, 4], "ecdsa-with-SHA512"),
  ([1, 3, 6, 1, 4, 1, 11129, 2, 4, 2], "ctSCTList"),
  ([1, 3, 6, 1, 5, 5, 7, 1, 1], "authorityInfoAccess"),
  ([1, 3, 6, 1, 5, 5, 7, 1, 11], "subjectInfoAccess"),
  ([1, 3, 14, 3, 2, 26], "id-SHA1"),
  ([1, 3, 101, 112], "ed25519"),
  ([1, 3, 132, 0, 34], "secp384r1"),
  ([1, 3, 132, 0, 35], "secp521r1"),
  ([2, 16, 840, 1, 101, 3, 4, 2, 1], "sha256"),
  ([2, 16, 840, 1, 101, 3, 4, 2, 2], "sha384"),
  ([2, 16, 840, 1, 101, 3, 4, 2, 3], "sha512")]

/-- All names of identifiers. -/
def shortNames : List (Oid × String) :=
  let below (base : List Nat) (names : List (Nat × String)) : List (Oid × String) :=
    names.map fun e => (ofPath (base ++ [e.1]), e.2)
  below [2, 5, 4] attributeNames ++ below [2, 5, 29] extensionNames ++
    below [1, 2, 840, 113549, 1, 1] rsaNames ++ below [1, 2, 840, 113549, 1, 9] messageNames ++
    otherNames.map fun e => (ofPath e.1, e.2)

/-- The name of an identifier, or its path. -/
def label (o : Oid) : String :=
  (shortNames.lookup o).getD ("OID(" ++ o.text ++ ")")

end Oid

end PinnedLink.X509
