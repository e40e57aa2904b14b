import NodeBootstrap.Version.Basic
import NodeBootstrap.Text.Blank
import NodeBootstrap.Text.Cut
import NodeBootstrap.Text.Shown

/-!
# Reading versions

A version is written as an optional `v`, three numbers with dots between them, and optionally
pre-release identifiers after `-` and build identifiers after `+`. Blanks around it do not count.

* `VersionFault`: what can be wrong with a text, and at which part of the version;
* `Version.number`, `Version.dot`, `Version.identifiers`: the pieces of the grammar, each of which
  returns the text that follows it;
* `Version.parse`: the whole grammar, which keeps the three numbers only.
-/

namespace NodeBootstrap

/-- The parts of a version, in the order in which they are read. -/
inductive VersionPart where
  | major
  | minor
  | patch
  | preRelease
  | build
deriving DecidableEq, Repr

namespace VersionPart

/-- The part's name in a message. -/
def name : VersionPart → String
  | major => "major version number"
  | minor => "minor version number"
  | patch => "patch version number"
  | preRelease => "pre-release identifier"
  | build => "build metadata"

end VersionPart

/-- Why a text is not a version. -/
inductive VersionFault where
  | empty
  | endOfInput (part : VersionPart)
  | unexpected (c : Char) (part : VersionPart)
  | unexpectedAfter (c : Char) (part : VersionPart)
  | leadingZero (part : VersionPart)
  | tooLarge (part : VersionPart)
  | emptySegment (part : VersionPart)
deriving DecidableEq, Repr

namespace VersionFault

/-- The fault in words. -/
def message : VersionFault → String
  | empty => "empty version string"
  | endOfInput p => "unexpected end of input while parsing " ++ p.name
  | unexpected c p => "unexpected character " ++ Shown.char c ++ " while parsing " ++ p.name
  | unexpectedAfter c p => "unexpected character " ++ Shown.char c ++ " after " ++ p.name
  | leadingZero p => "invalid leading zero in " ++ p.name
  | tooLarge p => "value of " ++ p.name ++ " exceeds u64::MAX"
  | emptySegment p => "empty identifier segment in " ++ p.name

end VersionFault

namespace Version

/-- Reads a number below `2 ^ 64` without a leading zero. -/
def number (part : VersionPart) (cs : List Char) :
    Except VersionFault (UInt64 × List Char) :=
  let rest := cs.dropWhile Decimal.isDigit
  match cs.takeWhile Decimal.isDigit with
  | [] =>
    match rest with
    | [] => .error (.endOfInput part)
    | c :: _ => .error (.unexpected c part)
  | '0' :: _ :: _ => .error (.leadingZero part)
  | ds =>
    if h : Decimal.value ds < UInt64.size then .ok (UInt64.ofNatLT (Decimal.value ds) h, rest)
    else .error (.tooLarge part)

/-- Reads the dot after a number. -/
def dot (part : VersionPart) : List Char → Except VersionFault (List Char)
  | '.' :: cs => .ok cs
  | c :: _ => .error (.unexpectedAfter c part)
  | [] => .error (.endOfInput part)

/-- The characters of an identifier. -/
def isIdentifierChar (c : Char) : Bool :=
  ('0' ≤ c && c ≤ '9') || ('A' ≤ c && c ≤ 'Z') || ('a' ≤ c && c ≤ 'z') || c == '-'

/-- An identifier of digits only and of more than one digit that begins with zero. -/
def hasLeadingZero (segment : List Char) : Bool :=
  match segment with
  | '0' :: _ :: _ => segment.all Decimal.isDigit
  | _ => false

/-- Checks one identifier: it is not empty, and a number among pre-release identifiers has no
leading zero. -/
def checkSegment (part : VersionPart) (segment : List Char) : Except VersionFault Unit :=
  if segment = [] then .error (.emptySegment part)
  else if part = .preRelease && hasLeadingZero segment then .error (.leadingZero part)
  else .ok ()

/-- Checks identifiers from left to right. -/
def checkSegments (part : VersionPart) : List (List Char) → Except VersionFault Unit
  | [] => .ok ()
  | s :: ss => do
    checkSegment part s
    checkSegments part ss

/-- Reads identifiers with dots between them. -/
def identifiers (part : VersionPart) (cs : List Char) : Except VersionFault (List Char) := do
  let inside := fun c => isIdentifierChar c || c == '.'
  checkSegments part (Chars.pieces '.' (cs.takeWhile inside))
  return cs.dropWhile inside

/-- Reads the end of a version after `part`. -/
def finish (part : VersionPart) (v : Version) : List Char → Except VersionFault Version
  | [] => .ok v
  | c :: _ => .error (.unexpectedAfter c part)

/-- Reads what may follow the pre-release identifiers. -/
def afterPreRelease (part : VersionPart) (v : Version) :
    List Char → Except VersionFault Version
  | '+' :: cs => do
    let rest ← identifiers .build cs
    finish .build v rest
  | cs => finish part v cs

/-- Reads what may follow the three numbers. -/
def afterNumbers (v : Version) : List Char → Except VersionFault Version
  | '-' :: cs => do
    let rest ← identifiers .preRelease cs
    afterPreRelease .preRelease v rest
  | cs => afterPreRelease .patch v cs

/-- Reads a version without blanks around it and without a leading `v`. -/
def parseBare (cs : List Char) : Except VersionFault Version := do
  let (major, cs) ← number .major cs
  let cs ← dot .major cs
  let (minor, cs) ← number .minor cs
  let cs ← dot .minor cs
  let (patch, cs) ← number .patch cs
  afterNumbers ⟨major, minor, patch⟩ cs

/-- Drops one leading `v`. -/
def dropTagLetter : List Char → List Char
  | 'v' :: cs => cs
  | cs => cs

/-- Reads a version: blanks around it and one leading `v` do not count. -/
def parse (s : String) : Except VersionFault Version :=
  match dropTagLetter (Chars.trim s.toList) with
  | [] => .error .empty
  | cs => parseBare cs

end Version

end NodeBootstrap
