import NodeBootstrap.Text.Fraction
import NodeBootstrap.Text.Hex
import NodeBootstrap.Text.Moment

/-!
# Words of a settings file

The smallest parts of a settings file. Each reader returns what it read and the text after it.

* `Toml.restOfLine`, `Toml.skipLines`: what may stand between the parts;
* `Toml.basicText`, `Toml.literalText` and their forms of several lines: texts;
* `Toml.key`: names with dots between them;
* `Toml.isNumberAhead`, `Toml.number`, `Toml.moment`: numbers, dates and times.
-/

namespace NodeBootstrap.Toml

/-! ## Between the parts -/

/-- A blank inside a line. -/
def isGap (c : Char) : Bool := c == ' ' || c == '\t'

/-- The text from its first character that is not a blank inside a line. -/
def skipGap (cs : List Char) : List Char := cs.dropWhile isGap

/-- A character that a comment may hold. -/
def isCommentChar (c : Char) : Bool := c == '\t' || (' ' ≤ c && c != '\x7f')

/-- The text after the end of a line. -/
def lineEnd : List Char → Option (List Char)
  | [] => some []
  | '\n' :: cs => some cs
  | '\r' :: '\n' :: cs => some cs
  | _ => none

/-- The text after a line of which only blanks and a comment are left. -/
def restOfLine (cs : List Char) : Option (List Char) :=
  match skipGap cs with
  | '#' :: r => lineEnd (r.dropWhile isCommentChar)
  | r => lineEnd r

/-- The text after blanks, comments and ends of lines. -/
def skipLines : (comment : Bool) → List Char → List Char
  | _, [] => []
  | _, '\n' :: cs => skipLines false cs
  | _, '\r' :: '\n' :: cs => skipLines false cs
  | true, c :: cs => if isCommentChar c then skipLines true cs else c :: cs
  | false, '#' :: cs => skipLines true cs
  | false, c :: cs => if isGap c then skipLines false cs else c :: cs

/-! ## Texts -/

/-- The character that an escape stands for, and the text after the escape. -/
def escape? : List Char → Option (Char × List Char)
  | '"' :: cs => some ('"', cs)
  | '\\' :: cs => some ('\\', cs)
  | 'b' :: cs => some ('\x08', cs)
  | 'f' :: cs => some ('\x0c', cs)
  | 'n' :: cs => some ('\n', cs)
  | 'r' :: cs => some ('\r', cs)
  | 't' :: cs => some ('\t', cs)
  | 'u' :: cs => Hex.readChar? 4 cs
  | 'U' :: cs => Hex.readChar? 8 cs
  | _ => none

/-- The text after a backslash at the end of a line and all blanks and ends of lines after it. -/
def continued? (cs : List Char) : Option (List Char) :=
  match skipGap cs with
  | '\n' :: r => some (r.dropWhile fun c => isGap c || c == '\n' || c == '\r')
  | '\r' :: '\n' :: r => some (r.dropWhile fun c => isGap c || c == '\n' || c == '\r')
  | _ => none

/-- Characters between double quotes on one line, after the opening quote. -/
def basicText : (fuel : Nat) → List Char → Option (List Char × List Char)
  | 0, _ => none
  | fuel + 1, cs =>
    match cs with
    | [] => none
    | '"' :: r => some ([], r)
    | '\\' :: r => do
      let (c, r) ← escape? r
      let (ds, r) ← basicText fuel r
      return (c :: ds, r)
    | c :: r =>
      if isCommentChar c then (basicText fuel r).map fun (ds, r) => (c :: ds, r) else none

/-- Characters between single quotes on one line, after the opening quote. -/
def literalText : List Char → Option (List Char × List Char)
  | [] => none
  | '\'' :: cs => some ([], cs)
  | c :: cs =>
    if isCommentChar c then (literalText cs).map fun (ds, r) => (c :: ds, r) else none

/-- The quotes before the three that close a text of several lines, at most two, and the text
after the closing quotes. -/
def closing? (quote : Char) (cs : List Char) : Option (List Char × List Char) :=
  let run := cs.takeWhile (· == quote)
  if 3 ≤ run.length then
    let kept := min (run.length - 3) 2
    some (List.replicate kept quote, cs.drop (kept + 3))
  else none

/-- Characters of several lines between three quotes, after the opening quotes and the end of line
that may follow them. `escapes` says whether a backslash begins an escape. -/
def longText (quote : Char) (escapes : Bool) :
    (fuel : Nat) → List Char → Option (List Char × List Char)
  | 0, _ => none
  | fuel + 1, cs =>
    match closing? quote cs with
    | some (kept, rest) => some (kept, rest)
    | none =>
      match cs with
      | [] => none
      | '\n' :: r => (longText quote escapes fuel r).map fun (ds, r) => ('\n' :: ds, r)
      | '\r' :: '\n' :: r => (longText quote escapes fuel r).map fun (ds, r) => ('\n' :: ds, r)
      | c :: r =>
        if escapes && c == '\\' then
          match continued? r with
          | some r => longText quote escapes fuel r
          | none => do
            let (d, r) ← escape? r
            let (ds, r) ← longText quote escapes fuel r
            return (d :: ds, r)
        else if isCommentChar c then
          (longText quote escapes fuel r).map fun (ds, r) => (c :: ds, r)
        else none

/-- The text after the end of line that may follow the opening quotes of several lines. -/
def skipFirstEnd : List Char → List Char
  | '\n' :: cs => cs
  | '\r' :: '\n' :: cs => cs
  | cs => cs

/-- A text in any of its four forms. -/
def text (cs : List Char) : Option (List Char × List Char) :=
  let fuel := cs.length + 1
  match cs with
  | '"' :: '"' :: '"' :: r => longText '"' true fuel (skipFirstEnd r)
  | '\'' :: '\'' :: '\'' :: r => longText '\'' false fuel (skipFirstEnd r)
  | '"' :: r => basicText fuel r
  | '\'' :: r => literalText r
  | _ => none

/-! ## Names -/

/-- A character of a name without quotes. -/
def isNameChar (c : Char) : Bool :=
  ('a' ≤ c && c ≤ 'z') || ('A' ≤ c && c ≤ 'Z') || Decimal.isDigit c || c == '_' || c == '-'

/-- One name, with or without quotes. -/
def name (cs : List Char) : Option (String × List Char) :=
  match cs with
  | '"' :: r => (basicText (r.length + 1) r).map fun (ds, r) => (String.ofList ds, r)
  | '\'' :: r => (literalText r).map fun (ds, r) => (String.ofList ds, r)
  | _ =>
    match cs.takeWhile isNameChar with
    | [] => none
    | ds => some (String.ofList ds, cs.dropWhile isNameChar)

/-- Names with dots between them, and blanks around each. -/
def names : (fuel : Nat) → List Char → Option (List String × List Char)
  | 0, _ => none
  | fuel + 1, cs => do
    let (k, cs) ← name (skipGap cs)
    match skipGap cs with
    | '.' :: cs => do
      let (ks, cs) ← names fuel cs
      return (k :: ks, cs)
    | cs => return ([k], cs)

/-- The number of levels to which names and values may be nested, and one more. -/
def depthLimit : Nat := 80

/-- The way to a field: the names before the last dot, and the last name. -/
def key (cs : List Char) : Option ((List String × String) × List Char) := do
  let (ks, cs) ← names depthLimit cs
  let last ← ks.getLast?
  if ks.length < depthLimit then return ((ks.dropLast, last), cs) else none

/-! ## Numbers, dates and times -/

/-- The digits after a first one; a single underscore may stand between two digits. -/
def moreDigits (isOne : Char → Bool) : List Char → List Char × List Char
  | '_' :: d :: cs =>
    if isOne d then
      let (ds, r) := moreDigits isOne cs
      (d :: ds, r)
    else ([], '_' :: d :: cs)
  | c :: cs =>
    if isOne c then
      let (ds, r) := moreDigits isOne cs
      (c :: ds, r)
    else ([], c :: cs)
  | [] => ([], [])

/-- At least one digit. -/
def someDigits (isOne : Char → Bool) : List Char → Option (List Char × List Char)
  | c :: cs =>
    if isOne c then
      let (ds, r) := moreDigits isOne cs
      some (c :: ds, r)
    else none
  | [] => none

/-- The digits before a point: one zero, or digits that do not begin with one. -/
def wholeDigits : List Char → Option (List Char × List Char)
  | '0' :: cs => some (['0'], cs)
  | cs => someDigits Decimal.isDigit cs

/-- The sign of a number. -/
def sign : List Char → List Char × List Char
  | '+' :: cs => ([], cs)
  | '-' :: cs => (['-'], cs)
  | cs => ([], cs)

/-- The point of a number and the digits after it. -/
def fractionDigits : List Char → Option (List Char × List Char)
  | '.' :: cs => (someDigits Decimal.isDigit cs).map fun (ds, r) => ('.' :: ds, r)
  | _ => none

/-- The exponent of a number. -/
def exponentDigits : List Char → Option (List Char × List Char)
  | c :: cs =>
    if c = 'e' ∨ c = 'E' then
      let (s, cs) := sign cs
      (someDigits Decimal.isDigit cs).map fun (ds, r) => ('e' :: s ++ ds, r)
    else none
  | [] => none

/-- A number with a point or an exponent; only a negative one may be beyond double precision. -/
def fractional (cs : List Char) : Option (List Char × List Char) := do
  let (s, cs) := sign cs
  let (whole, cs) ← wholeDigits cs
  let (rest, cs) ← match fractionDigits cs with
    | some (fraction, cs) =>
      match exponentDigits cs with
      | some (exponent, cs) => some (fraction ++ exponent, cs)
      | none => some (fraction, cs)
    | none => exponentDigits cs
  if s ≠ [] ∨ Fraction.isUnsigned (whole ++ rest) then return (s ++ whole ++ rest, cs) else none

/-- The numbers that are no quotient. -/
def specialNumber (cs : List Char) : Option (List Char × List Char) :=
  let (s, cs) := sign cs
  match cs with
  | 'i' :: 'n' :: 'f' :: r => some (s ++ ['i', 'n', 'f'], r)
  | 'n' :: 'a' :: 'n' :: r => some (s ++ ['n', 'a', 'n'], r)
  | _ => none

/-- The digits of a number in a base other than ten. -/
def basedDigits (base : Nat) (cs : List Char) : Option (List Char × List Char) := do
  let (ds, r) ← someDigits (fun c => match Hex.value? c with
    | some d => d < base
    | none => false) cs
  let value := ds.foldl (fun n c => n * base + (Hex.value? c).getD 0) 0
  if value < Nat.pow 2 63 then return (Decimal.digits value, r) else none

/-- A whole number of at most 64 binary digits. -/
def wholeNumber (cs : List Char) : Option (List Char × List Char) :=
  match cs with
  | '0' :: 'x' :: r => basedDigits 16 r
  | '0' :: 'o' :: r => basedDigits 8 r
  | '0' :: 'b' :: r => basedDigits 2 r
  | _ => do
    let (s, cs) := sign cs
    let (ds, r) ← wholeDigits cs
    let bound := Nat.pow 2 63 + (if s = [] then 0 else 1)
    if Decimal.value ds < bound then return (s ++ ds, r) else none

/-- The spelling of a number. -/
def number (cs : List Char) : Option (List Char × List Char) :=
  ((fractional cs).or (specialNumber cs)).or (wholeNumber cs)

/-- The text after the time that may follow a date, and after its zone. -/
def skipTime (cs : List Char) : List Char :=
  match cs with
  | c :: r =>
    match (if Moment.isSeparator c then Moment.time r else none) with
    | some r => (Moment.zone r).getD r
    | none => cs
  | [] => cs

/-- The text after a date, a time or both. -/
def moment (cs : List Char) : Option (List Char) :=
  match Moment.date cs with
  | some r => some (skipTime r)
  | none => Moment.time cs

end NodeBootstrap.Toml
