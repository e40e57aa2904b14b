import NodeBootstrap.Text.Decimal
import NodeBootstrap.Text.Hex
import NodeBootstrap.Yaml.Spot

/-!
# Reading texts of documents

* `ReadScalar.quoted`: a text between single or double quotes;
* `ReadScalar.plain`: a text without quotes, over one or several lines;
* `ReadScalar.block`: a text that stands as a block of lines.

Each returns the text that was read and what follows it.
-/

namespace NodeBootstrap.ReadScalar

/-! ## Between quotes -/

/-- The character that an escape stands for, and the text after the escape. -/
def escape? : List Char → Option (Char × List Char)
  | [] => none
  | c :: cs =>
    match c with
    | '0' => some ('\x00', cs)
    | 'a' => some ('\x07', cs)
    | 'b' => some ('\x08', cs)
    | 't' => some ('\t', cs)
    | '\t' => some ('\t', cs)
    | 'n' => some ('\n', cs)
    | 'v' => some ('\x0b', cs)
    | 'f' => some ('\x0c', cs)
    | 'r' => some ('\r', cs)
    | 'e' => some ('\x1b', cs)
    | ' ' => some (' ', cs)
    | '"' => some ('"', cs)
    | '/' => some ('/', cs)
    | '\\' => some ('\\', cs)
    | 'N' => some ('\u0085', cs)
    | '_' => some ('\u00A0', cs)
    | 'L' => some ('\u2028', cs)
    | 'P' => some ('\u2029', cs)
    | 'x' => Hex.readChar? 2 cs
    | 'u' => Hex.readChar? 4 cs
    | 'U' => Hex.readChar? 8 cs
    | _ => none

/-- What blanks and ends of lines inside quotes stand for, and the text after them. `broken` says
that a line has ended already. -/
def between (broken : Bool) (cs : List Char) : Option (List Char × List Char) :=
  let blanks := cs.takeWhile isGap
  let after := cs.dropWhile isGap
  match after with
  | c :: _ =>
    if isBreak c then do
      let (bs, s) ← Lines.skip 0 0 after
      if s.isMark then none
      else return (if broken then bs else Lines.fold bs, s.rest)
    else some (if broken then [] else blanks, after)
  | [] => none

/-- The characters up to the closing quote, and the text after it. -/
def quotedBody (quote : Char) : (fuel : Nat) → List Char → Option (List Char × List Char)
  | 0, _ => none
  | fuel + 1, cs =>
    match cs with
    | [] => none
    | c :: r =>
      if c = quote then
        match r with
        | d :: r =>
          if quote = '\'' ∧ d = '\'' then
            (quotedBody quote fuel r).map fun (ds, r) => ('\'' :: ds, r)
          else some ([], d :: r)
        | [] => some ([], [])
      else if isGap c || isBreak c then do
        let (ds, r) ← between false cs
        let (es, r) ← quotedBody quote fuel r
        return (ds ++ es, r)
      else if quote = '"' ∧ c = '\\' then
        match Chars.takeBreak? r with
        | some (_, r) => do
          let (ds, r) ← between true r
          let (es, r) ← quotedBody quote fuel r
          return (ds ++ es, r)
        | none => do
          let (d, r) ← escape? r
          let (ds, r) ← quotedBody quote fuel r
          return (d :: ds, r)
      else (quotedBody quote fuel r).map fun (ds, r) => (c :: ds, r)

/-- A text between single or double quotes. -/
def quoted : List Char → Option (List Char × List Char)
  | c :: cs =>
    if c = '\'' ∨ c = '"' then quotedBody c (cs.length + 1) cs else none
  | [] => none

/-! ## Without quotes -/

/-- Where a text without quotes stands: inside brackets or not. -/
inductive Context where
  | block
  | flow
deriving DecidableEq, Repr

/-- The signs that end a text without quotes inside brackets. -/
def isFlowSign (c : Char) : Bool := [',', '[', ']', '\x7b', '\x7d'].contains c

/-- Whether a text without quotes may begin here. -/
def plainStart (context : Context) : List Char → Bool
  | [] => false
  | c :: cs =>
    if isGap c || isBreak c then false
    else if c = '-' then
      match cs with
      | d :: _ => !isGap d
      | [] => true
    else if c = '?' ∨ c = ':' then context == .block && !startsBlank cs
    else
      let signs := ['#', '&', '*', '!', '|', '>', '\'', '"', '%', '@', '\x60']
      !isFlowSign c && !signs.contains c

/-- The characters up to a blank or to a sign that ends the text, and the text after them. -/
def plainWord (context : Context) : List Char → Option (List Char × List Char)
  | [] => some ([], [])
  | c :: cs =>
    if isGap c || isBreak c then some ([], c :: cs)
    else if c = ':' ∧ startsBlank cs then some ([], c :: cs)
    else if context = .flow ∧ c = ':' ∧ (cs.head?.any fun d => isFlowSign d || d == '?') then none
    else if context = .flow ∧ isFlowSign c then some ([], c :: cs)
    else (plainWord context cs).map fun (ds, r) => (c :: ds, r)

/-- What follows a word of a text without quotes: further words, with what stands between them.
With `least` the text goes on in lines that begin at that column or after it. -/
def plainMore (context : Context) (least : Option Nat) :
    (fuel : Nat) → List Char → Option (List Char × List Char)
  | 0, _ => none
  | fuel + 1, cs =>
    let gap := cs.takeWhile isGap
    match cs.dropWhile isGap with
    | [] => some ([], cs)
    | c :: r =>
      if isBreak c then
        match least with
        | none => some ([], cs)
        | some least => do
          let (bs, s) ← Lines.skip least 0 (c :: r)
          if s.isEnd || (context == .block && s.column < least) || s.rest.head? == some '#' then
            return ([], cs)
          else
            match ← plainWord context s.rest with
            | ([], _) => return ([], cs)
            | (w, r) => do
              let (ws, r) ← plainMore context (some least) fuel r
              return (Lines.fold bs ++ w ++ ws, r)
      else if c = '#' ∨ gap = [] then some ([], cs)
      else do
        match ← plainWord context (c :: r) with
        | ([], _) => return ([], cs)
        | (w, r) => do
          let (ws, r) ← plainMore context least fuel r
          return (gap ++ w ++ ws, r)

/-- A text without quotes. -/
def plain (context : Context) (least : Option Nat) (cs : List Char) :
    Option (List Char × List Char) := do
  if plainStart context cs then
    let (w, r) ← plainWord context cs
    let (ws, r) ← plainMore context least (r.length + 1) r
    return (w ++ ws, r)
  else none

/-! ## Blocks of lines -/

/-- How the last line of a block ends. -/
inductive Chomp where
  | strip
  | clip
  | keep
deriving DecidableEq, Repr

/-- The first line of a block: whether its lines are joined, how its last line ends, and the number
of columns that its lines stand further in, where it is given. -/
structure BlockHeader where
  folded : Bool
  chomp : Chomp := .clip
  columns : Option Nat := none

/-- The sign for the end of the last line. -/
def chomp? (c : Char) : Option Chomp :=
  if c = '+' then some .keep else if c = '-' then some .strip else none

/-- The number of columns from one to nine. -/
def columns? (c : Char) : Option Nat :=
  if Decimal.isDigit c ∧ c ≠ '0' then some (Decimal.digitValue c) else none

/-- The signs after the first one of a block. -/
def headerSigns (h : BlockHeader) (cs : List Char) : BlockHeader × List Char :=
  match cs with
  | c :: r =>
    match chomp? c, columns? c with
    | some x, _ =>
      match r.head?.bind columns? with
      | some n => ({ h with chomp := x, columns := some n }, r.drop 1)
      | none => ({ h with chomp := x }, r)
    | none, some n =>
      match r.head?.bind chomp? with
      | some x => ({ h with chomp := x, columns := some n }, r.drop 1)
      | none => ({ h with columns := some n }, r)
    | none, none => (h, cs)
  | [] => (h, cs)

/-- The text after the rest of a block's first line: blanks, a comment and the end of the line. -/
def headerEnd (cs : List Char) : Option (List Char) :=
  let r := cs.dropWhile isGap
  let r := if r.head? == some '#' then r.dropWhile fun c => !isBreak c else r
  match r with
  | [] => some []
  | _ :: _ => (Chars.takeBreak? r).map (·.2)

/-- The empty lines before a line of a block: their ends, the widest indentation seen, and the place
after the indentation. With `limit` no more than that many columns are taken for indentation. -/
def emptyLines (limit : Option Nat) :
    (column widest : Nat) → List Char → Option (List Char × Nat × Spot)
  | column, widest, [] => some ([], max widest column, ⟨column, []⟩)
  | column, widest, '\r' :: '\n' :: cs =>
    (emptyLines limit 0 (max widest column) cs).map fun (bs, w, s) => ('\n' :: bs, w, s)
  | column, widest, c :: cs =>
    let inside := limit.all fun n => column < n
    if c = ' ' ∧ inside then emptyLines limit (column + 1) widest cs
    else if c = '\t' ∧ inside then none
    else if isBreak c then
      (emptyLines limit 0 (max widest column) cs).map fun (bs, w, s) =>
        ((if c == '\u2028' || c == '\u2029' then c else '\n') :: bs, w, s)
    else some ([], max widest column, ⟨column, c :: cs⟩)

/-- What stands between two lines of a block. -/
def joint (folded : Bool) (lineEnd : List Char) (empty : List Char) (blankAround : Bool) :
    List Char :=
  if folded && lineEnd == ['\n'] && !blankAround then
    if empty.isEmpty then [' '] else empty
  else lineEnd ++ empty

/-- Whether a text begins with a blank. -/
def startsGap (cs : List Char) : Bool := cs.head?.any isGap

/-- The lines of a block from one on: the text with the ends of all but the last line, the end of
the last line, the empty lines after it, and the place after the block. -/
def blockLines (folded : Bool) (indent : Nat) :
    (fuel : Nat) → Spot → Option (List Char × List Char × List Char × Spot)
  | 0, _ => none
  | fuel + 1, s => do
    let line := s.rest.takeWhile fun c => !isBreak c
    let rest := s.rest.dropWhile fun c => !isBreak c
    let (lineEnd, rest) := match Chars.takeBreak? rest with
      | some (b, r) => ([b], r)
      | none => ([], rest)
    let (empty, _, after) ← emptyLines (some indent) 0 0 rest
    if after.column = indent ∧ after.rest ≠ [] then
      let blankAround := startsGap line || startsGap after.rest
      let (more, lastEnd, lastEmpty, final) ← blockLines folded indent fuel after
      return (line ++ joint folded lineEnd empty blankAround ++ more, lastEnd, lastEmpty, final)
    else return (line, lineEnd, empty, after)

/-- What is kept of the end of the last line and the empty lines after it. -/
def chomped (c : Chomp) (lastEnd lastEmpty : List Char) : List Char :=
  match c with
  | .strip => []
  | .clip => lastEnd
  | .keep => lastEnd ++ lastEmpty

/-- A text as a block of lines that stand at column `least` or after it, and the place after it. -/
def block (least : Nat) (cs : List Char) : Option (List Char × Spot) :=
  match cs with
  | c :: cs =>
    if c = '|' ∨ c = '>' then do
      let folded := c = '>'
      let (h, cs) := headerSigns ⟨folded, .clip, none⟩ cs
      let cs ← headerEnd cs
      let limit := h.columns.map fun n => (least - 1) + n
      let (empty, widest, s) ← emptyLines limit 0 0 cs
      let indent := limit.getD (max (max widest least) 1)
      if s.column = indent ∧ s.rest ≠ [] then
        let (text, lastEnd, lastEmpty, after) ← blockLines folded indent (s.rest.length + 1) s
        return (empty ++ text ++ chomped h.chomp lastEnd lastEmpty,
          Spot.next after.column after.rest)
      else return (chomped h.chomp [] empty, Spot.next s.column s.rest)
    else none
  | [] => none

end NodeBootstrap.ReadScalar
