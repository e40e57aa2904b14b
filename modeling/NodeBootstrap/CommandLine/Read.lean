import NodeBootstrap.CommandLine.Grammar
import NodeBootstrap.CommandLine.Word

/-!
# Reading the words after a verb

A setting is checked when the next word comes that is one, or at the end; until then it is open.

* `Given`: settings with their values, in order;
* `Reading`: what is given after some words, and the setting that is still open;
* `Reading.word`: the reading after one more word;
* `Verb.read`: the settings in all words.
-/

namespace NodeBootstrap.CommandLine

/-- Settings with their values, in order; a switch has an empty one. -/
abbrev Given := List (Setting × String)

namespace Given

/-- Whether a setting is given. -/
def has (g : Given) (s : Setting) : Bool := g.any fun e => e.1 == s

/-- The value of a setting. -/
def value? (g : Given) (s : Setting) : Option String := (g.find? fun e => e.1 == s).map (·.2)

/-- All values of a setting, in order. -/
def values (g : Given) (s : Setting) : List String := (g.filter fun e => e.1 == s).map (·.2)

/-- One more setting, which must be new and have a value that fits. -/
def add (g : Given) (s : Setting) (value : String) : Except Usage Given :=
  if g.has s && !s.repeats then .error .givenTwice
  else if s.admits value then .ok (g ++ [(s, value)])
  else .error .unfitValue

end Given

/-- What is given after some words. -/
structure Reading where
  given : Given := []
  /-- The setting that is not checked yet, and its value if that has come. -/
  pending : Option (Setting × Option String) := none
  /-- Whether two dashes have ended the settings. -/
  ended : Bool := false
deriving DecidableEq, Repr, Inhabited

namespace Reading

/-- What is given when the open setting is checked. -/
def settle (r : Reading) : Except Usage Given :=
  match r.pending with
  | none => .ok r.given
  | some (s, some value) => r.given.add s value
  | some (_, none) => .error .missingValue

/-- The reading after a setting with its value. -/
def take (r : Reading) (s : Setting) (value : String) : Except Usage Reading := do
  return { r with given := ← (← r.settle).add s value, pending := none }

/-- The reading after a setting whose value may follow. -/
def await (r : Reading) (s : Setting) : Except Usage Reading := do
  return { r with given := ← r.settle, pending := some (s, none) }

/-- Asks for help once the open setting is checked. -/
def help (r : Reading) : Except Usage Reading := do
  let _ ← r.settle
  throw .help

/-- The reading after a setting with the value that its word holds. -/
def setting (r : Reading) (s : Setting) : Option String → Except Usage Reading
  | some value => if s.isSwitch then .error .needlessValue else r.take s value
  | none => if s.isSwitch then r.take s "" else r.await s

/-- The reading after a long spelling. -/
def long (r : Reading) (v : Verb) (name : String) (value : Option String) :
    Except Usage Reading :=
  if name = helpWord then
    if value.isSome then .error .needlessValue else r.help
  else match v.long? name with
    | some s => r.setting s value
    | none => .error .unknownSetting

/-- The reading after a letter and the text after it. -/
def short (r : Reading) (v : Verb) (letter : Char) (rest : List Char) : Except Usage Reading :=
  if letter = helpLetter then r.help
  else match v.short? letter with
    | some s => r.setting s (Word.valueIn rest)
    | none => .error .unknownSetting

/-- The reading after a plain word, which only an open setting can take. -/
def plain (r : Reading) (text : String) : Except Usage Reading :=
  match r.pending with
  | some (s, none) => .ok { r with pending := some (s, some text) }
  | _ => .error .unknownSetting

/-- The reading after one more word. -/
def word (v : Verb) (r : Reading) (text : String) : Except Usage Reading :=
  if r.ended then .error .unknownSetting
  else match Word.of text with
    | .dashes => .ok { r with ended := true }
    | .long name value => r.long v name value
    | .short letter rest => r.short v letter rest
    | .plain text => r.plain text

end Reading

/-- The settings in the words after a verb. -/
def Verb.read (v : Verb) (words : List String) : Except Usage Given := do
  let r ← words.foldlM (Reading.word v) {}
  let g ← r.settle
  if v.settings.contains .kubernetesVersion && !g.has .kubernetesVersion then throw .missingSetting
  return g

end NodeBootstrap.CommandLine
