import NodeBootstrap.Parameters.Property

/-!
# Overrides

An operator may override any property with a text `key=value`. Overrides are first read into a
finite map, where the last text for a key counts, and then applied in the order of their keys.

* `Overrides.ofTexts`: reads the texts, or says which is not of the form `key=value`;
* `Overrides.step`: the effect of a single entry;
* `Overrides.apply`: all entries in order; an entry that fails ends the run, and the entries
  before it keep their effect.
-/

namespace NodeBootstrap

/-- Why a text is not an override. -/
inductive OverrideFault where
  | noEquals (text : String)
  | emptyKey (text : String)
deriving DecidableEq, Repr

namespace OverrideFault

/-- The fault in words. -/
def message : OverrideFault → String
  | noEquals t => "Invalid config format: '" ++ t ++ "'. Expected 'key=value'"
  | emptyKey t => "Empty key in config: '" ++ t ++ "'"

end OverrideFault

/-- Values by key, at most one for each. -/
abbrev Overrides := List (String × String)

namespace Overrides

/-- The map with a value for a key, in place of one it may have had. -/
def insert (key value : String) : Overrides → Overrides
  | [] => [(key, value)]
  | (k, v) :: rest => if k = key then (key, value) :: rest else (k, v) :: insert key value rest

/-- The trimmed key and value of one text. -/
def entry (text : String) : Except OverrideFault (String × String) :=
  match Text.cut '=' text with
  | none => .error (.noEquals text)
  | some (key, value) =>
    if Text.trim key = "" then .error (.emptyKey text) else .ok (Text.trim key, Text.trim value)

/-- Reads texts into a map that may have entries already. -/
def addTexts (m : Overrides) : List String → Except OverrideFault Overrides
  | [] => .ok m
  | t :: ts => do
    let (k, v) ← entry t
    addTexts (insert k v m) ts

/-- Reads texts; for a key that comes more than once the last text counts. -/
def ofTexts (texts : List String) : Except OverrideFault Overrides := addTexts [] texts

/-- The effect of a single entry. -/
def step (ps : Parameters) (key value : String) : Except Failure Parameters :=
  match Property.ofKey? key with
  | none => .error (.config (.unknownProperty key))
  | some p => (p.kind.decode key (Text.trim value)).map fun v => p.set v ps

/-- The effect of entries in the given order: the parameters at the end, and the failure that
ended the run if there was one. -/
def run (ps : Parameters) : Overrides → Parameters × Option Failure
  | [] => (ps, none)
  | (k, v) :: rest =>
    match step ps k v with
    | .ok ps' => run ps' rest
    | .error e => (ps, some e)

/-- The entries in the order of their keys. -/
def sorted (m : Overrides) : Overrides := m.mergeSort fun a b => a.1 ≤ b.1

/-- The effect of all entries in the order of their keys. -/
def apply (m : Overrides) (ps : Parameters) : Parameters × Option Failure := run ps (sorted m)

end Overrides

end NodeBootstrap
