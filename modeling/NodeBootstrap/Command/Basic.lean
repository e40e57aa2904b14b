import NodeBootstrap.Text.Cut

/-!
# Commands

* `Command`: a program with its arguments, the variables set for it alone, and whether its output
  is kept from the operator;
* `Command.line`: the command as it is shown.
-/

namespace NodeBootstrap

/-- One run of a program. -/
structure Command where
  program : String
  arguments : List String := []
  environment : List (String × String) := []
  quiet : Bool := false
deriving DecidableEq, Repr, Inhabited

/-- The program and its arguments with spaces between them. -/
def Command.line (c : Command) : String := Text.glue " " (c.program :: c.arguments)

/-- The output of a program that ended well: what it wrote to each of its two streams, and both in
the order of arrival. -/
structure Output where
  status : Option Int := some 0
  stdout : String := ""
  stderr : String := ""
  combined : String := ""
deriving DecidableEq, Repr, Inhabited

end NodeBootstrap
