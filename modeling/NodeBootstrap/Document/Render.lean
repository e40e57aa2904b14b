import NodeBootstrap.Document.Content
import NodeBootstrap.Document.Layout
import NodeBootstrap.Yaml.Write

/-!
# Rendering

A configuration is one text of several documents, a line of three dashes between each two.

* `Rendering.initTrees`, `Rendering.joinTrees`: the documents for given parameters;
* `Rendering.assemble`: their text;
* `Rendering.init`, `Rendering.join`: the configuration of a first and of a further node.
-/

namespace NodeBootstrap

/-- A rendered configuration and the generation it is written for. -/
structure Rendering where
  generation : Generation
  text : String
deriving DecidableEq, Repr

namespace Rendering

/-- The line between two documents, with its end. -/
def separator : List Char := ['-', '-', '-', '\n']

/-- The text of several documents. -/
def assemble (documents : List Yaml) : String :=
  String.ofList (Chars.glue separator (documents.map Yaml.write))

/-- The documents of a first node. -/
def initTrees (s : Selection) (p : Parameters) : Except Failure (List Yaml) := do
  let first ← InitDocument.of s.generation p
  let cluster ← ClusterDocument.of s p
  return [first.tree s.generation, cluster.tree s.generation] ++
    ((KubeletDocument.of? p).map KubeletDocument.tree).toList

/-- The documents of a further node. -/
def joinTrees (s : Selection) (p : Parameters) : Except Failure (List Yaml) := do
  let join ← JoinDocument.of s.generation p
  return [join.tree s.generation] ++ ((KubeletDocument.of? p).map KubeletDocument.tree).toList

/-- The configuration of a first node. -/
def init (s : Selection) (p : Parameters) : Except Failure Rendering :=
  (initTrees s p).map fun ys => ⟨s.generation, assemble ys⟩

/-- The configuration of a further node. -/
def join (s : Selection) (p : Parameters) : Except Failure Rendering :=
  (joinTrees s p).map fun ys => ⟨s.generation, assemble ys⟩

end Rendering

end NodeBootstrap
