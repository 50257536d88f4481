import NetLab.Network.Import
import NetLab.Schema.Topology

set_option autoImplicit false

/-!
# References of a document

A document may fit the schema and still not describe a network: ids may be given twice, and links
may end at no device or where they start.
-/

namespace NetLab.Schema

/-- The values of a list that stood earlier in it, in order. -/
def repeated : List String → List String → List String
  | _, [] => []
  | seen, x :: xs => if seen.contains x then x :: repeated seen xs else repeated (x :: seen) xs

/-- The problems of a link: an id that an earlier link has, ends that are no devices, and ends
that are the same. -/
def linkProblems (ids seen : List String) (place : Nat) (l : LinkDoc) : List String :=
  let here := "links[" ++ toString place ++ "]"
  (match l.id with
    | some id => if seen.contains id then ["Duplicate link id: " ++ id] else []
    | none => []) ++
  (if ids.contains l.source then []
    else [here ++ ".sourceId references missing device '" ++ l.source ++ "'."]) ++
  (if ids.contains l.target then []
    else [here ++ ".targetId references missing device '" ++ l.target ++ "'."]) ++
  (if l.source = l.target then [here ++ " connects " ++ l.source ++ " to itself."] else [])

/-- The problems of links, the first of which stands at a place after links with the ids
`seen`. -/
def linksProblems (ids : List String) : List String → Nat → List LinkDoc → List String
  | _, _, [] => []
  | seen, place, l :: ls =>
    linkProblems ids seen place l ++ linksProblems ids (seen ++ l.id.toList) (place + 1) ls

namespace TopologyDoc

/-- What does not hold together in a document. -/
def referenceProblems (t : TopologyDoc) : List String :=
  let ids := t.devices.map (·.id)
  (repeated [] ids).map ("Duplicate device id: " ++ ·) ++ linksProblems ids [] 0 t.links

end TopologyDoc

/-- The texts of problems. -/
def problemTexts (ps : List Problem) : List String := ps.map Problem.text

/-- The network of a document that fits the schema and holds together. -/
def load (doc : Value) : Except Fault Network :=
  match topologyDoc doc with
  | .bad ps => .error (.badDocument (problemTexts ps))
  | .ok t =>
    match t.referenceProblems with
    | [] => Network.ofDocument t.toDocument
    | problems => .error (.badReferences problems)

end NetLab.Schema
