import Tablewright.Definition.Relationship
import Tablewright.Value.Membership

/-!
# The registry of relationships

All relationships that models are known to have, under the models that have them. Entries are only
ever added, at the end. The registry answers in which order tables can be made: the targets of
`belongs_to` relationships first, and otherwise as close to the given order as that allows.
-/

namespace Tablewright

/-- The relationships of every model, in the order in which they were registered. -/
abbrev Registry := Named (List Relationship)

namespace Registry

variable (r : Registry)

/-- The relationships of a model. -/
def lookup (model : String) : List Relationship :=
  Named.getOr r model []

/-- Adds relationships at the end of those of a model. -/
def register (model : String) (relationships : List Relationship) : Registry :=
  Named.put r model (r.lookup model ++ relationships)

/-- The models with a registration, in the order of the first. -/
def models : List String :=
  Named.names r

/-- Whether a model has a registration. -/
def contains (model : String) : Bool :=
  Named.has r model

/-- The number of relationships. -/
def size : Nat :=
  r.foldr (fun e n => e.2.length + n) 0

/-- The models that a model belongs to, in the order of registration. -/
def dependencies (model : String) : List Value :=
  Value.distinct (((r.lookup model).filter (·.kind = .belongsTo)).map Relationship.target)

/-! ## The order of creation -/

/-- The names without repetitions, each at its last place. -/
def lastPlaces : List String → List String
  | [] => []
  | name :: rest => if rest.contains name then lastPlaces rest else name :: lastPlaces rest

/-- The models among the given ones that a model must wait for. -/
def prerequisites (names : List String) (model : String) : Except Fault (List String) := do
  let targets ← (r.dependencies model).mapM Value.memberKey
  pure (targets.filterMap fun v =>
    v.text?.filter fun target => names.contains target && target != model)

/-- The pairs of a model among the given ones and one that must wait for it. -/
def precedence (names : List String) : Except Fault (List (String × String)) := do
  let pairs ← names.mapM fun model => do
    pure ((← r.prerequisites names model).map fun target => (target, model))
  pure pairs.flatten

/-- Whether nothing that a name must wait for is still to come. -/
def isReady (pairs : List (String × String)) (pending : List String) (name : String) : Bool :=
  !pairs.any fun e => e.2 == name && pending.contains e.1

/-- The pending names in an order that respects the pairs, always the first that is ready next;
none if at some point no name is ready. -/
def arrange (pairs : List (String × String)) (pending : List String) : Option (List String) :=
  if pending.isEmpty then some []
  else
    match _h : pending.find? (isReady pairs pending) with
    | none => none
    | some name => (arrange pairs (pending.erase name)).map (name :: ·)
termination_by pending.length
decreasing_by
  have hm : name ∈ pending := List.mem_of_find?_eq_some _h
  rw [List.length_erase_of_mem hm]
  exact Nat.sub_lt (List.length_pos_of_mem hm) Nat.one_pos

/-- The given models in an order in which every model comes after those it belongs to; the given
order if there is none. Models that are not given do not count. -/
def creationOrder (names : List String) : Except Fault (List String) := do
  let pairs ← r.precedence names
  pure ((arrange pairs (lastPlaces names)).getD names)

/-! ## The graph -/

/-- An edge of the graph of relationships. Parallel edges are numbered from zero. -/
structure Edge where
  /-- The model that has the relationship. -/
  source : String
  /-- The model it leads to, as the first of the parallel edges has it. -/
  target : Value
  /-- The number of the edge among those that are parallel to it. -/
  key : Nat
  /-- The kind of the relationship. -/
  kind : RelationshipKind
  /-- The attribute that refers to the target. -/
  foreignKey : Value
  /-- The name under which the target is reached. -/
  targetAlias : Value

/-- Whether an edge leads from one node to another. -/
def Edge.connects (source : String) (target : Value) (e : Edge) : Bool :=
  e.source == source && target.same e.target

/-- The models as nodes and the relationships as edges. -/
structure Graph where
  /-- The nodes, in the order in which they first came. -/
  nodes : List Value := []
  /-- The edges, in the order of registration. -/
  edges : List Edge := []

namespace Graph

/-- Adds a node unless it is there. -/
def addNode (g : Graph) (node : Value) : Graph :=
  if g.nodes.any (node.same ·) then g else { g with nodes := g.nodes ++ [node] }

/-- The edges from one node to another. -/
def between (g : Graph) (source : String) (target : Value) : List Edge :=
  g.edges.filter (Edge.connects source target)

/-- The edge that a relationship adds. -/
def nextEdge (g : Graph) (source : String) (rel : Relationship) : Edge :=
  let parallel := g.between source rel.target
  { source
    target := (parallel.head?.map Edge.target).getD rel.target
    key := parallel.length
    kind := rel.kind
    foreignKey := rel.foreignKey
    targetAlias := rel.targetAlias }

/-- Adds the edge of a relationship. -/
def addEdge (g : Graph) (source : String) (rel : Relationship) : Except Fault Graph := do
  let target ← rel.target.asKey
  if target.isNull then wrongValue
  pure { g.addNode target with edges := g.edges ++ [g.nextEdge source rel] }

/-- Adds the node of a model and the edges of its relationships. -/
def addModel (g : Graph) (entry : String × List Relationship) : Except Fault Graph :=
  entry.2.foldlM (fun g rel => g.addEdge entry.1 rel) (g.addNode (.str entry.1))

end Graph

/-- The graph of all relationships. -/
def graph : Except Fault Graph :=
  List.foldlM Graph.addModel {} r

end Registry

end Tablewright
