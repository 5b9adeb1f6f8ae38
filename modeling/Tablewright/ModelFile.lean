import Tablewright.Registry
import Tablewright.Schema.Compile
import Tablewright.Schema.ViewFile
import Tablewright.Value.Json.Reader

/-!
# Files of models

A file holds the literals of models as JSON: a list of them, an object with such a list under
`models`, or a single one. Their schema is compiled in the order of creation, so that a table comes
after those it refers to.
-/

namespace Tablewright

namespace ModelFile

/-- The literals in what a file holds. An object that is neither a list of models nor a model holds
none. -/
def literals (v : Value) : Except Fault (List Value) :=
  match v with
  | .dict m =>
    match Mapping.field? m "models" with
    | some models => models.items
    | none => pure (if Mapping.hasKey m (.str "name") then [v] else [])
  | _ => v.items

/-- The definitions in the text of a file. -/
def parse (content : String) : Except Fault (List ModelDefinition) := do
  (← literals (← Json.read content)).mapM ModelDefinition.ofLiteral

end ModelFile

/-- The definitions in a file. -/
def Files.models (files : Files) (p : Path) : Except Fault (List ModelDefinition) := do
  ModelFile.parse (← files.readText p)

/-! ## The order of creation -/

/-- Definitions under the names of their models, and the relationships of all of them. -/
structure Catalog where
  /-- The definitions. Of two models of one name the later counts. -/
  definitions : Named ModelDefinition := []
  /-- The relationships. -/
  registry : Registry := []

namespace Catalog

/-- Adds a definition, which must resolve. -/
def add (c : Catalog) (d : ModelDefinition) : Except Fault Catalog := do
  let _ ← d.name.asKey
  let m ← d.resolve
  pure
    { definitions := Named.put c.definitions m.name d
      registry := c.registry.register m.name m.definition.relationships }

/-- The catalog of a list of definitions. -/
def ofDefinitions (ds : List ModelDefinition) : Except Fault Catalog :=
  ds.foldlM add {}

/-- The definitions in the order of creation. -/
def ordered (c : Catalog) : Except Fault (List ModelDefinition) := do
  let names ← c.registry.creationOrder (Named.names c.definitions)
  pure (names.filterMap (Named.get? c.definitions))

end Catalog

namespace ModelDefinition

/-- Definitions in the order of creation. -/
def inCreationOrder (ds : List ModelDefinition) : Except Fault (List ModelDefinition) := do
  (← Catalog.ofDefinitions ds).ordered

/-- The tables of models, by the models' names. -/
def tablesOf (models : List ResolvedModel) : Mapping :=
  Mapping.ofPairs (models.map fun m => (.str m.name, .str m.tableName))

/-- The statements that make the models of a list of definitions, every model knowing the tables of
all. -/
def schemaOf (ds : List ModelDefinition) : Except Fault (List SchemaStatement) := do
  let models ← (← inCreationOrder ds).mapM resolve
  let tables := tablesOf models
  let schemas ← models.mapM fun m => m.schema tables
  pure schemas.flatten

end ModelDefinition

/-- The statements that make the views in a directory. -/
def Files.viewSchema (files : Files) (directory : Path) : Except Fault (List SchemaStatement) := do
  (← files.views directory).mapM fun v => do pure (.createView (← v.create))

end Tablewright
