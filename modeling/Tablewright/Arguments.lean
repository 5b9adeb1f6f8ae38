import Tablewright.Fault
import Tablewright.Named
import Tablewright.Value.Equality

/-!
# Arguments

Operations are called by name, with some arguments given by position and others by name. Every
parameter without a default must be given, and none twice.
-/

namespace Tablewright

/-- A parameter of an operation. -/
structure Parameter where
  /-- The name. -/
  name : String
  /-- The value when none is given. -/
  default? : Option Value := none

/-- A parameter that must be given. -/
def needed (name : String) : Parameter :=
  { name }

/-- A parameter that is null when it is not given. -/
def optional (name : String) : Parameter :=
  { name, default? := some .null }

/-- A parameter that is false when it is not given. -/
def flag (name : String) : Parameter :=
  { name, default? := some (.bool false) }

/-- The arguments of a call: those given by position, then those given by name. -/
structure Call where
  /-- By position. -/
  args : List Value := []
  /-- By name. -/
  kwargs : Mapping := []

namespace Call

/-- The arguments given by name, which must all be texts. -/
def byName (c : Call) : Except Fault (Named Value) :=
  c.kwargs.mapM fun (k, v) =>
    match k.text? with
    | some name => pure (name, v)
    | none => wrongType

/-- The value of each parameter, in order. -/
def fill (given : Named Value) : List Parameter → Except Fault (Named Value)
  | [] => pure []
  | p :: rest => do
    let v ← match given.get? p.name with
      | some v => pure v
      | none =>
        match p.default? with
        | some v => pure v
        | none => wrongType
    pure ((p.name, v) :: (← fill given rest))

/-- The value of every parameter, followed by the arguments that are given by other names. -/
def bindOpen (c : Call) (parameters : List Parameter) : Except Fault (Named Value) := do
  let names := parameters.map Parameter.name
  let byName ← c.byName
  if names.length < c.args.length then wrongType
  let byPosition : Named Value := names.zip c.args
  if byName.names.any byPosition.has then wrongType
  let bound ← fill (byPosition ++ byName) parameters
  pure (bound ++ byName.filter fun e => !names.contains e.1)

/-- The value of every parameter; there are no other arguments. -/
def bind (c : Call) (parameters : List Parameter) : Except Fault (Named Value) := do
  let arguments ← c.bindOpen parameters
  if parameters.length < arguments.length then wrongType
  pure arguments

end Call

end Tablewright
