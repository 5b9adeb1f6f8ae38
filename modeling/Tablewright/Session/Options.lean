import Tablewright.Definition.Column
import Tablewright.Number.Reading
import Tablewright.Value.Text

/-!
# The options of a connection

How a connection is set up. Options that are not given take fixed defaults or, on request, those of
the environment.
-/

namespace Tablewright

/-- What the environment says about connections. -/
structure Environment where
  /-- The journal mode. -/
  journalMode : String := "WAL"
  /-- The milliseconds to wait for a lock. -/
  busyTimeout : Int := 5000
  /-- Whether to report what is done. -/
  verbose : Bool := false
  /-- Whether to log what is done. -/
  logOps : Bool := false

/-- A switch of the environment is on unless it is empty or zero. -/
def isSwitchedOn (s : String) : Bool :=
  s != "" && s != "0"

/-- Reads the environment. The timeout must be an integer. -/
def Environment.read (lookup : String → Option String) : Except Fault Environment :=
  let read (name other : String) := (lookup name).getD other
  match readInteger? (read "STRATA_BUSY_TIMEOUT" "5000") with
  | some busyTimeout =>
    pure
      { journalMode := read "STRATA_JOURNAL_MODE" "WAL"
        busyTimeout
        verbose := isSwitchedOn (read "STRATA_VERBOSE" "")
        logOps := isSwitchedOn (read "STRATA_LOG_OPS" "") }
  | none => wrongValue

/-- The options of a connection. -/
structure Options where
  /-- The journal mode. -/
  journalMode : String := "WAL"
  /-- The milliseconds to wait for a lock. -/
  busyTimeout : Value := .int 5000
  /-- Whether foreign keys are enforced. -/
  foreignKeys : Value := .bool true
  /-- Whether to report what is done. -/
  verbose : Value := .bool false
  /-- Whether to log what is done. -/
  logOps : Value := .bool false

namespace Options

/-- All the options under their names. -/
def toFields (o : Options) : Named Value :=
  [("journal_mode", .str o.journalMode), ("busy_timeout", o.busyTimeout),
   ("foreign_keys", o.foreignKeys), ("verbose", o.verbose), ("log_ops", o.logOps)]

/-- The options as a value. -/
def toValue (o : Options) : Value :=
  .record .options o.toFields

/-- The journal mode that a value names. -/
def checkJournalMode (v : Value) : Except Fault String :=
  let mode := Text.upper v.text
  if journalModes.contains mode then pure mode else refuse (.journalMode v)

/-- The options with the given ones in place; there are no others. -/
def ofFields (fields : Named Value) : Except Fault Options := do
  let d : Options := {}
  onlyKnown (toFields d).names fields
  let journalMode ← checkJournalMode (fields.getOr "journal_mode" (.str d.journalMode))
  pure
    { journalMode
      busyTimeout := fields.getOr "busy_timeout" d.busyTimeout
      foreignKeys := fields.getOr "foreign_keys" d.foreignKeys
      verbose := fields.getOr "verbose" d.verbose
      logOps := fields.getOr "log_ops" d.logOps }

/-- Options given by name; every name must be a text. -/
def ofMapping (m : Mapping) : Except Fault Options := do
  ofFields (← m.mapM fun (k, v) => do pure (← k.asText, v))

/-- The options that the environment asks for. -/
def environmentFields (e : Environment) : Named Value :=
  [("journal_mode", .str e.journalMode), ("busy_timeout", .int e.busyTimeout),
   ("verbose", .bool e.verbose), ("log_ops", .bool e.logOps)]

/-- Options given by name over those of the environment. -/
def ofEnvironment (e : Environment) (m : Mapping) : Except Fault Options := do
  let given ← m.mapM fun (k, v) => do pure (← k.asText, v)
  ofFields (Named.union (environmentFields e) given)

end Options

end Tablewright
