import Tablewright.Value.Text

/-!
# Faults

Everything that can go wrong, by cause. An `Issue` is a fault in what the caller asked for or
declared; it knows its message, the offending value, and the values that would have been allowed.
A `Misuse` is a value of the wrong kind met on the way. The other faults come from hooks, from the
database engine, and from files.
-/

namespace Tablewright

/-! ## Vocabularies that messages list -/

/-- What may follow `ON DELETE` and `ON UPDATE`. -/
def referentialActions : List String :=
  ["CASCADE", "RESTRICT", "SET NULL", "SET DEFAULT", "NO ACTION"]

/-- The kinds of relationships, as they are written. -/
def relationshipKinds : List String :=
  ["belongs_to", "has_one", "has_many", "belongs_to_many"]

/-- When a trigger may run. -/
def triggerTimings : List String :=
  ["BEFORE", "AFTER", "INSTEAD OF"]

/-- What a trigger may react to. -/
def triggerEvents : List String :=
  ["INSERT", "UPDATE", "DELETE"]

/-- The directions of an ordering. -/
def orderDirections : List String :=
  ["ASC", "DESC"]

/-- The functions that may aggregate a column. -/
def aggregateNames : List String :=
  ["COUNT", "SUM", "MIN", "MAX", "AVG", "TOTAL"]

/-- The journal modes of a connection. -/
def journalModes : List String :=
  ["DELETE", "TRUNCATE", "PERSIST", "MEMORY", "WAL", "OFF"]

/-- The six slots that hold the hooks of a model. -/
def hookSlots : List String :=
  ["before_insert", "after_insert", "before_update", "after_update", "before_delete",
   "after_delete"]

/-! ## Issues -/

/-- What makes a definition or a request unacceptable. -/
inductive Issue where
  /-- A name is not a bare identifier. -/
  | identifier (what : String) (name : Value)
  /-- A model has no name. -/
  | unnamedModel (name : Value)
  /-- A referential action stands on a column that references nothing. -/
  | actionWithoutReference (column : Value) (model : String)
  /-- A referential action is none of the known ones. -/
  | referentialAction (action : Value)
  /-- More than one column is flagged as primary key. -/
  | severalPrimaryKeys (model : String) (columns : List String)
  /-- A relationship is of no known kind. -/
  | relationshipKind (kind : Value)
  /-- A trigger runs at no known time. -/
  | triggerTiming (timing : Value)
  /-- A trigger reacts to no known event. -/
  | triggerEvent (event : Value)
  /-- A request names a column the table does not have. -/
  | unknownColumn (name : Value) (table : String) (columns : List Value)
  /-- An ordering has no known direction. -/
  | orderDirection (direction : String)
  /-- An aggregate function is unknown. -/
  | aggregate (name : Value)
  /-- A write has no condition, so it would touch every row. -/
  | noCondition (operation table : String) (condition : Value)
  /-- An upsert stores nothing. -/
  | nothingToUpsert (values : Value)
  /-- An update changes nothing. -/
  | nothingToUpdate (table : String) (values : Value)
  /-- An increment names no column. -/
  | nothingToIncrement (deltas : Value)
  /-- An upsert has no value for some of its conflict columns. -/
  | missingConflictValues (table : String) (columns : List String)
  /-- A row breaks the rules of its columns. -/
  | rowRejected (model : String) (problems : List (String × List String)) (row : Value)
  /-- Restoring rows of a model that does not delete softly. -/
  | notSoftDelete (model : String)
  /-- A model is defined twice. -/
  | modelAlreadyDefined (name : Value)
  /-- Operations are to be logged, but the driver has no connection to log through. -/
  | noLogConnection (driver : Value)
  /-- A journal mode is unknown. -/
  | journalMode (mode : Value)
  /-- There is no such slot for hooks. -/
  | hookSlot (slot : Value)

namespace Issue

/-- A vocabulary as it ends a message. -/
def mustBeOneOf (allowed : List String) : String :=
  ". Must be one of: " ++ ", ".intercalate allowed

/-- The problems of one field of a rejected row. -/
def fieldProblems (field : String) (problems : List String) : String :=
  "Field '" ++ field ++ "': " ++ ", ".intercalate problems

/-- The text of an issue. -/
def message : Issue → String
  | identifier what name => "Invalid " ++ what ++ ": " ++ name.repr
  | unnamedModel _ => "Model definition requires a name"
  | actionWithoutReference column model =>
    "on_delete/on_update requires references for column " ++ column.display ++ " in " ++ model
  | referentialAction action =>
    "Invalid referential action: " ++ action.display ++ mustBeOneOf referentialActions
  | severalPrimaryKeys model columns =>
    "Model " ++ model ++ " flags more than one primary key column: " ++ ", ".intercalate columns ++
      ". Use a primary_key constraint for composite keys."
  | relationshipKind kind =>
    "Invalid relationship kind: " ++ kind.display ++ mustBeOneOf relationshipKinds
  | triggerTiming timing =>
    "Invalid trigger timing: " ++ timing.display ++ mustBeOneOf triggerTimings
  | triggerEvent event => "Invalid trigger event: " ++ event.display ++ mustBeOneOf triggerEvents
  | unknownColumn name table _ => "Unknown column " ++ name.repr ++ " for table " ++ table
  | orderDirection direction =>
    "Invalid order direction: " ++ direction ++ mustBeOneOf orderDirections
  | aggregate name => "Invalid aggregate: " ++ name.display ++ mustBeOneOf aggregateNames
  | noCondition operation table _ =>
    operation ++ " on " ++ table ++ " requires a non-empty where clause"
  | nothingToUpsert _ => "upsert requires at least one value"
  | nothingToUpdate table _ => "update on " ++ table ++ " requires at least one value"
  | nothingToIncrement _ => "increment requires at least one column"
  | missingConflictValues table columns =>
    "upsert on " ++ table ++ " needs values for conflict columns: " ++ ", ".intercalate columns
  | rowRejected model problems _ =>
    "Validation failed for " ++ model ++ ": " ++
      "; ".intercalate (problems.map fun p => fieldProblems p.1 p.2)
  | notSoftDelete model => "restore is only available for soft-delete models (" ++ model ++ ")"
  | modelAlreadyDefined name => "Model already defined: " ++ name.display
  | noLogConnection _ => "log_ops needs a driver with a sqlite3 connection (.db)"
  | journalMode mode => "Invalid journal mode: " ++ mode.display ++ mustBeOneOf journalModes
  | hookSlot slot => "Invalid hook slot: " ++ slot.display ++ mustBeOneOf hookSlots

/-- The value that is at fault. -/
def value : Issue → Value
  | identifier _ name => name
  | unnamedModel name => name
  | actionWithoutReference column _ => column
  | referentialAction action => action
  | severalPrimaryKeys _ columns => .ofTexts columns
  | relationshipKind kind => kind
  | triggerTiming timing => timing
  | triggerEvent event => event
  | unknownColumn name _ _ => name
  | orderDirection direction => .str direction
  | aggregate name => name
  | noCondition _ _ condition => condition
  | nothingToUpsert values => values
  | nothingToUpdate _ values => values
  | nothingToIncrement deltas => deltas
  | missingConflictValues _ columns => .ofTexts columns
  | rowRejected _ _ row => row
  | notSoftDelete model => .str model
  | modelAlreadyDefined name => name
  | noLogConnection driver => driver
  | journalMode mode => mode
  | hookSlot slot => slot

/-- The values that would have been accepted, where they can be listed. -/
def allowed : Issue → List Value
  | referentialAction _ => referentialActions.map .str
  | relationshipKind _ => relationshipKinds.map .str
  | triggerTiming _ => triggerTimings.map .str
  | triggerEvent _ => triggerEvents.map .str
  | unknownColumn _ _ columns => columns
  | orderDirection _ => orderDirections.map .str
  | aggregate _ => aggregateNames.map .str
  | journalMode _ => journalModes.map .str
  | hookSlot _ => hookSlots.map .str
  | _ => []

end Issue

/-! ## Faults -/

/-- A use that the kind of a value does not allow. -/
inductive Misuse where
  /-- The operation does not exist for values of this kind. -/
  | wrongType
  /-- The arithmetic of sized numbers has no rule for elements of this kind. -/
  | noRule
  /-- The value has no such part. -/
  | noAttribute
  /-- The kind is right but the value is not. -/
  | wrongValue
  /-- A mapping has no such key. -/
  | missingKey
  /-- A list has no such place. -/
  | indexOutOfRange
  /-- A number is too large for its target. -/
  | tooLarge
  /-- The result of the operation is undefined. -/
  | undefinedResult
  /-- A value is nested too deeply. -/
  | tooDeep
  deriving DecidableEq, Repr

/-- Why a hook failed: it raised a failure of its own, or it met a value of the wrong kind. -/
inductive HookCause where
  | raised (kind : FailureKind) (text : String)
  | misuse (m : Misuse) (text : String)
  deriving DecidableEq, Repr

/-- The text of the cause. -/
def HookCause.text : HookCause → String
  | raised _ text => text
  | misuse _ text => text

/-- What is wrong with a file. -/
inductive FileProblem where
  | missing (path : String)
  | isDirectory (path : String)
  | notDirectory (path : String)
  | nameTooLong (path : String)
  /-- The path holds the null character. -/
  | nullCharacter
  /-- The path holds half a surrogate pair that stands for no byte. -/
  | unencodablePath
  /-- The content is not encoded as UTF-8. -/
  | badEncoding
  deriving DecidableEq, Repr

/-- The text of a file problem. -/
def FileProblem.message : FileProblem → String
  | missing path => "[Errno 2] No such file or directory: " ++ Text.quoted path
  | isDirectory path => "[Errno 21] Is a directory: " ++ Text.quoted path
  | notDirectory path => "[Errno 20] Not a directory: " ++ Text.quoted path
  | nameTooLong path => "[Errno 36] File name too long: " ++ Text.quoted path
  | nullCharacter => ""
  | unencodablePath => ""
  | badEncoding => ""

/-- Whether the file system reports a problem; the others are found before it is asked, or after. -/
def FileProblem.isReported : FileProblem → Bool
  | nullCharacter => false
  | unencodablePath => false
  | badEncoding => false
  | _ => true

/-- What is wrong with a JSON text. -/
inductive JsonProblem where
  | noValue
  | noName
  | noColon
  | noComma
  | extraData
  | unterminatedString
  | controlCharacter
  | badEscape
  | badUnicodeEscape
  | byteOrderMark
  deriving DecidableEq, Repr

/-- The text of a JSON problem. -/
def JsonProblem.message : JsonProblem → String
  | noValue => "Expecting value"
  | noName => "Expecting property name enclosed in double quotes"
  | noColon => "Expecting ':' delimiter"
  | noComma => "Expecting ',' delimiter"
  | extraData => "Extra data"
  | unterminatedString => "Unterminated string starting at"
  | controlCharacter => "Invalid control character at"
  | badEscape => "Invalid \\escape"
  | badUnicodeEscape => "Invalid \\uXXXX escape"
  | byteOrderMark => "Unexpected UTF-8 BOM (decode using utf-8-sig)"

/-- A place in a text. Lines and columns count from one, the offset from zero. -/
structure TextPlace where
  /-- The line. -/
  line : Nat
  /-- The column in the line. -/
  column : Nat
  /-- The number of characters before the place. -/
  offset : Nat
  deriving DecidableEq, Repr

namespace TextPlace

/-- The place behind a number of characters of a text. -/
def ofOffset (text : List Char) (offset : Nat) : TextPlace :=
  let before := text.take offset
  { line := before.count '\n' + 1
    column := (before.reverse.takeWhile (· != '\n')).length + 1
    offset }

/-- The place as messages give it. -/
def text (p : TextPlace) : String :=
  "line " ++ toString p.line ++ " column " ++ toString p.column ++
    " (char " ++ toString p.offset ++ ")"

end TextPlace

/-- Why an operation failed. -/
inductive Fault where
  /-- The caller's definition or request is unacceptable. -/
  | invalid (issue : Issue)
  /-- A column type has no storage class. -/
  | unknownType (logicalType : Value)
  /-- A lifecycle hook failed. -/
  | hookFailed (hook : Value) (cause : HookCause)
  /-- The database engine refused a statement. -/
  | engine (kind message : String)
  /-- No model of that name is defined. -/
  | modelNotDefined (name : Value)
  /-- A value of the wrong kind was met. -/
  | misuse (m : Misuse)
  /-- A file could not be read. -/
  | file (problem : FileProblem)
  /-- A JSON text is malformed. -/
  | malformed (problem : JsonProblem) (place : TextPlace)
  /-- A text for the console ends a style that has not begun. -/
  | badMarkup

/-- The text of a fault; a misuse has none. -/
def Fault.message : Fault → String
  | invalid issue => issue.message
  | unknownType logicalType => "Unknown logical type: " ++ logicalType.repr
  | hookFailed _ cause => "Hook execution failed: " ++ cause.text
  | engine _ message => message
  | modelNotDefined name => "Model not defined: " ++ name.display
  | misuse _ => ""
  | file problem => problem.message
  | malformed problem place => problem.message ++ ": " ++ place.text
  | badMarkup => ""

/-- Fails because a value has the wrong type. -/
def wrongType {α : Type} : Except Fault α :=
  .error (.misuse .wrongType)

/-- Fails because the arithmetic of sized numbers has no rule for a value. -/
def noRule {α : Type} : Except Fault α :=
  .error (.misuse .noRule)

/-- Fails because a value lacks a part. -/
def noAttribute {α : Type} : Except Fault α :=
  .error (.misuse .noAttribute)

/-- Fails because a value is unsuitable. -/
def wrongValue {α : Type} : Except Fault α :=
  .error (.misuse .wrongValue)

/-- Fails because of an issue. -/
def refuse {α : Type} (issue : Issue) : Except Fault α :=
  .error (.invalid issue)

end Tablewright
