import Tablewright.Hook.Data

/-!
# Running hooks

Hooks run one after the other on the same data, each finished before the next starts; entries that
are null are passed over. The first failure ends the run. Run in isolation, the hooks share one
deep copy of the data, and what they do to it stays with them.

A database runs hooks that are described by their actions. A runner takes hooks of any behaviour: one
may return something to be awaited, and what breaks it off need not be an exception.
-/

namespace Tablewright

/-- What happens while hooks run. -/
inductive HookEvent where
  /-- A hook starts on the data as it is then. -/
  | started (hook : String) (data : Value)
  | finished (hook : String)

/-- What running hooks leads to. -/
structure HookOutcome where
  /-- What happened, in order. -/
  events : List HookEvent := []
  /-- The data as the hooks left it. -/
  data : Value
  /-- Why the run ended early, if it did. -/
  failure : Option Fault := none

/-! ## Runs -/

/-- Runs one hook on the data. What cannot be called fails at once. -/
def runHook (hook data : Value) : HookOutcome :=
  match hook with
  | .hook h =>
    let (after, cause?) := performActions data h.actions
    match cause? with
    | none => { events := [.started h.name data, .finished h.name], data := after }
    | some cause =>
      { events := [.started h.name data], data := after, failure := some (.hookFailed hook cause) }
  | v => { data, failure := some (.hookFailed hook (unsupported v "is not callable")) }

/-- Runs hooks in order until one fails. -/
def runHooks (data : Value) : List Value → HookOutcome
  | [] => { data }
  | hook :: rest =>
    let first := runHook hook data
    match first.failure with
    | some _ => first
    | none =>
      let others := runHooks first.data rest
      { others with events := first.events ++ others.events }

mutual

/-- Whether a value can be copied with all it holds; a view of bytes cannot. -/
def isCopyable : Value → Bool
  | .bytes .view _ => false
  | .list items => areCopyable items
  | .tuple items => areCopyable items
  | .set _ items => areCopyable items
  | .dict entries => entriesCopyable entries
  | .record _ fields => fieldsCopyable fields
  | _ => true

/-- Whether every value of a list can be copied. -/
def areCopyable : List Value → Bool
  | [] => true
  | v :: rest => isCopyable v && areCopyable rest

/-- Whether every entry of a mapping can be copied. -/
def entriesCopyable : List (Value × Value) → Bool
  | [] => true
  | (k, v) :: rest => isCopyable k && isCopyable v && entriesCopyable rest

/-- Whether every field of an object can be copied. -/
def fieldsCopyable : List (String × Value) → Bool
  | [] => true
  | (_, v) :: rest => isCopyable v && fieldsCopyable rest

end

/-- The hooks that run: those that are not null. -/
def presentHooks (hooks : List Value) : List Value :=
  hooks.filter fun h => !h.isNull

/-- Runs the hooks of a list, on the data itself or on a copy. -/
def HookOutcome.ofRun (hooks : List Value) (data : Value) (isolate : Bool) : HookOutcome :=
  let present := presentHooks hooks
  if isolate && !present.isEmpty && !isCopyable data then
    { data, failure := some (.misuse .wrongType) }
  else runHooks data present

/-! ## Calls -/

/-- What ends the work of a hook early. -/
inductive HookBreak where
  /-- An exception. -/
  | exception (cause : HookCause)
  /-- What is no exception, such as a cancellation or an interruption from the keyboard. -/
  | interruption (kind text : String)

/-- How a part of the work of a hook ends. -/
inductive HookEnd where
  /-- Something is returned, which can be awaited or not. -/
  | returned (awaitable : Bool)
  /-- The work is broken off. -/
  | broken (how : HookBreak)

/-- What a part of the work of a hook comes to. -/
structure HookCall (σ : Type) where
  /-- What hooks keep to themselves. -/
  kept : σ
  /-- The data as the hook left it. -/
  data : Value
  /-- How it ends. -/
  ending : HookEnd

/-- How hooks behave: what calling one does to the data, and what awaiting what it returned does. -/
structure HookBehaviour (σ : Type) where
  /-- Calls a hook. -/
  call : Value → σ → Value → HookCall σ
  /-- Awaits what a hook returned. -/
  await : Value → σ → Value → HookCall σ

/-- Calls a hook, and awaits what it returns if that can be awaited. -/
def HookBehaviour.work {σ : Type} (b : HookBehaviour σ) (hook : Value) (kept : σ) (data : Value) :
    HookCall σ :=
  let called := b.call hook kept data
  match called.ending with
  | .returned true => b.await hook called.kept called.data
  | _ => called

/-- Does the actions of a hook; it notes that it starts, and that it finishes if it does. -/
def HookSpec.work (h : HookSpec Value) (events : List HookEvent) (data : Value) :
    HookCall (List HookEvent) :=
  match performActions data h.actions with
  | (after, none) =>
    { kept := events ++ [.started h.name data, .finished h.name], data := after
      ending := .returned false }
  | (after, some cause) =>
    { kept := events ++ [.started h.name data], data := after, ending := .broken (.exception cause) }

/-- Hooks do their actions when they are called, or those that are awaited, then. What cannot be
called fails at once. -/
def describedHooks : HookBehaviour (List HookEvent) where
  call
    | .hook h, events, data =>
      if h.awaited then { kept := events, data, ending := .returned true } else h.work events data
    | v, events, data =>
      { kept := events, data, ending := .broken (.exception (unsupported v "is not callable")) }
  await
    | .hook h, events, data => h.work events data
    | _, events, data => { kept := events, data, ending := .returned false }

/-! ## Where the data is -/

/-- The data while hooks run: the caller's, and the copy of it that they share in isolation. -/
structure HookStore where
  /-- The data of the caller. -/
  caller : Value
  /-- The copy, if there is one. -/
  copy? : Option Value := none

namespace HookStore

/-- The store for a run on the data itself or on a copy. -/
def ofData (data : Value) (isolate : Bool) : Except Fault HookStore :=
  if isolate then
    if isCopyable data then pure { caller := data, copy? := some data } else wrongType
  else pure { caller := data }

/-- The data that hooks are handed. -/
def target (s : HookStore) : Value :=
  s.copy?.getD s.caller

/-- The store after a hook changed the data that it was handed. -/
def change (s : HookStore) (data : Value) : HookStore :=
  match s.copy? with
  | some _ => { s with copy? := some data }
  | none => { s with caller := data }

end HookStore

/-! ## Runners -/

/-- Why a run ends early. -/
inductive HookStop where
  /-- Something is at fault. -/
  | fault (f : Fault)
  /-- What is no exception passes as it is. -/
  | interruption (kind text : String)

/-- What a run ends with if the work of a hook is broken off. -/
def HookBreak.stop (hook : Value) : HookBreak → HookStop
  | exception cause => .fault (.hookFailed hook cause)
  | interruption kind text => .interruption kind text

/-- What a run of hooks leads to. -/
structure HookRun (σ : Type) where
  /-- The hooks that were called, in order. -/
  called : List Value := []
  /-- What hooks keep to themselves. -/
  kept : σ
  /-- The data as the hooks left it, or why the run ended early. -/
  result : Except HookStop Value
  /-- The data of the caller. -/
  caller : Value

/-- Works off hooks in order until one is broken off. -/
def HookStore.run {σ : Type} (b : HookBehaviour σ) (store : HookStore) (kept : σ) :
    List Value → HookRun σ
  | [] => { kept, result := .ok store.target, caller := store.caller }
  | hook :: rest =>
    let c := b.work hook kept store.target
    let store := store.change c.data
    match c.ending with
    | .broken how =>
      { called := [hook], kept := c.kept, result := .error (how.stop hook), caller := store.caller }
    | .returned _ =>
      let others := store.run b c.kept rest
      { others with called := hook :: others.called }

/-- Hooks ready to run. -/
structure HookRunner where
  /-- The hooks, in order. -/
  hooks : List Value

namespace HookRunner

/-- Runs the hooks on the data of a caller; no copy is made where there is no hook. -/
def run {σ : Type} (b : HookBehaviour σ) (r : HookRunner) (kept : σ) (data : Value)
    (isolate : Bool) : HookRun σ :=
  if r.hooks.isEmpty then { kept, result := .ok data, caller := data }
  else
    match HookStore.ofData data isolate with
    | .ok store => store.run b kept r.hooks
    | .error f => { kept, result := .error (.fault f), caller := data }

/-- The runner for a list of hooks; null stands for an empty one. -/
def ofValue (v : Value) : Except Fault HookRunner := do
  pure ⟨presentHooks (← (← v.orEmptyList).items)⟩

/-- The name a hook is listed by. -/
def listedName : Value → String
  | .hook h => h.displayName
  | v => v.typeName

/-- The text of a runner. -/
def repr (r : HookRunner) : String :=
  "HookRunner(" ++ " -> ".intercalate (r.hooks.map listedName) ++ ")"

end HookRunner

end Tablewright
