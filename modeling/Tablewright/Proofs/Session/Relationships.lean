import Tablewright.Proofs.Registry.Registered
import Tablewright.Proofs.Session.Logging
import Tablewright.Proofs.Session.Reachable

/-!
# What a database knows of relationships

A database is told of relationships by definitions and by registrations, one at a time and in
whatever order, and calls that fail come between. Written down in the order in which they were told
(`Session.registrations`), these are all that the database goes by: what it answers for a name are
the entries for that name, the models it lists are the names in the order of their first entries,
and it counts every entry (`Session.records_of_turns`). Nothing is ever taken back, and no other
call adds anything.
-/

namespace Tablewright

open Fallible

variable {α β γ : Type}

/-- A name that comes once more or for the first time, among the names in the order in which they
first came. -/
theorem eraseDups_append_of_eq {names more : List String} {name : String} (hne : more ≠ [])
    (h : ∀ n ∈ more, n = name) :
    (names ++ more).eraseDups =
      if name ∈ names.eraseDups then names.eraseDups else names.eraseDups ++ [name] := by
  rw [List.eraseDups_append]
  by_cases hmem : name ∈ names
  · have hnone : more.removeAll names = [] := by
      refine List.filter_eq_nil_iff.2 fun n hn => ?_
      rw [h n hn]
      simpa using hmem
    rw [hnone, if_pos (List.mem_eraseDups.2 hmem), List.eraseDups_nil, List.append_nil]
  · have hall : more.removeAll names = more := by
      refine List.filter_eq_self.2 fun n hn => ?_
      rw [h n hn]
      simpa using hmem
    obtain ⟨first, rest, rfl⟩ := List.exists_cons_of_ne_nil hne
    obtain ⟨rfl, hrest⟩ := List.forall_mem_cons.1 h
    have hrepeated : rest.filter (fun n => !n == first) = [] := by
      refine List.filter_eq_nil_iff.2 fun n hn => ?_
      rw [hrest n hn]
      simp
    rw [hall, List.eraseDups_cons, hrepeated, List.eraseDups_nil,
      if_neg (mt List.mem_eraseDups.1 hmem)]

/-- No name comes twice among them. -/
theorem nodup_eraseDups (names : List String) : names.eraseDups.Nodup := by
  induction hlength : names.length using Nat.strongRecOn generalizing names with
  | ind n ih =>
    cases names with
    | nil => exact List.nodup_nil
    | cons name rest =>
      have hshorter : (rest.filter fun other => !other == name).length < n := by
        rw [← hlength, List.length_cons]
        exact Nat.lt_succ_of_le (List.length_filter_le _ _)
      rw [List.eraseDups_cons, List.nodup_cons, List.mem_eraseDups, List.mem_filter]
      exact ⟨fun h => by simp at h, ih _ hshorter _ rfl⟩

/-! ## What the database goes by -/

namespace Database

variable {d d' : Database} {log entries : List (Value × Relationship)} {m : ResolvedModel}

/-- Under a name stands what is registered for it. -/
theorem relationships_of_text? {key : Value} {name : String} (h : key.text? = some name) :
    d.relationships key = d.registry.lookup name := by
  rw [Database.relationships, h]

theorem relationships_of_text?_eq_none {key : Value} (h : key.text? = none) :
    d.relationships key =
      (d.strayRelationships.filter fun e => key.same e.1).map Prod.snd := by
  rw [Database.relationships, h]

/-- **What a database knows of relationships is what was written down**: under each key the entries
for it, in order; as models the names in the order of their first entries; and as many relationships
as there are entries. -/
structure Records (d : Database) (log : List (Value × Relationship)) : Prop where
  /-- Under a key stand the entries for it. -/
  relationships : ∀ key, d.relationships key = (log.filter fun e => key.same e.1).map Prod.snd
  /-- Each name is listed where it first came. -/
  models : d.registry.models = (log.filterMap fun e => e.1.text?).eraseDups
  /-- Every entry counts, those under what can be no name as well. -/
  size : d.registry.size + d.strayRelationships.length = log.length

/-- Only the registry matters. -/
theorem Records.congr (h : d.Records log) (hregistry : d'.registry = d.registry)
    (hstray : d'.strayRelationships = d.strayRelationships) : d'.Records log where
  relationships key := by
    rw [← h.relationships key, Database.relationships, Database.relationships, hregistry, hstray]
  models := by rw [hregistry, h.models]
  size := by rw [hregistry, hstray, h.size]

/-- A database that knows nothing records nothing. -/
theorem records_nil (hregistry : d.registry = []) (hstray : d.strayRelationships = []) :
    d.Records [] where
  relationships key := by
    rw [Database.relationships, hregistry, hstray]
    cases key.text? <;> rfl
  models := by
    rw [hregistry]
    rfl
  size := by
    rw [hregistry, hstray]
    rfl

/-- **Relationships of one model are written behind all others.** -/
theorem Records.addRelationships {model : String} (h : d.Records log) (hne : entries ≠ [])
    (hentries : ∀ e ∈ entries, e.1.text? = some model) :
    (d.addRelationships model (entries.map Prod.snd)).Records (log ++ entries) where
  relationships key := by
    rw [List.filter_append, List.map_append, ← h.relationships key]
    cases htext : key.text? with
    | none =>
      have hother : entries.filter (fun e => key.same e.1) = [] := by
        refine List.filter_eq_nil_iff.2 fun e he hsame => ?_
        rw [Value.same_iff_of_text?_right (hentries e he), htext] at hsame
        cases hsame
      rw [hother, List.map_nil, List.append_nil, relationships_of_text?_eq_none htext,
        relationships_of_text?_eq_none htext]
      rfl
    | some name =>
      have hsame : ∀ e ∈ entries, key.same e.1 = true ↔ model = name := by
        intro e he
        rw [Value.same_iff_of_text? htext, hentries e he, Option.some_inj]
      rw [relationships_of_text? htext, relationships_of_text? htext]
      show (d.registry.register model _).lookup name = _
      rw [Registry.lookup_register]
      by_cases hname : model = name
      · rw [if_pos hname, List.filter_eq_self.2 fun e he => (hsame e he).2 hname]
      · rw [if_neg hname, List.filter_eq_nil_iff.2 fun e he => mt (hsame e he).1 hname,
          List.map_nil, List.append_nil]
  models := by
    have hnames : ∀ n ∈ entries.filterMap (fun e => e.1.text?), n = model := by
      intro n hn
      obtain ⟨e, he, htext⟩ := List.mem_filterMap.1 hn
      exact Option.some.inj (htext.symm.trans (hentries e he))
    have hsome : entries.filterMap (fun e => e.1.text?) ≠ [] := by
      obtain ⟨first, hfirst⟩ := List.exists_mem_of_ne_nil entries hne
      exact List.ne_nil_of_mem (List.mem_filterMap.2 ⟨first, hfirst, hentries first hfirst⟩)
    rw [List.filterMap_append, eraseDups_append_of_eq hsome hnames, ← h.models]
    exact Registry.models_register _ _ _
  size := by
    have hsize := Registry.size_register d.registry model (entries.map Prod.snd)
    have hknown := h.size
    rw [List.length_map] at hsize
    rw [List.length_append]
    show (d.registry.register model _).size + d.strayRelationships.length = _
    omega

theorem associate_of_text? {key : Value} {model : String} (h : key.text? = some model)
    (rel : Relationship) : d.associate key rel = d.addRelationships model [rel] := by
  rw [Database.associate, h]

theorem associate_of_text?_eq_none {key : Value} (h : key.text? = none) (rel : Relationship) :
    d.associate key rel =
      { d with strayRelationships := d.strayRelationships ++ [(key, rel)] } := by
  rw [Database.associate, h]

/-- **A relationship is written behind all others, under whatever key.** -/
theorem Records.associate (h : d.Records log) (key : Value) (rel : Relationship) :
    (d.associate key rel).Records (log ++ [(key, rel)]) := by
  cases htext : key.text? with
  | some model =>
    rw [associate_of_text? htext]
    have hnamed : ∀ e ∈ [(key, rel)], e.1.text? = some model := List.forall_mem_singleton.2 htext
    exact h.addRelationships (List.cons_ne_nil _ _) hnamed
  | none =>
    rw [associate_of_text?_eq_none htext]
    refine ⟨fun other => ?_, ?_, ?_⟩
    · rw [List.filter_append, List.map_append, ← h.relationships other]
      cases hother : other.text? with
      | none =>
        rw [relationships_of_text?_eq_none hother, relationships_of_text?_eq_none hother,
          List.filter_append, List.map_append]
      | some name =>
        -- a name never equals what can be no name
        have hdiffers : ¬ other.same key = true := by
          rw [Value.same_iff_of_text? hother, htext]
          exact nofun
        have hnone : [(key, rel)].filter (fun e => other.same e.1) = [] :=
          List.filter_eq_nil_iff.2 (List.forall_mem_singleton.2 hdiffers)
        rw [hnone, List.map_nil, List.append_nil, relationships_of_text? hother,
          relationships_of_text? hother]
    · have hnone : [(key, rel)].filterMap (fun e => e.1.text?) = [] :=
        List.filterMap_eq_nil_iff.2 (List.forall_mem_singleton.2 htext)
      rw [List.filterMap_append, hnone, List.append_nil]
      exact h.models
    · show d.registry.size + (d.strayRelationships ++ [(key, rel)]).length = _
      rw [List.length_append, List.length_append, ← h.size, Nat.add_assoc]

/-- The relationships of a model are written behind all others once it is remembered. -/
theorem Records.remember (h : d.Records log) (m : ResolvedModel) :
    (d.remember m).Records
      (log ++ m.definition.relationships.map fun rel => (.str m.name, rel)) := by
  have hadded : (d.addModel m).Records log := h.congr rfl rfl
  unfold Database.remember
  split
  case isTrue hnone =>
    rw [List.isEmpty_iff.1 hnone, List.map_nil, List.append_nil]
    exact hadded
  case isFalse hsome =>
    have hne : m.definition.relationships ≠ [] := mt List.isEmpty_iff.2 hsome
    have hentries : ∀ e ∈ m.definition.relationships.map fun rel => (Value.str m.name, rel),
        e.1.text? = some m.name := List.forall_mem_map.2 fun _ _ => rfl
    have hrecords := hadded.addRelationships (mt List.map_eq_nil_iff.1 hne) hentries
    rw [List.map_map] at hrecords
    have hsame : m.definition.relationships.map (Prod.snd ∘ fun rel => (Value.str m.name, rel)) =
        m.definition.relationships := List.map_id _
    rwa [hsame] at hrecords

end Database

/-! ## Steps that tell nothing -/

/-- What the database of a session knows of relationships. -/
def Session.known (s : Session) : Registry × List (Value × Relationship) :=
  (s.database.registry, s.database.strayRelationships)

namespace Action

variable {x : Action α}

/-- What leaves the database alone tells it nothing. -/
theorem keeps_known_of_database (h : Keeps Session.database x) : Keeps Session.known x :=
  fun s => congrArg (fun d : Database => (d.registry, d.strayRelationships)) (h s)

/-- What is made of parts leaves alone what its parts do. -/
theorem MadeOf.keeps {f : Session → γ} {Part : ⦃α : Type⦄ → Action α → Prop}
    (h : MadeOf Part x) (hpart : ∀ (α : Type) (x : Action α), Part x → Keeps f x) :
    Keeps f x := by
  induction h with
  | part h => exact hpart _ _ h
  | lift y => exact Keeps.lift f y
  | bind _ _ hx hk => exact hx.bind hk
  | @lift_bind _ _ y k _ hk =>
    cases y with
    | error e => exact fun _ => rfl
    | ok a => exact hk a rfl

theorem keeps_database_report (line : String) : Keeps Session.database (report line) :=
  keeps_database_of_sends fun d => (keeps_report line).sends d

theorem keeps_database_first (sql : String) (params : List Value) :
    Keeps Session.database (first sql params) :=
  (keeps_database_of_sends fun d => sends_execute d sql params).bind fun _ => Keeps.pure _ _

theorem keeps_database_log (e : LogEntry) : Keeps Session.database (log e) :=
  keeps_database_of_sends fun d => sends_log d e

theorem keeps_database_executeAll (statements : List SchemaStatement) (table source : String) :
    Keeps Session.database (executeAll statements table source) :=
  keeps_database_of_sends fun d => sends_executeAll d statements table source

/-- Sending a statement that writes changes the number of the last row only. -/
theorem keeps_known_run (sql : String) (params : List Value) :
    Keeps Session.known (run sql params) :=
  (keeps_known_of_database (keeps_database_of_sends fun d => sends_execute d sql params)).bind
    fun _ => Keeps.bind (fun _ => rfl) fun _ => Keeps.pure _ _

theorem keeps_known_runHookList (hooks : List Value) (data : Value) (isolate : Bool) :
    Keeps Session.known (runHookList hooks data isolate) := by
  intro s
  rw [perform_runHookList]
  rfl

end Action

namespace ResolvedModel

open Action

variable {m : ResolvedModel} {x : Action α}

theorem keeps_known_runWrite (operation : String) (statement : RowStatement) :
    Keeps Session.known (m.runWrite operation statement) :=
  (keeps_known_of_database (keeps_database_report _)).bind fun _ =>
    (keeps_known_run _ _).bind fun _ =>
    (keeps_known_of_database (keeps_database_log _)).bind fun _ => Keeps.pure _ _

/-- **No operation on rows tells anything of relationships.** -/
theorem keeps_known_call (m : ResolvedModel) (operation : String) (c : Call) :
    Keeps Session.known (m.call operation c) := by
  have hpart : ∀ (α : Type) (x : Action α), m.RowPart x → Keeps Session.known x := by
    intro α x h
    cases h with
    | time => exact fun _ => rfl
    | default source => exact keeps_callDefault (fun _ _ => rfl) source
    | lastRow => exact (Keeps.database _).bind fun _ => Keeps.pure _ _
    | hooks slot data isolate => exact keeps_known_runHookList _ _ _
    | first => exact keeps_known_of_database (keeps_database_first _ _)
    | rows =>
      exact keeps_known_of_database ((keeps_database_of_sends fun d => sends_execute d _ _).bind
        fun _ => Keeps.pure _ _)
    | write => exact keeps_known_runWrite _ _
  unfold call
  split
  · rename_i o _
    refine (Keeps.lift _ _).bind fun a => ?_
    by_cases ho : o = .truncate
    · subst ho
      exact keeps_known_runWrite _ _
    · exact (madeOf_perform a ho).keeps hpart
  · exact Keeps.lift _ _

end ResolvedModel

namespace Action

/-- A hook that is added changes its model only. -/
theorem keeps_known_addHook (m : ResolvedModel) (slot hook : Value) :
    Keeps Session.known (addHook m slot hook) := by
  unfold addHook
  split
  · exact fun _ => rfl
  · exact Keeps.lift _ _

theorem keeps_database_tableExists (table : Value) :
    Keeps Session.database (tableExists table) :=
  (keeps_database_first _ _).bind fun _ => Keeps.pure _ _

theorem Keeps.filterM {f : Session → γ} {p : α → Action Bool} (h : ∀ a, Keeps f (p a))
    (xs : List α) : Keeps f (xs.filterM p) := by
  have haux : ∀ (xs acc : List α), Keeps f (List.filterAuxM p xs acc) := by
    intro xs
    induction xs with
    | nil => exact fun acc => Keeps.pure f acc
    | cons x xs ih => exact fun acc => (h x).bind fun kept => ih _
  exact (haux xs []).bind fun _ => Keeps.pure f _

/-- Synchronizing sends statements only. -/
theorem keeps_database_sync (force : Value) : Keeps Session.database (sync force) := by
  have hcreate : ∀ (force : Bool) (tables : Mapping) (m : ResolvedModel),
      Keeps Session.database (createModel force tables m) := by
    intro force tables m
    have hrest : ∀ isThere : Bool, Keeps Session.database (do
        if isThere then pure false
        else
          executeAll (← m.schema tables) m.tableName "sync"
          pure true : Action Bool) := fun _ =>
      Keeps.ite (Keeps.pure _ _) ((Keeps.lift _ _).bind fun _ =>
        (keeps_database_executeAll _ _ _).bind fun _ => Keeps.pure _ _)
    exact Keeps.ite ((Keeps.pure _ _).bind hrest) ((keeps_database_tableExists _).bind hrest)
  refine (Keeps.database _).bind fun d => (Keeps.lift _ _).bind fun names => Keeps.bind ?_
    fun models => (Keeps.lift _ _).bind fun force => ?_
  · refine (Keeps.database _).bind fun d => fun s => ?_
    rw [Session.perform_mapM_lift]
  · have hrest : Keeps Session.database (do
        let made ← models.filterM fun m => createModel force d.tables m
        pure (made.map ResolvedModel.name) : Action (List String)) :=
      (Keeps.filterM (hcreate force d.tables) models).bind fun _ => Keeps.pure _ _
    exact Keeps.ite ((Keeps.forM (fun m => keeps_database_executeAll _ _ _) _).bind fun _ => hrest)
      hrest

end Action

/-! ## Runs of calls -/

/-- The relationship that a registration gives, and what it is registered for. -/
def Call.association (c : Call) : Except Fault (Value × Relationship) := do
  DatabaseOperation.relationshipOf (← DatabaseOperation.associate.arguments c)

/-- **What a registration does**: once its arguments are understood and its key is fit to be one,
the database is told. -/
theorem Action.perform_callAssociate {operation : String} (s : Session) (c : Call)
    (h : DatabaseOperation.ofName? operation = some .associate) :
    s.perform (Action.call operation c) =
      match c.association with
      | .ok (source, rel) =>
        match source.asKey with
        | .ok key =>
          (.ok (.value rel.toValue), { s with database := s.database.associate key rel })
        | .error e => (.error e, s)
      | .error e => (.error e, s) := by
  rw [Action.call, h, Call.association]
  show s.perform (liftM (DatabaseOperation.associate.arguments c) >>= _) = _
  rw [Session.perform_bind, Session.perform_lift]
  cases DatabaseOperation.associate.arguments c with
  | error e => rfl
  | ok a =>
    show s.perform (liftM (DatabaseOperation.relationshipOf a) >>= _) = _
    rw [Session.perform_bind, Session.perform_lift]
    rw [ok_bind rfl]
    rcases DatabaseOperation.relationshipOf a with e | ⟨source, rel⟩
    · rfl
    · dsimp only
      rw [Action.associate, bind_assoc, Session.perform_bind, Session.perform_lift]
      cases source.asKey <;> rfl

/-- What a call that ended in this way has told the database, in order. -/
def DatabaseCall.registers : DatabaseCall → Except Fault Answer → List (Value × Relationship)
  | define _, .ok (.model m) => m.definition.relationships.map fun rel => (.str m.name, rel)
  | ask operation c, .ok _ =>
    if DatabaseOperation.ofName? operation = some .associate then c.association.toOption.toList
    else []
  | _, _ => []

namespace DatabaseCall

open Action

variable {s : Session} {log : List (Value × Relationship)}

/-- Where a call leaves alone what is known, whatever its outcome tells, nothing is told. -/
theorem records_of_keeps {call : DatabaseCall} (h : s.database.Records log)
    (hkeeps : call.action.Keeps Session.known) (hnothing : ∀ outcome, call.registers outcome = []) :
    (s.perform call.action).2.database.Records
      (log ++ call.registers (s.perform call.action).1) := by
  have hknown := hkeeps s
  rw [hnothing, List.append_nil]
  exact h.congr (congrArg Prod.fst hknown) (congrArg Prod.snd hknown)

/-- Of the operations on a database only registering tells anything. -/
theorem keeps_known_call {operation : String} (c : Call)
    (h : DatabaseOperation.ofName? operation ≠ some .associate) :
    Keeps Session.known (Action.call operation c) := by
  unfold Action.call
  split
  · rename_i o ho
    refine (Keeps.lift _ _).bind fun a => ?_
    cases o with
    | associate => exact absurd ho h
    | relationships =>
      exact ((Keeps.lift _ _).bind fun _ => (Keeps.database _).bind fun _ => Keeps.pure _ _).bind
        fun _ => Keeps.pure _ _
    | sync => exact (keeps_known_of_database (keeps_database_sync _)).bind fun _ => Keeps.pure _ _
    | tableNames => exact (Keeps.database _).bind fun _ => Keeps.pure _ _
    | tableExists =>
      exact (keeps_known_of_database (keeps_database_tableExists _)).bind fun _ => Keeps.pure _ _
    | model =>
      exact (Keeps.database _).bind fun _ => (Keeps.lift _ _).bind fun _ => Keeps.pure _ _
    | close => exact Keeps.bind (fun _ => rfl) fun _ => Keeps.pure _ _
  · exact Keeps.lift _ _

/-- **Every call is written down**: behind it the database goes by what it went by before, and what
the call has told. -/
theorem records_of_call (h : s.database.Records log) (call : DatabaseCall) :
    (s.perform call.action).2.database.Records
      (log ++ call.registers (s.perform call.action).1) := by
  cases call with
  | define source =>
    rw [action, Session.perform_bind]
    rcases hs : s.perform (Action.define source) with ⟨e | m, t⟩
    · have hsame : t.database = s.database := (unchanged_of_perform_define hs).1
      show t.database.Records (log ++ [])
      rw [hsame, List.append_nil]
      exact h
    · have hremembered : t.database = s.database.remember m := database_of_perform_define hs
      show t.database.Records
        (log ++ m.definition.relationships.map fun rel => (.str m.name, rel))
      rw [hremembered]
      exact h.remember m
  | ask operation c =>
    by_cases hassociate : DatabaseOperation.ofName? operation = some .associate
    · rw [action, perform_callAssociate s c hassociate]
      have hunchanged : s.database.Records (log ++ []) := (List.append_nil log).symm ▸ h
      rcases hassociation : c.association with e | ⟨source, rel⟩
      · exact hunchanged
      · dsimp only
        cases hkey : source.asKey with
        | error e => exact hunchanged
        | ok key =>
          have hregisters : (ask operation c).registers (.ok (.value rel.toValue)) =
              [(source, rel)] := by
            rw [registers, if_pos hassociate, hassociation]
            rfl
          obtain rfl := Value.eq_of_asKey hkey
          dsimp only
          rw [hregisters]
          exact h.associate key rel
    · refine records_of_keeps h (keeps_known_call c hassociate) fun outcome => ?_
      cases outcome with
      | error e => rfl
      | ok answer => exact if_neg hassociate
  | contains name =>
    refine records_of_keeps h ?_ fun _ => rfl
    exact (Keeps.database _).bind fun _ => (Keeps.lift _ _).bind fun _ => Keeps.pure _ _
  | text =>
    refine records_of_keeps h ?_ fun _ => rfl
    exact (Keeps.database _).bind fun _ => Keeps.pure _ _
  | rows model operation c =>
    refine records_of_keeps h ?_ fun _ => rfl
    exact ((Keeps.database _).bind fun _ => (Keeps.lift _ _).bind fun m =>
      m.keeps_known_call operation c).bind fun _ => Keeps.pure _ _
  | addHook model c =>
    refine records_of_keeps h ?_ fun _ => rfl
    exact ((Keeps.database _).bind fun _ => (Keeps.lift _ _).bind fun m => (Keeps.lift _ _).bind
      fun _ => keeps_known_addHook m _ _).bind fun _ => Keeps.pure _ _
  | relationships model c =>
    refine records_of_keeps h ?_ fun _ => rfl
    exact ((Keeps.database _).bind fun _ => (Keeps.lift _ _).bind fun m => (Keeps.lift _ _).bind
      fun _ => ((Keeps.lift _ _).bind fun _ => (Keeps.database _).bind fun _ => Keeps.pure _ _).bind
      fun _ => Keeps.pure _ _).bind fun _ => Keeps.pure _ _

end DatabaseCall

namespace Session

/-- What the turns of a run tell the database, in order. -/
def registrations (s : Session) : List Turn → List (Value × Relationship)
  | [] => []
  | turn :: turns =>
    turn.call.registers (s.perform turn.action).1 ++ (s.perform turn.action).2.registrations turns

/-- **A run is written down turn by turn**, whether its calls succeed or not. -/
theorem records_after {s : Session} {log : List (Value × Relationship)}
    (h : s.database.Records log) (turns : List Turn) :
    (s.after Turn.action turns).database.Records (log ++ s.registrations turns) := by
  induction turns generalizing s log with
  | nil =>
    rw [registrations, List.append_nil]
    exact h
  | cons turn turns ih =>
    have hturn : (s.perform turn.action).2.database.Records
        (log ++ turn.call.registers (s.perform turn.action).1) := by
      rw [turn.perform_action s]
      exact DatabaseCall.records_of_call (s := turn.entered s) h turn.call
    rw [registrations, ← List.append_assoc]
    exact ih hturn

/-- **The registry only grows, in the order of the calls.** However a database is opened and then
called: under each key it knows what the definitions of that name and the registrations for it have
told, in order and with all repetitions; it lists the names in the order in which they were first
told of; and it counts what it knows of all of them. A call that fails tells nothing, whatever it
did before, and neither does one that reads what is known, whatever becomes of its answer. -/
theorem records_of_turns (location : String) (options : Options) (kind : DriverKind) (world : World)
    (turns : List Turn) :
    let start := (Session.opened location options kind world).2
    let d := (start.after Turn.action turns).database
    d.Records (start.registrations turns) ∧
      d.registry.size =
        (d.registry.models.flatMap fun name => d.relationships (.str name)).length := by
  intro start d
  have hstart : start.database.Records [] := by
    have hsame : start.database = _ := Action.keeps_database_setUp kind _
    exact Database.records_nil (by rw [hsame]) (by rw [hsame])
  have hrecords : d.Records (start.registrations turns) := records_after hstart turns
  have hnames : d.registry.models.Nodup := by
    rw [hrecords.models]
    exact nodup_eraseDups _
  exact ⟨hrecords, Registry.size_eq_length hnames⟩

end Session

/-! ## Pages and books -/

/-- Pages are defined, as belonging to a book. -/
def definingPages (replies : List Reply) : Turn :=
  { call :=
      .define (.built
        { name := .str "Page", timestamps := .bool false
          columns := [(.str "bookId", { type := .str "INTEGER" })]
          relationships :=
            [{ kind := .belongsTo, target := .str "Book", foreignKey := .str "bookId" }] })
    now := noonSession.world.now
    replies }

/-- A relationship is registered. -/
def relating (source kind target : String) : Turn :=
  { call := .ask "associate" { args := [.str source, .str kind, .str target] }
    now := noonSession.world.now
    replies := [] }

/-- Pages are told of before they are defined; a definition that the engine refuses, a second one,
and a relationship of no known kind tell nothing. -/
def pageTurns : List Turn :=
  [relating "Page" "has_many" "Note", definingPages [.refused "OperationalError" "disk I/O error"],
   relating "Book" "has_many" "Page", definingPages [], definingPages [],
   relating "Page" "has_some" "Note"]

example :
    let d := ((Session.opened "app.db" {} .own noonSession.world).2.after Turn.action
      pageTurns).database
    d.registry.models = ["Page", "Book"] ∧ d.registry.size = 3 ∧
      (d.relationships (.str "Page")).map (·.target.text?) = [some "Note", some "Book"] := by
  decide +kernel

end Tablewright
