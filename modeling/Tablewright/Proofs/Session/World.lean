import Tablewright.Proofs.Fallible
import Tablewright.Session.World

/-!
# Taking steps in a session

What a step does that is put together from others, and what it leaves alone: `Action.Keeps f x` says
that however `x` ends, `f` of the session is what it was before. `Action.Sends d x events` says what
`x` adds to the trace of a session with the database `d`, which it does not change: all of `events`
if it succeeds, the first of them if it fails.
-/

namespace Tablewright

open Fallible

variable {α β γ : Type} {s s' : Session} {d : Database} {e : Fault}

namespace Session

/-! ## Outcomes -/

/-- A computation outside of the session changes nothing in it. -/
@[simp] theorem perform_lift (s : Session) (x : Except Fault α) :
    s.perform (liftM x : Action α) = (x, s) := rfl

@[simp] theorem perform_get (s : Session) : s.perform (get : Action Session) = (.ok s, s) := rfl

@[simp] theorem perform_database (s : Session) :
    s.perform Action.database = (.ok s.database, s) := rfl

@[simp] theorem perform_modifyDatabase (s : Session) (f : Database → Database) :
    s.perform (Action.modifyDatabase f) = (.ok (), { s with database := f s.database }) := rfl

/-- **The second part is only taken where the first succeeded**, and from where it ended. -/
theorem perform_bind (s : Session) (x : Action α) (f : α → Action β) :
    s.perform (x >>= f) =
      match s.perform x with
      | (.ok a, t) => t.perform (f a)
      | (.error e, t) => (.error e, t) := by
  rw [perform, ExceptT.run_bind, StateT.run_bind]
  rcases hx : s.perform x with ⟨r, t⟩
  have hrun : StateT.run (ExceptT.run x) s = (r, t) := hx
  rw [hrun]
  cases r <;> rfl

theorem perform_bind_eq_ok {x : Action α} {f : α → Action β} {b : β} :
    s.perform (x >>= f) = (.ok b, s') ↔
      ∃ a t, s.perform x = (.ok a, t) ∧ t.perform (f a) = (.ok b, s') := by
  rw [perform_bind]
  rcases s.perform x with ⟨_ | a, t⟩ <;> simp

/-- Behind a computation outside of the session, a step goes on with its outcome. -/
theorem perform_lift_bind_eq_ok {x : Except Fault α} {f : α → Action β} {b : β} :
    s.perform (liftM x >>= f) = (.ok b, s') ↔ ∃ a, x = .ok a ∧ s.perform (f a) = (.ok b, s') := by
  rw [perform_bind, perform_lift]
  cases x <;> simp

/-- A step that fails has failed in one of its parts. -/
theorem perform_bind_eq_error {x : Action α} {f : α → Action β} :
    s.perform (x >>= f) = (.error e, s') ↔
      s.perform x = (.error e, s') ∨
        ∃ a t, s.perform x = (.ok a, t) ∧ t.perform (f a) = (.error e, s') := by
  rw [perform_bind]
  rcases s.perform x with ⟨_ | a, t⟩ <;> simp

/-- **Where a run over a list stops**: at the first item whose step fails. -/
theorem exists_of_perform_forM_eq_error {f : α → Action Unit} {xs : List α}
    (h : s.perform (xs.forM f) = (.error e, s')) :
    ∃ done x rest t, xs = done ++ x :: rest ∧ s.perform (done.forM f) = (.ok (), t) ∧
      t.perform (f x) = (.error e, s') := by
  induction xs generalizing s with
  | nil => cases h
  | cons x xs ih =>
    rw [List.forM, perform_bind_eq_error] at h
    rcases h with h | ⟨u, t, hx, h⟩
    · exact ⟨[], x, xs, s, rfl, rfl, h⟩
    · obtain ⟨done, y, rest, t', rfl, hdone, hy⟩ := ih h
      refine ⟨x :: done, y, rest, t', rfl, ?_, hy⟩
      rw [List.forM, perform_bind_eq_ok]
      exact ⟨u, t, hx, hdone⟩

/-- A run over a list that succeeds has taken a step for each item. -/
theorem exists_of_perform_forM_eq_ok {f : α → Action Unit} {xs : List α} {u : Unit}
    (h : s.perform (xs.forM f) = (.ok u, s')) {x : α} (hx : x ∈ xs) :
    ∃ t t' : Session, t.perform (f x) = (.ok (), t') := by
  induction xs generalizing s with
  | nil => cases hx
  | cons y xs ih =>
    obtain ⟨_, t, hy, h⟩ := perform_bind_eq_ok.1 h
    rcases List.mem_cons.1 hx with rfl | hx
    · exact ⟨s, t, hy⟩
    · exact ih h hx

/-- Computations outside of the session, one for each item of a list, change nothing in it. -/
theorem perform_mapM_lift (s : Session) (f : α → Except Fault β) (xs : List α) :
    s.perform (xs.mapM fun x => (liftM (f x) : Action β)) = (xs.mapM f, s) := by
  induction xs with
  | nil => rfl
  | cons x xs ih =>
    rw [List.mapM_cons, List.mapM_cons, perform_bind, perform_lift]
    cases f x with
    | error e => rfl
    | ok b =>
      show s.perform (xs.mapM (fun x => (liftM (f x) : Action β)) >>= fun bs => pure (b :: bs)) = _
      rw [perform_bind, ih]
      cases xs.mapM f <;> rfl

/-- The session without the lines it reported. -/
def silent (s : Session) : Session :=
  { s with world := { s.world with diagnostics := [] } }

theorem database_eq_of_silent (h : s'.silent = s.silent) : s'.database = s.database := by
  show s'.silent.database = s.silent.database
  rw [h]

theorem trace_eq_of_silent (h : s'.silent = s.silent) : s'.world.trace = s.world.trace := by
  show s'.silent.world.trace = s.silent.world.trace
  rw [h]

end Session

namespace Action

/-! ## What a step leaves alone -/

/-- However the step ends, `f` of the session is what it was. -/
def Keeps (f : Session → γ) (x : Action α) : Prop :=
  ∀ s, f (s.perform x).2 = f s

variable {f : Session → γ} {x : Action α}

/-- So `f` of the session in which it ends is what it was. -/
theorem Keeps.of_perform {r : Except Fault α} (h : Keeps f x) (hs : s.perform x = (r, s')) :
    f s' = f s := by
  rw [← h s, hs]

theorem Keeps.pure (f : Session → γ) (a : α) : Keeps f (pure a) := fun _ => rfl

theorem Keeps.lift (f : Session → γ) (x : Except Fault α) : Keeps f (liftM x : Action α) :=
  fun _ => rfl

theorem Keeps.database (f : Session → γ) : Keeps f Action.database := fun _ => rfl

/-- What both parts leave alone, both together leave alone. -/
theorem Keeps.bind {k : α → Action β} (hx : Keeps f x) (hk : ∀ a, Keeps f (k a)) :
    Keeps f (x >>= k) := by
  intro s
  have hfirst := hx s
  rw [Session.perform_bind]
  rcases hs : s.perform x with ⟨_ | a, t⟩ <;> rw [hs] at hfirst
  · exact hfirst
  · exact (hk a t).trans hfirst

theorem Keeps.ite {b : Bool} {y : Action α} (hx : Keeps f x) (hy : Keeps f y) :
    Keeps f (if b then x else y) := by
  cases b with
  | false => exact hy
  | true => exact hx

theorem Keeps.forM {k : α → Action Unit} (hk : ∀ a, Keeps f (k a)) (xs : List α) :
    Keeps f (xs.forM k) := by
  induction xs with
  | nil => exact Keeps.pure f ()
  | cons x xs ih =>
    rw [List.forM]
    exact (hk x).bind fun _ => ih

/-- A default that is called for a value is counted, and that is all. -/
theorem keeps_callDefault
    (hf : ∀ (s : Session) drawn, f { s with world := { s.world with drawn } } = f s)
    (source : Value) : Keeps f (callDefault source) := by
  unfold callDefault
  split
  · exact fun s => hf s _
  · exact Keeps.lift _ _

/-- Reporting adds a line at most. -/
theorem keeps_report (line : String) : Keeps Session.silent (report line) := by
  refine (Keeps.database _).bind fun d => (Keeps.lift _ _).bind fun b => Keeps.ite ?_ ?_
  · exact fun _ => rfl
  · exact Keeps.pure _ ()

/-- It succeeds when the setting it looks at is a condition. -/
theorem perform_report {b : Bool} (h : s.database.options.verbose.truth = .ok b) (line : String) :
    (s.perform (report line)).1 = .ok () := by
  rw [report, Session.perform_bind, Session.perform_database]
  show (s.perform (liftM s.database.options.verbose.truth >>= _)).1 = _
  rw [h, Session.perform_bind, Session.perform_lift]
  cases b <;> rfl

/-- And it fails, with nothing changed, when the setting is none. -/
theorem perform_report_of_error (h : s.database.options.verbose.truth = .error e) (line : String) :
    s.perform (report line) = (.error e, s) := by
  rw [report, Session.perform_bind, Session.perform_database]
  show s.perform (liftM s.database.options.verbose.truth >>= _) = _
  rw [h, Session.perform_bind, Session.perform_lift]

/-! ## What a step sends -/

/-- In a session with the database `d`, which the step does not change, it adds the given events to
the trace if it succeeds, and the first of them if it fails. -/
def Sends (d : Database) (x : Action α) (events : List Event) : Prop :=
  ∀ s : Session, s.database = d →
    (s.perform x).2.database = d ∧
      ∃ sent, sent <+: events ∧ (s.perform x).2.world.trace = s.world.trace ++ sent ∧
        ((s.perform x).1.isOk = true → sent = events)

variable {events more : List Event}

/-- What keeps all but the reported lines sends nothing. -/
theorem Keeps.sends (h : Keeps Session.silent x) (d : Database) : Sends d x [] := by
  intro s hd
  refine ⟨(Session.database_eq_of_silent (h s)).trans hd, [], List.nil_prefix, ?_, fun _ => rfl⟩
  rw [Session.trace_eq_of_silent (h s), List.append_nil]

/-- **What is sent part by part** is sent in order. -/
theorem Sends.bind {k : α → Action β} (hx : Sends d x events) (hk : ∀ a, Sends d (k a) more) :
    Sends d (x >>= k) (events ++ more) := by
  intro s hd
  obtain ⟨hdatabase, sent, hsent, htrace, hall⟩ := hx s hd
  rw [Session.perform_bind]
  rcases hs : s.perform x with ⟨_ | a, t⟩ <;> rw [hs] at hdatabase htrace hall
  · exact ⟨hdatabase, sent, hsent.trans (List.prefix_append _ _), htrace, nofun⟩
  · obtain ⟨hdatabase', sent', hsent', htrace', hall'⟩ := hk a t hdatabase
    obtain rfl : sent = events := hall rfl
    refine ⟨hdatabase', sent ++ sent', (List.prefix_append_right_inj _).2 hsent', ?_, fun h => ?_⟩
    · rw [htrace', htrace, List.append_assoc]
    · rw [hall' h]

/-- What is sent behind a computation outside of the session, which may fail before. -/
theorem Sends.lift_bind {y : Except Fault α} {k : α → Action β}
    (h : ∀ a, y = .ok a → Sends d (k a) events) : Sends d (liftM y >>= k) events := by
  cases y with
  | error e => exact fun s hd => ⟨hd, [], List.nil_prefix, (List.append_nil _).symm, nofun⟩
  | ok a => exact h a rfl

/-- What is sent once the database has been looked at. -/
theorem Sends.database_bind {k : Database → Action α} (h : Sends d (k d) events) :
    Sends d (Action.database >>= k) events := by
  intro s hd
  rw [Session.perform_bind, Session.perform_database]
  show (s.perform (k s.database)).2.database = d ∧ _
  rw [hd]
  exact h s hd

theorem Sends.forM {k : α → Action Unit} {sends : α → List Event}
    (hk : ∀ a, Sends d (k a) (sends a)) (xs : List α) : Sends d (xs.forM k) (xs.flatMap sends) := by
  induction xs with
  | nil => exact (Keeps.pure _ ()).sends d
  | cons x xs ih =>
    rw [List.forM, List.flatMap_cons]
    exact (hk x).bind fun _ => ih

/-- What a step that succeeds has sent. -/
theorem Sends.of_ok {a : α} (h : Sends s.database x events) (hs : s.perform x = (.ok a, s')) :
    s'.database = s.database ∧ s'.world.trace = s.world.trace ++ events := by
  obtain ⟨hdatabase, sent, -, htrace, hall⟩ := h s rfl
  rw [hs] at hdatabase htrace hall
  rw [← hall rfl]
  exact ⟨hdatabase, htrace⟩

/-- What a step that fails has sent. -/
theorem Sends.of_error (h : Sends s.database x events) (hs : s.perform x = (.error e, s')) :
    s'.database = s.database ∧ ∃ sent, sent <+: events ∧
      s'.world.trace = s.world.trace ++ sent := by
  obtain ⟨hdatabase, sent, hsent, htrace, -⟩ := h s rfl
  rw [hs] at hdatabase htrace
  exact ⟨hdatabase, sent, hsent, htrace⟩

/-! ## The engine -/

/-- The next answer is taken away, if there is one. -/
theorem perform_nextReply (s : Session) :
    s.perform nextReply =
      match s.world.replies with
      | [] => (.ok .nothing, s)
      | reply :: rest => (.ok reply, { s with world := { s.world with replies := rest } }) := by
  unfold nextReply
  rw [Session.perform_bind, Session.perform_get]
  dsimp only
  cases s.world.replies <;> rfl

/-- Taking an answer touches nothing but the answers. -/
theorem sends_nextReply (d : Database) : Sends d nextReply [] := by
  intro s hd
  rw [perform_nextReply]
  cases s.world.replies with
  | nil => exact ⟨hd, [], List.nil_prefix, (List.append_nil _).symm, fun _ => rfl⟩
  | cons reply rest => exact ⟨hd, [], List.nil_prefix, (List.append_nil _).symm, fun _ => rfl⟩

/-- An event that is recorded is in the trace. -/
theorem sends_record (d : Database) (event : Event) : Sends d (record event) [event] :=
  fun _ hd => ⟨hd, [event], List.prefix_rfl, rfl, fun _ => rfl⟩

/-- A step that only fails sends nothing. -/
theorem sends_throw (d : Database) (e : Fault) (events : List Event) :
    Sends d (throw e : Action α) events :=
  fun s hd => ⟨hd, [], List.nil_prefix, (List.append_nil s.world.trace).symm, nofun⟩

/-- Whatever the answer is, taking it in sends nothing more. -/
theorem sends_answer (d : Database) (reply : Reply) :
    Sends d
      (match reply with
        | .done rows rowCount lastRowId =>
          (pure (rows, rowCount, lastRowId) : Action (List Value × Value × Value))
        | .refused kind message => throw (.engine kind message)) [] := by
  cases reply with
  | done rows rowCount lastRowId => exact (Keeps.pure _ _).sends d
  | refused kind message => exact sends_throw d _ _

/-- **A statement is sent**, whatever the answer. -/
theorem sends_execute (d : Database) (sql : String) (params : List Value) :
    Sends d (execute sql params) [.executed sql params] := by
  rw [execute]
  refine (sends_record d _).bind fun _ => ((Keeps.database _).sends d).bind fun now => ?_
  by_cases hclosed : now.isClosed = true
  · rw [if_pos hclosed]
    exact sends_throw d _ _
  · rw [if_neg hclosed]
    by_cases hhouse : isHousekeeping sql = true
    · rw [if_pos hhouse]
      exact ((Keeps.pure _ _).sends d).bind (sends_answer d)
    · rw [if_neg hhouse]
      exact (sends_nextReply d).bind (sends_answer d)

/-- A statement that binds nothing is sent. -/
theorem sends_perform (d : Database) (sql : String) : Sends d (perform sql) [.executed sql []] :=
  (sends_execute d sql []).bind fun _ => (Keeps.pure _ ()).sends d

end Action

end Tablewright
