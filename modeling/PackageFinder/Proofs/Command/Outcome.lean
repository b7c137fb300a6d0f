import PackageFinder.Command.Execute
import PackageFinder.Proofs.Command.Arguments
import PackageFinder.Proofs.Run.Calls

/-!
# How a search ends

A search either cannot be started, and then nothing is printed and nothing asked for, or it ends
with success and its report is printed, however much of it failed. Neither the logging that the
arguments ask for nor the filter of the log has a say in this. `Execution.eq_execute` reduces every
execution to the one that resolves the items one after the other, and `execute_congr` says what that
one depends on; `outcome_of_search` puts both together.
-/

namespace PackageFinder

/-- Settings depend on the environment only by the variables that are asked for. -/
lemma Settings.load_congr {env env' : Environment}
    (same : ∀ name ∈ Environment.names, env name = env' name) (files : Files)
    (configDirectory explicit : Option String) :
    Settings.load files env configDirectory explicit
      = Settings.load files env' configDirectory explicit := by
  simp only [Environment.names, List.forall_mem_cons] at same
  obtain ⟨path, -, -, endpoint, locale, pages, timeout, concurrency, mode, -⟩ := same
  simp only [Settings.load, Settings.source?, Settings.candidates, Settings.withEnvironment,
    Environment.value?, path, endpoint, locale, pages, timeout, concurrency, mode]

end PackageFinder

namespace PackageFinder.Command
open PackageFinder.Http

variable {around : Surroundings} {http : Client → Network} {arguments : List String}

/-! ## Executions -/

/-- What the command does when it resolves one item after the other is an execution. -/
lemma execution_execute (around : Surroundings) (http : Client → Network)
    (arguments : List String) :
    Execution around http arguments (execute around http arguments).1
      (execute around http arguments).2 := by
  unfold execute
  cases asked : Request.ofArguments arguments with
  | error e => exact .refused asked
  | ok request =>
    cases request with
    | help => exact .help asked
    | version => exact .version asked
    | search s =>
      simp only [Request.perform, search]
      cases started : start around s with
      | error e => exact .stopped asked started
      | ok made => exact .searched asked started (run_session _ _ _)

/-- Where no client can be made, that is the end of it. -/
lemma execute_of_error {s e} (asked : Request.ofArguments arguments = .ok (.search s))
    (started : start around s = .error e) :
    execute around http arguments = (e.outcome, (startNotes around s).map .log) := by
  simp only [execute, asked, Request.perform, search, started]

/-- Where one can be made, the search runs, and its report is what is written. -/
lemma execute_of_ok {s settings client} (asked : Request.ofArguments arguments = .ok (.search s))
    (started : start around s = .ok (settings, client)) :
    execute around http arguments
      = (.ofReport ((run settings s.query).result (http client)),
        (startNotes around s).map .log ++ (run settings s.query).trace (http client)) := by
  simp only [execute, asked, Request.perform, search, started]
  rfl

/-- Every execution ends in the same way and asks for the same, whatever the order in which its
detail pages are answered. -/
lemma Execution.eq_execute {outcome events} (ex : Execution around http arguments outcome events) :
    outcome = (execute around http arguments).1 ∧
      events.filterMap (·.call?) = (execute around http arguments).2.filterMap (·.call?) := by
  cases ex with
  | refused asked | help asked | version asked =>
    rw [execute, asked]
    exact ⟨rfl, rfl⟩
  | stopped asked started =>
    rw [execute_of_error asked started]
    exact ⟨rfl, rfl⟩
  | searched asked started r =>
    rw [execute_of_ok asked started, r.report_eq]
    refine ⟨rfl, ?_⟩
    rw [List.filterMap_append, List.filterMap_append, r.calls_eq, (run_session _ _ _).calls_eq]

/-! ## What the start depends on -/

/-- The filter of the log is not asked for. -/
lemma withFilter_env (around : Surroundings) (filter : Option String) {name : String}
    (h : name ∈ Environment.names) : (around.withFilter filter).env name = around.env name := by
  apply if_neg
  rintro rfl
  revert h
  decide

/-- A search starts in the same way whatever the filter of the log is, and whatever it looks for. -/
lemma start_withFilter (around : Surroundings) (filter : Option String) {s s' : Search}
    (config : s'.config = s.config) : start (around.withFilter filter) s' = start around s := by
  have same := Settings.load_congr (fun _ => withFilter_env around filter) around.files
    around.configDirectory s.config
  simp only [start, config]
  rw [← same]
  rfl

/-- What an execution comes to, and what it asks for, depends on how its search starts and on what
it looks for. -/
lemma execute_congr {around' arguments' s s'}
    (asked : Request.ofArguments arguments = .ok (.search s))
    (asked' : Request.ofArguments arguments' = .ok (.search s')) (query : s'.query = s.query)
    (started : start around' s' = start around s) :
    (execute around' http arguments').1 = (execute around http arguments).1 ∧
      (execute around' http arguments').2.filterMap (·.call?)
        = (execute around http arguments).2.filterMap (·.call?) := by
  cases h : start around s with
  | error e =>
    rw [execute_of_error asked h, execute_of_error asked' (started.trans h)]
    refine ⟨rfl, ?_⟩
    rw [Event.filterMap_call?_map_log, Event.filterMap_call?_map_log]
  | ok made =>
    rw [execute_of_ok asked h, execute_of_ok asked' (started.trans h), query]
    refine ⟨rfl, ?_⟩
    rw [List.filterMap_append, List.filterMap_append, Event.filterMap_call?_map_log,
      Event.filterMap_call?_map_log]

/-! ## Outcomes -/

/-- The command has failed before it asked the network for anything, and has printed nothing. -/
structure Stopped (a : Appearance) (events : List Event) : Prop where
  /-- It has failed. -/
  code_ne_zero : a.code ≠ 0
  /-- Nothing is printed. -/
  output_eq : a.output = ""
  /-- Nothing has been asked for. -/
  calls_eq : events.filterMap (·.call?) = []

/-- A search that cannot be started stops the command. -/
lemma stopped_of_error {s e} (asked : Request.ofArguments arguments = .ok (.search s))
    (started : start around s = .error e) {readFilter a events}
    (ap : Appears readFilter around http arguments a events) : Stopped a events := by
  cases ap with
  | of ex =>
    obtain ⟨ended, calls⟩ := ex.eq_execute
    rw [execute_of_error asked started] at ended calls
    subst ended
    exact ⟨Nat.one_ne_zero, rfl, calls.trans (Event.filterMap_call?_map_log _)⟩

/-- A search that can be started ends with success, and its report is printed. -/
lemma output_of_ok {s settings client} (asked : Request.ofArguments arguments = .ok (.search s))
    (started : start around s = .ok (settings, client)) {readFilter a events}
    (ap : Appears readFilter around http arguments a events) :
    a.code = 0 ∧ a.output = ((run settings s.query).result (http client)).render ++ "\n" := by
  cases ap with
  | of ex =>
    obtain ⟨ended, _⟩ := ex.eq_execute
    rw [execute_of_ok asked started] at ended
    subst ended
    exact ⟨rfl, rfl⟩

/-- For arguments that ask for a search, whatever the files, the variables and the answers of the
network, and in whatever order the detail pages are answered: if the settings cannot be loaded, or
no client can be made of them, the command fails, prints nothing and asks for nothing; otherwise it
succeeds, and prints the report of the run and the end of the line. With another filter of the log,
and with other arguments that ask for the same search, be it with or without logging, it starts,
ends, prints and asks in the same way; and the same search is asked for with logging by one more
option. -/
theorem outcome_of_search {q : Search} (asked : Request.ofArguments arguments = .ok (.search q))
    (readFilter : String → Option (Log.Entry → Bool)) (around : Surroundings)
    (http : Client → Network) :
    (∃ a events, Appears readFilter around http arguments a events) ∧
    ∀ a events, Appears readFilter around http arguments a events →
      (∀ cause,
        Settings.load around.files around.env around.configDirectory q.config = .error cause →
        Stopped a events) ∧
      (∀ settings,
        Settings.load around.files around.env around.configDirectory q.config = .ok settings →
        (∀ cause, Client.ofSettings settings.outgoing = .error cause → Stopped a events) ∧
        ∀ client, Client.ofSettings settings.outgoing = .ok client →
          a.code = 0 ∧ ∃ report,
            (∀ r, (∃ trace, Run (http client) settings q.query r trace) ↔ r = report) ∧
            a.output = report.render ++ "\n") ∧
      (∀ filter arguments' q', Request.ofArguments arguments' = .ok (.search q') →
        q'.query = q.query → q'.config = q.config →
        start (around.withFilter filter) q' = start around q ∧
        ∀ a' events', Appears readFilter (around.withFilter filter) http arguments' a' events' →
          a'.code = a.code ∧ a'.output = a.output ∧
          events'.filterMap (·.call?) = events.filterMap (·.call?)) ∧
      (q.verbose = false →
        Request.ofArguments ("--verbose" :: arguments)
          = .ok (.search { q with verbose := true })) := by
  refine ⟨⟨_, _, .of (execution_execute around http arguments)⟩, fun a events ap => ?_⟩
  refine ⟨?_, ?_, ?_, ofArguments_verbose asked⟩
  · intro cause failed
    have started : start around q = .error (.load cause) := by
      simp only [start, failed]
      rfl
    exact stopped_of_error asked started ap
  · intro settings loaded
    refine ⟨fun cause refused => ?_, fun client made => ?_⟩
    · have started : start around q = .error (.client cause) := by
        simp only [start, loaded, Except.mapError, bind, Except.bind, refused]
      exact stopped_of_error asked started ap
    · have started : start around q = .ok (settings, client) := by
        simp only [start, loaded, Except.mapError, bind, Except.bind, made]
        rfl
      obtain ⟨code, output⟩ := output_of_ok asked started ap
      exact ⟨code, _, fun r => exists_run_iff, output⟩
  · intro filter arguments' q' asked' query config
    have started := start_withFilter around filter config
    refine ⟨started, fun a' events' ap' => ?_⟩
    cases ap with
    | of ex =>
      cases ap' with
      | of ex' =>
        obtain ⟨ended, calls⟩ := ex.eq_execute
        obtain ⟨ended', calls'⟩ := ex'.eq_execute
        obtain ⟨same, asks⟩ := execute_congr asked asked' query started
        refine ⟨?_, ?_, calls'.trans (asks.trans calls.symm)⟩
        · exact congrArg Outcome.code (ended'.trans (same.trans ended.symm))
        · exact congrArg Outcome.output (ended'.trans (same.trans ended.symm))

/-- Surroundings without files, where only the endpoint is set. -/
def bareSurroundings : Surroundings where
  files _ := .error .notFound
  env name := if name = Environment.endpointName then some "x:y" else none
  configDirectory := none

/-- Where there are no files, a search that names one stops the command; one that names none
succeeds although nothing can be reached. -/
theorem outcome_of_search_bare :
    (∃ a events, Appears (fun _ => none) bareSurroundings (·.network (·.unanswered)) ["-cf", "x"] a
      events ∧ Stopped a events) ∧
    (∃ a events, Appears (fun _ => none) bareSurroundings (·.network (·.unanswered)) ["x"] a
      events ∧ a.code = 0) ∧
    Request.ofArguments ["--verbose", "x"] = .ok (.search ⟨"x", none, true⟩) := by
  have named : Request.ofArguments ["-cf", "x"] = .ok (.search ⟨"x", some "f", false⟩) := by
    decide +kernel
  have missing : Settings.load bareSurroundings.files bareSurroundings.env
      bareSurroundings.configDirectory (some "f") = .error (.file .notFound) := rfl
  have asked : Request.ofArguments ["x"] = .ok (.search ⟨"x", none, false⟩) := by decide +kernel
  have loaded : Settings.load bareSurroundings.files bareSurroundings.env
      bareSurroundings.configDirectory none = .ok ⟨{ endpoint := "x:y" }, {}, {}⟩ := by
    decide +kernel
  have made : Client.ofSettings {} = .ok ⟨30000000000, true, [], Client.defaultUserAgent⟩ := by
    decide +kernel
  obtain ⟨⟨a, events, ap⟩, all⟩ :=
    outcome_of_search named (fun _ => none) bareSurroundings (·.network (·.unanswered))
  obtain ⟨⟨a', events', ap'⟩, all'⟩ :=
    outcome_of_search asked (fun _ => none) bareSurroundings (·.network (·.unanswered))
  obtain ⟨_, searched, _, verbose⟩ := all' a' events' ap'
  obtain ⟨code, _⟩ := (searched _ loaded).2 _ made
  exact ⟨⟨a, events, ap, (all a events ap).1 _ missing⟩, ⟨a', events', ap', code⟩, verbose rfl⟩

end PackageFinder.Command
