import TapeLang.Proofs.Reports
import TapeLang.Proofs.Streams

set_option autoImplicit false

/-!
# What the log is made of

The standard error stream shows records, prompts, errors and traces, one behind the other. Here the
log of each kind of report is taken apart into these entries, so that it can be said how many errors
are shown and which ones, whatever else is shown with them. Entries other than errors are there only
if they were asked for.

## Main definitions

* `TapeLang.Entry` — one thing that the standard error stream shows.
* `TapeLang.Options.Logs` — a log is made of entries that were asked for, with these errors.

## Main results

* `TapeLang.Options.Logs.eq_of_silent` — without records and prompts the errors are all there is.
* `TapeLang.Options.logs_runLog` — no error is shown before a run.
* `TapeLang.Options.logs_reportOutcome` — the only error that a run shows is the one that ended it.
-/

namespace TapeLang

/-- One thing that the standard error stream shows. -/
inductive Entry where
  /-- A record of the course of events. -/
  | info (text : String)
  /-- A record of the details. -/
  | debug (text : String)
  /-- A record that cannot be written. -/
  | unwritable
  /-- The prompt for the input of a number. -/
  | prompt (ordinal : ℕ)
  /-- An error. -/
  | error (text : String)
  /-- The trace of an error. -/
  | trace
  deriving DecidableEq

namespace Entry

/-- The log with an entry behind it. -/
def put (log : Log) : Entry → Log
  | info text => log.write ("INFO: " ++ text ++ "\n")
  | debug text => log.write ("DEBUG: " ++ text ++ "\n")
  | unwritable => (log.write "--- Logging error ---\n").trace
  | prompt ordinal => log.write ("Input " ++ toString ordinal ++ ":\n")
  | error text => log.write (text ++ "\n")
  | trace => log.trace

/-- The text of an error. -/
def error? : Entry → Option String
  | error text => some text
  | _ => none

/-- The options ask for an entry; errors are shown in any case. -/
def IsShown (o : Options) : Entry → Prop
  | info _ => o.shows 1
  | debug _ => o.shows 2
  | unwritable => o.shows 1
  | prompt _ => o.prompt
  | error _ => True
  | trace => o.verbosity ≠ 0

end Entry

/-- A log is made of entries that the options ask for, and these are the errors among them. -/
def Options.Logs (o : Options) (log : Log) (errors : List String) : Prop :=
  ∃ entries : List Entry, log = entries.foldl Entry.put .empty ∧
    (∀ e ∈ entries, e.IsShown o) ∧ entries.filterMap Entry.error? = errors

variable {o : Options} {log : Log} {errors : List String} {e : Entry} {source : String}
  {layout : Layout} {outcome : Outcome}

lemma Log.write_empty (log : Log) : log.write "" = log := by
  obtain ⟨text, ended⟩ := log
  cases ended
  · exact congrArg (mk · false) String.append_empty
  · rfl

namespace Options

/-! ## Entries behind a log -/

lemma logs_empty (o : Options) : o.Logs .empty [] :=
  ⟨[], rfl, List.forall_mem_nil _, rfl⟩

lemma Logs.put (h : o.Logs log errors) (he : e.IsShown o) :
    o.Logs (e.put log) (errors ++ e.error?.toList) := by
  obtain ⟨entries, rfl, hshown, rfl⟩ := h
  refine ⟨entries ++ [e], by rw [List.foldl_append]; rfl, ?_, ?_⟩
  · intro e' he'
    obtain he' | he' := List.mem_append.1 he'
    · exact hshown e' he'
    · rwa [List.mem_singleton.1 he']
  · rw [List.filterMap_append]
    cases e <;> rfl

/-- An entry that is no error shows none. -/
lemma Logs.put_of_error?_eq_none (h : o.Logs log errors) (he : e.IsShown o)
    (hnone : e.error? = none) : o.Logs (e.put log) errors := by
  have := h.put he
  rwa [hnone, Option.toList_none, List.append_nil] at this

lemma Logs.write_empty (h : o.Logs log errors) : o.Logs (log.write "") errors := by
  rwa [Log.write_empty]

lemma Logs.info (h : o.Logs log errors) (text : String) :
    o.Logs (log.write (o.info text)) errors := by
  unfold Options.info
  split
  · next hshown => exact h.put_of_error?_eq_none (e := .info text) hshown rfl
  · exact h.write_empty

lemma Logs.debug (h : o.Logs log errors) (text : String) :
    o.Logs (log.write (o.debug text)) errors := by
  unfold Options.debug
  split
  · next hshown => exact h.put_of_error?_eq_none (e := .debug text) hshown rfl
  · exact h.write_empty

lemma Logs.error (h : o.Logs log errors) (text : String) :
    o.Logs (log.write (text ++ "\n")) (errors ++ [text]) :=
  h.put (e := .error text) trivial

lemma Logs.internalError (h : o.Logs log errors) (message : String) :
    o.Logs (o.internalError log message)
      (errors ++ ["Internal interpreter error: " ++ message]) := by
  have herror := h.error ("Internal interpreter error: " ++ message)
  unfold Options.internalError
  dsimp only
  split
  · exact herror
  · next hverbose => exact herror.put_of_error?_eq_none (e := .trace) hverbose rfl

/-- Events show prompts only. -/
lemma Logs.prompts (h : o.Logs log errors) (events : List Event)
    (hprompt : ∀ n, .prompt n ∈ events → o.prompt) :
    o.Logs (log.write (Event.prompts events)) errors := by
  induction events generalizing log with
  | nil => exact h.write_empty
  | cons event events ih =>
    have hrest : ∀ n, .prompt n ∈ events → o.prompt := fun n hn => hprompt n (.tail _ hn)
    have hcons : Event.prompts (event :: events) = event.promptText ++ Event.prompts events :=
      String.join_cons
    rw [hcons, ← Log.write_write]
    cases event with
    | prompt n =>
      exact ih (h.put_of_error?_eq_none (e := .prompt n) (hprompt n (.head _)) rfl) hrest
    | write bytes => exact ih h.write_empty hrest
    | flush => exact ih h.write_empty hrest
    | promptFlush => exact ih h.write_empty hrest
    | read byte => exact ih h.write_empty hrest

/-- **If neither records nor prompts are asked for, the errors are all that is shown.** -/
lemma Logs.eq_of_silent (h : o.Logs log errors) (hprompt : o.prompt = false)
    (hverbosity : o.verbosity = 0) : log = ⟨String.join (errors.map (· ++ "\n")), false⟩ := by
  have hrecords (times : ℕ) (htimes : 0 < times) : o.shows times = false := by
    rw [shows, hverbosity, decide_eq_false (Nat.not_le.2 htimes), Bool.and_false]
  obtain ⟨entries, rfl, hshown, rfl⟩ := h
  suffices hput : ∀ text, entries.foldl Entry.put ⟨text, false⟩ =
      ⟨text ++ String.join ((entries.filterMap Entry.error?).map (· ++ "\n")), false⟩ by
    have := hput ""
    rwa [String.empty_append] at this
  induction entries with
  | nil => exact fun text => congrArg (Log.mk · false) String.append_empty.symm
  | cons e entries ih =>
    obtain ⟨he, hentries⟩ := List.forall_mem_cons.1 hshown
    intro text
    cases e with
    | error message =>
      have herror : (Entry.error message).error? = some message := rfl
      rw [List.foldl_cons, List.filterMap_cons_some herror, List.map_cons, String.join_cons,
        ← String.append_assoc]
      exact ih hentries _
    | info message => cases (hrecords 1 Nat.one_pos).symm.trans he
    | debug message => cases (hrecords 2 Nat.two_pos).symm.trans he
    | unwritable => cases (hrecords 1 Nat.one_pos).symm.trans he
    | prompt n => cases hprompt.symm.trans he
    | trace => exact absurd hverbosity he

/-! ## Logs before a run -/

lemma logs_openingLog (o : Options) (source : String) (layout : Layout) :
    o.Logs (o.openingLog source layout) [] := by
  have hsource : o.Logs (Log.empty.write (o.sourceRecord source)) [] := o.logs_empty.info _
  unfold openingLog
  dsimp only
  split
  · next hunwritable =>
    have hshown : o.shows 1 = true := (Bool.and_eq_true_iff.1 hunwritable).1
    exact hsource.put_of_error?_eq_none (e := .unwritable) hshown rfl
  · exact hsource.info _

lemma logs_textLog (o : Options) (source : String) (layout : Layout) :
    o.Logs (o.textLog source layout) [] :=
  (o.logs_openingLog source layout).debug _

lemma logs_programLog (o : Options) (source : String) (layout : Layout) (p : Program) :
    o.Logs (o.programLog source layout p) [] :=
  (o.logs_textLog source layout).debug _

/-- No error is shown before a run. -/
lemma logs_runLog (o : Options) (source : String) (layout : Layout) (p : Program) :
    o.Logs (o.runLog source layout p) [] :=
  (o.logs_programLog source layout p).debug _

/-! ## Logs of runs -/

/-- The text of an error that ends a run. -/
def errorText : RunError → String
  | .unknownNode kind => "Internal interpreter error: " ++ (RunError.unknownNode kind).message
  | e => "Runtime error: " ++ e.message

lemma Logs.closingRecords (h : o.Logs log errors) (s : State) :
    o.Logs (log.write (o.closingRecords s)) errors := by
  unfold Options.closingRecords
  rw [← Log.write_write, ← Log.write_write]
  exact ((h.debug _).info _).debug _

/-- The only error that a run shows is the one that ended it. -/
lemma logs_reportOutcome (h : o.Logs log []) (outcome : Outcome)
    (hprompt : ∀ n, .prompt n ∈ outcome.state.events → o.prompt) :
    ∃ log', (o.reportOutcome log outcome).stderr = log'.text ∧
      o.Logs log' (outcome.error.toList.map errorText) := by
  have hprompts := h.prompts outcome.state.events hprompt
  unfold reportOutcome
  dsimp only
  split
  · next hnone =>
    rw [hnone]
    exact ⟨_, rfl, hprompts.closingRecords _⟩
  · next hunknown =>
    rw [hunknown]
    exact ⟨_, rfl, hprompts.internalError _⟩
  · next e hknown herror =>
    rw [herror]
    have htext : errorText e = "Runtime error: " ++ e.message := by
      cases e with
      | unknownNode kind => exact (hknown kind rfl).elim
      | _ => rfl
    exact ⟨_, rfl, htext ▸ hprompts.error _⟩

end Options

/-- Without a stream for prompts a node has no event that shows one. -/
lemma State.prompt_not_mem_emittedBy {host : Host} {n : ℕ} (hstreams : host.prompt = false)
    (s : State) (node : Node) : .prompt n ∉ s.emittedBy host node := by
  cases node with
  | loop pos body | bare pos | block pos body => exact List.not_mem_nil
  | command c pos =>
    cases c with
    | output => cases hflush : host.flush <;> simp [emittedBy, emitted, hflush]
    | input => simp [emittedBy, emitted, hstreams]
    | _ => exact List.not_mem_nil

/-- Without a stream for prompts a run shows none. -/
lemma State.RunsTo.prompt_not_mem {host : Host} {p : Program} {s : State} {n : ℕ}
    (h : s.RunsTo host p outcome) (hstreams : host.prompt = false)
    (hs : .prompt n ∉ s.events) : .prompt n ∉ outcome.state.events := by
  refine (State.runsTo_iff.1 h).preserves (P := fun t => .prompt n ∉ t.events) ?_ ?_ hs
  · intro t c pos ht
    rw [t.events_perform, List.mem_append, not_or]
    exact ⟨ht, t.prompt_not_mem_emittedBy hstreams (.command c pos)⟩
  · intro t room node u ht hcut
    obtain ⟨begun, hbegun, hfirst, -⟩ := (within_of_cutOff? hcut).exists_events
    rw [hbegun, List.mem_append, not_or]
    exact ⟨ht, fun hmem => t.prompt_not_mem_emittedBy hstreams node (hfirst.subset hmem)⟩

end TapeLang
