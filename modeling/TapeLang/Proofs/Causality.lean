import TapeLang.Proofs.Endings
import TapeLang.Proofs.Lockstep
import TapeLang.Proofs.Nests
import TapeLang.Proofs.Streams

set_option autoImplicit false

/-!
# A run does not look ahead

What a run does depends only on the bytes that it reads. With more bytes behind its input a run does
the same, byte by byte, up to the read that finds the input exhausted; and if there is no such read,
it is the same to its end.

Where the room of the host ends this has two exceptions. A read that finds no byte needs frames for
its error, and with a byte it needs fewer. And a host that buffers its input may need other frames
for the same read if more bytes are left.

## Main definitions

* `TapeLang.Host.IgnoresInput` — the frames of a call do not depend on the bytes that are left.
* `TapeLang.State.feed` — a state with more bytes behind its input.
* `TapeLang.StopsAtEnd` — a run stops behind a read that found no byte.
* `TapeLang.ReadsOn` — one run ends at an exhausted input, and another does the same and goes on
  there with a read of its own.
* `TapeLang.Host.chunked` — a host that needs more frames for some reads than for others.

## Main results

* `TapeLang.lockstep_feed` — a run and the run with more input stay together.
* `TapeLang.readsOn_of_parts` — a run with more input goes on where the first run stopped.
* `TapeLang.run_feed` — what more input changes in a run.
* `TapeLang.run_feed_without_room` — where there is no room for an error, more input changes more.
-/

namespace TapeLang

/-- The frames that calls take do not depend on the bytes that are left to read. -/
def Host.IgnoresInput (host : Host) : Prop :=
  ∀ call trace input input', host.frames call trace input = host.frames call trace input'

/-- The state with more bytes behind its input. -/
def State.feed (s : State) (bytes : List UInt8) : State :=
  { s with input := s.input ++ bytes }

/-- The state `a` is left by a read that found no byte. The state `b` has come to the same read with
`bytes` behind the input, and whatever was done since was done behind it. -/
structure ReadsOn (bytes : List UInt8) (a b : State) : Prop where
  /-- No byte is left. -/
  exhausted : a.input = []
  /-- The events are the same up to the read. -/
  events_prefix : ∃ before, a.events = before ++ [.read none] ∧
    before ++ [.read bytes.head?] <+: b.events

/-- A read found no byte. -/
def RunError.IsExhausted (e : RunError) : Prop :=
  ∃ pos ordinal, e = .inputExhausted pos ordinal

/-- The calls of a read up to the one that asks for a byte. -/
def State.askCalls (s : State) (host : Host) : List (HostCall × State) :=
  s.promptCalls host ++ [(.read, s.ask host)]

/-- A run stops behind a read that found no byte: it has come to the read, and it fails, or there is
no room for the error. -/
structure StopsAtEnd (host : Host) (room : ℕ) (s : State) (c : Command) (o : Outcome) :
    Prop where
  /-- The command reads. -/
  command : c = .input
  /-- No byte is left. -/
  input : s.input = []
  /-- There was room for asking. -/
  fits : ∀ call ∈ s.askCalls host, host.frames call.1 call.2.trace call.2.input ≤ room
  /-- The read has happened. -/
  state : o.state = (s.ask host).log (.read none)

variable {s : State} {bytes : List UInt8} {host : Host} {root : Position} {c : Command}
  {pos : Position} {e : RunError} {room : ℕ}

/-! ## One command -/

/-- A command finds the input exhausted exactly if it reads and no byte is left. -/
lemma State.exists_isExhausted_iff :
    (∃ e, (s.perform host c pos).error = some e ∧ e.IsExhausted) ↔
      c = .input ∧ s.input = [] := by
  constructor
  · rintro ⟨_, h, pos', ordinal, rfl⟩
    rcases error_cases h with ⟨-, -, he⟩ | ⟨-, -, he⟩ | ⟨hc, hin, -⟩
    · cases he
    · cases he
    · exact ⟨hc, hin⟩
  · rintro ⟨rfl, hin⟩
    obtain ⟨-, hi, -, -⟩ := s.ask_frame host
    rw [perform, read_of_input_eq_nil (hi.trans hin)]
    exact ⟨_, rfl, _, _, rfl⟩

@[simp] lemma State.ask_feed (s : State) (host : Host) (bytes : List UInt8) :
    (s.feed bytes).ask host = (s.ask host).feed bytes := by
  cases hp : host.prompt <;> simp [ask, feed, hp]

/-- Behind the calls of a read up to the one that asks for a byte there is one more call, made with
the event of the read. -/
lemma State.exists_calls_input (s : State) (host : Host) :
    ∃ last, s.calls host .input = s.askCalls host ++ [last] ∧
      last.2.trace = .read s.input.head? :: (s.ask host).trace ∧
      (s.input = [] → last.2 = (s.ask host).log (.read none)) := by
  obtain ⟨-, hi, -, -⟩ := s.ask_frame host
  rw [calls, askCalls, readCalls, hi]
  cases s.input with
  | nil => exact ⟨_, (List.append_assoc _ [_] [_]).symm, rfl, fun _ => rfl⟩
  | cons v input =>
    exact ⟨_, (List.append_assoc _ [_] [_]).symm, rfl, fun h => absurd h (List.cons_ne_nil v input)⟩

/-- More input does not change the calls of a read up to the one that asks for a byte. -/
lemma State.askCalls_feed (s : State) (host : Host) (bytes : List UInt8) :
    (s.feed bytes).askCalls host = (s.askCalls host).map (Prod.map id (·.feed bytes)) := by
  cases hp : host.prompt with
  | false => simp [askCalls, promptCalls, hp]
  | true =>
    simp [askCalls, promptCalls, hp]
    rfl

/-- A read is cut off before it has asked for a byte, or behind the event of the read. -/
lemma State.cutOff?_input_cases (s : State) (host : Host) (room : ℕ) (pos : Position) :
    (∃ call, (s.askCalls host).find? (fun call => !fits host room call) = some call ∧
        s.cutOff? host room (.command .input pos) = some call.2) ∨
      (∀ call ∈ s.askCalls host, host.frames call.1 call.2.trace call.2.input ≤ room) ∧
        ∀ t, s.cutOff? host room (.command .input pos) = some t →
          t.trace = .read s.input.head? :: (s.ask host).trace ∧
            (s.input = [] → t = (s.ask host).log (.read none)) := by
  obtain ⟨last, hcalls, htrace, hnil⟩ := s.exists_calls_input host
  cases hfind : (s.askCalls host).find? (fun call => !fits host room call) with
  | some call => exact .inl ⟨call, rfl, by simp [cutOff?, nodeCalls, hcalls, hfind]⟩
  | none =>
    refine .inr ⟨by simpa [fits] using hfind, fun t ht => ?_⟩
    obtain rfl : last.2 = t := by
      simp only [cutOff?, nodeCalls, hcalls, List.find?_append, hfind, Option.none_or] at ht
      obtain ⟨call, hcall, rfl⟩ := Option.map_eq_some_iff.1 ht
      rw [List.mem_singleton.1 (List.mem_of_find?_eq_some hcall)]
    exact ⟨htrace, hnil⟩

/-- A command that does not find the input exhausted does the same with more input, by the same
calls. -/
lemma State.perform_feed (host : Host) (h : ¬(c = .input ∧ s.input = [])) (pos : Position)
    (bytes : List UInt8) :
    (s.feed bytes).perform host c pos =
        ⟨(s.perform host c pos).state.feed bytes, (s.perform host c pos).error⟩ ∧
      (s.feed bytes).calls host c = (s.calls host c).map (Prod.map id (·.feed bytes)) := by
  cases c with
  | moveRight | moveLeft =>
    simp only [perform, move, calls, moveCalls, feed]
    split <;> exact ⟨rfl, rfl⟩
  | increment => exact ⟨rfl, rfl⟩
  | decrement => exact ⟨rfl, rfl⟩
  | output => exact ⟨rfl, rfl⟩
  | input =>
    obtain ⟨v, input, hin⟩ := List.exists_cons_of_ne_nil fun hin => h ⟨rfl, hin⟩
    cases hp : host.prompt <;>
      simp [perform, ask, read, calls, promptCalls, readCalls, log, feed, hp, hin]

/-- The event of a read stands behind those before it, whether or not a byte was found. -/
lemma State.trace_read (s : State) (pos : Position) :
    (s.read pos).state.trace = .read s.input.head? :: s.trace := by
  cases hin : s.input <;> simp [read, hin]

/-- Behind the read at which the input is exhausted, a run with more input goes on with a read of
its own. -/
lemma StopsAtEnd.readsOn {o : Outcome} {t : State} (h : StopsAtEnd host room s c o)
    (ht : t.trace = .read bytes.head? :: ((s.feed bytes).ask host).trace) :
    ReadsOn bytes o.state t := by
  obtain ⟨-, hi, -, -⟩ := s.ask_frame host
  refine ⟨?_, (s.ask host).events, ?_, ?_⟩
  · rw [h.state]
    exact hi.trans h.input
  · simp [h.state, State.log, State.events]
  · rw [State.ask_feed] at ht
    simp [State.events, ht, State.feed]

/-- A run goes on behind an exhausted input by events behind those before. -/
lemma ReadsOn.of_prefix {a b b' : State} (h : ReadsOn bytes a b) (hb : b.events <+: b'.events) :
    ReadsOn bytes a b' := by
  obtain ⟨hex, before, ha, hpre⟩ := h
  exact ⟨hex, before, ha, hpre.trans hb⟩

/-- A read of an exhausted input for which there was room stops a run behind it. -/
lemma stopsAtEnd_perform (hin : s.input = [])
    (hfits : ∀ call ∈ s.askCalls host, host.frames call.1 call.2.trace call.2.input ≤ room)
    (pos : Position) : StopsAtEnd host room s .input (s.perform host .input pos) := by
  obtain ⟨-, hi, -, -⟩ := s.ask_frame host
  refine ⟨rfl, hin, hfits, ?_⟩
  rw [State.perform, State.read_of_input_eq_nil (hi.trans hin)]
  rfl

/-- There is as much room with more input if the frames of a call do not depend on it. -/
lemma State.fits_comp_feed (hhost : host.IgnoresInput) (room : ℕ) (bytes : List UInt8) :
    (fun call => !fits host room call) ∘ Prod.map id (·.feed bytes) =
      fun call => !fits host room call := by
  funext ⟨call, t⟩
  simp [fits, feed, hhost call t.trace (t.input ++ bytes) t.input]

/-- A read that is cut off before it has asked for a byte is cut off there with more input too. -/
lemma State.cutOff?_feed_of_find? {call : HostCall × State} (hhost : host.IgnoresInput)
    (h : (s.askCalls host).find? (fun call => !fits host room call) = some call)
    (bytes : List UInt8) (pos : Position) :
    (s.feed bytes).cutOff? host room (.command .input pos) = some (call.2.feed bytes) := by
  obtain ⟨last, hcalls, -⟩ := (s.feed bytes).exists_calls_input host
  rw [cutOff?, nodeCalls, hcalls, askCalls_feed, List.find?_append, List.find?_map,
    fits_comp_feed hhost, h]
  rfl

/-! ## Runs -/

/-- **A run and the run with more input stay together** as long as no read finds the input
exhausted. -/
lemma lockstep_feed (host : Host) (root : Position) (bytes : List UInt8) :
    Lockstep host host root root SameCommand (fun s s' => s' = s.feed bytes)
      (Lockstep.Counterpart id RunError.IsExhausted) (StopsAtEnd host) (¬host.IgnoresInput) := by
  refine .of_map (fun s c => c = .input ∧ s.input = []) (fun _ => Iff.rfl) ?_ ⟨rfl, nofun⟩
    (fun _ => ⟨rfl, nofun⟩) ?_ State.exists_isExhausted_iff.1 ?_ ?_
  · intro heven call t
    exact not_not.1 heven _ _ _ _
  · rintro s c pos _ _ ⟨rfl, rfl⟩ hfree
    obtain ⟨hperform, hcalls⟩ := State.perform_feed host hfree pos bytes
    exact ⟨by simpa using hperform, hcalls⟩
  · intro s c pos hfree herr
    obtain ⟨e, he, -⟩ := State.exists_isExhausted_iff.2 hfree
    cases herr.symm.trans he
  · rintro room s _ pos _ _ o ⟨rfl, rfl⟩ ⟨rfl, hin⟩ hstop
    rcases s.cutOff?_input_cases host room pos with ⟨call, hfind, hcut⟩ | ⟨hfits, hcut⟩
    · obtain rfl := Option.some.inj ((State.stop?_of_cutOff? hcut).symm.trans hstop)
      exact .inr ⟨_, rfl, fun heven =>
        State.cutOff?_feed_of_find? (not_not.1 heven) hfind bytes pos⟩
    · rcases State.stop?_command_eq_some_iff.1 hstop with ⟨t, ht, rfl⟩ | ⟨-, -, rfl⟩
      · exact .inl ⟨rfl, hin, hfits, (hcut t ht).2 hin⟩
      · exact .inl (stopsAtEnd_perform hin hfits pos)

variable {nodes : List Node} {o o' : Outcome}

/-- A run with more input that comes to the read at which the first run stopped goes on with a read
of its own.

**Proof sketch.** It is not cut off before the read: either the calls take the same frames, or the
run is not cut off at all. -/
lemma readsOn_of_parts
    (h : Lockstep.Parts host host root root SameCommand (fun s s' => s' = s.feed bytes)
      (StopsAtEnd host) room nodes (s.feed bytes) o)
    (h' : Runs host root room nodes (s.feed bytes) o')
    (heven : host.IgnoresInput ∨ o'.error ≠ some (.nestingDepth root)) :
    ReadsOn bytes o.state o'.state := by
  obtain ⟨room', u, _, c, _, pos, _, rest, rfl, ⟨rfl, rfl⟩, -, hstop, hv⟩ := h
  obtain rfl := hstop.command
  have hhead : (u.feed bytes).input.head? = bytes.head? := by
    simp [State.feed, hstop.input]
  have hread : ReadsOn bytes o.state ((u.feed bytes).perform host .input pos).state := by
    refine hstop.readsOn ?_
    rw [State.perform, State.trace_read]
    obtain ⟨-, hi, -, -⟩ := (u.feed bytes).ask_frame host
    rw [hi, hhead]
  refine hv.preserves_to_end (P := ReadsOn bytes o.state)
    (fun b c pos hb => hb.of_prefix (b.events_prefix_perform host c pos))
    (fun _ _ _ _ hb hcut => hb.of_prefix (State.events_prefix_of_cutOff? hcut))
    (fun o₁ h₁ herr => ?_) h'
  cases h₁ with
  | command _ _ hrest => exact hread.of_prefix hrest.events_prefix
  | fail _ _ => exact hread
  | @cutOff _ _ _ _ t hcut =>
    have hhost : host.IgnoresInput := heven.resolve_right fun hne => hne (herr _ rfl)
    rcases (u.feed bytes).cutOff?_input_cases host room' pos with ⟨call, hfind, -⟩ | ⟨-, hlast⟩
    · rw [State.askCalls_feed, List.find?_map, State.fits_comp_feed hhost] at hfind
      obtain ⟨call', hcall', -⟩ := Option.map_eq_some_iff.1 hfind
      have hroom := hstop.fits call' (List.mem_of_find?_eq_some hcall')
      simpa [State.fits, hroom] using List.find?_some hcall'
    · refine hstop.readsOn ?_
      rw [(hlast t hcut).1, hhead]

/-! ## Whole programs -/

/-- A run that stops behind an exhausted input ends with the event of a read that found no byte. -/
lemma trace_head?_of_parts
    (h : Lockstep.Parts host host root root SameCommand (fun s s' => s' = s.feed bytes)
      (StopsAtEnd host) room nodes (s.feed bytes) o) :
    o.state.trace.head? = some (.read none) ∧
      ((∃ pos ordinal, o.error = some (.inputExhausted pos ordinal)) ∨
        o.error = some (.nestingDepth root)) := by
  obtain ⟨room', u, _, c, _, pos, _, rest, rfl, -, hstops, hstop, -⟩ := h
  refine ⟨by rw [hstop.state]; rfl, ?_⟩
  rcases State.stop?_command_eq_some_iff.1 hstops with ⟨t, -, rfl⟩ | ⟨-, -, rfl⟩
  · exact .inr rfl
  · obtain ⟨_, he, pos, ordinal, rfl⟩ :=
      State.exists_isExhausted_iff.2 ⟨hstop.command, hstop.input⟩
    exact .inl ⟨pos, ordinal, he⟩

/-- A run at whose end the input was exhausted has read all of it, and a run with more input that
goes on from there reads more. -/
lemma ReadsOn.length_lt {s a b : State} (h : ReadsOn bytes a b) (hb : bytes ≠ [])
    (ha : a.consumed ++ a.input = s.consumed ++ s.input) :
    s.consumed.length + s.input.length < b.consumed.length := by
  obtain ⟨hex, before, hevents, hpre⟩ := h
  obtain ⟨v, rest, rfl⟩ := List.exists_cons_of_ne_nil hb
  have hall : Event.input before = s.consumed ++ s.input := by
    rw [← ha, hex, List.append_nil, State.consumed, hevents]
    simp [Event.input, Event.readBytes]
  have hread : Event.input before ++ [v] <+: b.consumed := by
    have hinput := Event.input_prefix hpre
    rwa [Event.input_append] at hinput
  have hlen := hread.length_le
  rw [hall] at hlen
  simp at hlen
  omega

/-- **A run does not look ahead.** If it neither ends at an exhausted input nor is cut off behind a
read that found no byte, it is the same with more bytes behind the input, which then are left over.
If it does end at an exhausted input, then a run with more input that comes to an end has written
the same before it goes on, its events begin with those of the first run up to the read that found
no byte, and it reads more than the first run had to read if there is more. Either of the runs may
be cut off elsewhere, but only if the frames of a call depend on the bytes that are left to read. No
run is cut off if 801 loops are nested. -/
theorem run_feed (host : Host) (p : Program) (s : State) (bytes : List UInt8) :
    (∀ o, s.RunsTo host p o → (∀ pos ordinal, o.error ≠ some (.inputExhausted pos ordinal)) →
      (o.error = some (.nestingDepth p.root) →
        host.IgnoresInput ∧ o.state.trace.head? ≠ some (.read none)) →
      (s.feed bytes).RunsTo host p ⟨o.state.feed bytes, o.error⟩ ∨
        ¬host.IgnoresInput ∧
          ∃ o', (s.feed bytes).RunsTo host p o' ∧ o'.error = some (.nestingDepth p.root)) ∧
    (∀ o o' pos ordinal, s.RunsTo host p o → o.error = some (.inputExhausted pos ordinal) →
      (s.feed bytes).RunsTo host p o' →
      (o.state.output <+: o'.state.output ∧
        (∃ before, o.state.events = before ++ [.read none] ∧ before <+: o'.state.events) ∧
        (bytes ≠ [] → s.consumed.length + s.input.length < o'.state.consumed.length)) ∨
      ¬host.IgnoresInput ∧ o'.error = some (.nestingDepth p.root)) ∧
    (nesting p.body ≤ 801 → ∀ (s' : State) o, s'.RunsTo host p o →
      o.error ≠ some (.nestingDepth p.root)) := by
  refine ⟨fun o h hex hdepth => ?_, fun o o' pos ordinal h he h' => ?_,
    fun hn _ _ h => h.ne_nestingDepth hn _⟩
  · rcases (lockstep_feed host p.root bytes).exists_runs_map (State.runsTo_iff.1 h)
      (alike_self p.body) with ⟨h', -⟩ | hparts | ⟨heven, hcut | ⟨t', ht'⟩⟩
    · rw [Option.map_id] at h'
      exact .inl (State.runsTo_iff.2 h')
    · obtain ⟨hhead, ⟨pos, ordinal, he⟩ | hcut⟩ := trace_head?_of_parts hparts
      · exact absurd he (hex pos ordinal)
      · exact absurd hhead (hdepth hcut).2
    · exact absurd (hdepth hcut).1 heven
    · exact .inr ⟨heven, _, State.runsTo_iff.2 ht', rfl⟩
  · have hruns := State.runsTo_iff.1 h
    have hruns' : Runs host p.root (host.room - 1) p.body (s.clearCounters.feed bytes) o' :=
      State.runsTo_iff.1 h'
    by_cases hcut : ¬host.IgnoresInput ∧ o'.error = some (.nestingDepth p.root)
    · exact .inr hcut
    have heven : host.IgnoresInput ∨ o'.error ≠ some (.nestingDepth p.root) := by
      by_cases hhost : host.IgnoresInput
      · exact .inl hhost
      · exact .inr fun he' => hcut ⟨hhost, he'⟩
    have hreads : ReadsOn bytes o.state o'.state := by
      rcases (lockstep_feed host p.root bytes).exists_runs_map hruns (alike_self p.body) with
        ⟨-, hapart⟩ | hparts | ⟨huneven, hcut' | ⟨t', ht'⟩⟩
      · exact absurd ⟨pos, ordinal, rfl⟩ (hapart _ he)
      · exact readsOn_of_parts hparts hruns' heven
      · cases he.symm.trans hcut'
      · cases hruns'.unique ht'
        exact absurd ⟨huneven, rfl⟩ hcut
    obtain ⟨before, hevents, hpre⟩ := hreads.events_prefix
    have hbefore : before <+: o'.state.events := (List.prefix_append _ _).trans hpre
    refine .inl ⟨?_, ⟨before, hevents, hbefore⟩, fun hb => ?_⟩
    · have hout : o.state.output = Event.output before := by
        rw [State.output, hevents]
        simp [Event.output, Event.written]
      rw [hout]
      exact Event.output_prefix hbefore
    · exact hreads.length_lt hb hruns.consumed_append_input

/-- A program that echoes its input up to a zero byte. With a zero byte it leaves what follows. With
one byte only it finds the input exhausted, and with a zero byte behind that it comes to an end. -/
theorem run_feed_echo :
    let p : Program := ⟨.start, [.command .input ⟨1, 1⟩,
      .loop ⟨1, 2⟩ [.command .output ⟨1, 3⟩, .command .input ⟨1, 4⟩]]⟩
    let s (input : List UInt8) : State := { tape := ⟨[], 0, []⟩, input }
    let whole : Outcome :=
      ⟨{ tape := ⟨[], 0, []⟩, reads := 2, writes := 1,
         trace := [.read (some 0), .flush, .write [7], .read (some 7)] }, none⟩
    let cut : Outcome :=
      ⟨{ tape := ⟨[], 7, []⟩, reads := 1, writes := 1,
         trace := [.read none, .flush, .write [7], .read (some 7)] },
        some (.inputExhausted ⟨1, 4⟩ 1)⟩
    Host.usual.IgnoresInput ∧ nesting p.body ≤ 801 ∧ (s [7, 0]).RunsTo .usual p whole ∧
      ((s [7, 0]).feed [9]).RunsTo .usual p ⟨whole.state.feed [9], none⟩ ∧
    (s [7]).RunsTo .usual p cut ∧ ((s [7]).feed [0]).RunsTo .usual p whole ∧
      cut.state.output <+: whole.state.output ∧
      (∃ before, cut.state.events = before ++ [.read none] ∧ before <+: whole.state.events) ∧
      (s [7]).consumed.length + (s [7]).input.length < whole.state.consumed.length ∧
      cut.error ≠ some (.nestingDepth .start) := by
  intro p s whole cut
  have hwhole : (s [7, 0]).RunsTo .usual p whole := ⟨9, rfl⟩
  have hcut : (s [7]).RunsTo .usual p cut := ⟨9, rfl⟩
  have hmore : ((s [7]).feed [0]).RunsTo .usual p whole := ⟨9, rfl⟩
  have heven : Host.usual.IgnoresInput := fun _ _ _ _ => rfl
  have hn : nesting p.body ≤ 801 := by decide +kernel
  have hfed := ((run_feed .usual p (s [7, 0]) [9]).1 whole hwhole (fun _ _ => nofun)
    nofun).resolve_right fun h => h.1 heven
  obtain ⟨hout, hevents, hlen⟩ := ((run_feed .usual p (s [7]) [0]).2.1 cut whole ⟨1, 4⟩ 1 hcut rfl
    hmore).resolve_right fun h => h.1 heven
  exact ⟨heven, hn, hwhole, hfed, hcut, hmore, hout, hevents, hlen (by decide),
    (run_feed .usual p (s [7]) [0]).2.2 hn _ cut hcut⟩

/-- A host that needs more frames for a read while more than one byte is left. -/
def Host.chunked : Host :=
  { Host.usual with
    frames := fun call _ input => if call = .read ∧ 1 < input.length then 3 else call.usualFrames
    frames_test_pos := fun _ _ => Nat.one_pos
    frames_le_room := fun call _ _ => by
      split
      · decide
      · exact Host.usual.frames_le_room call [] [] }

/-- A read inside of 994 loops. Where it finds no byte there is no room for the error, and so the
run is cut off. With a byte it comes to an end. With two bytes it is cut off again if the host needs
more frames for reading then. -/
theorem run_feed_without_room :
    let p : Program := ⟨.start, .command .increment .start :: nest 994 [.command .input .start]⟩
    let s : State := { tape := ⟨[], 0, []⟩ }
    let o : Outcome :=
      ⟨{ tape := ⟨[], 1, []⟩, trace := [.read none] }, some (.nestingDepth .start)⟩
    let done : Outcome := ⟨{ tape := ⟨[], 0, []⟩, reads := 1, trace := [.read (some 0)] }, none⟩
    (s.RunsTo .usual p o ∧ (∀ pos ordinal, o.error ≠ some (.inputExhausted pos ordinal)) ∧
      ¬(s.feed [0]).RunsTo .usual p ⟨o.state.feed [0], o.error⟩) ∧
    (s.feed [0]).RunsTo .chunked p done ∧
      ∃ o', ((s.feed [0]).feed [7]).RunsTo .chunked p o' ∧
        o'.error = some (.nestingDepth .start) := by
  intro p s o done
  have hinside : Runs .usual .start 2 [.command .input .start] { tape := ⟨[], 1, []⟩ } o :=
    .cutOff rfl
  have hbyte : Runs .usual .start 2 [.command .input .start]
      { tape := ⟨[], 1, []⟩, input := [0] } done :=
    .command rfl rfl .nil
  have hchunk : Runs .chunked .start 2 [.command .input .start]
      { tape := ⟨[], 1, []⟩, input := [0] } done :=
    .command rfl rfl .nil
  have hchunks : Runs .chunked .start 2 [.command .input .start]
      { tape := ⟨[], 1, []⟩, input := [0, 7] }
      ⟨{ tape := ⟨[], 1, []⟩, input := [0, 7] }, some (.nestingDepth .start)⟩ :=
    .cutOff rfl
  have hcut : ((s.feed [0]).feed [7]).RunsTo .chunked p
      ⟨{ tape := ⟨[], 1, []⟩, input := [0, 7] }, some (.nestingDepth .start)⟩ :=
    State.runsTo_iff.2 (.command rfl rfl (hchunks.nest_broken (by decide) (by decide) 994))
  refine ⟨⟨?_, fun _ _ => nofun, fun h => ?_⟩, ?_, _, hcut, rfl⟩
  · exact State.runsTo_iff.2 (.command rfl rfl (hinside.nest_broken (by decide) (by decide) 994))
  · have hdone := hbyte.nest_done (by decide) rfl (by decide) (by decide) 994
    cases (State.runsTo_iff.1 h).unique (.command rfl rfl hdone)
  · exact State.runsTo_iff.2
      (.command rfl rfl (hchunk.nest_done (by decide) rfl (by decide) (by decide) 994))

end TapeLang
