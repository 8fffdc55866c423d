import Mathlib.Algebra.Ring.Nat
import TapeLang.Proofs.Causality
import TapeLang.Proofs.Performed

set_option autoImplicit false

/-!
# Exchanges with the streams

A run writes cells and asks for bytes, and every event of a run belongs to one such exchange. A
flush follows the cell that was written, and a prompt stands before the byte that is asked for.
Whether the output can be flushed and whether there are prompts changes nothing but that, as long as
the host has room for it. A run that is cut off may end in the middle of its last exchange.

## Main definitions

* `TapeLang.Exchange` — a cell is written, or a byte is asked for.
* `TapeLang.Exchange.events`, `TapeLang.Exchange.trace` — the events of one exchange, and of many.
* `TapeLang.State.exchange?` — the exchange of a command, if it has one.
* `TapeLang.Exchanged` — events are those of some exchanges, in order.
* `TapeLang.Event.isTransfer` — a cell is written or a byte is asked for in an event.
* `TapeLang.State.SameTransfers` — two states agree but for prompts and flushes.

## Main results

* `TapeLang.Line.exchanged` — the events of a run are those of its exchanges.
* `TapeLang.lockstep_streams` — a run and the run on another host stay together.
* `TapeLang.State.RunsTo.exists_withStreams` — a program comes to the same end with other optional
  streams.
* `TapeLang.run_exchanges` — the events of a run, and what other optional streams change in them.
* `TapeLang.run_exchanges_without_room` — a read that finds no byte may end in want of room.
-/

namespace TapeLang

/-- An exchange with the streams. -/
inductive Exchange where
  /-- A cell is written. -/
  | write (v : UInt8)
  /-- A byte is asked for and delivered, or none if the input is exhausted. -/
  | read (byte : Option UInt8)
  deriving DecidableEq

namespace Exchange

/-- The number of bytes that an exchange delivers. -/
def delivered : Exchange → ℕ
  | read (some _) => 1
  | _ => 0

/-- The events of an exchange. A cell that is written is flushed at once, if the output can be
flushed. Before a byte is asked for, a prompt shows the number of the reads before it, if there is a
stream for prompts. -/
def events (host : Host) (earlier : ℕ) : Exchange → List Event
  | write v => .write (cellBytes v) :: if host.flush then [.flush] else []
  | read byte =>
    (if host.prompt then [.prompt earlier, .promptFlush] else []) ++ [.read byte]

/-- The events of exchanges, one after another, behind a number of earlier reads. -/
def trace (host : Host) (earlier : ℕ) : List Exchange → List Event
  | [] => []
  | x :: xs => x.events host earlier ++ trace host (earlier + x.delivered) xs

end Exchange

/-- The exchange of a command, if it is one that writes or reads. -/
def State.exchange? (s : State) : Command → Option Exchange
  | .output => some (.write s.tape.current)
  | .input => some (.read s.input.head?)
  | _ => none

/-- The events behind `n` earlier reads are those of some exchanges and the beginning of one more,
which is empty unless the run is cut off. Only the last event may be a read that finds no byte. -/
structure Exchanged (host : Host) (root : Position) (n : ℕ) (new : List Event) (o : Outcome) :
    Prop where
  /-- The events are those of whole exchanges, and of one that was cut off. -/
  exists_trace : ∃ ys begun, new = Exchange.trace host n ys ++ begun ∧
    (begun = [] ∨ o.error = some (.nestingDepth root) ∧
      ∃ x : Exchange, begun <+: x.events host (n + (ys.map Exchange.delivered).sum))
  /-- Where a read finds no byte the run fails, or is cut off before it can fail. -/
  error_of_mem : .read none ∈ new →
    (∃ pos ordinal, o.error = some (.inputExhausted pos ordinal)) ∨
      o.error = some (.nestingDepth root)
  /-- A run that fails with an exhausted input has asked for a byte and found none. -/
  mem_of_error : (∃ pos ordinal, o.error = some (.inputExhausted pos ordinal)) → .read none ∈ new
  /-- Nothing happens behind a read that finds no byte. -/
  last : ∀ before after, new = before ++ .read none :: after → after = []

/-- An event in which a cell is written or a byte is asked for. -/
def Event.isTransfer : Event → Bool
  | write _ => true
  | flush => false
  | prompt _ => false
  | promptFlush => false
  | read _ => true

/-- The state `s'` agrees with `s` in all but prompts and flushes. -/
structure State.SameTransfers (s s' : State) : Prop where
  /-- The tape is the same. -/
  tape : s'.tape = s.tape
  /-- The same input is left. -/
  input : s'.input = s.input
  /-- The same number of reads was counted. -/
  reads : s'.reads = s.reads
  /-- The same number of writes was counted. -/
  writes : s'.writes = s.writes
  /-- The same cells were written and the same bytes were asked for, in the same order. -/
  transfers : s'.events.filter Event.isTransfer = s.events.filter Event.isTransfer

variable {host host' : Host} {root : Position} {c : Command} {pos : Position}
  {s s' : State} {o : Outcome} {x : Exchange} {xs : List Performed} {ys zs : List Exchange} {n : ℕ}

/-! ## Exchanges -/

namespace Exchange

/-- The events of an exchange count the bytes that it delivers. -/
lemma readCount_events : Event.readCount (x.events host n) = x.delivered := by
  cases x with
  | write v => cases hf : host.flush <;> simp [events, hf, delivered, Event.readCount,
      Event.isDelivery]
  | read byte =>
    cases hp : host.prompt <;> cases byte <;>
      simp [events, hp, delivered, Event.readCount, Event.isDelivery]

/-- The events of two lists of exchanges in a row. -/
lemma trace_append :
    trace host n (ys ++ zs) =
      trace host n ys ++ trace host (n + (ys.map delivered).sum) zs := by
  induction ys generalizing n with
  | nil => rfl
  | cons y ys ih =>
    rw [List.cons_append, trace, ih, trace, List.append_assoc, List.map_cons, List.sum_cons,
      Nat.add_assoc]

end Exchange

/-! ## The exchanges of a run -/

/-- The events of a command are those of its exchange. -/
lemma State.emitted_eq_trace (s : State) (host : Host) (c : Command) :
    s.emitted host c = Exchange.trace host s.reads (s.exchange? c).toList := by
  cases c with
  | moveRight | moveLeft | increment | decrement => rfl
  | output | input => exact (List.append_nil _).symm

/-- A command delivers the bytes of its exchange. -/
lemma State.reads_perform (s : State) (host : Host) (c : Command) (pos : Position) :
    (s.perform host c pos).state.reads =
      s.reads + ((s.exchange? c).toList.map Exchange.delivered).sum := by
  rw [(s.counters_perform host c pos).1]
  cases c with
  | moveRight | moveLeft | increment | decrement => rfl
  | output =>
    let x := Exchange.write s.tape.current
    show s.reads + Event.readCount (x.events host s.reads) = _
    rw [Exchange.readCount_events]
    rfl
  | input =>
    let x := Exchange.read s.input.head?
    show s.reads + Event.readCount (x.events host s.reads) = s.reads + (x.delivered + 0)
    rw [Exchange.readCount_events, Nat.add_zero]

/-- A command asks for a byte and finds none exactly if it fails with an exhausted input. -/
lemma State.read_none_mem_emitted_iff (pos : Position) :
    .read none ∈ s.emitted host c ↔ ∃ e, (s.perform host c pos).error = some e ∧ e.IsExhausted := by
  rw [exists_isExhausted_iff]
  cases c with
  | moveRight | moveLeft | increment | decrement => simp [emitted]
  | output => cases hf : host.flush <;> simp [emitted, hf]
  | input => cases hp : host.prompt <;> simp [emitted, hp, eq_comm]

/-- Nothing happens behind a read that finds no byte, in a command or in the beginning of one. -/
lemma State.eq_nil_of_emitted_eq {begun before after : List Event}
    (hbegun : begun <+: s.emitted host c) (h : begun = before ++ .read none :: after) :
    after = [] := by
  obtain ⟨rest, hrest⟩ := hbegun
  rw [h] at hrest
  cases c with
  | moveRight | moveLeft | increment | decrement => simp [emitted] at hrest
  | output =>
    have hmem : Event.read none ∈ s.emitted host .output := by simp [← hrest]
    cases hf : host.flush <;> simp [emitted, hf] at hmem
  | input =>
    have hcons : ∃ asked, Event.read none ∉ asked ∧
        asked ++ [.read s.input.head?] = before ++ .read none :: (after ++ rest) := by
      refine ⟨if host.prompt then [.prompt s.reads, .promptFlush] else [], ?_, ?_⟩
      · split <;> simp
      · rw [← List.cons_append, ← List.append_assoc, hrest]
        rfl
    obtain ⟨asked, hasked, heq⟩ := hcons
    rcases List.eq_nil_or_concat (after ++ rest) with hnil | ⟨front, last, hfront⟩
    · exact (List.append_eq_nil_iff.1 hnil).1
    · rw [hfront, List.concat_eq_append, ← List.cons_append, ← List.append_assoc] at heq
      rw [(List.append_inj' heq rfl).1] at hasked
      exact absurd (List.mem_append_right _ List.mem_cons_self) hasked

/-- What stands behind an element of two lists stands behind it in the second if it is not in the
first. -/
private lemma eq_nil_of_append_eq {e : Event} {front rest before after : List Event}
    (hfront : e ∉ front) (hrest : ∀ before after, rest = before ++ e :: after → after = [])
    (h : front ++ rest = before ++ e :: after) : after = [] := by
  rcases List.append_eq_append_iff.1 h with ⟨middle, -, hmiddle⟩ | ⟨middle, rfl, hmiddle⟩
  · exact hrest _ _ hmiddle
  · cases middle with
    | nil => exact hrest [] after hmiddle.symm
    | cons e' middle =>
      obtain ⟨rfl, -⟩ := List.cons.inj hmiddle
      exact absurd (List.mem_append_right _ List.mem_cons_self) hfront

/-- **The events of a line are those of its exchanges**, and every prompt shows the number of the
reads before it.

**Proof sketch.** Induction on the line. A command that is done has found a byte if it asked for
one, so only the last command may find none. -/
lemma Line.exchanged (h : Line host root s xs o) :
    ∃ new, o.state.events = s.events ++ new ∧ Exchanged host root s.reads new o := by
  induction h with
  | stop herr =>
    refine ⟨[], by simp, ⟨[], [], rfl, .inl rfl⟩, nofun, ?_, ?_⟩
    · rintro ⟨pos, ordinal, he⟩
      exact (herr _ he).elim
    · simp
  | @next c pos s xs o hok _ ih =>
    obtain ⟨new, hnew, ⟨ys, begun, rfl, hbegun⟩, hmem, herror, hlast⟩ := ih
    have hnot : .read none ∉ s.emitted host c := by
      rw [State.read_none_mem_emitted_iff pos, hok]
      simp
    have hsum (zs : List Exchange) :
        s.reads + (((s.exchange? c).toList ++ zs).map Exchange.delivered).sum =
          (s.perform host c pos).state.reads + (zs.map Exchange.delivered).sum := by
      rw [List.map_append, List.sum_append, ← Nat.add_assoc, ← s.reads_perform host c pos]
    refine ⟨s.emitted host c ++
        (Exchange.trace host (s.perform host c pos).state.reads ys ++ begun), ?_,
      ⟨(s.exchange? c).toList ++ ys, begun, ?_, hsum ys ▸ hbegun⟩, fun h => ?_,
      fun h => List.mem_append_right _ (herror h), fun before after h => ?_⟩
    · rw [hnew, s.events_perform, List.append_assoc]
    · rw [Exchange.trace_append, ← s.emitted_eq_trace, ← s.reads_perform host c pos,
        List.append_assoc]
    · exact hmem ((List.mem_append.1 h).resolve_left hnot)
    · exact eq_nil_of_append_eq hnot hlast h
  | @fail c pos s e herr =>
    refine ⟨s.emitted host c, s.events_perform host c pos,
      ⟨(s.exchange? c).toList, [], ?_, .inl rfl⟩, fun h => ?_, ?_,
      fun _ _ => State.eq_nil_of_emitted_eq (List.prefix_refl _)⟩
    · rw [List.append_nil, ← s.emitted_eq_trace]
    · obtain ⟨_, he, pos', ordinal, rfl⟩ := (State.read_none_mem_emitted_iff pos).1 h
      exact .inl ⟨pos', ordinal, he⟩
    · rintro ⟨pos', ordinal, he⟩
      exact (State.read_none_mem_emitted_iff pos).2 ⟨_, he, pos', ordinal, rfl⟩
  | @cutOff room c pos s t begun hcut hbegun =>
    obtain ⟨begun', hbegun', hfirst, -⟩ := (State.within_of_cutOff? hcut).exists_events
    obtain rfl : begun = begun' := List.append_cancel_left (hbegun.symm.trans hbegun')
    refine ⟨begun, hbegun, ⟨[], begun, rfl, ?_⟩, fun _ => .inr rfl, nofun,
      fun _ _ => State.eq_nil_of_emitted_eq hfirst⟩
    cases c with
    | moveRight | moveLeft | increment | decrement => exact .inl (List.prefix_nil.1 hfirst)
    | output => exact .inr ⟨rfl, .write s.tape.current, hfirst⟩
    | input => exact .inr ⟨rfl, .read s.input.head?, hfirst⟩

/-! ## Other optional streams -/

/-- A command does the same with other optional streams and other earlier events, but for its own
events. -/
lemma State.exists_perform_trace (s : State) (trace : List Event) (host host' : Host)
    (c : Command) (pos : Position) :
    ∃ trace', ({ s with trace } : State).perform host' c pos =
      ⟨{ (s.perform host c pos).state with trace := trace' },
        (s.perform host c pos).error⟩ := by
  cases c with
  | moveRight | moveLeft =>
    simp only [perform, move]
    split <;> exact ⟨trace, rfl⟩
  | increment | decrement => exact ⟨trace, rfl⟩
  | output => exact ⟨_, rfl⟩
  | input =>
    cases hp : host.prompt <;> cases hp' : host'.prompt <;> cases hi : s.input <;>
      simp [perform, ask, read, hp, hp', hi]

/-- Without prompts and flushes, the events of a command do not depend on the optional streams. -/
lemma State.filter_emitted (ht : s'.tape = s.tape) (hi : s'.input = s.input)
    (host host' : Host) (c : Command) :
    (s'.emitted host' c).filter Event.isTransfer =
      (s.emitted host c).filter Event.isTransfer := by
  cases c with
  | moveRight | moveLeft | increment | decrement => rfl
  | output =>
    cases hf : host.flush <;> cases hf' : host'.flush <;>
      simp [emitted, hf, hf', ht, List.filter_cons, Event.isTransfer]
  | input =>
    cases hp : host.prompt <;> cases hp' : host'.prompt <;>
      simp [emitted, hp, hp', hi, List.filter_cons, Event.isTransfer]

/-- **A command does the same with other optional streams**, but for prompts and flushes. -/
lemma State.SameTransfers.perform (h : s.SameTransfers s') (host host' : Host)
    (c : Command) (pos : Position) :
    (s.perform host c pos).state.SameTransfers (s'.perform host' c pos).state ∧
      (s'.perform host' c pos).error = (s.perform host c pos).error := by
  have hs' : s' = { s with trace := s'.trace } := by
    obtain ⟨tape, input, reads, writes, trace⟩ := s'
    obtain rfl : tape = _ := h.tape
    obtain rfl : input = _ := h.input
    obtain rfl : reads = _ := h.reads
    obtain rfl : writes = _ := h.writes
    rfl
  obtain ⟨trace', hperform⟩ := s.exists_perform_trace s'.trace host host' c pos
  rw [← hs'] at hperform
  refine ⟨⟨?_, ?_, ?_, ?_, ?_⟩, ?_⟩
  · rw [hperform]
  · rw [hperform]
  · rw [hperform]
  · rw [hperform]
  · rw [events_perform, events_perform, List.filter_append, List.filter_append, h.transfers,
      filter_emitted h.tape h.input host host']
  · rw [hperform]

/-- **A run and the run on another host stay together**, as long as neither is cut off. -/
lemma lockstep_streams (host host' : Host) (root : Position) :
    Lockstep host host' root root SameCommand State.SameTransfers (fun e e' => e' = e)
      (fun _ _ _ _ => False) True where
  zero_iff hs := by rw [hs.tape]
  frames_eq _ _ := .inr trivial
  go := by
    rintro room s s' c _ pos _ hs ⟨rfl, rfl⟩ h
    obtain ⟨hsame, herr⟩ := hs.perform host host' c pos
    obtain ⟨-, hok⟩ := State.stop?_command_eq_none_iff.1 h
    cases hcut : s'.cutOff? host' room (.command c pos) with
    | some t' => exact .inr ⟨trivial, t', rfl⟩
    | none => exact .inl ⟨State.stop?_command_eq_none_iff.2 ⟨hcut, herr.trans hok⟩, hsame⟩
  stop := by
    rintro room s s' c _ pos _ o hs ⟨rfl, rfl⟩ h
    obtain ⟨hsame, herr⟩ := hs.perform host host' c pos
    rcases State.stop?_command_eq_some_iff.1 h with ⟨t, -, rfl⟩ | ⟨-, ⟨e, he⟩, rfl⟩
    · exact .inr (.inr ⟨trivial, .inl rfl⟩)
    · cases hcut : s'.cutOff? host' room (.command c pos) with
      | some t' => exact .inr (.inr ⟨trivial, .inr ⟨t', rfl⟩⟩)
      | none =>
        have he' := herr.trans he
        refine .inl ⟨_, State.stop?_command_eq_some_iff.2 (.inr ⟨hcut, ⟨e, he'⟩, rfl⟩), hsame, ?_⟩
        rw [he, he']
        exact .some rfl
  nestingDepth := rfl
  unknownNode _ := rfl

/-- Prompts and flushes neither write nor read. -/
lemma Event.output_filter_isTransfer (events : List Event) :
    output (events.filter isTransfer) = output events ∧
      input (events.filter isTransfer) = input events := by
  induction events with
  | nil => exact ⟨rfl, rfl⟩
  | cons e events ih =>
    obtain ⟨hout, hin⟩ := ih
    cases e with
    | write bytes => exact ⟨congrArg (bytes ++ ·) hout, hin⟩
    | read byte => exact ⟨hout, congrArg ((read byte).readBytes ++ ·) hin⟩
    | flush | prompt | promptFlush => exact ⟨hout, hin⟩

/-- What is written and read is the same if all is the same but prompts and flushes. -/
lemma State.SameTransfers.output_eq (h : s.SameTransfers s') :
    s'.output = s.output ∧ s'.consumed = s.consumed := by
  obtain ⟨hout, hin⟩ := Event.output_filter_isTransfer s.events
  obtain ⟨hout', hin'⟩ := Event.output_filter_isTransfer s'.events
  rw [h.transfers] at hout' hin'
  exact ⟨hout'.symm.trans hout, hin'.symm.trans hin⟩

/-! ## Whole programs -/

/-- **A program comes to the same end with other optional streams**, unless it is cut off with some
of them. -/
lemma State.RunsTo.exists_withStreams {p : Program} (h : s.RunsTo host p o) (prompt flush : Bool) :
    o.error = some (.nestingDepth p.root) ∨ ∃ o', s.RunsTo (host.withStreams prompt flush) p o' ∧
      (o'.error = some (.nestingDepth p.root) ∨
        o.state.SameTransfers o'.state ∧ o'.error = o.error) := by
  have hself : s.clearCounters.SameTransfers s.clearCounters := ⟨rfl, rfl, rfl, rfl, rfl⟩
  rcases (lockstep_streams host (host.withStreams prompt flush) p.root).exists_runs
    (State.runsTo_iff.1 h) (alike_self p.body) hself with
    ⟨o', hruns, hsame, herr⟩ | ⟨_, _, _, _, _, _, _, _, -, -, -, hfalse, -⟩ |
      ⟨-, hcut | ⟨t', hruns⟩⟩
  · refine .inr ⟨o', State.runsTo_iff.2 hruns, .inr ⟨hsame, ?_⟩⟩
    generalize o.error = e, o'.error = e' at herr
    cases herr with
    | none => rfl
    | some herr => rw [herr]
  · exact hfalse.elim
  · exact .inl hcut
  · exact .inr ⟨_, State.runsTo_iff.2 hruns, .inl rfl⟩

/-- **The events of a run are those of its exchanges, in order.** A cell that is written is flushed
at once exactly if the output can be flushed, and a byte is asked for behind a prompt, which shows
the number of the reads before it in this run, exactly if there is a stream for prompts. Only a run
that is cut off may end in the middle of an exchange. Only the last event may be a read that finds
no byte; then the run fails with an exhausted input or is cut off, and it does not fail so
otherwise. What the events write and read is the output and the consumed input of the run, and the
counters count it, except for a cell whose flush was cut off. With other optional streams a program
that is not cut off comes to an end in the same way, unless it is cut off with them, and all is the
same but prompts and flushes. No run is cut off if 801 loops are nested. -/
theorem run_exchanges (host : Host) (p : Program) (s : State) (o : Outcome)
    (h : s.RunsTo host p o) :
    (∃ new, o.state.events = s.events ++ new ∧ Exchanged host p.root 0 new o ∧
      o.state.output = s.output ++ Event.output new ∧
      s.input = Event.input new ++ o.state.input ∧ o.state.reads = Event.readCount new ∧
      (o.state.writes = Event.writeCount new ∨
        ¬host.FlushesWrites ∧ o.error = some (.nestingDepth p.root) ∧
          o.state.writes + 1 = Event.writeCount new ∧
          ∃ bytes, new.getLast? = some (.write bytes))) ∧
    (∀ n, (Event.prompt n).promptText = "Input " ++ toString n ++ ":\n") ∧
    (∀ prompt flush, o.error ≠ some (.nestingDepth p.root) →
      ∃ o', s.RunsTo (host.withStreams prompt flush) p o' ∧
        (o'.error = some (.nestingDepth p.root) ∨
          o'.error = o.error ∧ o.state.SameTransfers o'.state ∧
            o'.state.output = o.state.output ∧ o'.state.consumed = o.state.consumed)) ∧
    (nesting p.body ≤ 801 → ∀ host' o', s.RunsTo host' p o' →
      o'.error ≠ some (.nestingDepth p.root)) := by
  have hruns := State.runsTo_iff.1 h
  refine ⟨?_, fun n => rfl, fun prompt flush he => ?_, fun hn _ _ h' => h'.ne_nestingDepth hn _⟩
  · obtain ⟨xs, hperforms⟩ := hruns.exists_performs
    obtain ⟨new, hnew, hexchanged⟩ := hperforms.line.exchanged
    obtain ⟨new', hnew', hreads, hwrites⟩ := hruns.exists_counts s.tallies_clearCounters
    obtain rfl : new = new' := List.append_cancel_left (hnew.symm.trans hnew')
    have hinput := hruns.consumed_append_input
    have hconsumed : o.state.consumed = s.consumed ++ Event.input new := by
      rw [State.consumed, hnew, Event.input_append]
      rfl
    refine ⟨new, hnew, hexchanged, ?_, ?_, hreads, hwrites⟩
    · rw [State.output, hnew, Event.output_append]
      rfl
    · rw [hconsumed, List.append_assoc] at hinput
      exact (List.append_cancel_left hinput).symm
  · rcases h.exists_withStreams prompt flush with hcut | ⟨o', h', hcut | ⟨hsame, herr⟩⟩
    · exact absurd hcut he
    · exact ⟨o', h', .inl hcut⟩
    · exact ⟨o', h', .inr ⟨herr, hsame, hsame.output_eq⟩⟩

/-- A program that echoes a byte and asks for another one that is not there, with prompts and
without a flush. With a flush and without prompts it does the same. -/
theorem run_exchanges_cut_off :
    let p : Program := ⟨.start, [.command .input ⟨1, 1⟩,
      .loop ⟨1, 2⟩ [.command .output ⟨1, 3⟩, .command .input ⟨1, 4⟩]]⟩
    let s : State := { tape := ⟨[], 0, []⟩, input := [200] }
    let new : List Event := [.prompt 0, .promptFlush, .read (some 200), .write [195, 136],
      .prompt 1, .promptFlush, .read none]
    let o : Outcome :=
      ⟨{ tape := ⟨[], 200, []⟩, reads := 1, writes := 1, trace := new.reverse },
        some (.inputExhausted ⟨1, 4⟩ 1)⟩
    let bare : Host := Host.usual.withStreams true false
    s.RunsTo bare p o ∧ Exchanged bare .start 0 new o ∧
      new = Exchange.trace bare 0 [.read (some 200), .write 200, .read none] ∧
      o.state.output = Event.output new ∧ s.input = Event.input new ++ o.state.input ∧
      o.state.reads = Event.readCount new ∧ o.state.writes = Event.writeCount new ∧
      o.error ≠ some (.nestingDepth .start) ∧ nesting p.body ≤ 801 ∧
      ∃ o', s.RunsTo .usual p o' ∧ o'.error = o.error ∧ o.state.SameTransfers o'.state ∧
        o'.state.output = o.state.output ∧ o'.state.consumed = o.state.consumed := by
  intro p s new o bare
  have h : s.RunsTo bare p o := ⟨9, by decide +kernel⟩
  have hn : nesting p.body ≤ 801 := by decide +kernel
  obtain ⟨⟨new', hevents, hexchanged, hout, hin, hreads, hwrites⟩, -, hother, hdepth⟩ :=
    run_exchanges bare p s o h
  obtain rfl : new = new' := hevents
  have he := hdepth hn bare o h
  obtain ⟨o', h', hcut | hsame⟩ := hother false true he
  · exact absurd hcut (hdepth hn _ o' h')
  · exact ⟨h, hexchanged, by decide, hout, hin, hreads,
      hwrites.resolve_right fun hcut => he hcut.2.1, he, hn, o', h', hsame⟩

/-- A read inside of 994 loops. No byte is found, and there is no room for the error that says so:
the run is cut off behind the read. -/
theorem run_exchanges_without_room :
    let p : Program := ⟨.start, .command .increment .start :: nest 994 [.command .input .start]⟩
    let s : State := { tape := ⟨[], 0, []⟩ }
    let o : Outcome :=
      ⟨{ tape := ⟨[], 1, []⟩, trace := [.read none] }, some (.nestingDepth .start)⟩
    s.RunsTo .usual p o ∧
      ¬(.read none ∈ o.state.events ↔
        ∃ pos ordinal, o.error = some (.inputExhausted pos ordinal)) := by
  intro p s o
  have hinside : Runs .usual .start 2 [.command .input .start] { tape := ⟨[], 1, []⟩ } o :=
    .cutOff rfl
  refine ⟨State.runsTo_iff.2 (.command rfl rfl
    (hinside.nest_broken (by decide) (by decide) 994)), ?_⟩
  intro hiff
  obtain ⟨pos, ordinal, he⟩ := hiff.1 (List.mem_singleton.2 rfl)
  cases he

end TapeLang
