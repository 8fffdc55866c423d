import TapeLang.Proofs.Points

set_option autoImplicit false

/-!
# What a run does to the streams

All events of a run come from its commands. A command puts its events behind those before it, takes
a byte from the front of the input if it reads one, and counts what it reads and writes. All three
are said of one command first; they hold of a run because it does nothing else.

A command that is cut off has put some of its events behind those before it. It has counted them
too, with one exception: a cell is counted when the output is flushed behind it, and so a cell that
was written is not counted if there is no room for the flush. In memory there always is.

## Main definitions

* `TapeLang.Event.readCount`, `TapeLang.Event.writeCount` — how many bytes were delivered and how
  many cells were written by events.
* `TapeLang.Event.PromptsCount` — every prompt shows how many bytes were delivered before it.
* `TapeLang.State.emitted` — the events of a command.
* `TapeLang.State.Within` — a state is met inside of a node.
* `TapeLang.State.Tallies` — the counters of a state are those of a list of events.
* `TapeLang.State.GoesOn` — a state comes after another one in a run.

## Main results

* `TapeLang.State.events_perform` — a command puts its events behind those before it.
* `TapeLang.State.within_of_cutOff?` — a node that is cut off has begun with its events.
* `TapeLang.Runs.consumed_append_input` — no byte of the input is lost, doubled or moved.
* `TapeLang.Runs.events_prefix` — no event is taken back.
* `TapeLang.Runs.goesOn_or_cutOff`, `TapeLang.Visits.goesOn` — all states of a run come after the
  first one, except that the last command may be cut off.
* `TapeLang.Runs.exists_counts` — the counters count what a run reads and writes, except for a cell
  whose flush was cut off.
* `TapeLang.Runs.goesOn` — in memory the state of a command that is cut off comes after it too.
-/

namespace TapeLang

namespace Event

/-- A read that delivers a byte. -/
def isDelivery : Event → Bool
  | read (some _) => true
  | _ => false

/-- A write of a cell. -/
def isWrite : Event → Bool
  | write _ => true
  | _ => false

/-- The number of reads that delivered a byte. -/
def readCount (events : List Event) : ℕ :=
  events.countP isDelivery

/-- The number of cells that were written. -/
def writeCount (events : List Event) : ℕ :=
  events.countP isWrite

/-- Every prompt shows the number of bytes that were delivered before it. -/
def PromptsCount (events : List Event) : Prop :=
  ∀ before n after, events = before ++ prompt n :: after → n = readCount before

variable {events : List Event} {e : Event}

@[simp] lemma readCount_append (xs ys : List Event) :
    readCount (xs ++ ys) = readCount xs + readCount ys :=
  List.countP_append

@[simp] lemma writeCount_append (xs ys : List Event) :
    writeCount (xs ++ ys) = writeCount xs + writeCount ys :=
  List.countP_append

/-- As many bytes are read as reads deliver one. -/
lemma length_input (events : List Event) : (input events).length = readCount events := by
  induction events with
  | nil => rfl
  | cons e events ih =>
    have hfirst : e.readBytes.length = readCount [e] := by
      cases e with
      | read byte => cases byte <;> rfl
      | write | flush | prompt | promptFlush => rfl
    rw [← List.singleton_append, input_append, readCount_append, List.length_append, ih, ← hfirst]
    simp [input]

/-- Events in front of others wrote what the others wrote first. -/
lemma output_prefix {xs ys : List Event} (h : xs <+: ys) : output xs <+: output ys := by
  obtain ⟨zs, rfl⟩ := h
  rw [output_append]
  exact List.prefix_append _ _

/-- Events in front of others read what the others read first. -/
lemma input_prefix {xs ys : List Event} (h : xs <+: ys) : input xs <+: input ys := by
  obtain ⟨zs, rfl⟩ := h
  rw [input_append]
  exact List.prefix_append _ _

/-- The prompts among the first events are right if all of them are. -/
lemma PromptsCount.of_prefix {first : List Event} (h : PromptsCount events)
    (hfirst : first <+: events) : PromptsCount first := by
  obtain ⟨last, rfl⟩ := hfirst
  rintro before n after rfl
  exact h before n (after ++ last) (by simp)

lemma promptsCount_nil : PromptsCount [] := by
  intro before n after h
  simp at h

/-- An event keeps the prompts right if it is no prompt, or one with the right number. -/
lemma PromptsCount.concat (h : PromptsCount events)
    (he : ∀ n, e = prompt n → n = readCount events) : PromptsCount (events ++ [e]) := by
  intro before n after heq
  rcases List.eq_nil_or_concat after with rfl | ⟨after', last, rfl⟩
  · obtain ⟨rfl, hlast⟩ := List.append_inj' heq rfl
    exact he n (List.singleton_inj.1 hlast)
  · have hinit : events = before ++ prompt n :: after' := by
      rw [List.concat_eq_append, ← List.cons_append, ← List.append_assoc] at heq
      exact (List.append_inj' heq rfl).1
    exact h before n after' hinit

end Event

namespace State

/-- The events of a command. -/
def emitted (s : State) (host : Host) : Command → List Event
  | .output => .write (cellBytes s.tape.current) :: if host.flush then [.flush] else []
  | .input =>
    (if host.prompt then [.prompt s.reads, .promptFlush] else []) ++ [.read s.input.head?]
  | _ => []

/-- The counters of a state count the events of a list, and so did the prompts among them. -/
structure Tallies (s : State) (events : List Event) : Prop where
  /-- The bytes that were delivered are counted. -/
  reads : s.reads = Event.readCount events
  /-- The cells that were written are counted. -/
  writes : s.writes = Event.writeCount events
  /-- Every prompt shows the count of its moment. -/
  prompts : Event.PromptsCount events

variable {s : State} {host : Host} {c : Command} {pos : Position} {events : List Event}

/-! ## One command -/

/-- A command that moves the pointer leaves all but the tape as it is. -/
lemma move_frame (s : State) (pos : Position) (d : Direction) :
    ∃ tape, (s.move pos d).state = { s with tape } := by
  rw [move]
  cases s.tape.move? d with
  | none => exact ⟨s.tape, rfl⟩
  | some tape => exact ⟨tape, rfl⟩

/-- **A command puts its events behind those before it.** -/
lemma events_perform (s : State) (host : Host) (c : Command) (pos : Position) :
    (s.perform host c pos).state.events = s.events ++ s.emitted host c := by
  cases c with
  | moveRight =>
    obtain ⟨tape, htape⟩ := s.move_frame pos .right
    simp [perform, htape, events, emitted]
  | moveLeft =>
    obtain ⟨tape, htape⟩ := s.move_frame pos .left
    simp [perform, htape, events, emitted]
  | increment => simp [perform, events, emitted]
  | decrement => simp [perform, events, emitted]
  | output => cases hf : host.flush <;> simp [perform, write, events, emitted, hf]
  | input =>
    cases hp : host.prompt <;> cases hi : s.input <;>
      simp [perform, ask, read, events, emitted, hp, hi]

/-- A command takes what it reads from the front of the input. -/
lemma consumed_append_input_perform (s : State) (host : Host) (c : Command)
    (pos : Position) :
    (s.perform host c pos).state.consumed ++ (s.perform host c pos).state.input =
      s.consumed ++ s.input := by
  cases c with
  | moveRight =>
    obtain ⟨tape, htape⟩ := s.move_frame pos .right
    simp [perform, htape, consumed, events]
  | moveLeft =>
    obtain ⟨tape, htape⟩ := s.move_frame pos .left
    simp [perform, htape, consumed, events]
  | increment => rfl
  | decrement => rfl
  | output =>
    rw [perform, consumed_write]
    rfl
  | input =>
    obtain ⟨ht, hi, hr, hw⟩ := s.ask_frame host
    cases hin : s.input with
    | nil =>
      rw [perform, read_of_input_eq_nil (hi.trans hin)]
      simp [hi, hin, Event.readBytes]
    | cons v input =>
      rw [perform, read_of_input_eq_cons (hi.trans hin)]
      simp [Event.readBytes]

/-- A command adds to the counters what it adds to the events. -/
lemma counters_perform (s : State) (host : Host) (c : Command) (pos : Position) :
    (s.perform host c pos).state.reads =
        s.reads + Event.readCount (s.emitted host c) ∧
      (s.perform host c pos).state.writes =
        s.writes + Event.writeCount (s.emitted host c) := by
  cases c with
  | moveRight =>
    obtain ⟨tape, htape⟩ := s.move_frame pos .right
    simp [perform, htape, emitted, Event.readCount, Event.writeCount]
  | moveLeft =>
    obtain ⟨tape, htape⟩ := s.move_frame pos .left
    simp [perform, htape, emitted, Event.readCount, Event.writeCount]
  | increment => simp [perform, emitted, Event.readCount, Event.writeCount]
  | decrement => simp [perform, emitted, Event.readCount, Event.writeCount]
  | output =>
    cases hf : host.flush <;>
      simp [perform, write, emitted, hf, Event.readCount, Event.writeCount, List.countP_cons,
        Event.isDelivery, Event.isWrite]
  | input =>
    cases hp : host.prompt <;> cases hi : s.input <;>
      simp [perform, ask, read, emitted, hp, hi, Event.readCount, Event.writeCount,
        Event.isDelivery, Event.isWrite]

/-- The prompt of a command shows the count before the command. -/
lemma promptsCount_append_emitted (h : Event.PromptsCount events)
    (hr : s.reads = Event.readCount events) :
    Event.PromptsCount (events ++ s.emitted host c) := by
  cases c with
  | moveRight | moveLeft | increment | decrement => simpa [emitted] using h
  | output =>
    have hw : Event.PromptsCount (events ++ [.write (cellBytes s.tape.current)]) :=
      h.concat (by simp)
    cases hf : host.flush with
    | false => simpa [emitted, hf] using hw
    | true => simpa [emitted, hf] using hw.concat (e := .flush) (by simp)
  | input =>
    cases hp : host.prompt with
    | false => simpa [emitted, hp] using h.concat (e := .read s.input.head?) (by simp)
    | true =>
      have ha : Event.PromptsCount (events ++ [.prompt s.reads]) := h.concat (by simp [hr])
      have hf : Event.PromptsCount (events ++ [.prompt s.reads] ++ [.promptFlush]) :=
        ha.concat (by simp)
      simpa [emitted, hp] using hf.concat (e := .read s.input.head?) (by simp)

/-- A command counts its events. -/
lemma Tallies.perform (h : s.Tallies events) (host : Host) (c : Command) (pos : Position) :
    (s.perform host c pos).state.Tallies (events ++ s.emitted host c) := by
  obtain ⟨hreads, hwrites⟩ := s.counters_perform host c pos
  refine ⟨?_, ?_, promptsCount_append_emitted h.prompts h.reads⟩
  · rw [hreads, h.reads, Event.readCount_append]
  · rw [hwrites, h.writes, Event.writeCount_append]

/-- Cleared counters count no events. -/
lemma tallies_clearCounters (s : State) : s.clearCounters.Tallies [] :=
  ⟨rfl, rfl, Event.promptsCount_nil⟩

/-- The state `u` comes after `s` in a run: the input has lost what was read since, there are new
events behind those of `s`, and the counters count them with the events that they counted before. -/
structure GoesOn (s : State) (events : List Event) (u : State) : Prop where
  /-- What was read, followed by what is left, is the same. -/
  input : u.consumed ++ u.input = s.consumed ++ s.input
  /-- The new events are counted. -/
  exists_tallies : ∃ new, u.events = s.events ++ new ∧ u.Tallies (events ++ new)

/-- A state comes after itself. -/
lemma GoesOn.refl (h : s.Tallies events) : s.GoesOn events s :=
  ⟨rfl, [], by simp, by simpa using h⟩

/-- Another tape makes no difference to the streams. -/
lemma GoesOn.of_tape (h : s.Tallies events) (tape : Tape) :
    s.GoesOn events { s with tape } := by
  obtain ⟨hinput, new, hnew, hs⟩ := GoesOn.refl h
  exact ⟨hinput, new, hnew, hs.reads, hs.writes, hs.prompts⟩

/-- A command leads on. -/
lemma GoesOn.perform {u : State} (h : s.GoesOn events u) (host : Host) (c : Command)
    (pos : Position) : s.GoesOn events (u.perform host c pos).state := by
  obtain ⟨hinput, new, hnew, hu⟩ := h
  refine ⟨(u.consumed_append_input_perform host c pos).trans hinput,
    new ++ u.emitted host c, ?_, ?_⟩
  · rw [u.events_perform, hnew, List.append_assoc]
  · rw [← List.append_assoc]
    exact hu.perform host c pos

/-! ## A node that is cut off -/

/-- The events with which a node begins: those of a command. -/
def emittedBy (s : State) (host : Host) : Node → List Event
  | .command c _ => s.emitted host c
  | _ => []

/-- The prompt of a node shows the count before the node. -/
lemma promptsCount_append_emittedBy {n : Node} (h : Event.PromptsCount events)
    (hr : s.reads = Event.readCount events) :
    Event.PromptsCount (events ++ s.emittedBy host n) := by
  cases n with
  | command c pos => exact promptsCount_append_emitted h hr
  | loop pos body | bare pos | block pos body => simpa [emittedBy] using h

/-- The state `t` is met inside of a node that begins in the state `s`: some of the events of the
node have happened, and what was read is counted. -/
structure Within (s : State) (host : Host) (n : Node) (t : State) : Prop where
  /-- The tape is as it was. -/
  tape : t.tape = s.tape
  /-- No cell is counted yet. -/
  writes : t.writes = s.writes
  /-- What was read, followed by what is left, is the same. -/
  input : t.consumed ++ t.input = s.consumed ++ s.input
  /-- Some events of the node have happened, and those that deliver a byte are counted. -/
  exists_events : ∃ begun, t.events = s.events ++ begun ∧ begun <+: s.emittedBy host n ∧
    t.reads = s.reads + Event.readCount begun

/-- The state after some events of a node that deliver no byte is met inside of it. -/
lemma Within.of_events {n : Node} (begun : List Event) (hbegun : begun <+: s.emittedBy host n)
    (hread : Event.readCount begun = 0) :
    s.Within host n { s with trace := begun.reverse ++ s.trace } := by
  have hnone : Event.input begun = [] := List.length_eq_zero_iff.1 (Event.length_input _ ▸ hread)
  refine ⟨rfl, rfl, ?_, begun, ?_, hbegun, ?_⟩
  · simp [consumed, events, hnone]
  · simp [events]
  · rw [hread, Nat.add_zero]

/-- A node begins in its own state. -/
lemma Within.refl (s : State) (host : Host) (n : Node) : s.Within host n s :=
  .of_events [] List.nil_prefix rfl

/-- The calls behind a prompt are made inside of the read. -/
lemma within_of_mem_readCalls {t : State} {call : HostCall} {pos : Position}
    (h : (call, t) ∈ (s.ask host).readCalls) : s.Within host (.command .input pos) t := by
  cases hp : host.prompt with
  | false =>
    have hask : s.ask host = s := by simp [ask, hp]
    have hemitted : s.emittedBy host (.command .input pos) = [.read s.input.head?] := by
      simp [emittedBy, emitted, hp]
    rw [hask] at h
    rcases cases_of_mem_readCalls h with rfl | ⟨hin, rfl⟩ | ⟨v, input, hin, rfl⟩
    · exact .refl _ _ _
    · exact .of_events [.read none] (by simp [hemitted, hin]) rfl
    · refine ⟨rfl, rfl, ?_, [.read (some v)], ?_, ?_, rfl⟩
      · simp [hin, Event.readBytes]
      · simp [events]
      · simp [hemitted, hin]
  | true =>
    have hask : s.ask host =
        { s with trace := [Event.prompt s.reads, .promptFlush].reverse ++ s.trace } := by
      simp [ask, hp]
    have hemitted : s.emittedBy host (.command .input pos) =
        [.prompt s.reads, .promptFlush, .read s.input.head?] := by
      simp [emittedBy, emitted, hp]
    rw [hask] at h
    rcases cases_of_mem_readCalls h with rfl | ⟨hin, rfl⟩ | ⟨v, input, hin, rfl⟩
    · exact .of_events [.prompt s.reads, .promptFlush] (by simp [hemitted]) rfl
    · refine .of_events [.prompt s.reads, .promptFlush, .read none] ?_ rfl
      have hin' : s.input = [] := hin
      simp [hemitted, hin']
    · have hin' : s.input = v :: input := hin
      refine ⟨rfl, rfl, ?_, [.prompt s.reads, .promptFlush, .read (some v)], ?_, ?_, rfl⟩
      · simp [consumed, events, Event.input, Event.readBytes, hin']
      · simp [events]
      · simp [hemitted, hin']

/-- Every call of a node is made inside of it. -/
lemma within_of_mem_nodeCalls {t : State} {call : HostCall} {n : Node}
    (h : (call, t) ∈ s.nodeCalls host n) : s.Within host n t := by
  cases n with
  | loop pos body | bare pos | block pos body =>
    obtain ⟨-, rfl⟩ := Prod.mk.inj (List.mem_singleton.1 h)
    exact .refl _ _ _
  | command c pos =>
    cases c with
    | moveRight | moveLeft =>
      obtain rfl := eq_of_mem_moveCalls h
      exact .refl _ _ _
    | increment | decrement =>
      obtain ⟨-, rfl⟩ := Prod.mk.inj (List.mem_singleton.1 h)
      exact .refl _ _ _
    | output =>
      simp only [nodeCalls, calls, List.mem_cons, Prod.mk.injEq, List.not_mem_nil, or_false] at h
      rcases h with ⟨-, rfl⟩ | ⟨-, rfl⟩
      · exact .refl _ _ _
      · exact .of_events [.write (cellBytes s.tape.current)] ⟨_, rfl⟩ rfl
    | input =>
      rcases List.mem_append.1 h with h | h
      · cases hp : host.prompt with
        | false => simp [promptCalls, hp] at h
        | true =>
          simp only [promptCalls, hp, if_true, List.mem_cons, Prod.mk.injEq, List.not_mem_nil,
            or_false] at h
          rcases h with ⟨-, rfl⟩ | ⟨-, rfl⟩
          · exact .refl _ _ _
          · exact .of_events [.prompt s.reads] (by simp [emittedBy, emitted, hp]) rfl
      · exact within_of_mem_readCalls h

/-- **A node that is cut off has begun with its events.** -/
lemma within_of_cutOff? {room : ℕ} {n : Node} {t : State} (h : s.cutOff? host room n = some t) :
    s.Within host n t := by
  obtain ⟨call, hmem, -⟩ := exists_of_cutOff?_eq_some h
  exact within_of_mem_nodeCalls hmem

/-- A node that is no command is cut off in the state in which it is met. -/
lemma eq_of_cutOff? {room : ℕ} {n : Node} {t : State} (hn : ∀ c pos, n ≠ .command c pos)
    (h : s.cutOff? host room n = some t) : t = s := by
  obtain ⟨call, hmem, -⟩ := exists_of_cutOff?_eq_some h
  cases n with
  | command c pos => exact absurd rfl (hn c pos)
  | loop pos body | bare pos | block pos body => exact (Prod.mk.inj (List.mem_singleton.1 hmem)).2

/-- A command takes back no event. -/
lemma events_prefix_perform (s : State) (host : Host) (c : Command) (pos : Position) :
    s.events <+: (s.perform host c pos).state.events := by
  rw [events_perform]
  exact List.prefix_append _ _

/-- A node that is cut off takes back no event. -/
lemma events_prefix_of_cutOff? {room : ℕ} {n : Node} {t : State}
    (h : s.cutOff? host room n = some t) : s.events <+: t.events := by
  obtain ⟨begun, hbegun, -⟩ := (within_of_cutOff? h).exists_events
  rw [hbegun]
  exact List.prefix_append _ _

/-- No node but an output command writes. -/
lemma writeCount_emittedBy {n : Node} (hn : ∀ pos, n ≠ .command .output pos) :
    Event.writeCount (s.emittedBy host n) = 0 := by
  cases n with
  | loop pos body | bare pos | block pos body => rfl
  | command c pos =>
    cases c with
    | moveRight | moveLeft | increment | decrement => rfl
    | output => exact absurd rfl (hn pos)
    | input =>
      cases hp : host.prompt <;> simp [emittedBy, emitted, hp, Event.writeCount, Event.isWrite]

/-- **A node that is cut off has written nothing, or a cell for whose flush there is no room.** -/
lemma write_cases_of_cutOff? {room : ℕ} {n : Node} {t : State}
    (h : s.cutOff? host room n = some t) :
    (∀ begun, t.events = s.events ++ begun → Event.writeCount begun = 0) ∨
      t = s.log (.write (cellBytes s.tape.current)) ∧
        host.frames .write s.trace s.input ≤ room ∧ room < host.frames .flush t.trace t.input := by
  by_cases hn : ∃ pos, n = .command .output pos
  · obtain ⟨pos, rfl⟩ := hn
    by_cases hwrite : host.frames .write s.trace s.input ≤ room
    · right
      by_cases hflush : host.frames .flush (.write (cellBytes s.tape.current) :: s.trace) s.input ≤
          room
      · simp [cutOff?, nodeCalls, calls, fits, log, hwrite, hflush] at h
      · have ht : s.log (.write (cellBytes s.tape.current)) = t := by
          simpa [cutOff?, nodeCalls, calls, fits, log, hwrite, hflush] using h
        exact ⟨ht.symm, hwrite, ht ▸ Nat.lt_of_not_le hflush⟩
    · obtain rfl : s = t := by
        simpa [cutOff?, nodeCalls, calls, fits, hwrite] using h
      refine .inl fun begun hbegun => ?_
      rw [List.self_eq_append_right.1 hbegun]
      rfl
  · obtain ⟨begun, hbegun, hfirst, -⟩ := (within_of_cutOff? h).exists_events
    refine .inl fun begun' hbegun' => ?_
    obtain rfl : begun = begun' := List.append_cancel_left (hbegun.symm.trans hbegun')
    have hle : Event.writeCount begun ≤ Event.writeCount (s.emittedBy host n) :=
      hfirst.sublist.countP_le
    rw [writeCount_emittedBy fun pos heq => hn ⟨pos, heq⟩] at hle
    exact Nat.le_zero.1 hle

/-- In memory a write that happened was flushed too, so whatever a node that is cut off has done is
counted. -/
lemma Tallies.cutOff {host : MemoryHost} {room : ℕ} {n : Node} {t : State} (h : s.Tallies events)
    (hcut : s.cutOff? host.toHost room n = some t) :
    ∃ begun, t.events = s.events ++ begun ∧ t.Tallies (events ++ begun) := by
  obtain ⟨-, hwrites, -, begun, hbegun, hfirst, hreads⟩ := within_of_cutOff? hcut
  have hnone : Event.writeCount begun = 0 := by
    rcases write_cases_of_cutOff? hcut with hnone | ⟨rfl, hwrite, hflush⟩
    · exact hnone begun hbegun
    · exact absurd (Nat.lt_of_lt_of_le hflush (host.flushesWrites _ _ _)) (Nat.not_lt.2 hwrite)
  refine ⟨begun, hbegun, ?_, ?_, ?_⟩
  · rw [hreads, h.reads, Event.readCount_append]
  · rw [hwrites, h.writes, Event.writeCount_append, hnone, Nat.add_zero]
  · have hall : Event.PromptsCount (events ++ s.emittedBy host.toHost n) :=
      promptsCount_append_emittedBy h.prompts h.reads
    exact hall.of_prefix ((List.prefix_append_right_inj _).2 hfirst)

/-- In memory a node that is cut off leads on. -/
lemma GoesOn.cutOff {host : MemoryHost} {room : ℕ} {n : Node} {u t : State}
    (h : s.GoesOn events u) (hcut : u.cutOff? host.toHost room n = some t) :
    s.GoesOn events t := by
  obtain ⟨hinput, new, hnew, hu⟩ := h
  obtain ⟨begun, hbegun, ht⟩ := hu.cutOff hcut
  refine ⟨(within_of_cutOff? hcut).input.trans hinput, new ++ begun, ?_, ?_⟩
  · rw [hbegun, hnew, List.append_assoc]
  · rwa [← List.append_assoc]

end State

variable {host : Host} {root : Position} {room room' : ℕ} {nodes nodes' : List Node}
  {s u : State} {o : Outcome} {events : List Event}

/-! ## Runs -/

/-- **No byte of the input is lost, doubled or moved**: what was read, followed by what is left,
stays the same. -/
lemma Runs.consumed_append_input (h : Runs host root room nodes s o) :
    o.state.consumed ++ o.state.input = s.consumed ++ s.input :=
  h.preserves (P := fun u => u.consumed ++ u.input = s.consumed ++ s.input)
    (fun u c pos hu => (u.consumed_append_input_perform host c pos).trans hu)
    (fun _ _ _ _ hu hcut => (State.within_of_cutOff? hcut).input.trans hu) rfl

/-- A run takes back no event. -/
lemma Runs.events_prefix (h : Runs host root room nodes s o) : s.events <+: o.state.events :=
  h.preserves (P := fun u => s.events <+: u.events)
    (fun u c pos hu => hu.trans (u.events_prefix_perform host c pos))
    (fun _ _ _ _ hu hcut => hu.trans (State.events_prefix_of_cutOff? hcut)) (List.prefix_refl _)

/-- **A run leads on from the state in which it begins**, but it may be cut off in the middle of a
command. -/
lemma Runs.goesOn_or_cutOff (h : Runs host root room nodes s o) (hs : s.Tallies events) :
    s.GoesOn events o.state ∨ o.error = some (.nestingDepth root) ∧
      ∃ u room n, s.GoesOn events u ∧ u.cutOff? host room n = some o.state :=
  h.preserves_or_cutOff (fun _ c pos hu => hu.perform host c pos) (.refl hs)

/-- **The counters count what a run reads and writes**, except for a cell whose flush was cut off.
-/
lemma Runs.exists_counts (h : Runs host root room nodes s o) (hs : s.Tallies events) :
    ∃ new, o.state.events = s.events ++ new ∧
      o.state.reads = Event.readCount (events ++ new) ∧
      (o.state.writes = Event.writeCount (events ++ new) ∨
        ¬host.FlushesWrites ∧ o.error = some (.nestingDepth root) ∧
          o.state.writes + 1 = Event.writeCount (events ++ new) ∧
          ∃ bytes, new.getLast? = some (.write bytes)) := by
  rcases h.goesOn_or_cutOff hs with ⟨-, new, hnew, ho⟩ | ⟨he, u, room', n, ⟨-, new, hnew, hu⟩, hcut⟩
  · exact ⟨new, hnew, ho.reads, .inl ho.writes⟩
  · obtain ⟨-, hwrites, -, begun, hbegun, -, hreads⟩ := State.within_of_cutOff? hcut
    refine ⟨new ++ begun, ?_, ?_, ?_⟩
    · rw [hbegun, hnew, List.append_assoc]
    · rw [hreads, hu.reads, ← List.append_assoc, Event.readCount_append _ begun]
    · rw [hwrites, hu.writes, ← List.append_assoc, Event.writeCount_append _ begun]
      rcases State.write_cases_of_cutOff? hcut with hnone | ⟨ht, hwrite, hflush⟩
      · rw [hnone begun hbegun]
        exact .inl rfl
      · obtain rfl : begun = [.write (cellBytes u.tape.current)] := by
          rw [ht] at hbegun
          exact List.append_cancel_left (hbegun.symm.trans (by simp [State.log, State.events]))
        refine .inr ⟨fun hall => ?_, he, rfl, _, List.getLast?_concat⟩
        rw [ht] at hflush
        exact absurd (Nat.lt_of_lt_of_le hflush (hall _ _ _)) (Nat.not_lt.2 hwrite)

/-- A run that is not cut off leads on from the state in which it begins. -/
lemma Runs.goesOn_of_ne (h : Runs host root room nodes s o) (hs : s.Tallies events)
    (he : o.error ≠ some (.nestingDepth root)) : s.GoesOn events o.state :=
  (h.goesOn_or_cutOff hs).resolve_right fun hcut => he hcut.1

/-- **Every moment of a run comes after the state in which the run begins.** -/
lemma Visits.goesOn (h : Visits host root room nodes s room' nodes' u)
    (hs : s.Tallies events) : s.GoesOn events u :=
  h.preserves (fun _ c pos hu => hu.perform host c pos) (.refl hs)

/-- **In memory every run leads on from the state in which it begins**, also if it is cut off. -/
lemma Runs.goesOn {host : MemoryHost} (h : Runs host.toHost root room nodes s o)
    (hs : s.Tallies events) : s.GoesOn events o.state :=
  h.preserves (fun _ c pos hu => hu.perform host.toHost c pos)
    (fun _ _ _ _ hu hcut => hu.cutOff hcut) (.refl hs)

end TapeLang
