import TapeLang.Proofs.Endings
import TapeLang.Proofs.Lockstep
import TapeLang.Proofs.Nests
import TapeLang.Proofs.Streams

set_option autoImplicit false

/-!
# A run does not depend on where its tape lies

With more cells on both sides of the tape a run does the same, in the window that was the tape, as
long as it does not leave that window. Indices of cells have no other effect on a run than at the
two ends of the tape. A move off the tape needs frames for its error, which it does not need on a
longer tape; so there the run may go on where it was cut off.

## Main definitions

* `TapeLang.Tape.extend` — a tape with more cells on both sides.
* `TapeLang.State.Embeds` — a state shows the tape of another one in the middle of a longer tape.
* `TapeLang.State.LeavesTape` — a command is a move for which there is no cell.

## Main results

* `TapeLang.State.embeds_iff` — the longer tape is the shorter one, extended.
* `TapeLang.lockstep_embeds` — a run and the run on a longer tape stay together.
* `TapeLang.run_embeds` — what a longer tape changes in a run.
* `TapeLang.run_embeds_without_room` — where there is no room for an error, it changes more.
-/

namespace TapeLang

/-- The tape with the cells `u` to its left and `w` to its right, and the pointer where it was. -/
def Tape.extend (t : Tape) (u w : List UInt8) : Tape :=
  ⟨t.left ++ u.reverse, t.current, t.right ++ w⟩

/-- The state `s'` has the tape of `s` between the cells `u` and `w`, with the pointer on the same
cell, and agrees with `s` in all that is not the tape. -/
structure State.Embeds (u w : List UInt8) (s s' : State) : Prop where
  /-- The cells are those of the shorter tape, with more on both sides. -/
  cells : s'.tape.cells = u ++ s.tape.cells ++ w
  /-- The pointer is on the same cell. -/
  pointer : s'.tape.pointer = u.length + s.tape.pointer
  /-- The same input is left. -/
  input : s'.input = s.input
  /-- The same number of reads was counted. -/
  reads : s'.reads = s.reads
  /-- The same number of writes was counted. -/
  writes : s'.writes = s.writes
  /-- The same has happened. -/
  events : s'.events = s.events

/-- The state on a tape with the cells `u` to the left and `w` to the right. -/
def State.extend (s : State) (u w : List UInt8) : State :=
  { s with tape := s.tape.extend u w }

/-- A move left the tape. -/
def RunError.IsOffTape (e : RunError) : Prop :=
  ∃ pos pointer d length, e = .offTape pos pointer d length

/-- The command is a move for which there is no cell. -/
def State.LeavesTape (s : State) (c : Command) : Prop :=
  (c = .moveRight ∧ s.tape.move? .right = none) ∨ (c = .moveLeft ∧ s.tape.move? .left = none)

variable {u w : List UInt8} {t t' : Tape} {d : Direction} {s s' : State} {host : Host}
  {root : Position} {c : Command} {pos : Position}

/-! ## Longer tapes -/

namespace Tape

@[simp] lemma cells_extend (t : Tape) (u w : List UInt8) :
    (t.extend u w).cells = u ++ t.cells ++ w := by
  simp [cells, extend]

@[simp] lemma pointer_extend (t : Tape) (u w : List UInt8) :
    (t.extend u w).pointer = u.length + t.pointer := by
  simp [pointer, extend, Nat.add_comm]

/-- A move that stays on a tape is the same on the longer tape. -/
lemma move?_extend (h : t.move? d = some t') (u w : List UInt8) :
    (t.extend u w).move? d = some (t'.extend u w) := by
  obtain ⟨left, current, right⟩ := t
  cases d with
  | left =>
    cases left with
    | nil => cases h
    | cons v vs =>
      cases h
      rfl
  | right =>
    cases right with
    | nil => cases h
    | cons v vs =>
      cases h
      rfl

end Tape

namespace State

/-- **The longer tape is the shorter one, extended.** -/
lemma embeds_iff : Embeds u w s s' ↔ s' = s.extend u w := by
  constructor
  · intro h
    have htape : s'.tape = s.tape.extend u w :=
      Tape.ext_cells_pointer (h.cells.trans (Tape.cells_extend _ _ _).symm)
        (h.pointer.trans (Tape.pointer_extend _ _ _).symm)
    have htrace : s'.trace = s.trace := List.reverse_inj.1 h.events
    obtain ⟨tape, input, reads, writes, trace⟩ := s'
    obtain rfl : tape = _ := htape
    obtain rfl : input = _ := h.input
    obtain rfl : reads = _ := h.reads
    obtain rfl : writes = _ := h.writes
    obtain rfl : trace = _ := htrace
    rfl
  · rintro rfl
    exact ⟨Tape.cells_extend _ _ _, Tape.pointer_extend _ _ _, rfl, rfl, rfl, rfl⟩

/-- A command that leaves the tape fails with the error that says so, and no other command does. -/
lemma exists_isOffTape_iff :
    (∃ e, (s.perform host c pos).error = some e ∧ e.IsOffTape) ↔ s.LeavesTape c := by
  constructor
  · rintro ⟨_, h, pos', pointer, d, length, rfl⟩
    rcases error_cases h with ⟨hc, hm, -⟩ | ⟨hc, hm, -⟩ | ⟨-, -, he⟩
    · exact .inl ⟨hc, hm⟩
    · exact .inr ⟨hc, hm⟩
    · cases he
  · rintro (⟨rfl, hm⟩ | ⟨rfl, hm⟩) <;> exact ⟨_, by rw [perform, move, hm], _, _, _, _, rfl⟩

/-- A move that stays on the tape does the same on the longer tape, by the same call. -/
lemma move_extend (h : s.tape.move? d ≠ none) (pos : Position) (u w : List UInt8) :
    (s.extend u w).move pos d = ⟨(s.move pos d).state.extend u w, (s.move pos d).error⟩ ∧
      (s.extend u w).moveCalls d = (s.moveCalls d).map (Prod.map id (·.extend u w)) := by
  obtain ⟨t, ht⟩ := Option.ne_none_iff_exists'.1 h
  have ht' : (s.extend u w).tape.move? d = some (t.extend u w) := Tape.move?_extend ht u w
  rw [move, move, moveCalls, moveCalls, ht, ht']
  exact ⟨rfl, rfl⟩

/-- A command that does not leave the tape does the same on the longer tape, by the same calls. -/
lemma perform_extend (host : Host) (h : ¬s.LeavesTape c) (pos : Position)
    (u w : List UInt8) :
    (s.extend u w).perform host c pos =
        ⟨(s.perform host c pos).state.extend u w, (s.perform host c pos).error⟩ ∧
      (s.extend u w).calls host c = (s.calls host c).map (Prod.map id (·.extend u w)) := by
  cases c with
  | moveRight => exact move_extend (fun hm => h (.inl ⟨rfl, hm⟩)) pos u w
  | moveLeft => exact move_extend (fun hm => h (.inr ⟨rfl, hm⟩)) pos u w
  | increment => exact ⟨rfl, rfl⟩
  | decrement => exact ⟨rfl, rfl⟩
  | output => exact ⟨rfl, rfl⟩
  | input =>
    cases hp : host.prompt <;> cases hin : s.input <;>
      simp [perform, ask, read, calls, promptCalls, readCalls, log, extend, hp, hin, Tape.write,
        Tape.extend]

/-- Where a run stops at a move for which there is no cell, the state is as it was. -/
lemma state_eq_of_leavesTape {room : ℕ} {o : Outcome} (h : s.LeavesTape c)
    (hstop : s.stop? host root room (.command c pos) = some o) : o.state = s := by
  rcases stop?_command_eq_some_iff.1 hstop with ⟨t, ht, rfl⟩ | ⟨-, -, rfl⟩
  · obtain ⟨call, hmem, -⟩ := exists_of_cutOff?_eq_some ht
    rcases h with ⟨rfl, -⟩ | ⟨rfl, -⟩ <;> exact eq_of_mem_moveCalls hmem
  · rcases h with ⟨rfl, hm⟩ | ⟨rfl, hm⟩ <;> simp [perform, move, hm]

end State

/-! ## Runs -/

/-- A run stops at a move for which there is no cell, in the state before it. -/
structure StopsAtEdge (s : State) (c : Command) (o : Outcome) : Prop where
  /-- There is no cell to move to. -/
  leavesTape : s.LeavesTape c
  /-- The state is the one before the move. -/
  state : o.state = s

/-- **A run and the run on a longer tape stay together** as long as no command leaves the shorter
tape. -/
lemma lockstep_embeds (host : Host) (root : Position) (u w : List UInt8) :
    Lockstep host host root root SameCommand (fun s s' => s' = s.extend u w)
      (Lockstep.Counterpart id RunError.IsOffTape) (fun _ => StopsAtEdge) False := by
  refine .of_map State.LeavesTape (fun _ => Iff.rfl) (fun _ _ _ => rfl) ⟨rfl, nofun⟩
    (fun _ => ⟨rfl, nofun⟩) ?_ State.exists_isOffTape_iff.1 ?_ ?_
  · rintro s c pos _ _ ⟨rfl, rfl⟩ hfree
    obtain ⟨hperform, hcalls⟩ := State.perform_extend host hfree pos u w
    exact ⟨by simpa using hperform, hcalls⟩
  · intro s c pos hfree herr
    obtain ⟨e, he, -⟩ := State.exists_isOffTape_iff.2 hfree
    cases herr.symm.trans he
  · rintro room s c pos _ _ o - hfree hstop
    exact .inl ⟨hfree, State.state_eq_of_leavesTape hfree hstop⟩

variable {room : ℕ} {nodes : List Node} {o o' : Outcome}

/-- **A run that leaves its tape goes on where the tape is longer**, behind all that it has done. -/
lemma events_prefix_of_parts {s' : State}
    (h : Lockstep.Parts host host root root SameCommand (fun s s' => s' = s.extend u w)
      (fun _ => StopsAtEdge) room nodes s' o)
    (h' : Runs host root room nodes s' o') : o.state.events <+: o'.state.events := by
  obtain ⟨room', t, _, c, _, pos, _, rest, rfl, -, -, hstop, hv⟩ := h
  rw [hstop.state]
  refine hv.preserves_to_end (P := fun b => t.events <+: b.events) ?_ ?_ ?_ h'
  · exact fun b c pos hb => hb.trans (b.events_prefix_perform host c pos)
  · exact fun _ _ _ _ hb hcut => hb.trans (State.events_prefix_of_cutOff? hcut)
  · exact fun o₁ h₁ _ => h₁.events_prefix

/-- A run that stops at an end of the tape has failed there, or there was no room for the error. -/
lemma leavesTape_of_parts {s' : State}
    (h : Lockstep.Parts host host root root SameCommand (fun s s' => s' = s.extend u w)
      (fun _ => StopsAtEdge) room nodes s' o) :
    (∃ d, o.state.tape.move? d = none) ∧
      ((∃ e, o.error = some e ∧ e.IsOffTape) ∨ o.error = some (.nestingDepth root)) := by
  obtain ⟨room', t, _, c, _, pos, _, rest, rfl, -, hstops, hstop, -⟩ := h
  rw [hstop.state]
  refine ⟨?_, ?_⟩
  · rcases hstop.leavesTape with ⟨-, hm⟩ | ⟨-, hm⟩
    · exact ⟨_, hm⟩
    · exact ⟨_, hm⟩
  · rcases State.stop?_command_eq_some_iff.1 hstops with ⟨_, -, rfl⟩ | ⟨-, -, rfl⟩
    · exact .inr rfl
    · exact .inl (State.exists_isOffTape_iff.2 hstop.leavesTape)

/-! ## Whole programs -/

/-- **A run does not depend on where its tape lies.** On a tape with the cells `u` and `w` around it
a run that neither ends by leaving its tape nor is cut off at an end of the tape ends in the same
way: the cells `u` and `w` are as they were, the window between them and the pointer in it are those
of the first run, and streams, counters and error are the same. However a run ends, a run on the
longer tape that comes to an end has written and read the same before it goes on. No run is cut off
if 801 loops are nested. -/
theorem run_embeds (host : Host) (p : Program) (u w : List UInt8) (s s' : State)
    (hs : s.Embeds u w s') (o : Outcome) (h : s.RunsTo host p o) :
    ((∀ pos pointer d length, o.error ≠ some (.offTape pos pointer d length)) →
      (o.error = some (.nestingDepth p.root) → ∀ d, o.state.tape.move? d ≠ none) →
      ∃ o', s'.RunsTo host p o' ∧ o.state.Embeds u w o'.state ∧ o'.error = o.error) ∧
    (∀ o', s'.RunsTo host p o' →
      o.state.output <+: o'.state.output ∧ o.state.consumed <+: o'.state.consumed) ∧
    (nesting p.body ≤ 801 → o.error ≠ some (.nestingDepth p.root)) := by
  obtain rfl := State.embeds_iff.1 hs
  have hruns := State.runsTo_iff.1 h
  have hcases := (lockstep_embeds host p.root u w).exists_runs_map hruns (alike_self p.body)
  refine ⟨fun hoff hdepth => ?_, fun o' h' => ?_, fun hn => h.ne_nestingDepth hn _⟩
  · rcases hcases with ⟨hruns', -⟩ | hparts | ⟨hfalse, -⟩
    · rw [Option.map_id] at hruns'
      exact ⟨_, State.runsTo_iff.2 hruns', State.embeds_iff.2 rfl, rfl⟩
    · obtain ⟨⟨d, hd⟩, ⟨_, he, pos, pointer, d', length, rfl⟩ | hcut⟩ := leavesTape_of_parts hparts
      · exact absurd he (hoff pos pointer d' length)
      · exact absurd hd (hdepth hcut d)
    · exact hfalse.elim
  · have hpre : o.state.events <+: o'.state.events := by
      rcases hcases with ⟨hruns', -⟩ | hparts | ⟨hfalse, -⟩
      · obtain rfl := hruns'.unique (State.runsTo_iff.1 h')
        exact List.prefix_refl _
      · exact events_prefix_of_parts hparts (State.runsTo_iff.1 h')
      · exact hfalse.elim
    exact ⟨Event.output_prefix hpre, Event.input_prefix hpre⟩

/-- A program that writes two neighbouring cells. On two cells it does not leave the tape, and it
does the same with a cell on either side. On one cell it leaves the tape, and it goes on if there
are more. -/
theorem run_embeds_neighbours :
    let p : Program := ⟨.start, [.command .output ⟨1, 1⟩, .command .moveRight ⟨1, 2⟩,
      .command .output ⟨1, 3⟩]⟩
    let s (left right : List UInt8) : State := { tape := ⟨left, 7, right⟩ }
    let inside : Outcome :=
      ⟨{ tape := ⟨[7], 8, []⟩, writes := 2,
         trace := [.flush, .write [8], .flush, .write [7]] }, none⟩
    let outside : Outcome :=
      ⟨{ tape := ⟨[], 7, []⟩, writes := 1, trace := [.flush, .write [7]] },
        some (.offTape ⟨1, 2⟩ 0 .right 1)⟩
    let beyond : Outcome := ⟨{ inside.state with tape := ⟨[7, 9], 8, []⟩ }, none⟩
    ((s [] [8]).Embeds [9] [5] (s [9] [8, 5]) ∧ (s [] [8]).RunsTo .usual p inside ∧
      ∃ o', (s [9] [8, 5]).RunsTo .usual p o' ∧ inside.state.Embeds [9] [5] o'.state ∧
        o'.error = none) ∧
    ((s [] []).Embeds [9] [8] (s [9] [8]) ∧ (s [] []).RunsTo .usual p outside ∧
      (s [9] [8]).RunsTo .usual p beyond ∧
      outside.state.output <+: beyond.state.output ∧
      outside.state.consumed <+: beyond.state.consumed) ∧
    nesting p.body ≤ 801 ∧ outside.error ≠ some (.nestingDepth .start) := by
  intro p s inside outside beyond
  have hs : (s [] [8]).Embeds [9] [5] (s [9] [8, 5]) := ⟨rfl, rfl, rfl, rfl, rfl, rfl⟩
  have hinside : (s [] [8]).RunsTo .usual p inside := ⟨9, rfl⟩
  have hs' : (s [] []).Embeds [9] [8] (s [9] [8]) := ⟨rfl, rfl, rfl, rfl, rfl, rfl⟩
  have houtside : (s [] []).RunsTo .usual p outside := ⟨9, rfl⟩
  have hbeyond : (s [9] [8]).RunsTo .usual p beyond := ⟨9, rfl⟩
  have hn : nesting p.body ≤ 801 := by decide +kernel
  obtain ⟨-, hmore, hdepth⟩ := run_embeds .usual p [9] [8] _ _ hs' outside houtside
  exact ⟨⟨hs, hinside, (run_embeds .usual p [9] [5] _ _ hs inside hinside).1 (fun _ _ _ _ => nofun)
    nofun⟩, ⟨hs', houtside, hbeyond, hmore beyond hbeyond⟩, hn, hdepth hn⟩

/-- A move inside of 993 loops. Where there is no cell to move to, there is no room for the error
either, and so the run is cut off. With one more cell it comes to an end. -/
theorem run_embeds_without_room :
    let p : Program :=
      ⟨.start, .command .increment .start :: nest 993 [.command .moveRight .start]⟩
    let s (right : List UInt8) : State := { tape := ⟨[], 0, right⟩ }
    let o : Outcome := ⟨{ tape := ⟨[], 1, []⟩ }, some (.nestingDepth .start)⟩
    (s []).Embeds [] [0] (s [0]) ∧ (s []).RunsTo .usual p o ∧
      (∀ pos pointer d length, o.error ≠ some (.offTape pos pointer d length)) ∧
      ¬∃ o', (s [0]).RunsTo .usual p o' ∧ o.state.Embeds [] [0] o'.state ∧ o'.error = o.error := by
  intro p s o
  have hinside : Runs .usual .start 3 [.command .moveRight .start] { tape := ⟨[], 1, []⟩ } o :=
    .cutOff rfl
  have hbeyond : Runs .usual .start 3 [.command .moveRight .start] { tape := ⟨[], 1, [0]⟩ }
      ⟨{ tape := ⟨[1], 0, []⟩ }, none⟩ :=
    .command rfl rfl .nil
  refine ⟨⟨rfl, rfl, rfl, rfl, rfl, rfl⟩,
    State.runsTo_iff.2 (.command rfl rfl (hinside.nest_broken (by decide) (by decide) 993)),
    fun _ _ _ _ => nofun, ?_⟩
  rintro ⟨o', h, -, herr⟩
  have hdone := hbeyond.nest_done (by decide) rfl (by decide) (by decide) 993
  cases (State.runsTo_iff.1 h).unique (.command rfl rfl hdone)
  cases herr

end TapeLang
