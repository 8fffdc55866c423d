import Mathlib.Logic.Relation
import TapeLang.Proofs.Endings
import TapeLang.Proofs.SessionSteps
import TapeLang.Proofs.UncheckedTape

set_option autoImplicit false

/-!
# Histories of a session

A history of a session is any sequence of steps, of runs of trees put together by hand, and of
moments in the middle of a run, also of one that takes no end. Whatever the history, the tape fits
its layout, and nothing that is done to it fails for another reason than the three that the language
names.

## Main definitions

* `TapeLang.Session.Follows` — a session comes next after another in a history.
* `TapeLang.Session.Reached` — a session is reached by a history.
* `TapeLang.Session.Fits` — the tape has as many cells as its layout says.
* `TapeLang.Session.IsSafe` — the tape, without its guarantees, is in order, and no access to it
  fails.

## Main results

* `TapeLang.Session.Follows.fits`, `TapeLang.Session.Reached.fits` — a history keeps the number of
  cells.
* `TapeLang.Session.Follows.layout_eq_or` — only a blank tape of another layout changes the layout.
* `TapeLang.Session.reached_isSafe` — no history makes a tape unsafe, and a program that is parsed
  ends in one of the ways that the language names.
-/

namespace TapeLang

variable {host : Host} {root : Position} {room room' : ℕ} {nodes nodes' : List Node}
  {u v : State} {o : Outcome}

/-! ## The number of cells in a run -/

/-- A command keeps the number of cells. -/
lemma State.length_perform (u : State) (host : Host) (c : Command) (pos : Position) :
    (u.perform host c pos).state.tape.length = u.tape.length := by
  have hmove (d : Direction) : (u.move pos d).state.tape.length = u.tape.length := by
    rw [move]
    cases hm : u.tape.move? d with
    | none => rfl
    | some t => exact Tape.length_of_move? hm
  cases c with
  | moveRight => exact hmove .right
  | moveLeft => exact hmove .left
  | increment => rfl
  | decrement => rfl
  | output => rfl
  | input =>
    obtain ⟨ht, hi, -, -⟩ := u.ask_frame host
    cases hin : u.input with
    | nil =>
      rw [perform, read_of_input_eq_nil (hi.trans hin)]
      exact congrArg Tape.length ht
    | cons byte input =>
      rw [perform, read_of_input_eq_cons (hi.trans hin), Tape.length_write, ht]

/-- A run keeps the number of cells. -/
lemma Runs.length_tape (h : Runs host root room nodes u o) :
    o.state.tape.length = u.tape.length := by
  refine h.preserves (P := fun v => v.tape.length = u.tape.length)
    (fun v c pos hv => (v.length_perform host c pos).trans hv) (fun v _ _ w hv hcut => ?_) rfl
  rwa [(State.within_of_cutOff? hcut).tape]

/-- The number of cells is the same in the middle of a run. -/
lemma Visits.length_tape (h : Visits host root room nodes u room' nodes' v) :
    v.tape.length = u.tape.length :=
  h.preserves (P := fun v => v.tape.length = u.tape.length)
    (fun v c pos hv => (v.length_perform host c pos).trans hv) rfl

namespace Session

variable {s s' : Session} {st : Step} {r : Result}

/-! ## Histories -/

/-- The session `s'` comes next after `s` in a history. -/
inductive Follows (host : Host) (s : Session) : Session → Prop where
  /-- A step is done, or refused. -/
  | step {fuel : ℕ} {st : Step} {r : Result} (h : s.step host fuel st = some r) :
      Follows host s r.session
  /-- A tree has run with cleared counters, to its end or to an error. -/
  | ran {p : Program} {o : Outcome} (h : s.state.RunsTo host p o) :
      Follows host s (s.withState o.state)
  /-- A tree has been executed, to its end or to an error. -/
  | executed {fuel : ℕ} {p : Program} {o : Outcome}
      (h : s.state.execute host fuel p = some o) : Follows host s (s.withState o.state)
  /-- A tree is running with cleared counters. -/
  | running {p : Program} {u : State} (h : s.state.clearCounters.Passes host p u) :
      Follows host s (s.withState u)
  /-- A tree is being executed. -/
  | executing {p : Program} {u : State} (h : s.state.Passes host p u) :
      Follows host s (s.withState u)

/-- The session is reached from another by a history. -/
def Reached (host : Host) : Session → Session → Prop :=
  Relation.ReflTransGen (Follows host)

/-- The tape has as many cells as its layout says. -/
def Fits (s : Session) : Prop :=
  s.state.tape.length = s.layout.length

/-- Whatever a step does, it leaves a tape that fits. -/
lemma Does.fits (h : Does host s st r) (hs : s.Fits) : r.session.Fits := by
  cases h with
  | touch _ _ hlength => exact hlength.trans hs
  | replace _ => exact Tape.length_blank _
  | refuse _ _ _ => exact hs
  | restart => exact hs
  | feed _ => exact hs
  | run _ hruns => exact hruns.length_tape.trans hs
  | exec _ hruns => exact hruns.length_tape.trans hs

/-- **What follows on a session whose tape fits has a tape that fits.** -/
lemma Follows.fits (h : Follows host s s') (hs : s.Fits) : s'.Fits := by
  cases h with
  | step h => exact (does_of_step h).fits hs
  | ran h => exact (State.runsTo_iff.1 h).length_tape.trans hs
  | executed h => exact (runs_of_exec h).length_tape.trans hs
  | running h =>
    obtain ⟨_, _, hvisits⟩ := h
    exact hvisits.length_tape.trans hs
  | executing h =>
    obtain ⟨_, _, hvisits⟩ := h
    exact hvisits.length_tape.trans hs

/-- The layout stays the same unless a blank tape of another one replaces the tape. -/
lemma Follows.layout_eq_or (h : Follows host s s') :
    s'.layout = s.layout ∨ ∃ length start, Layout.make length start = .ok s'.layout ∧
      s'.state.tape = .blank s'.layout := by
  cases h with
  | step h =>
    cases does_of_step h with
    | replace hmake => exact .inr ⟨_, _, hmake, rfl⟩
    | touch _ _ _ | refuse _ _ _ | restart | feed _ | run _ _ | exec _ _ => exact .inl rfl
  | ran _ | executed _ | running _ | executing _ => exact .inl rfl

/-- **The tape fits in every session that is reached.**

**Proof sketch.** Induction on the history. -/
lemma Reached.fits (h : Reached host s s') (hs : s.Fits) : s'.Fits := by
  induction h with
  | refl => exact hs
  | tail _ hnext ih => exact hnext.fits ih

/-! ## Safety -/

/-- The tape of a session is safe: as a row of numbers with an index it is in order, the current
cell can be loaded, any number can be stored in it, and every command does to the row what it does
to the tape. -/
structure IsSafe (host : Host) (s : Session) : Prop where
  /-- The row has the cells of the layout, all of them bytes, and its index is on one of them. -/
  inOrder : s.state.tape.unchecked.InOrder s.layout.length
  /-- The current cell can be loaded. -/
  load : s.state.tape.unchecked.load? = some (s.state.tape.current.toNat : ℤ)
  /-- Any number can be stored, modulo 256. -/
  store (v : ℤ) : s.state.tape.unchecked.put? v =
    some (s.state.tape.write (UInt8.ofNat (v % 256).toNat)).unchecked
  /-- No command fails on the row, and what it writes is encoded. -/
  perform (c : Command) (pos : Position) :
    s.state.tape.unchecked.perform? s.state.input c =
      some ((s.state.perform host c pos).state.tape.unchecked,
        Event.output (s.state.emitted host c))

/-- A tape that fits is safe. -/
lemma Fits.isSafe (h : s.Fits) (host : Host) : s.IsSafe host where
  inOrder := h ▸ s.state.tape.inOrder_unchecked
  load := s.state.tape.load?_unchecked
  store := s.state.tape.put?_unchecked
  perform := s.state.perform?_unchecked host

/-- **No history makes a tape unsafe**: from the blank tape of any layout that is accepted, steps,
runs of any trees and moments in the middle of a run lead to safe tapes only. The tape has the
length that was asked for as long as its layout is the one it began with, and nothing but a blank
tape of another accepted layout changes that. And a program that is parsed ends without an error, at
a move off the tape, at a read behind the end of the input, or because there is no room for a call.
With as much room as a run has, the last needs more than 801 loops to be nested. -/
theorem reached_isSafe :
    (∀ host length start layout state s, Layout.make length start = .ok layout →
      state.tape = .blank layout → Reached host ⟨layout, state⟩ s →
      s.IsSafe host ∧ (s.layout = layout → (s.state.tape.unchecked.cells.length : ℤ) = length)) ∧
    (∀ host s s', Follows host s s' → s'.layout = s.layout ∨
      ∃ length start, Layout.make length start = .ok s'.layout ∧
        s'.state.tape = .blank s'.layout) ∧
    ∀ host ops p fuel room s o, parse host ops = .ok p → host.room - 1 ≤ room →
      exec host p.root fuel room p.body s = some o →
      o.error = none ∨ (∃ pos pointer d length, o.error = some (.offTape pos pointer d length)) ∨
        (∃ pos ordinal, o.error = some (.inputExhausted pos ordinal)) ∨
        o.error = some (.nestingDepth p.root) ∧ 801 < nesting p.body := by
  refine ⟨?_, fun host s s' h => h.layout_eq_or, ?_⟩
  · intro host length start layout state s hmake htape hreached
    have hfits : Fits ⟨layout, state⟩ := by
      rw [Fits, htape, Tape.length_blank]
    have hsafe : s.IsSafe host := (hreached.fits hfits).isSafe host
    obtain ⟨-, hlength, -⟩ := Layout.make_eq_ok_iff.1 hmake
    refine ⟨hsafe, ?_⟩
    rintro rfl
    rw [hsafe.inOrder.length_cells, hlength]
  · intro host ops p fuel room s o hparse hroom hexec
    have hplain : isPlain p.body = true := (parse_eq_ok_iff.1 hparse).1.isPlain
    have hruns := runs_of_exec hexec
    rcases hruns.error_cases hplain with hok | hoff | hend | hdeep
    · exact .inl hok
    · exact .inr (.inl hoff)
    · exact .inr (.inr (.inl hend))
    · refine .inr (.inr (.inr ⟨hdeep, Nat.lt_of_not_le fun hn => ?_⟩))
      exact hruns.ne_nestingDepth (.of_nesting_le hn hroom) _ hdeep

/-- On three cells a large number is stored, a tape without cells is refused, a loop leaves the
tape, and a tree has written a cell and comes to a bare instruction. After all of this the tape is
safe, and a blank one of two cells may replace it. A loop that is parsed, with as much room as a run
has, ends at a move off the tape. -/
theorem reached_isSafe_half_done :
    let layout : Layout := ⟨3, 1, by decide⟩
    let start : Session := ⟨layout, { tape := .blank layout }⟩
    let final : Session := ⟨layout,
      { tape := ⟨[44, 0], 1, []⟩, writes := 1, trace := [.flush, .write [1]] }⟩
    let replaced : Session := ⟨⟨2, 1, by decide⟩,
      { final.state with tape := .blank ⟨2, 1, by decide⟩ }⟩
    let p : Program := ⟨.start, [.command .increment ⟨1, 1⟩, .loop ⟨1, 2⟩
      [.command .moveRight ⟨1, 3⟩, .command .increment ⟨1, 4⟩]]⟩
    let outside : Outcome :=
      ⟨{ tape := ⟨[1, 0], 1, []⟩ }, some (.offTape ⟨1, 3⟩ 2 .right 3)⟩
    (Layout.make 3 none = .ok layout ∧ Reached .usual start final ∧ final.IsSafe .usual ∧
      (final.state.tape.unchecked.cells.length : ℤ) = 3) ∧
    (Follows .usual final replaced ∧ (replaced.layout = final.layout ∨ ∃ length start,
      Layout.make length start = .ok replaced.layout ∧
        replaced.state.tape = .blank replaced.layout)) ∧
    (parse .usual (operations "+[>+]") = .ok p ∧
      exec .usual p.root 9 996 p.body start.state = some outside ∧
      (outside.error = none ∨
        (∃ pos pointer d length, outside.error = some (.offTape pos pointer d length)) ∨
        (∃ pos ordinal, outside.error = some (.inputExhausted pos ordinal)) ∨
        outside.error = some (.nestingDepth p.root) ∧ 801 < nesting p.body)) := by
  intro layout start final replaced p outside
  have hmake : Layout.make 3 none = .ok layout := rfl
  have hreached : Reached .usual start final := by
    let stored : Session := ⟨layout, { tape := ⟨[0], 44, [0]⟩ }⟩
    let left : Session := ⟨layout, { tape := ⟨[44, 0], 1, []⟩ }⟩
    have hstored : start.step .usual 0 (.set 300) = some ⟨stored, none, none⟩ := rfl
    have hrefused : stored.step .usual 0 (.tape 0 none) =
        some ⟨stored, none, some (.layout (.lengthNotPositive 0))⟩ := rfl
    have hleft : stored.state.RunsTo .usual ⟨.start, p.body.tail⟩
        ⟨left.state, some (.offTape ⟨1, 3⟩ 2 .right 3)⟩ := ⟨9, rfl⟩
    have hfinal : left.state.Passes .usual ⟨.start, [.command .output ⟨1, 1⟩, .bare ⟨1, 2⟩]⟩
        final.state := ⟨_, _, .command rfl rfl .here⟩
    exact (((Relation.ReflTransGen.refl.tail (.step hstored)).tail (.step hrefused)).tail
      (.ran hleft)).tail (.executing hfinal)
  have hparse : parse .usual (operations "+[>+]") = .ok p := by cbv
  have hexec : exec .usual p.root 9 996 p.body start.state = some outside := rfl
  have hreplaced : Follows .usual final replaced := by
    have hstep : final.step .usual 0 (.tape 2 none) = some ⟨replaced, none, none⟩ := rfl
    exact .step hstep
  obtain ⟨hsafe, hlength⟩ :=
    reached_isSafe.1 .usual 3 none layout start.state final hmake rfl hreached
  exact ⟨⟨hmake, hreached, hsafe, hlength rfl⟩,
    ⟨hreplaced, reached_isSafe.2.1 .usual final replaced hreplaced⟩, hparse, hexec,
    reached_isSafe.2.2 .usual _ p 9 996 start.state outside hparse (by decide) hexec⟩

end Session

end TapeLang
