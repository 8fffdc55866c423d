import TapeLang.Proofs.BigStep
import TapeLang.Proofs.Streams

set_option autoImplicit false

/-!
# The commands of a run

A run performs commands, one after another: some commands of the tree many times, others never. In
the order in which they are performed they form a straight line, in which the state before each
command is the one that the command before it left. What is said of such lines, by induction on
four rules, holds of the runs of all trees.

## Main definitions

* `TapeLang.Performed` — a command that was performed, with the state before it and its events.
* `TapeLang.Performs` — a run of a list of nodes, with all commands that it performs, in order.
* `TapeLang.State.PerformsTo` — the same for a program with cleared counters.
* `TapeLang.Line` — commands that are performed one after another up to the first that fails or is
  cut off.

## Main results

* `TapeLang.State.runsTo_iff_exists_performsTo` — a program runs to an outcome exactly if it
  performs some commands and comes to that outcome.
* `TapeLang.Performs.line` — the commands of a run form a line.
-/

namespace TapeLang

/-- A command that was performed, or begun: the state before it, the command, its position, and the
events that happened. -/
structure Performed where
  /-- The state before the command. -/
  state : State
  /-- The command. -/
  command : Command
  /-- The position of the command. -/
  position : Position
  /-- The events that happened. -/
  events : List Event

/-- Running `nodes` from a state, where the host has room for `room` frames, performs the listed
commands and comes to an end with an outcome. A command that is cut off is the last one. -/
inductive Performs (host : Host) (root : Position) :
    ℕ → List Node → State → List Performed → Outcome → Prop where
  /-- Nothing is left to run. -/
  | nil {room : ℕ} {s : State} : Performs host root room [] s [] ⟨s, none⟩
  /-- A command is cut off, with some of its events. -/
  | cutOff {room : ℕ} {c : Command} {pos : Position} {rest : List Node} {s t : State}
      {begun : List Event} (hcut : s.cutOff? host room (.command c pos) = some t)
      (hbegun : t.events = s.events ++ begun) :
      Performs host root room (.command c pos :: rest) s [⟨s, c, pos, begun⟩]
        ⟨t, some (.nestingDepth root)⟩
  /-- There is no room for the call of a node that is no command. -/
  | noRoom {room : ℕ} {n : Node} {rest : List Node} {s : State} (hn : ∀ c pos, n ≠ .command c pos)
      (hcut : s.cutOff? host room n = some s) :
      Performs host root room (n :: rest) s [] ⟨s, some (.nestingDepth root)⟩
  /-- A command is done, and the rest runs. -/
  | command {room : ℕ} {c : Command} {pos : Position} {rest : List Node} {s : State}
      {xs : List Performed} {o : Outcome} (hroom : s.cutOff? host room (.command c pos) = none)
      (hok : (s.perform host c pos).error = none)
      (hrest : Performs host root room rest (s.perform host c pos).state xs o) :
      Performs host root room (.command c pos :: rest) s (⟨s, c, pos, s.emitted host c⟩ :: xs) o
  /-- A command fails. -/
  | fail {room : ℕ} {c : Command} {pos : Position} {rest : List Node} {s : State} {e : RunError}
      (hroom : s.cutOff? host room (.command c pos) = none)
      (herr : (s.perform host c pos).error = some e) :
      Performs host root room (.command c pos :: rest) s [⟨s, c, pos, s.emitted host c⟩]
        (s.perform host c pos)
  /-- A loop is passed over on a zero cell, and the rest runs. -/
  | skip {room : ℕ} {pos : Position} {body rest : List Node} {s : State} {xs : List Performed}
      {o : Outcome} (hroom : s.cutOff? host room (.loop pos body) = none)
      (hz : s.tape.current = 0) (hrest : Performs host root room rest s xs o) :
      Performs host root room (.loop pos body :: rest) s xs o
  /-- A loop is entered, its body runs to its end, and the loop comes back to itself. -/
  | again {room : ℕ} {pos : Position} {body rest : List Node} {s t : State}
      {xs ys : List Performed} {o : Outcome} (hroom : s.cutOff? host room (.loop pos body) = none)
      (hz : s.tape.current ≠ 0) (hbody : Performs host root (room - 1) body s xs ⟨t, none⟩)
      (hloop : Performs host root room (.loop pos body :: rest) t ys o) :
      Performs host root room (.loop pos body :: rest) s (xs ++ ys) o
  /-- A loop is entered, and its body stops with an error. -/
  | broken {room : ℕ} {pos : Position} {body rest : List Node} {s t : State}
      {xs : List Performed} {e : RunError} (hroom : s.cutOff? host room (.loop pos body) = none)
      (hz : s.tape.current ≠ 0) (hbody : Performs host root (room - 1) body s xs ⟨t, some e⟩) :
      Performs host root room (.loop pos body :: rest) s xs ⟨t, some e⟩
  /-- A bare instruction has no meaning. -/
  | bare {room : ℕ} {pos : Position} {rest : List Node} {s : State}
      (hroom : s.cutOff? host room (.bare pos) = none) :
      Performs host root room (.bare pos :: rest) s [] ⟨s, some (.unknownNode .bare)⟩
  /-- A program inside a program has no meaning. -/
  | block {room : ℕ} {pos : Position} {body rest : List Node} {s : State}
      (hroom : s.cutOff? host room (.block pos body) = none) :
      Performs host root room (.block pos body :: rest) s [] ⟨s, some (.unknownNode .block)⟩

/-- The run of a program with cleared counters performs the listed commands and comes to an end with
an outcome. -/
def State.PerformsTo (s : State) (host : Host) (p : Program) (xs : List Performed)
    (o : Outcome) : Prop :=
  Performs host p.root (host.room - 1) p.body s.clearCounters xs o

/-- An error that no command makes: there is no room for a call, or a node has no meaning. -/
def RunError.IsOfTree : RunError → Prop
  | offTape .. => False
  | inputExhausted .. => False
  | nestingDepth _ => True
  | unknownNode _ => True

/-- The listed commands are performed one after another from a state. Each of them finds the state
that the one before it left. Only the last one may fail or be cut off, and its outcome is then the
outcome of all; if it is done there may be an error that no command makes. -/
inductive Line (host : Host) (root : Position) : State → List Performed → Outcome → Prop where
  /-- No command is left. -/
  | stop {s : State} {err : Option RunError} (herr : ∀ e, err = some e → e.IsOfTree) :
      Line host root s [] ⟨s, err⟩
  /-- A command is done, and the others follow. -/
  | next {c : Command} {pos : Position} {s : State} {xs : List Performed} {o : Outcome}
      (hok : (s.perform host c pos).error = none)
      (hrest : Line host root (s.perform host c pos).state xs o) :
      Line host root s (⟨s, c, pos, s.emitted host c⟩ :: xs) o
  /-- A command fails. -/
  | fail {c : Command} {pos : Position} {s : State} {e : RunError}
      (herr : (s.perform host c pos).error = some e) :
      Line host root s [⟨s, c, pos, s.emitted host c⟩] (s.perform host c pos)
  /-- A command is cut off, with some of its events. -/
  | cutOff {room : ℕ} {c : Command} {pos : Position} {s t : State} {begun : List Event}
      (hcut : s.cutOff? host room (.command c pos) = some t)
      (hbegun : t.events = s.events ++ begun) :
      Line host root s [⟨s, c, pos, begun⟩] ⟨t, some (.nestingDepth root)⟩

variable {host : Host} {root : Position} {room : ℕ} {nodes : List Node} {s t : State}
  {o : Outcome} {xs ys : List Performed}

/-! ## From trees to lines -/

/-- A run with its commands is a run. -/
lemma Performs.runs (h : Performs host root room nodes s xs o) :
    Runs host root room nodes s o := by
  induction h with
  | nil => exact .nil
  | cutOff hcut _ => exact .cutOff hcut
  | noRoom _ hcut => exact .cutOff hcut
  | command hroom hok _ ih => exact .command hroom hok ih
  | fail hroom herr => exact .fail hroom herr
  | skip hroom hz _ ih => exact .skip hroom hz ih
  | again hroom hz _ _ ihb ihl => exact .again hroom hz ihb ihl
  | broken hroom hz _ ih => exact .broken hroom hz ih
  | bare hroom => exact .bare hroom
  | block hroom => exact .block hroom

/-- Every run performs some list of commands. -/
lemma Runs.exists_performs (h : Runs host root room nodes s o) :
    ∃ xs, Performs host root room nodes s xs o := by
  induction h with
  | nil => exact ⟨_, .nil⟩
  | @cutOff room n rest s t hcut =>
    by_cases hn : ∃ c pos, n = .command c pos
    · obtain ⟨c, pos, rfl⟩ := hn
      obtain ⟨begun, hbegun, -⟩ := (State.within_of_cutOff? hcut).exists_events
      exact ⟨_, .cutOff hcut hbegun⟩
    · have hn' : ∀ c pos, n ≠ .command c pos := fun c pos heq => hn ⟨c, pos, heq⟩
      obtain rfl := State.eq_of_cutOff? hn' hcut
      exact ⟨_, .noRoom hn' hcut⟩
  | command hroom hok _ ih =>
    obtain ⟨xs, hxs⟩ := ih
    exact ⟨_, .command hroom hok hxs⟩
  | fail hroom herr => exact ⟨_, .fail hroom herr⟩
  | skip hroom hz _ ih =>
    obtain ⟨xs, hxs⟩ := ih
    exact ⟨xs, .skip hroom hz hxs⟩
  | again hroom hz _ _ ihb ihl =>
    obtain ⟨xs, hxs⟩ := ihb
    obtain ⟨ys, hys⟩ := ihl
    exact ⟨xs ++ ys, .again hroom hz hxs hys⟩
  | broken hroom hz _ ih =>
    obtain ⟨xs, hxs⟩ := ih
    exact ⟨xs, .broken hroom hz hxs⟩
  | bare hroom => exact ⟨[], .bare hroom⟩
  | block hroom => exact ⟨[], .block hroom⟩

/-- **A program runs to an outcome exactly if it performs some commands and comes to that
outcome.** -/
lemma State.runsTo_iff_exists_performsTo {p : Program} :
    s.RunsTo host p o ↔ ∃ xs, s.PerformsTo host p xs o := by
  rw [runsTo_iff]
  exact ⟨Runs.exists_performs, fun ⟨_, h⟩ => h.runs⟩

/-- A line that ends without an error goes on with a line from its last state. -/
lemma Line.append (h : Line host root s xs ⟨t, none⟩) (h' : Line host root t ys o) :
    Line host root s (xs ++ ys) o := by
  generalize hend : (⟨t, none⟩ : Outcome) = o₁ at h
  induction h with
  | stop _ =>
    cases hend
    exact h'
  | next hok _ ih => exact .next hok (ih hend)
  | fail herr =>
    rw [← hend] at herr
    cases herr
  | cutOff _ _ => cases hend

/-- **The commands of a run form a line.** -/
lemma Performs.line (h : Performs host root room nodes s xs o) : Line host root s xs o := by
  induction h with
  | nil => exact .stop (fun _ he => by cases he)
  | cutOff hcut hbegun => exact .cutOff hcut hbegun
  | command _ hok _ ih => exact .next hok ih
  | fail _ herr => exact .fail herr
  | skip _ _ _ ih => exact ih
  | again _ _ _ _ ihb ihl => exact ihb.append ihl
  | broken _ _ _ ih => exact ih
  | noRoom _ _ | bare _ | block _ =>
    refine .stop fun e he => ?_
    obtain rfl := Option.some.inj he
    trivial

end TapeLang
