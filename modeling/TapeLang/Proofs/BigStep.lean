import Mathlib.Data.Nat.Notation
import Mathlib.Tactic.Lemma
import TapeLang.Run

set_option autoImplicit false

/-!
# Runs as derivations

Whether a list of nodes comes to an end, and with which outcome, does not depend on the number of
steps that there are to spend. The relation between nodes, state and outcome is given here by rules,
one for each way in which a first node may go on or stop.

## Main definitions

* `TapeLang.Runs` — running a list of nodes comes to an end with an outcome.
* `TapeLang.State.stop?` — where a run stops at a node, and with which outcome.
* `TapeLang.HasRoom` — inside of all loops that are nested there is room for every call.
* `TapeLang.State.RunsTo` — running a program with cleared counters comes to an end with an outcome.

## Main results

* `TapeLang.runs_iff_exec` — there is a derivation exactly if some number of steps suffices.
* `TapeLang.Runs.unique` — the outcome is unique.
* `TapeLang.Runs.loop_induction` — induction on the run of a loop, pass by pass.
* `TapeLang.Runs.stop_induction` — induction on a run by whether it stops at the node that is next.
-/

namespace TapeLang

/-- Running `nodes` from a state, where the host has room for `room` frames, comes to an end with an
outcome. -/
inductive Runs (host : Host) (root : Position) : ℕ → List Node → State → Outcome → Prop where
  /-- Nothing is left to run. -/
  | nil {room : ℕ} {s : State} : Runs host root room [] s ⟨s, none⟩
  /-- There is no room for a call of the first node. -/
  | cutOff {room : ℕ} {n : Node} {rest : List Node} {s t : State}
      (hcut : s.cutOff? host room n = some t) :
      Runs host root room (n :: rest) s ⟨t, some (.nestingDepth root)⟩
  /-- A command is done, and the rest runs. -/
  | command {room : ℕ} {c : Command} {pos : Position} {rest : List Node} {s : State} {o : Outcome}
      (hroom : s.cutOff? host room (.command c pos) = none)
      (hok : (s.perform host c pos).error = none)
      (hrest : Runs host root room rest (s.perform host c pos).state o) :
      Runs host root room (.command c pos :: rest) s o
  /-- A command fails. -/
  | fail {room : ℕ} {c : Command} {pos : Position} {rest : List Node} {s : State} {e : RunError}
      (hroom : s.cutOff? host room (.command c pos) = none)
      (herr : (s.perform host c pos).error = some e) :
      Runs host root room (.command c pos :: rest) s (s.perform host c pos)
  /-- A loop is passed over on a zero cell, and the rest runs. -/
  | skip {room : ℕ} {pos : Position} {body rest : List Node} {s : State} {o : Outcome}
      (hroom : s.cutOff? host room (.loop pos body) = none)
      (hz : s.tape.current = 0) (hrest : Runs host root room rest s o) :
      Runs host root room (.loop pos body :: rest) s o
  /-- A loop is entered, its body runs to its end, and the loop comes back to itself. -/
  | again {room : ℕ} {pos : Position} {body rest : List Node} {s t : State} {o : Outcome}
      (hroom : s.cutOff? host room (.loop pos body) = none)
      (hz : s.tape.current ≠ 0) (hbody : Runs host root (room - 1) body s ⟨t, none⟩)
      (hloop : Runs host root room (.loop pos body :: rest) t o) :
      Runs host root room (.loop pos body :: rest) s o
  /-- A loop is entered, and its body stops with an error. -/
  | broken {room : ℕ} {pos : Position} {body rest : List Node} {s t : State} {e : RunError}
      (hroom : s.cutOff? host room (.loop pos body) = none)
      (hz : s.tape.current ≠ 0) (hbody : Runs host root (room - 1) body s ⟨t, some e⟩) :
      Runs host root room (.loop pos body :: rest) s ⟨t, some e⟩
  /-- A bare instruction has no meaning. -/
  | bare {room : ℕ} {pos : Position} {rest : List Node} {s : State}
      (hroom : s.cutOff? host room (.bare pos) = none) :
      Runs host root room (.bare pos :: rest) s ⟨s, some (.unknownNode .bare)⟩
  /-- A program inside a program has no meaning. -/
  | block {room : ℕ} {pos : Position} {body rest : List Node} {s : State}
      (hroom : s.cutOff? host room (.block pos body) = none) :
      Runs host root room (.block pos body :: rest) s ⟨s, some (.unknownNode .block)⟩

/-- The run of a program with cleared counters comes to an end with an outcome. -/
def State.RunsTo (s : State) (host : Host) (p : Program) (o : Outcome) : Prop :=
  ∃ fuel, s.run host fuel p = some o

variable {host : Host} {root : Position} {room : ℕ} {nodes : List Node} {s : State}
  {o o' : Outcome}

/-- What a derivation says is found with some number of steps. -/
lemma Runs.exists_exec (h : Runs host root room nodes s o) :
    ∃ fuel, exec host root fuel room nodes s = some o := by
  induction h with
  | nil => exact ⟨1, by simp only [exec]⟩
  | cutOff hcut => exact ⟨1, by simp only [exec, hcut]⟩
  | command hroom hok _ ih =>
    obtain ⟨fuel, ih⟩ := ih
    exact ⟨fuel + 1, by simp only [exec, hroom, hok, ih]⟩
  | fail hroom herr => exact ⟨1, by simp only [exec, hroom, herr]⟩
  | skip hroom hz _ ih =>
    obtain ⟨fuel, ih⟩ := ih
    exact ⟨fuel + 1, by simp only [exec, hroom, hz, if_true, ih]⟩
  | again hroom hz _ _ ihb ihl =>
    obtain ⟨fuel, ihb⟩ := ihb
    obtain ⟨fuel', ihl⟩ := ihl
    refine ⟨max fuel fuel' + 1, ?_⟩
    have hb := exec_mono (Nat.le_max_left fuel fuel') ihb
    have hl := exec_mono (Nat.le_max_right fuel fuel') ihl
    rw [exec.eq_def]
    simp only [hroom, if_neg hz, hb, hl]
  | broken hroom hz _ ih =>
    obtain ⟨fuel, ih⟩ := ih
    refine ⟨fuel + 1, ?_⟩
    rw [exec.eq_def]
    simp only [hroom, if_neg hz, ih]
  | bare hroom => exact ⟨1, by simp only [exec, hroom]⟩
  | block hroom => exact ⟨1, by simp only [exec, hroom]⟩

/-- What is found with some number of steps has a derivation.

**Proof sketch.** Induction on the number of steps. Every case of the first node is a rule. -/
lemma runs_of_exec {fuel : ℕ} (h : exec host root fuel room nodes s = some o) :
    Runs host root room nodes s o := by
  induction fuel generalizing room nodes s o with
  | zero =>
    rw [exec] at h
    cases h
  | succ fuel ih =>
    cases nodes with
    | nil =>
      simp only [exec, Option.some.injEq] at h
      exact h ▸ .nil
    | cons n rest =>
      rw [exec.eq_def] at h
      dsimp only at h
      cases hcut : s.cutOff? host room n with
      | some t =>
        simp only [hcut, Option.some.injEq] at h
        exact h ▸ .cutOff hcut
      | none =>
        simp only [hcut] at h
        cases n with
        | command c pos =>
          dsimp only at h
          cases he : (s.perform host c pos).error with
          | none =>
            simp only [he] at h
            exact .command hcut he (ih h)
          | some e =>
            simp only [he, Option.some.injEq] at h
            exact h ▸ .fail hcut he
        | bare pos => exact Option.some.inj h ▸ .bare hcut
        | block pos body => exact Option.some.inj h ▸ .block hcut
        | loop pos body =>
          dsimp only at h
          by_cases hz : s.tape.current = 0
          · rw [if_pos hz] at h
            exact .skip hcut hz (ih h)
          · rw [if_neg hz] at h
            cases hb : exec host root fuel (room - 1) body s with
            | none => simp [hb] at h
            | some ob =>
              obtain ⟨t, _ | e⟩ := ob
              · simp only [hb] at h
                exact .again hcut hz (ih hb) (ih h)
              · simp only [hb, Option.some.injEq] at h
                exact h ▸ .broken hcut hz (ih hb)

/-- **A list of nodes has a derivation exactly if some number of steps suffices for it.** -/
lemma runs_iff_exec :
    Runs host root room nodes s o ↔ ∃ fuel, exec host root fuel room nodes s = some o :=
  ⟨Runs.exists_exec, fun ⟨_, h⟩ => runs_of_exec h⟩

/-- The outcome of a run is unique. -/
lemma Runs.unique (h : Runs host root room nodes s o)
    (h' : Runs host root room nodes s o') : o = o' := by
  obtain ⟨fuel, h⟩ := h.exists_exec
  obtain ⟨fuel', h'⟩ := h'.exists_exec
  have hm := exec_mono (Nat.le_max_left fuel fuel') h
  have hm' := exec_mono (Nat.le_max_right fuel fuel') h'
  exact Option.some.inj (hm.symm.trans hm')

/-- Induction on the run of a loop: the loop is passed over, or it makes one pass and its run goes
on, or the pass fails, or there is no room for testing the cell. -/
@[elab_as_elim]
lemma Runs.loop_induction {pos : Position} {body rest : List Node}
    {motive : ∀ s o, Runs host root room (.loop pos body :: rest) s o → Prop}
    (skip : ∀ {s o} (hroom : s.cutOff? host room (.loop pos body) = none)
      (hz : s.tape.current = 0) (hrest : Runs host root room rest s o),
      motive s o (.skip hroom hz hrest))
    (again : ∀ {s t o} (hroom : s.cutOff? host room (.loop pos body) = none)
      (hz : s.tape.current ≠ 0) (hbody : Runs host root (room - 1) body s ⟨t, none⟩)
      (hloop : Runs host root room (.loop pos body :: rest) t o),
      motive t o hloop → motive s o (.again hroom hz hbody hloop))
    (broken : ∀ {s t e} (hroom : s.cutOff? host room (.loop pos body) = none)
      (hz : s.tape.current ≠ 0) (hbody : Runs host root (room - 1) body s ⟨t, some e⟩),
      motive s ⟨t, some e⟩ (.broken hroom hz hbody))
    (cutOff : ∀ {s t} (hcut : s.cutOff? host room (.loop pos body) = some t),
      motive s ⟨t, some (.nestingDepth root)⟩ (.cutOff hcut))
    (h : Runs host root room (.loop pos body :: rest) s o) : motive s o h := by
  have hnodes : ∀ {room' nodes s o} (h : Runs host root room' nodes s o) (hr : room' = room)
      (hn : nodes = .loop pos body :: rest), motive s o (hr ▸ hn ▸ h) := by
    intro room' nodes s o h hr hn
    induction h with
    | nil | command _ _ _ _ | fail _ _ | bare _ | block _ => cases hn
    | cutOff hcut =>
      cases hr
      cases hn
      exact cutOff hcut
    | skip hroom hz hrest _ =>
      cases hr
      cases hn
      exact skip hroom hz hrest
    | again hroom hz hbody hloop _ ih =>
      cases hr
      cases hn
      exact again hroom hz hbody hloop (ih rfl rfl)
    | broken hroom hz hbody _ =>
      cases hr
      cases hn
      exact broken hroom hz hbody
  exact hnodes h rfl rfl

/-! ## Nodes at which a run stops -/

/-- No command makes the error that a run is cut off with. -/
lemma State.perform_ne_nestingDepth (s : State) (c : Command) (pos r : Position) :
    (s.perform host c pos).error ≠ some (.nestingDepth r) := by
  intro he
  rcases State.error_cases he with ⟨-, -, h⟩ | ⟨-, -, h⟩ | ⟨-, -, h⟩ <;> cases h

/-- The outcome of a run that stops at the node which is next, if it does: the node is cut off, or
it is a command that fails, or it has no meaning. -/
def State.stop? (s : State) (host : Host) (root : Position) (room : ℕ) (n : Node) :
    Option Outcome :=
  match s.cutOff? host room n with
  | some t => some ⟨t, some (.nestingDepth root)⟩
  | none =>
    match n with
    | .command c pos =>
      if (s.perform host c pos).error = none then none else some (s.perform host c pos)
    | .loop _ _ => none
    | .bare _ => some ⟨s, some (.unknownNode .bare)⟩
    | .block _ _ => some ⟨s, some (.unknownNode .block)⟩

section Stop

variable {n : Node} {rest : List Node} {c : Command} {pos : Position} {body : List Node}

/-- A run stops at a node that is cut off. -/
lemma State.stop?_of_cutOff? {t : State} (h : s.cutOff? host room n = some t) :
    s.stop? host root room n = some ⟨t, some (.nestingDepth root)⟩ := by
  simp only [stop?, h]

/-- A run goes on behind a command that is neither cut off nor fails. -/
lemma State.stop?_command_eq_none_iff :
    s.stop? host root room (.command c pos) = none ↔
      s.cutOff? host room (.command c pos) = none ∧ (s.perform host c pos).error = none := by
  unfold stop?
  cases s.cutOff? host room (.command c pos) with
  | some t => simp
  | none => simp

/-- A run stops at a command that is cut off, or fails. -/
lemma State.stop?_command_eq_some_iff :
    s.stop? host root room (.command c pos) = some o ↔
      (∃ t, s.cutOff? host room (.command c pos) = some t ∧ o = ⟨t, some (.nestingDepth root)⟩) ∨
        s.cutOff? host room (.command c pos) = none ∧ (∃ e, (s.perform host c pos).error = some e) ∧
          o = s.perform host c pos := by
  unfold stop?
  cases s.cutOff? host room (.command c pos) with
  | some t => simp [eq_comm]
  | none =>
    cases herr : (s.perform host c pos).error with
    | none => simp [herr]
    | some e => simp [herr, eq_comm]

/-- A run stops at a loop only if that is cut off. -/
lemma State.stop?_loop :
    s.stop? host root room (.loop pos body) =
      (s.cutOff? host room (.loop pos body)).map fun t => ⟨t, some (.nestingDepth root)⟩ := by
  unfold stop?
  cases s.cutOff? host room (.loop pos body) <;> rfl

/-- Where a run stops, it stops with an error. -/
lemma State.exists_error_of_stop? (h : s.stop? host root room n = some o) :
    ∃ e, o.error = some e := by
  unfold stop? at h
  split at h
  · obtain rfl := Option.some.inj h
    exact ⟨_, rfl⟩
  · split at h
    · split at h
      · cases h
      · next herr =>
        obtain rfl := Option.some.inj h
        exact Option.ne_none_iff_exists'.1 herr
    · cases h
    · obtain rfl := Option.some.inj h
      exact ⟨_, rfl⟩
    · obtain rfl := Option.some.inj h
      exact ⟨_, rfl⟩

/-- The run of a list of nodes comes to an end if it stops at the first of them. -/
lemma Runs.stop (h : s.stop? host root room n = some o) :
    Runs host root room (n :: rest) s o := by
  unfold State.stop? at h
  split at h
  · next hcut =>
    obtain rfl := Option.some.inj h
    exact .cutOff hcut
  · next hroom =>
    split at h
    · split at h
      · cases h
      · next herr =>
        obtain rfl := Option.some.inj h
        obtain ⟨e, herr⟩ := Option.ne_none_iff_exists'.1 herr
        exact .fail hroom herr
    · cases h
    · obtain rfl := Option.some.inj h
      exact .bare hroom
    · obtain rfl := Option.some.inj h
      exact .block hroom

/-- The run of a list of nodes goes on behind a command at which it does not stop. -/
lemma Runs.go (h : s.stop? host root room (.command c pos) = none)
    (hrest : Runs host root room rest (s.perform host c pos).state o) :
    Runs host root room (.command c pos :: rest) s o :=
  .command (State.stop?_command_eq_none_iff.1 h).1 (State.stop?_command_eq_none_iff.1 h).2 hrest

/-- Induction on a run, by the node that is next: the run stops there, or it goes on. -/
@[elab_as_elim]
lemma Runs.stop_induction
    {motive : ∀ room nodes s o, Runs host root room nodes s o → Prop}
    (nil : ∀ {room s}, motive room [] s ⟨s, none⟩ .nil)
    (stop : ∀ {room n rest s o} (h : s.stop? host root room n = some o),
      motive room (n :: rest) s o (.stop h))
    (go : ∀ {room c pos rest s o} (h : s.stop? host root room (.command c pos) = none)
      (hrest : Runs host root room rest (s.perform host c pos).state o),
      motive _ _ _ _ hrest → motive room (.command c pos :: rest) s o (.go h hrest))
    (skip : ∀ {room pos body rest s o} (hroom : s.cutOff? host room (.loop pos body) = none)
      (hz : s.tape.current = 0) (hrest : Runs host root room rest s o),
      motive _ _ _ _ hrest → motive room (.loop pos body :: rest) s o (.skip hroom hz hrest))
    (again : ∀ {room pos body rest s t o} (hroom : s.cutOff? host room (.loop pos body) = none)
      (hz : s.tape.current ≠ 0) (hbody : Runs host root (room - 1) body s ⟨t, none⟩)
      (hloop : Runs host root room (.loop pos body :: rest) t o),
      motive _ _ _ _ hbody → motive _ _ _ _ hloop →
      motive room (.loop pos body :: rest) s o (.again hroom hz hbody hloop))
    (broken : ∀ {room pos body rest s t e} (hroom : s.cutOff? host room (.loop pos body) = none)
      (hz : s.tape.current ≠ 0) (hbody : Runs host root (room - 1) body s ⟨t, some e⟩),
      motive _ _ _ _ hbody →
      motive room (.loop pos body :: rest) s ⟨t, some e⟩ (.broken hroom hz hbody))
    (h : Runs host root room nodes s o) : motive room nodes s o h := by
  induction h with
  | nil => exact nil
  | cutOff hcut => exact stop (by simp only [State.stop?, hcut])
  | command hroom hok hrest ih =>
    exact go (State.stop?_command_eq_none_iff.2 ⟨hroom, hok⟩) hrest ih
  | fail hroom herr =>
    exact stop (State.stop?_command_eq_some_iff.2 (.inr ⟨hroom, ⟨_, herr⟩, rfl⟩))
  | skip hroom hz hrest ih => exact skip hroom hz hrest ih
  | again hroom hz hbody hloop ihb ihl => exact again hroom hz hbody hloop ihb ihl
  | broken hroom hz hbody ih => exact broken hroom hz hbody ih
  | bare hroom => exact stop (by simp only [State.stop?, hroom])
  | block hroom => exact stop (by simp only [State.stop?, hroom])

end Stop

/-! ## Room for everything -/

/-- Inside of all loops that are nested there is room for every call. -/
def HasRoom (host : Host) (room : ℕ) (nodes : List Node) : Prop :=
  ∀ call trace input, nesting nodes + host.frames call trace input ≤ room

namespace HasRoom

variable {n : Node} {inner rest : List Node} {pos : Position}

/-- Where there is room for every call no node is cut off. -/
lemma cutOff?_eq_none (h : HasRoom host room nodes) (s : State) (n : Node) :
    s.cutOff? host room n = none :=
  State.cutOff?_eq_none (fun call trace input => Nat.le_trans (Nat.le_add_left _ _)
    (h call trace input)) s n

/-- There is room behind the first node. -/
lemma tail (h : HasRoom host room (n :: rest)) : HasRoom host room rest := by
  intro call trace input
  have hle : nesting rest ≤ nesting (n :: rest) := by
    rw [nesting]
    exact Nat.le_max_right _ _
  exact Nat.le_trans (Nat.add_le_add_right hle _) (h call trace input)

/-- There is room in the body of a loop. -/
lemma body (h : HasRoom host room (.loop pos inner :: rest)) : HasRoom host (room - 1) inner := by
  intro call trace input
  have := h call trace input
  rw [nesting_cons_loop] at this
  omega

/-- Inside of 801 loops a host has room for every call of a run. -/
lemma of_nesting_le (hn : nesting nodes ≤ 801) (hroom : host.room - 1 ≤ room) :
    HasRoom host room nodes := by
  intro call trace input
  have := host.frames_le_room call trace input
  omega

end HasRoom

/-- A program runs as its nodes do, from the state with cleared counters. The run itself takes one
frame. -/
lemma State.runsTo_iff {p : Program} :
    s.RunsTo host p o ↔ Runs host p.root (host.room - 1) p.body s.clearCounters o :=
  runs_iff_exec.symm

end TapeLang
