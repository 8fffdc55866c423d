import Mathlib.Logic.Function.Iterate
import TapeLang.Proofs.Nests
import TapeLang.Proofs.Streams

set_option autoImplicit false

/-!
# The stack of open loops

A tree can be run one step at a time, by a machine that keeps the loops it has entered on a stack.
A loop is put on the stack when it is entered, and taken off when its body is done; a loop that is
passed over never comes there. The machine itself knows no limit. A run does what the machine does,
up to the first moment at which the open loops leave no room for a call of the node that is next:
each of them takes a frame, and what a call takes differs from call to call.

## Main definitions

* `TapeLang.LoopStack.Control` — the nodes that are next and the open loops, or the end.
* `TapeLang.LoopStack.step` — one step of the machine.
* `TapeLang.LoopStack.cutOff?` — where a run is cut off that has come to a control.
* `TapeLang.LoopStack.outcome?` — the outcome of a run that has come to its end.
* `TapeLang.LoopStack.Path` — the machine comes from one control to another in a number of steps,
  and a run goes on until then.
* `TapeLang.LoopStack.Enters` — the machine is about to enter a loop with so many loops open.
* `TapeLang.LoopStack.frugal` — a host in which every call takes one frame.

## Main results

* `TapeLang.LoopStack.arrives_of_runs` — what a run does, the machine does.
* `TapeLang.LoopStack.exists_runs_of_path` — where the machine comes to an end, so does the run.
* `TapeLang.LoopStack.runsTo_iff_exists_path` — a program runs to where the path of the machine
  ends.
* `TapeLang.LoopStack.run_cut_off_iff` — a run is cut off just where the machine first comes to a
  node for which the open loops leave no room.
* `TapeLang.LoopStack.not_exists_loop_limit` — how many loops are too many is not the same for all
  nodes.
-/

namespace TapeLang

namespace LoopStack

/-- What the machine is about to do. -/
inductive Control where
  /-- The nodes are next, in a state. For each open loop, the innermost first, `opened` holds the
  nodes that are next when the body of the loop is done: the loop itself and what follows it. -/
  | running (opened : List (List Node)) (nodes : List Node) (s : State)
  /-- The machine has halted. -/
  | halted (o : Outcome)

/-- One step. Where a body is done, its loop is closed and tested again. -/
def step (host : Host) : Control → Control
  | .halted o => .halted o
  | .running opened [] s =>
    match opened with
    | [] => .halted ⟨s, none⟩
    | next :: opened => .running opened next s
  | .running opened (.command c pos :: rest) s =>
    let o := s.perform host c pos
    match o.error with
    | none => .running opened rest o.state
    | some _ => .halted o
  | .running opened (.loop pos body :: rest) s =>
    if s.tape.current = 0 then .running opened rest s
    else .running ((.loop pos body :: rest) :: opened) body s
  | .running _ (.bare _ :: _) s => .halted ⟨s, some (.unknownNode .bare)⟩
  | .running _ (.block _ _ :: _) s => .halted ⟨s, some (.unknownNode .block)⟩

/-- The state in which a run with room for `room` frames is cut off here, if it is: the open loops
take a frame each, and what they leave is not enough for a call of the node that is next. -/
def cutOff? (host : Host) (room : ℕ) : Control → Option State
  | .running opened (n :: _) s => s.cutOff? host (room - opened.length) n
  | .running _ [] _ => none
  | .halted _ => none

/-- The outcome of a run that ends here, if it does. -/
def outcome? (host : Host) (root : Position) (room : ℕ) : Control → Option Outcome
  | .halted o => some o
  | .running opened nodes s =>
    (cutOff? host room (.running opened nodes s)).map fun t => ⟨t, some (.nestingDepth root)⟩

/-- The machine comes from one control to another in a number of steps, and a run goes on until
then. -/
inductive Path (host : Host) (root : Position) (room : ℕ) : ℕ → Control → Control → Prop where
  /-- No step is made. -/
  | refl {c : Control} : Path host root room 0 c c
  /-- A step is made where a run goes on. -/
  | next {n : ℕ} {c c' : Control} (hc : outcome? host root room c = none)
      (rest : Path host root room n (step host c) c') : Path host root room (n + 1) c c'

/-- The machine comes to where the outcome of some nodes leaves a run: to the end of these nodes, or
to the end of the run, with an error. -/
inductive Arrives (host : Host) (root : Position) (room : ℕ) (opened : List (List Node))
    (c : Control) : Outcome → Prop where
  /-- The nodes are done. -/
  | done {n : ℕ} {t : State} (h : Path host root room n c (.running opened [] t)) :
      Arrives host root room opened c ⟨t, none⟩
  /-- The run ends with an error. -/
  | stopped {n : ℕ} {c' : Control} {o : Outcome} {e : RunError} (h : Path host root room n c c')
      (hend : outcome? host root room c' = some o) (he : o.error = some e) :
      Arrives host root room opened c o

/-- The machine before the first step of a program, with the counters cleared. -/
def start (p : Program) (s : State) : Control :=
  .running [] p.body s.clearCounters

variable {host : Host} {root : Position} {room left n k : ℕ} {c c' c'' : Control}
  {opened : List (List Node)} {node : Node} {nodes rest : List Node} {s t : State}
  {o o' : Outcome}

/-! ## Paths -/

/-- Before a node a run goes on if there is room for every call of it. -/
lemma outcome?_cons_eq_none (hopen : opened.length + left = room)
    (h : s.cutOff? host left node = none) :
    outcome? host root room (.running opened (node :: rest) s) = none := by
  rw [outcome?, cutOff?, ← hopen, Nat.add_sub_cancel_left, h]
  rfl

/-- Before a node a run ends if there is no room for a call of it. -/
lemma outcome?_cons_eq_some (hopen : opened.length + left = room)
    (h : s.cutOff? host left node = some t) :
    outcome? host root room (.running opened (node :: rest) s) =
      some ⟨t, some (.nestingDepth root)⟩ := by
  rw [outcome?, cutOff?, ← hopen, Nat.add_sub_cancel_left, h]
  rfl

/-- A run goes on exactly if it is neither cut off nor at a halt. -/
lemma outcome?_eq_none_iff :
    outcome? host root room c = none ↔ cutOff? host room c = none ∧ ∀ o, c ≠ .halted o := by
  cases c with
  | running opened nodes s => simp [outcome?]
  | halted o => simp [outcome?]

/-- One step is a path. -/
lemma Path.single (hc : outcome? host root room c = none) (h : step host c = c') :
    Path host root room 1 c c' :=
  .next hc (h ▸ .refl)

/-- A path goes on with a path from where it leads. -/
lemma Path.trans (h : Path host root room n c c') (h' : Path host root room k c' c'') :
    Path host root room (n + k) c c'' := by
  induction h with
  | refl => simpa using h'
  | @next n _ _ hc _ ih =>
    rw [Nat.add_right_comm]
    exact .next hc (ih h')

/-- A path to an end goes through every control to which there is a path. -/
lemma Path.exists_rest (h : Path host root room n c c') (h' : Path host root room k c c'')
    (hend : outcome? host root room c'' = some o) :
    ∃ d, k = n + d ∧ Path host root room d c' c'' := by
  induction h generalizing k with
  | refl => exact ⟨k, (Nat.zero_add k).symm, h'⟩
  | next hc _ ih =>
    cases h' with
    | refl => cases hc.symm.trans hend
    | next _ rest =>
      obtain ⟨d, rfl, hd⟩ := ih rest
      exact ⟨d, Nat.add_right_comm _ _ _, hd⟩

/-- A path leads to one end. -/
lemma Path.end_unique (h : Path host root room n c c') (hend : outcome? host root room c' = some o)
    (h' : Path host root room k c c'') (hend' : outcome? host root room c'' = some o') :
    c' = c'' := by
  obtain ⟨d, -, hd⟩ := h.exists_rest h' hend'
  cases hd with
  | refl => rfl
  | next hc _ => cases hc.symm.trans hend

/-- A path to an end begins with a step unless it begins there. -/
lemma Path.exists_tail (h : Path host root room n c c') (hend : outcome? host root room c' = some o)
    (hc : outcome? host root room c = none) :
    ∃ d, n = d + 1 ∧ Path host root room d (step host c) c' := by
  cases h with
  | refl => cases hc.symm.trans hend
  | next _ rest => exact ⟨_, rfl, rest⟩

/-- The steps of a path are those of the machine, and at none of them a run is cut off. -/
lemma Path.iterate (h : Path host root room n c c') :
    (step host)^[n] c = c' ∧ ∀ m < n, cutOff? host room ((step host)^[m] c) = none := by
  induction h with
  | refl => exact ⟨rfl, fun m hm => absurd hm (Nat.not_lt_zero m)⟩
  | next hc _ ih =>
    refine ⟨ih.1, fun m hm => ?_⟩
    cases m with
    | zero => exact (outcome?_eq_none_iff.1 hc).1
    | succ m => exact ih.2 m (Nat.lt_of_succ_lt_succ hm)

/-- A machine that has halted stays as it is. -/
lemma iterate_halted (host : Host) (n : ℕ) (o : Outcome) :
    (step host)^[n] (.halted o) = .halted o :=
  Function.iterate_fixed rfl n

/-- The steps of the machine to an end are a path, if a run is not cut off before. -/
lemma exists_path_of_iterate (hend : outcome? host root room ((step host)^[n] c) = some o)
    (h : ∀ m < n, cutOff? host room ((step host)^[m] c) = none) :
    ∃ k, Path host root room k c ((step host)^[n] c) := by
  induction n generalizing c with
  | zero => exact ⟨0, .refl⟩
  | succ n ih =>
    cases c with
    | halted o =>
      rw [iterate_halted]
      exact ⟨0, .refl⟩
    | running opened nodes s =>
      obtain ⟨k, hk⟩ := ih hend fun m hm => h (m + 1) (Nat.succ_lt_succ hm)
      exact ⟨k + 1, .next (outcome?_eq_none_iff.2 ⟨h 0 (Nat.succ_pos n), nofun⟩) hk⟩

/-! ## From runs to paths -/

/-- What is arrived at behind a path is arrived at. -/
lemma Arrives.of_path (h : Path host root room n c c')
    (h' : Arrives host root room opened c' o) : Arrives host root room opened c o := by
  cases h' with
  | done h' => exact .done (h.trans h')
  | stopped h' hend he => exact .stopped (h.trans h') hend he

/-- A halt with an error is the end of a run. -/
lemma Arrives.of_halted {e : RunError} (h : Path host root room n c (.halted o))
    (he : o.error = some e) : Arrives host root room opened c o :=
  .stopped h rfl he

/-- Without an error the machine comes to the end of the nodes. -/
lemma Arrives.exists_path (h : Arrives host root room opened c o) (ho : o.error = none) :
    ∃ n, Path host root room n c (.running opened [] o.state) := by
  cases h with
  | done h => exact ⟨_, h⟩
  | stopped _ _ he => cases ho.symm.trans he

/-- An error is the end of all nodes that wait on the stack. -/
lemma Arrives.of_error {opened' : List (List Node)} (h : Arrives host root room opened c o)
    (ho : o.error ≠ none) : Arrives host root room opened' c o := by
  cases h with
  | done _ => exact absurd rfl ho
  | stopped h hend he => exact .stopped h hend he

/-- A loop is entered in one step, if there is room for the test. -/
lemma path_enter {pos : Position} {body : List Node} (hopen : opened.length + left = room)
    (hroom : s.cutOff? host left (.loop pos body) = none) (hz : s.tape.current ≠ 0) :
    Path host root room 1 (.running opened (.loop pos body :: rest) s)
      (.running ((.loop pos body :: rest) :: opened) body s) := by
  refine .single (outcome?_cons_eq_none hopen hroom) ?_
  simp only [step, if_neg hz]

/-- A loop that is entered is open, and leaves one frame less. -/
lemma length_cons_add (hopen : opened.length + left = room) (hleft : 0 < left)
    (next : List Node) : (next :: opened).length + (left - 1) = room := by
  rw [List.length_cons]
  omega

/-- **What a run does, the machine does**, whatever loops are open around the nodes. The loops that
are open and the frames that are left make up the room.

**Proof sketch.** Induction on the run, for every stack. Inside of a loop the stack is longer by
that loop, and there is a frame less. -/
lemma arrives_of_runs (h : Runs host root left nodes s o)
    (hopen : opened.length + left = room) :
    Arrives host root room opened (.running opened nodes s) o := by
  induction h generalizing opened with
  | nil => exact .done .refl
  | cutOff hcut => exact .stopped .refl (outcome?_cons_eq_some hopen hcut) rfl
  | command hroom hok _ ih =>
    refine (ih hopen).of_path (.single (outcome?_cons_eq_none hopen hroom) ?_)
    simp only [step, hok]
  | fail hroom herr =>
    refine .of_halted (.single (outcome?_cons_eq_none hopen hroom) ?_) herr
    simp only [step, herr]
  | skip hroom hz _ ih =>
    refine (ih hopen).of_path (.single (outcome?_cons_eq_none hopen hroom) ?_)
    simp only [step, hz, if_true]
  | @again left pos body rest s t o hroom hz _ _ ihb ihl =>
    have hopen' := length_cons_add hopen (State.room_pos_of_cutOff?_loop hroom)
    obtain ⟨n, hend⟩ := (ihb (hopen' (.loop pos body :: rest))).exists_path rfl
    -- behind the body the loop is next again, with the stack as it was before
    have hclose := hend.trans (.single rfl rfl)
    exact ((ihl hopen).of_path hclose).of_path (path_enter hopen hroom hz)
  | @broken left pos body rest s t e hroom hz _ ih =>
    have hopen' := length_cons_add hopen (State.room_pos_of_cutOff?_loop hroom)
    have hbody := ih (hopen' (.loop pos body :: rest))
    exact (hbody.of_error (Option.some_ne_none e)).of_path (path_enter hopen hroom hz)
  | bare hroom => exact .of_halted (.single (outcome?_cons_eq_none hopen hroom) rfl) rfl
  | block hroom => exact .of_halted (.single (outcome?_cons_eq_none hopen hroom) rfl) rfl

/-! ## From paths to runs -/

/-- **Where the machine comes to an end, so does the run.**

**Proof sketch.** Strong induction on the length of the path. A command and entering a loop are a
step each, and so is closing a loop, behind which the loop is next with a shorter path. -/
lemma exists_runs_of_path (h : Path host root room n (.running opened nodes s) c')
    (hend : outcome? host root room c' = some o') (hopen : opened.length + left = room) :
    ∃ o, Runs host root left nodes s o := by
  induction n using Nat.strongRecOn generalizing opened nodes s left with
  | ind n ih =>
  cases nodes with
  | nil => exact ⟨_, .nil⟩
  | cons node rest =>
  cases hroom : s.cutOff? host left node with
  | some t => exact ⟨_, .cutOff hroom⟩
  | none =>
    obtain ⟨d, rfl, hd⟩ := h.exists_tail hend (outcome?_cons_eq_none hopen hroom)
    cases node with
    | bare pos => exact ⟨_, .bare hroom⟩
    | block pos body => exact ⟨_, .block hroom⟩
    | command cmd pos =>
      cases he : (s.perform host cmd pos).error with
      | some e => exact ⟨_, .fail hroom he⟩
      | none =>
        simp only [step, he] at hd
        obtain ⟨o, ho⟩ := ih d (Nat.lt_succ_self d) hd hopen
        exact ⟨o, .command hroom he ho⟩
    | loop pos body =>
      by_cases hz : s.tape.current = 0
      · simp only [step, hz, if_true] at hd
        obtain ⟨o, ho⟩ := ih d (Nat.lt_succ_self d) hd hopen
        exact ⟨o, .skip hroom hz ho⟩
      · simp only [step, if_neg hz] at hd
        have hopen' := length_cons_add hopen (State.room_pos_of_cutOff?_loop hroom)
          (.loop pos body :: rest)
        obtain ⟨⟨t, _ | e⟩, hbody⟩ := ih d (Nat.lt_succ_self d) hd hopen'
        -- the path goes through the end of the body and then closes the loop
        · obtain ⟨m, hdone⟩ := (arrives_of_runs hbody hopen').exists_path rfl
          obtain ⟨d', rfl, hclose⟩ := hdone.exists_rest hd hend
          obtain ⟨d'', rfl, hloop⟩ := hclose.exists_tail hend rfl
          obtain ⟨o, ho⟩ := ih d'' (by omega) hloop hopen
          exact ⟨o, .again hroom hz hbody ho⟩
        · exact ⟨_, .broken hroom hz hbody⟩

/-! ## Whole programs -/

/-- **A program runs to where the path of the machine ends.** -/
lemma runsTo_iff_exists_path {p : Program} :
    s.RunsTo host p o ↔ ∃ n c, Path host p.root (host.room - 1) n (start p s) c ∧
      outcome? host p.root (host.room - 1) c = some o := by
  have forward : ∀ {o}, s.RunsTo host p o → ∃ n c,
      Path host p.root (host.room - 1) n (start p s) c ∧
        outcome? host p.root (host.room - 1) c = some o := by
    intro o ho
    have harr : Arrives host p.root (host.room - 1) [] (start p s) o :=
      arrives_of_runs (State.runsTo_iff.1 ho) (Nat.zero_add _)
    cases harr with
    | @done n t h => exact ⟨n + 1, .halted ⟨t, none⟩, h.trans (.single rfl rfl), rfl⟩
    | stopped h hend _ => exact ⟨_, _, h, hend⟩
  refine ⟨forward, ?_⟩
  rintro ⟨n, c, h, hend⟩
  obtain ⟨o', ho'⟩ := exists_runs_of_path h hend (Nat.zero_add _)
  have hruns : s.RunsTo host p o' := State.runsTo_iff.2 ho'
  obtain ⟨n', c', h', hend'⟩ := forward hruns
  rw [h.end_unique hend h' hend'] at hend
  exact Option.some.inj (hend'.symm.trans hend) ▸ hruns

/-- The machine itself does not fail for want of room. -/
lemma error_ne_of_step (h : step host (.running opened nodes s) = .halted o) (r : Position) :
    o.error ≠ some (.nestingDepth r) := by
  cases nodes with
  | nil =>
    cases opened with
    | nil =>
      obtain rfl := Control.halted.inj h
      exact nofun
    | cons next opened => cases h
  | cons node rest =>
    cases node with
    | bare pos =>
      obtain rfl := Control.halted.inj h
      exact nofun
    | block pos body =>
      obtain rfl := Control.halted.inj h
      exact nofun
    | loop pos body =>
      simp only [step] at h
      split at h <;> cases h
    | command cmd pos =>
      simp only [step] at h
      split at h
      · cases h
      · obtain rfl := Control.halted.inj h
        exact State.perform_ne_nestingDepth s cmd pos r

/-- Where a path leads to a halt, the machine has not failed for want of room. -/
lemma Path.error_ne (h : Path host root room n (.running opened nodes s) (.halted o))
    (r : Position) : o.error ≠ some (.nestingDepth r) := by
  generalize hc : Control.running opened nodes s = c, hc' : Control.halted o = c' at h
  induction h generalizing opened nodes s with
  | refl =>
    subst hc
    cases hc'
  | @next n c c' _ rest ih =>
    subst hc
    cases hstep : step host (.running opened nodes s) with
    | running opened' nodes' s' => exact ih hstep.symm hc'
    | halted o' =>
      rw [hstep] at rest
      cases rest with
      | refl =>
        cases hc'
        exact error_ne_of_step hstep r
      | next hc _ => cases hc

/-- A run ends where it is cut off. -/
lemma outcome?_of_cutOff? (h : cutOff? host room c = some t) (root : Position) :
    outcome? host root room c = some ⟨t, some (.nestingDepth root)⟩ := by
  cases c with
  | running opened nodes s => rw [outcome?, h, Option.map_some]
  | halted o => cases h

/-- A run that ends where the machine has not halted is cut off. -/
lemma exists_cutOff?_of_end? {opened : List (List Node)}
    (h : outcome? host root room (.running opened nodes s) = some o) :
    ∃ t, cutOff? host room (.running opened nodes s) = some t ∧
      o = ⟨t, some (.nestingDepth root)⟩ := by
  obtain ⟨t, ht, rfl⟩ := Option.map_eq_some_iff.1 h
  exact ⟨t, ht, rfl⟩

/-- A run fails for want of room exactly where it is first cut off. -/
lemma runsTo_nestingDepth_iff {p : Program} :
    (s.RunsTo host p o ∧ ∃ r, o.error = some (.nestingDepth r)) ↔
      ∃ n t, cutOff? host (host.room - 1) ((step host)^[n] (start p s)) = some t ∧
        (∀ m < n, cutOff? host (host.room - 1) ((step host)^[m] (start p s)) = none) ∧
        o = ⟨t, some (.nestingDepth p.root)⟩ := by
  constructor
  · rintro ⟨hruns, r, hr⟩
    obtain ⟨n, c, hpath, hend⟩ := runsTo_iff_exists_path.1 hruns
    obtain ⟨hc, hbefore⟩ := hpath.iterate
    cases c with
    | running opened nodes u =>
      obtain ⟨t, hcut, rfl⟩ := exists_cutOff?_of_end? hend
      exact ⟨n, t, hc ▸ hcut, hbefore, rfl⟩
    | halted o' =>
      obtain rfl := Option.some.inj hend
      exact absurd hr (hpath.error_ne r)
  · rintro ⟨n, t, hcut, hbefore, rfl⟩
    have hend := outcome?_of_cutOff? hcut p.root
    obtain ⟨k, hpath⟩ := exists_path_of_iterate hend hbefore
    exact ⟨runsTo_iff_exists_path.2 ⟨k, _, hpath, hend⟩, p.root, rfl⟩

/-- A run ends otherwise exactly where the machine halts and the run was not cut off before. -/
lemma runsTo_of_ne_nestingDepth_iff {p : Program} :
    (s.RunsTo host p o ∧ ∀ r, o.error ≠ some (.nestingDepth r)) ↔
      ∃ n, (step host)^[n] (start p s) = .halted o ∧
        ∀ m < n, cutOff? host (host.room - 1) ((step host)^[m] (start p s)) = none := by
  constructor
  · rintro ⟨hruns, hne⟩
    obtain ⟨n, c, hpath, hend⟩ := runsTo_iff_exists_path.1 hruns
    obtain ⟨hc, hbefore⟩ := hpath.iterate
    cases c with
    | running opened nodes u =>
      obtain ⟨t, -, rfl⟩ := exists_cutOff?_of_end? hend
      exact absurd rfl (hne p.root)
    | halted o' =>
      obtain rfl := Option.some.inj hend
      exact ⟨n, hc, hbefore⟩
  · rintro ⟨n, hhalt, hbefore⟩
    have hend : outcome? host p.root (host.room - 1) ((step host)^[n] (start p s)) = some o := by
      rw [hhalt]
      rfl
    obtain ⟨k, hpath⟩ := exists_path_of_iterate hend hbefore
    refine ⟨runsTo_iff_exists_path.2 ⟨k, _, hpath, hend⟩, ?_⟩
    rw [hhalt] at hpath
    exact hpath.error_ne

/-! ## How many loops leave no room -/

/-- Inside of 801 loops there is room for every call. -/
lemma cutOff?_eq_none_of_length_le (h : opened.length ≤ 801) :
    cutOff? host (host.room - 1) (.running opened nodes s) = none := by
  cases nodes with
  | nil => rfl
  | cons node rest =>
    refine State.cutOff?_eq_none (fun call trace input => ?_) s node
    have := host.frames_le_room call trace input
    omega

/-- Inside of 1098 loops no cell can be tested. -/
lemma cutOff?_loop_of_le_length {pos : Position} {body : List Node}
    (h : 1098 ≤ opened.length) :
    cutOff? host (host.room - 1) (.running opened (.loop pos body :: rest) s) = some s := by
  have hlt := host.room_lt
  have hpos := host.frames_test_pos s.trace s.input
  have hfits : ¬host.frames .test s.trace s.input ≤ host.room - 1 - opened.length := by omega
  simp [cutOff?, State.cutOff?, State.nodeCalls, State.fits, hfits]

/-- A loop is next whose current cell is not zero, so that it would be entered, and `limit` loops
are open. -/
def Enters (limit : ℕ) : Control → Prop
  | .running opened (.loop _ _ :: _) s => opened.length = limit ∧ s.tape.current ≠ 0
  | _ => False

/-- A host in which every call takes one frame and fits inside of 994 loops. -/
def frugal : Host :=
  { Host.usual with
    room := 996
    frames := fun _ _ _ => 1
    frames_test_pos := fun _ _ => Nat.one_pos
    frames_le_room := fun _ _ _ => by decide
    room_lt := Host.usual.parseRoom_lt }

/-- The machine goes into a nest on a cell that is not zero, one loop after another. -/
lemma exists_iterate_nest (host : Host) (opened : List (List Node)) (body : List Node)
    (hz : s.tape.current ≠ 0) (k j : ℕ) :
    ∃ opened', opened'.length = opened.length + k ∧
      (step host)^[k] (.running opened (nest (k + j) body) s) =
        .running opened' (nest j body) s := by
  induction k generalizing opened with
  | zero => exact ⟨opened, rfl, by rw [Nat.zero_add]; rfl⟩
  | succ k ih =>
    obtain ⟨opened', hlength, hiter⟩ := ih (nest (k + 1 + j) body :: opened)
    refine ⟨opened', by rw [hlength, List.length_cons]; omega, ?_⟩
    rw [Function.iterate_succ_apply, ← hiter, Nat.add_right_comm, nest, step, if_neg hz]

/-- The machine enters every loop of a nest on a cell that is not zero. -/
lemma exists_enters_nest (host : Host) (body : List Node) {limit k : ℕ} (hz : s.tape.current ≠ 0)
    (hlt : limit < k) :
    ∃ n, Enters limit ((step host)^[n] (start ⟨.start, nest k body⟩ s)) := by
  obtain ⟨j, rfl⟩ := Nat.exists_eq_add_of_lt hlt
  have hz' : s.clearCounters.tape.current ≠ 0 := hz
  obtain ⟨opened, hlength, hiter⟩ := exists_iterate_nest host [] body hz' limit (j + 1)
  refine ⟨limit, ?_⟩
  rw [start, Nat.add_assoc, hiter]
  exact ⟨hlength.trans (Nat.zero_add _), hz⟩

/-- Where a run in the frugal host comes to a halt, the machine never enters a loop with 995 or more
loops open. -/
lemma not_enters_of_halted {limit : ℕ} {p : Program} (hlimit : 995 ≤ limit)
    (h : s.RunsTo frugal p o) (ho : o.error = none) (n : ℕ) :
    ¬Enters limit ((step frugal)^[n] (start p s)) := by
  obtain ⟨m, hhalt, hbefore⟩ := runsTo_of_ne_nestingDepth_iff.1
    ⟨h, fun r hr => by cases ho.symm.trans hr⟩
  rcases Nat.lt_or_ge n m with hlt | hge
  · have hroom := hbefore n hlt
    intro henters
    unfold Enters at henters
    split at henters
    · next opened pos body rest u heq =>
      rw [heq] at hroom
      have hfits := State.room_pos_of_cutOff?_loop hroom
      have hlength := henters.1
      have : frugal.room = 996 := rfl
      omega
    · exact henters
  · obtain ⟨d, rfl⟩ := Nat.exists_eq_add_of_le hge
    rw [Nat.add_comm, Function.iterate_add_apply, hhalt, iterate_halted]
    exact id

/-- **A run is cut off just where the machine first comes to a node for which the open loops leave
no room.** The machine knows no limit. A run fails for want of room exactly if the machine comes to
a node with a call that takes more frames than the room of the host without those of the open loops;
the run ends at the first such moment, with the state of that moment, in which the calls of the node
before that call are made, and reports the root of the program. With any other outcome a run ends
exactly if the machine halts with that outcome and never was at such a moment. So if there are never
more than 801 loops open, as when the loops that nest too deeply are passed over, the tree runs as
if there were no limit. How many loops are too many differs from call to call: 801 never are, and
1098 are too many for another loop.

**Proof sketch.** Both ends of the path of the machine, a halt and a call without room, are told
apart by the error, since the machine itself makes no error for want of room. -/
theorem run_cut_off_iff (host : Host) (p : Program) (s : State) (o : Outcome) :
    let after (n : ℕ) : Control := (step host)^[n] (start p s)
    let cut : Control → Option State := cutOff? host (host.room - 1)
    ((s.RunsTo host p o ∧ ∃ r, o.error = some (.nestingDepth r)) ↔
      ∃ n t, cut (after n) = some t ∧ (∀ m < n, cut (after m) = none) ∧
        o = ⟨t, some (.nestingDepth p.root)⟩) ∧
    ((s.RunsTo host p o ∧ ∀ r, o.error ≠ some (.nestingDepth r)) ↔
      ∃ n, after n = .halted o ∧ ∀ m < n, cut (after m) = none) ∧
    ((∀ n opened nodes u, after n = .running opened nodes u → opened.length ≤ 801) →
      (s.RunsTo host p o ↔ ∃ n, after n = .halted o)) ∧
    (∀ opened node rest u t, cut (.running opened (node :: rest) u) = some t →
      801 < opened.length ∧ u.Within host node t ∧ ((∀ c pos, node ≠ .command c pos) → t = u)) ∧
    ∀ opened pos body rest u, 1098 ≤ opened.length →
      cut (.running opened (.loop pos body :: rest) u) = some u := by
  intro after cut
  refine ⟨runsTo_nestingDepth_iff, runsTo_of_ne_nestingDepth_iff, fun hfew => ?_,
    fun opened node rest u t hcut =>
      ⟨?_, State.within_of_cutOff? hcut, fun hn => State.eq_of_cutOff? hn hcut⟩,
    fun opened pos body rest u => cutOff?_loop_of_le_length⟩
  · have hnever : ∀ n, cut (after n) = none := by
      intro n
      cases hc : after n with
      | running opened nodes u => exact cutOff?_eq_none_of_length_le (hfew n opened nodes u hc)
      | halted o => rfl
    constructor
    · intro hruns
      have hne : ∀ r, o.error ≠ some (.nestingDepth r) := by
        intro r hr
        obtain ⟨n, t, hcut, -⟩ := runsTo_nestingDepth_iff.1 ⟨hruns, r, hr⟩
        cases (hnever n).symm.trans hcut
      obtain ⟨n, hhalt, -⟩ := runsTo_of_ne_nestingDepth_iff.1 ⟨hruns, hne⟩
      exact ⟨n, hhalt⟩
    · rintro ⟨n, hhalt⟩
      exact (runsTo_of_ne_nestingDepth_iff.2 ⟨n, hhalt, fun m _ => hnever m⟩).1
  · by_contra hle
    cases (cutOff?_eq_none_of_length_le (Nat.le_of_not_lt hle)).symm.trans hcut

/-- No number of loops is the limit for all calls. In the usual host a decrement fits inside of 995
loops, while a move does not fit inside of 994. -/
theorem not_exists_loop_limit :
    ¬∃ limit, ∀ (p : Program) (s : State),
      (∃ o r, s.RunsTo .usual p o ∧ o.error = some (.nestingDepth r)) ↔
        ∃ n, Enters limit ((step .usual)^[n] (start p s)) := by
  rintro ⟨limit, hlimit⟩
  let s : State := { tape := ⟨[], 1, [0]⟩ }
  have hz : s.tape.current ≠ 0 := by decide
  have hlarge : 995 ≤ limit := by
    let p : Program := ⟨.start, nest 995 [.command .decrement .start]⟩
    let t : State := (s.perform .usual .decrement .start).state
    have hdone : s.RunsTo .usual p ⟨t, none⟩ := by
      have hinside : Runs .usual .start 1 [.command .decrement .start] s ⟨t, none⟩ :=
        .command rfl rfl .nil
      exact State.runsTo_iff.2
        (hinside.nest_done (by decide) (by decide) (by decide) (by decide) 995)
    refine Nat.le_of_not_lt fun hlt => ?_
    obtain ⟨o, r, ho, herr⟩ := (hlimit p s).2 (exists_enters_nest .usual _ hz hlt)
    cases (State.runsTo_iff.1 ho).unique (State.runsTo_iff.1 hdone)
    cases herr
  let p : Program := ⟨.start, nest 994 [.command .moveRight .start]⟩
  have hcut : s.RunsTo .usual p ⟨s, some (.nestingDepth .start)⟩ := by
    have hinside : Runs .usual .start 2 [.command .moveRight .start] s
        ⟨s, some (.nestingDepth .start)⟩ :=
      .cutOff rfl
    exact State.runsTo_iff.2 (hinside.nest_broken (by decide) (by decide) 994)
  have hdone : s.RunsTo frugal p ⟨{ s with tape := ⟨[1], 0, []⟩ }, none⟩ := by
    have hinside : Runs frugal .start 1 [.command .moveRight .start] s
        ⟨{ s with tape := ⟨[1], 0, []⟩ }, none⟩ :=
      .command rfl rfl .nil
    exact State.runsTo_iff.2 (hinside.nest_done (by decide) rfl (by decide) (by decide) 994)
  obtain ⟨n, hn⟩ := (hlimit p s).1 ⟨_, _, hcut, rfl⟩
  exact not_enters_of_halted hlarge hdone rfl n hn

/-- Any number of loops inside of each other are passed over on a zero cell. -/
example (d : ℕ) (body : List Node) (hz : s.tape.current = 0) :
    Runs host root (host.room - 1) (nest (d + 1) body) s ⟨s, none⟩ := by
  refine .skip (State.cutOff?_eq_none (fun call trace input => ?_) _ _) hz .nil
  have := host.frames_le_room call trace input
  omega

end LoopStack

end TapeLang
