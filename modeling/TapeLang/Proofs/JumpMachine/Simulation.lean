import Mathlib.Logic.Function.Iterate
import TapeLang.Proofs.BigStep
import TapeLang.Proofs.Parsing
import TapeLang.Proofs.JumpMachine.Basic

set_option autoImplicit false

/-!
# The jump machine and the tree

Running a tree and running the jump machine on the operations that spell the tree come to the same.
Where the nodes of a list stand among the operations is a relation of its own, so that the body of
a loop is found between the delimiters of the loop. The machine may be at a loop in two places: at
its loop begin, when it comes there for the first time, and at its loop end, when it comes back.

## Main definitions

* `TapeLang.JumpMachine.Reaches` — the machine comes from one control to another.
* `TapeLang.JumpMachine.FailsAt` — the operation at an index fails.
* `TapeLang.JumpMachine.Lays` — a list of nodes stands between two indices of the code.
* `TapeLang.JumpMachine.IsEntry` — the indices at which a list of nodes may be begun.
* `TapeLang.JumpMachine.Arrives` — the machine comes to where an outcome of the nodes leaves it.
* `TapeLang.JumpMachine.Agrees` — a program and the machine halt, fail and diverge alike.

## Main results

* `TapeLang.JumpMachine.arrives_of_runs` — what the tree does, the machine does.
* `TapeLang.JumpMachine.exists_runs_of_halted` — if the machine halts, the tree comes to an end.
* `TapeLang.JumpMachine.agrees_of_spells` — a program whose loops nest 801 deep agrees with the
  machine on the operations that spell it.
* `TapeLang.JumpMachine.balanced_agrees` — balanced operations that nest at most 801 deep are parsed
  to a program that agrees with the machine on every state.
-/

namespace TapeLang

namespace JumpMachine

/-- The machine comes from one control to another in some number of steps. -/
def Reaches (code : List Operation) (c c' : Control) : Prop :=
  ∃ n, (step code)^[n] c = c'

/-- The command at an index of the code fails with an error. -/
def FailsAt (code : List Operation) (pc : ℕ) (m : Memory) (e : RunError) : Prop :=
  ∃ op c, code[pc]? = some op ∧ op.symbol = .command c ∧ m.perform c op.position = .error e

/-- A list of nodes stands in the code from the index `i` up to the index `j`. -/
inductive Lays (code : List Operation) : ℕ → List Node → ℕ → Prop where
  /-- No nodes take up no room. -/
  | nil {i : ℕ} : Lays code i [] i
  /-- A command is one operation. -/
  | command {op : Operation} {c : Command} {i j : ℕ} {nodes : List Node} (hi : code[i]? = some op)
      (hop : op.symbol = .command c) (rest : Lays code (i + 1) nodes j) :
      Lays code i (.command c op.position :: nodes) j
  /-- A loop stands at matching delimiters, with its body in between. -/
  | loop {pos : Position} {i k j : ℕ} {body nodes : List Node} (hm : Matches code i k)
      (inside : Lays code (i + 1) body k) (rest : Lays code (k + 1) nodes j) :
      Lays code i (.loop pos body :: nodes) j

/-- A list of nodes that stands at the index `i` may be begun at the index `pc`. -/
inductive IsEntry (code : List Operation) (i : ℕ) : List Node → ℕ → Prop where
  /-- The nodes are begun where they stand. -/
  | start {nodes : List Node} : IsEntry code i nodes i
  /-- A loop may also be begun at its loop end. -/
  | loopEnd {pos : Position} {body nodes : List Node} {k : ℕ} (hm : Matches code i k) :
      IsEntry code i (.loop pos body :: nodes) k

/-- The machine comes to where an outcome of nodes that stand in front of the index `j` leaves it:
to that index or to an operation that fails, and its memory holds what the state holds. -/
def Arrives (code : List Operation) (c : Control) (j : ℕ) (o : Outcome) : Prop :=
  match o.error with
  | none => Reaches code c (.running j o.state.memory)
  | some e => ∃ pc, Reaches code c (.running pc o.state.memory) ∧ FailsAt code pc o.state.memory e

/-- The machine before its first step, with the counters of the state cleared. -/
def start (s : State) : Control :=
  .running 0 s.clearCounters.memory

/-- Running a program from a state and the machine on the code from its memory are the same to
observe. -/
structure Agrees (host : Host) (p : Program) (code : List Operation) (s : State) : Prop where
  /-- The run comes to an end just if the machine halts, and both with the same result. -/
  halts (m : Memory) (error : Option RunError) :
    (∃ o, s.RunsTo host p o ∧ o.state.memory = m ∧ o.error = error) ↔
      Reaches code (start s) (.halted m error)
  /-- The run takes more than any number of steps just if the machine is running after any number
  of steps. -/
  diverges : (∀ fuel, s.run host fuel p = none) ↔
    ∀ n, ∃ pc m, (step code)^[n] (start s) = .running pc m
  /-- A run that fails leaves what the memory holds when the machine is at the failing command. -/
  fails (o : Outcome) (e : RunError) (hrun : s.RunsTo host p o) (herr : o.error = some e) :
    ∃ pc, Reaches code (start s) (.running pc o.state.memory) ∧ FailsAt code pc o.state.memory e

variable {code ops : List Operation} {op : Operation} {c : Command} {m m' : Memory} {e : RunError}
  {error error' : Option RunError} {ctl ctl' ctl'' : Control} {i j k pc n n' room : ℕ}
  {nodes body rest : List Node} {pos root : Position} {host : Host} {s : State} {o : Outcome}

/-! ## Single steps -/

/-- At a command that does not fail the machine goes on to the next operation. -/
lemma step_of_perform_ok (hi : code[pc]? = some op) (hop : op.symbol = .command c)
    (h : m.perform c op.position = .ok m') : step code (.running pc m) = .running (pc + 1) m' := by
  simp only [step, hi, hop, h]

/-- At a command that fails the machine halts. -/
lemma FailsAt.step_eq (h : FailsAt code pc m e) :
    step code (.running pc m) = .halted m (some e) := by
  obtain ⟨op, c, hi, hop, h⟩ := h
  simp only [step, hi, hop, h]

/-- Behind the last operation the machine halts. -/
lemma step_length (code : List Operation) (m : Memory) :
    step code (.running code.length m) = .halted m none := by
  simp only [step, List.getElem?_eq_none (Nat.le_refl code.length)]

/-- At a loop begin the machine goes on to the body of the loop or jumps behind its loop end. -/
lemma step_loopBegin (h : Matches code i k) (m : Memory) :
    step code (.running i m) = .running (if m.current = 0 then k + 1 else i + 1) m := by
  obtain ⟨b, hi, hb⟩ := Option.map_eq_some_iff.1 h.loopBegin
  simp only [step, hi, hb, closing?_eq_some_iff.2 h, Option.getD_some]
  split <;> rfl

/-- At a loop end the machine goes on to the next operation or jumps to the loop begin. -/
lemma step_loopEnd (h : Matches code i k) (m : Memory) :
    step code (.running k m) = .running (if m.current = 0 then k + 1 else i) m := by
  obtain ⟨e, hk, he⟩ := Option.map_eq_some_iff.1 h.loopEnd
  simp only [step, hk, he, opening?_eq_some_iff.2 h, Option.getD_some]
  split <;> rfl

/-- On a zero cell the machine passes over a loop in one step, wherever it has begun it. -/
lemma step_skip (hpc : IsEntry code i (.loop pos body :: rest) pc) (hm : Matches code i k)
    (hz : m.current = 0) : step code (.running pc m) = .running (k + 1) m := by
  cases hpc with
  | start => rw [step_loopBegin hm, if_pos hz]
  | loopEnd hm' =>
    obtain rfl := hm.right_unique hm'
    rw [step_loopEnd hm, if_pos hz]

/-- On another cell the machine comes to the body of a loop in one step or, from the loop end, in
two. -/
lemma step_enter (hpc : IsEntry code i (.loop pos body :: rest) pc) (hm : Matches code i k)
    (hz : m.current ≠ 0) : ∃ n, (step code)^[n + 1] (.running pc m) = .running (i + 1) m := by
  have hbegin : step code (.running i m) = .running (i + 1) m := by
    rw [step_loopBegin hm, if_neg hz]
  cases hpc with
  | start => exact ⟨0, hbegin⟩
  | loopEnd hm' =>
    refine ⟨1, ?_⟩
    rw [Function.iterate_succ_apply, step_loopEnd hm', if_neg hz]
    exact hbegin

/-! ## Many steps -/

/-- A machine that has halted stays as it is. -/
lemma iterate_halted (code : List Operation) (n : ℕ) (m : Memory) (error : Option RunError) :
    (step code)^[n] (.halted m error) = .halted m error :=
  Function.iterate_fixed rfl n

/-- Every control reaches itself. -/
lemma Reaches.refl (code : List Operation) (ctl : Control) : Reaches code ctl ctl := ⟨0, rfl⟩

/-- What is reached from a control that is reached is reached. -/
lemma Reaches.trans (h : Reaches code ctl ctl') (h' : Reaches code ctl' ctl'') :
    Reaches code ctl ctl'' := by
  obtain ⟨n, rfl⟩ := h
  obtain ⟨n', rfl⟩ := h'
  exact ⟨n' + n, Function.iterate_add_apply _ _ _ _⟩

/-- The next control is reached. -/
lemma Reaches.of_step (h : step code ctl = ctl') : Reaches code ctl ctl' := ⟨1, h⟩

/-- An outcome is arrived at from every control before one from which it is. -/
lemma Arrives.of_reaches (h : Reaches code ctl ctl') (h' : Arrives code ctl' j o) :
    Arrives code ctl j o := by
  obtain ⟨t, _ | e⟩ := o
  · exact Reaches.trans h h'
  · obtain ⟨pc, hpc, hfail⟩ := h'
    exact ⟨pc, h.trans hpc, hfail⟩

/-- A machine halts once. -/
lemma halted_unique (h : Reaches code ctl (.halted m error))
    (h' : Reaches code ctl (.halted m' error')) : m = m' ∧ error = error' := by
  obtain ⟨n, h⟩ := h
  obtain ⟨n', h'⟩ := h'
  have hsum : (step code)^[n' + n] ctl = .halted m error := by
    rw [Function.iterate_add_apply, h, iterate_halted]
  have hsum' : (step code)^[n + n'] ctl = .halted m' error' := by
    rw [Function.iterate_add_apply, h', iterate_halted]
  rw [Nat.add_comm, hsum] at hsum'
  exact Control.halted.inj hsum'

/-- A machine that is running after some number of steps halts later than that, and it halts from
there in the steps that are left. -/
lemma exists_halted_of_running (hr : (step code)^[n] ctl = .running pc m)
    (h : (step code)^[n'] ctl = .halted m' error) :
    ∃ d, n' = n + (d + 1) ∧ (step code)^[d + 1] (.running pc m) = .halted m' error := by
  have hlt : n < n' := by
    refine Nat.lt_of_not_le fun hle => ?_
    obtain ⟨d, rfl⟩ := Nat.exists_eq_add_of_le hle
    rw [Nat.add_comm, Function.iterate_add_apply, h, iterate_halted] at hr
    cases hr
  obtain ⟨d, rfl⟩ := Nat.exists_eq_add_of_lt hlt
  refine ⟨d, rfl, ?_⟩
  rw [Nat.add_assoc, Nat.add_comm, Function.iterate_add_apply, hr] at h
  exact h

/-! ## Where nodes stand -/

/-- The nodes that a part of the code spells stand where that part begins.

**Proof sketch.** Induction on the spelling. What is done of the part is put behind what stands in
front of it. -/
lemma lays_of_spells (h : Spells ops nodes) (pre post : List Operation)
    (hcode : code = pre ++ (ops ++ post)) (hi : pre.length = i) (hj : i + ops.length = j) :
    Lays code i nodes j := by
  induction h generalizing pre post i j with
  | nil =>
    obtain rfl : i = j := hj
    exact .nil
  | @command op c ops nodes hop _ ih =>
    have hop' : code[i]? = some op := by simp [hcode, ← hi]
    refine .command hop' hop (ih (pre ++ [op]) post ?_ ?_ ?_)
    · simp [hcode]
    · simp [hi]
    · simp at hj
      omega
  | @loop b e body ops inner nodes hb he inside _ ihi ih =>
    have hm := matches_of_balanced hb he inside.balanced pre (ops ++ post)
    rw [hi] at hm
    refine .loop (k := i + 1 + body.length) (by simpa [hcode] using hm)
      (ihi (pre ++ [b]) (e :: (ops ++ post)) ?_ ?_ rfl)
      (ih (pre ++ (b :: (body ++ [e]))) post ?_ ?_ ?_)
    · simp [hcode]
    · simp [hi]
    · simp [hcode]
    · simp [hi]
      omega
    · simp at hj
      omega

/-! ## From the tree to the machine -/

/-- **What the tree does, the machine does**, from every index at which the nodes may be begun.

**Proof sketch.** Induction on the run. A loop that comes back to itself is begun again at its loop
end, which is where the machine has arrived behind the body. -/
lemma arrives_of_runs (h : Runs host root room nodes s o) (hl : Lays code i nodes j)
    (hroom : HasRoom host room nodes) (hpc : IsEntry code i nodes pc) :
    Arrives code (.running pc s.memory) j o := by
  induction h generalizing i j pc with
  | nil =>
    cases hl
    cases hpc
    exact Reaches.refl code _
  | cutOff hcut => cases (hroom.cutOff?_eq_none _ _).symm.trans hcut
  | @command room c pos rest s o _ hok _ ih =>
    cases hl with
    | @command op _ _ _ _ hi hop hrest =>
      cases hpc
      have hp := perform_memory s host c op.position
      rw [hok] at hp
      exact (ih hrest hroom.tail .start).of_reaches (.of_step (step_of_perform_ok hi hop hp))
  | @fail room c pos rest s e _ herr =>
    cases hl with
    | @command op _ _ _ _ hi hop hrest =>
      cases hpc
      have hp := perform_memory s host c op.position
      rw [herr] at hp
      simp only [Arrives, herr, memory_of_perform_error herr]
      exact ⟨i, Reaches.refl code _, op, c, hi, hop, hp⟩
  | skip _ hz _ ih =>
    cases hl with
    | loop hm _ hrest =>
      rw [← current_memory] at hz
      exact (ih hrest hroom.tail .start).of_reaches (.of_step (step_skip hpc hm hz))
  | again _ hz _ _ ihb ihl =>
    cases hl with
    | loop hm inside hrest =>
      rw [← current_memory] at hz
      obtain ⟨n, henter⟩ := step_enter hpc hm hz
      have hbody := ihb inside hroom.body .start
      have hloop := ihl (.loop hm inside hrest) hroom (.loopEnd hm)
      exact hloop.of_reaches (.trans ⟨_, henter⟩ hbody)
  | broken _ hz _ ih =>
    cases hl with
    | loop hm inside hrest =>
      rw [← current_memory] at hz
      obtain ⟨n, henter⟩ := step_enter hpc hm hz
      have hbody := ih inside hroom.body .start
      exact Arrives.of_reaches ⟨_, henter⟩ hbody
  | bare _ => cases hl
  | block _ => cases hl

/-! ## From the machine to the tree -/

/-- **If the machine halts, the tree comes to an end.**

**Proof sketch.** Strong induction on the number of steps in which the machine halts. A command and
entering a loop take a step at least. Where the body of a loop comes to an end the machine has
arrived at the loop end, so that fewer steps are left for the loop to go on from there. -/
lemma exists_runs_of_halted (host : Host) (root : Position)
    (h : (step code)^[n] (.running pc s.memory) = .halted m error) (hl : Lays code i nodes j)
    (hroom : HasRoom host room nodes) (hpc : IsEntry code i nodes pc) :
    ∃ o, Runs host root room nodes s o := by
  induction n using Nat.strong_induction_on generalizing nodes i j pc s room with
  | _ n ih =>
  cases hl with
  | nil => exact ⟨_, .nil⟩
  | @command op c _ _ rest hi hop hrest =>
    cases hpc
    have hp := perform_memory s host c op.position
    have hcut := hroom.cutOff?_eq_none s (.command c op.position)
    cases he : (s.perform host c op.position).error with
    | some e => exact ⟨_, .fail hcut he⟩
    | none =>
      rw [he] at hp
      have hnext : (step code)^[1] (.running i s.memory) = _ := step_of_perform_ok hi hop hp
      obtain ⟨d, hd, hleft⟩ := exists_halted_of_running hnext h
      obtain ⟨o, ho⟩ := ih (d + 1) (by omega) hleft hrest hroom.tail .start
      exact ⟨o, .command hcut he ho⟩
  | @loop pos _ k _ body rest hm inside hrest =>
    have hcut := hroom.cutOff?_eq_none s (.loop pos body)
    by_cases hz : s.tape.current = 0
    · have hskip : (step code)^[1] (.running pc s.memory) = _ :=
        step_skip hpc hm ((current_memory s).trans hz)
      obtain ⟨d, hd, hleft⟩ := exists_halted_of_running hskip h
      obtain ⟨o, ho⟩ := ih (d + 1) (by omega) hleft hrest hroom.tail .start
      exact ⟨o, .skip hcut hz ho⟩
    · have hz' : s.memory.current ≠ 0 := fun h0 => hz ((current_memory s).symm.trans h0)
      obtain ⟨a, henter⟩ := step_enter hpc hm hz'
      obtain ⟨d, hd, hleft⟩ := exists_halted_of_running henter h
      obtain ⟨⟨t, _ | e⟩, hbody⟩ := ih (d + 1) (by omega) hleft inside hroom.body .start
      · obtain ⟨b, hend⟩ := arrives_of_runs hbody inside hroom.body .start
        obtain ⟨d', hd', hleft'⟩ := exists_halted_of_running hend hleft
        obtain ⟨o, ho⟩ := ih (d' + 1) (by omega) hleft' (.loop hm inside hrest) hroom (.loopEnd hm)
        exact ⟨o, .again hcut hz hbody ho⟩
      · exact ⟨_, .broken hcut hz hbody⟩

/-! ## Whole programs -/

/-- A program whose nodes fill the code halts with an outcome just if the machine halts with it. -/
lemma runsTo_iff_reaches {p : Program} (host : Host) (hl : Lays code 0 p.body code.length)
    (hroom : HasRoom host (host.room - 1) p.body) (s : State) (m : Memory)
    (error : Option RunError) :
    (∃ o, s.RunsTo host p o ∧ o.state.memory = m ∧ o.error = error) ↔
      Reaches code (start s) (.halted m error) := by
  have forward : ∀ {o}, s.RunsTo host p o →
      Reaches code (start s) (.halted o.state.memory o.error) := by
    intro o ho
    have harr : Arrives code (start s) code.length o :=
      arrives_of_runs (State.runsTo_iff.1 ho) hl hroom .start
    obtain ⟨t, _ | e⟩ := o
    · exact Reaches.trans harr (.of_step (step_length code t.memory))
    · obtain ⟨pc, hpc, hfail⟩ := harr
      exact hpc.trans (.of_step hfail.step_eq)
  constructor
  · rintro ⟨o, ho, rfl, rfl⟩
    exact forward ho
  · intro h
    obtain ⟨n, hhalt⟩ := h
    obtain ⟨o, ho⟩ := exists_runs_of_halted host p.root hhalt hl hroom .start
    obtain ⟨hm, he⟩ := halted_unique (forward (State.runsTo_iff.2 ho)) ⟨n, hhalt⟩
    exact ⟨o, State.runsTo_iff.2 ho, hm, he⟩

/-- A run takes more than any number of steps just if it has no outcome. -/
lemma run_eq_none_iff {p : Program} :
    (∀ fuel, s.run host fuel p = none) ↔ ¬∃ o, s.RunsTo host p o := by
  simp only [State.RunsTo, Option.eq_none_iff_forall_ne_some, not_exists]
  exact ⟨fun h o fuel => h fuel o, fun h fuel o => h o fuel⟩

/-- A machine is running after any number of steps just if it does not halt. -/
lemma forall_running_iff :
    (∀ n, ∃ pc m, (step code)^[n] ctl = .running pc m) ↔
      ¬∃ m error, Reaches code ctl (.halted m error) := by
  constructor
  · rintro h ⟨m, error, n, hhalt⟩
    obtain ⟨pc, m', hrun⟩ := h n
    rw [hhalt] at hrun
    cases hrun
  · intro h n
    cases hctl : (step code)^[n] ctl with
    | running pc m => exact ⟨pc, m, rfl⟩
    | halted m error => exact absurd ⟨m, error, n, hctl⟩ h

/-- **A program whose loops nest 801 deep agrees with the machine on the operations that spell
it.** -/
lemma agrees_of_spells {p : Program} (h : Spells ops p.body) (hn : nesting p.body ≤ 801)
    (host : Host) (s : State) : Agrees host p ops s := by
  have hl : Lays ops 0 p.body ops.length := lays_of_spells h [] [] (by simp) rfl (by simp)
  have hroom : HasRoom host (host.room - 1) p.body := .of_nesting_le hn (Nat.le_refl _)
  have hiff := runsTo_iff_reaches host hl hroom s
  refine ⟨hiff, ?_, fun o e hrun herr => ?_⟩
  · rw [run_eq_none_iff, forall_running_iff]
    refine not_congr ⟨?_, ?_⟩
    · rintro ⟨o, ho⟩
      exact ⟨_, _, (hiff _ _).1 ⟨o, ho, rfl, rfl⟩⟩
    · rintro ⟨m, error, h⟩
      obtain ⟨o, ho, -⟩ := (hiff m error).2 h
      exact ⟨o, ho⟩
  · have harr : Arrives ops (start s) ops.length o :=
      arrives_of_runs (State.runsTo_iff.1 hrun) hl hroom .start
    simpa only [Arrives, herr] using harr

/-- **The tree refines the jump machine**: balanced operations that nest at most 801 deep are parsed
to a program, and its runs agree with the machine on the operations, whatever tape, input and
streams there are. -/
theorem balanced_agrees (hb : Balanced ops) (hd : NestsWithin 801 ops) (host : Host) :
    ∃ p, parse host ops = .ok p ∧ ∀ host' s, Agrees host' p ops s := by
  obtain ⟨nodes, hs⟩ := exists_spells_iff_balanced.2 hb
  have hn : nesting nodes ≤ 801 := hs.nestsWithin_iff.1 hd
  exact ⟨⟨.start, nodes⟩, hs.parse_eq_ok hn, agrees_of_spells hs hn⟩

/-- A loop in a loop, the inner one on a cell that is read. -/
theorem balanced_agrees_nested :
    let ops := operationsFrom .start 0 ['+', '[', '>', ',', '[', '.', ',', ']', '<', ']']
    Balanced ops ∧ NestsWithin 801 ops ∧
      ∃ p, parse .usual ops = .ok p ∧ ∀ host s, Agrees host p ops s :=
  ⟨by decide, by decide, balanced_agrees (by decide) (by decide) .usual⟩

end JumpMachine

end TapeLang
