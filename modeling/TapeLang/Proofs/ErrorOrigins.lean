import TapeLang.Proofs.LoopStack

set_option autoImplicit false

/-!
# Where errors come from

A place in a tree is given by the loops around it, the innermost first, each with the nodes that
follow it, and by the nodes from the place on. This is what the machine with a stack of open loops
holds, so the places that it comes to are places of the tree, and every loop around them has been
entered. A run that ends in an error stops at such a place, at the node that is next there, and what
the error says is so at this node and in the state that the run leaves.

## Main definitions

* `TapeLang.LoopStack.LiesIn` — loops around a place and nodes from it on are those of a tree.
* `TapeLang.LoopStack.ComesTo`, `TapeLang.LoopStack.IsEntered` — the run comes to a control, and
  enters the body of a loop.
* `TapeLang.LoopStack.StopsAt` — the run stops with an outcome at a node.
* `TapeLang.RunError.Describes` — what an error says is so.

## Main results

* `TapeLang.LoopStack.ComesTo.inPlace` — all loops around a place to which the run comes are
  entered.
* `TapeLang.LoopStack.exists_stopsAt` — a run that ends in an error stops at a node.
* `TapeLang.LoopStack.run_error_origin` — errors come from nodes that are reached, and describe the
  state that they leave.
-/

namespace TapeLang

namespace State

variable {s u : State} {host : Host} {c : Command} {pos : Position} {e : RunError}

/-- A command that fails changes neither the tape nor the input nor the counter of reads. -/
lemma frame_of_perform_error (h : (s.perform host c pos).error = some e) :
    (s.perform host c pos).state.tape = s.tape ∧
      (s.perform host c pos).state.input = s.input ∧
      (s.perform host c pos).state.reads = s.reads := by
  rcases error_cases h with ⟨rfl, hmove, -⟩ | ⟨rfl, hmove, -⟩ | ⟨rfl, hin, -⟩
  · rw [perform, move, hmove]
    exact ⟨rfl, rfl, rfl⟩
  · rw [perform, move, hmove]
    exact ⟨rfl, rfl, rfl⟩
  · obtain ⟨ht, hi, hr, -⟩ := s.ask_frame host
    rw [perform, read_of_input_eq_nil (hi.trans hin)]
    exact ⟨ht, hi, hr⟩

/-- Where no input is left, all of it was consumed, and the reads were as many as its bytes. -/
lemma GoesOn.all_read (h : s.clearCounters.GoesOn [] u) (hin : u.input = []) :
    u.consumed = s.consumed ++ s.input ∧ u.reads = s.input.length := by
  have hconsumed : u.consumed = s.consumed ++ s.input := by
    have hinput := h.input
    rw [hin, List.append_nil] at hinput
    exact hinput
  obtain ⟨new, hevents, htallies⟩ := h.exists_tallies
  have hnew : u.consumed = s.consumed ++ Event.input new := by
    rw [consumed, hevents, Event.input_append]
    rfl
  refine ⟨hconsumed, ?_⟩
  rw [← List.append_cancel_left (hnew.symm.trans hconsumed), Event.length_input]
  exact htallies.reads

end State

/-- What an error says is so of a run from `s` that stops at `node` and leaves `t`: a move was to
leave the tape at the end at which the pointer is, a read found that all bytes of the input had been
read, or there is a node of a kind without a meaning, which the text of the error names. Where there
is no room for a call, the error says nothing of the node. -/
def RunError.Describes (root : Position) (s t : State) (node : Node) : RunError → Prop
  | offTape pos pointer .left length =>
    node = .command .moveLeft pos ∧ pointer = t.tape.pointer ∧ length = t.tape.length ∧ pointer = 0
  | offTape pos pointer .right length =>
    node = .command .moveRight pos ∧ pointer = t.tape.pointer ∧ length = t.tape.length ∧
      pointer + 1 = length
  | inputExhausted pos ordinal =>
    node = .command .input pos ∧ ordinal = t.reads ∧ ordinal = s.input.length ∧ t.input = [] ∧
      t.consumed = s.consumed ++ s.input
  | nestingDepth pos => pos = root
  | unknownNode kind =>
    kind = node.kind ∧ (kind = .bare ∨ kind = .block) ∧
      (unknownNode kind).message = "Unknown instruction node: " ++ node.kind.name

/-- The error of a command describes the command and the state that it leaves, if that state comes
after the one from which the run began. -/
lemma RunError.describes_of_perform_error {host : Host} {root pos : Position} {s u : State}
    {c : Command} {e : RunError} (he : (u.perform host c pos).error = some e)
    (hgoes : s.clearCounters.GoesOn [] (u.perform host c pos).state) :
    e.Describes root s (u.perform host c pos).state (.command c pos) := by
  obtain ⟨htape, hinput, hreads⟩ := State.frame_of_perform_error he
  rcases State.error_cases he with ⟨rfl, hmove, rfl⟩ | ⟨rfl, hmove, rfl⟩ | ⟨rfl, hin, rfl⟩
  · rw [Describes, htape]
    exact ⟨rfl, rfl, rfl, Tape.move?_right_eq_none_iff.1 hmove⟩
  · rw [Describes, htape]
    exact ⟨rfl, rfl, rfl, Tape.move?_left_eq_none_iff.1 hmove⟩
  · obtain ⟨hconsumed, hlength⟩ := hgoes.all_read (hinput.trans hin)
    exact ⟨rfl, hreads.symm, hreads.symm.trans hlength, hinput.trans hin, hconsumed⟩

namespace LoopStack

/-- The loops around a place, the innermost first and each with the nodes that follow it, and the
nodes from the place on are those of a tree. Nodes that follow each other to the end of their body
are known by their number, so these lists tell apart all places of the tree. -/
inductive LiesIn (tree : List Node) : List (List Node) → List Node → Prop where
  /-- There is no loop around the place. -/
  | outside {nodes : List Node} (h : nodes <:+ tree) : LiesIn tree [] nodes
  /-- The place is in the body of a loop at another place. -/
  | inside {pos : Position} {body rest nodes : List Node} {opened : List (List Node)}
      (hloop : LiesIn tree opened (.loop pos body :: rest)) (h : nodes <:+ body) :
      LiesIn tree ((.loop pos body :: rest) :: opened) nodes

/-- The run of a program comes to a control of the machine. -/
def ComesTo (host : Host) (p : Program) (s : State) (c : Control) : Prop :=
  ∃ n, Path host p.root (host.room - 1) n (start p s) c

/-- The run of a program enters the body of the first of the nodes `next`, which is a loop, while
the loops around it are `opened`. -/
def IsEntered (host : Host) (p : Program) (s : State) (opened : List (List Node))
    (next : List Node) : Prop :=
  ∃ pos body rest t, next = .loop pos body :: rest ∧
    ComesTo host p s (.running (next :: opened) body t)

/-- The place is one of the tree, and every loop around it is entered. -/
structure InPlace (host : Host) (p : Program) (s : State) (opened : List (List Node))
    (nodes : List Node) : Prop where
  /-- The place is one of the tree. -/
  liesIn : LiesIn p.body opened nodes
  /-- Every loop around it is entered, with the loops that are around that one. -/
  isEntered : ∀ next outer, next :: outer <:+ opened → IsEntered host p s outer next

/-- The run of a program from the state `s` stops with an outcome at `node`, in the state `u`, while
the loops around it are `opened` and the nodes `rest` follow. -/
structure StopsAt (host : Host) (p : Program) (s : State) (opened : List (List Node))
    (node : Node) (rest : List Node) (u : State) (o : Outcome) : Prop where
  /-- The run comes to the node. -/
  comesTo : ComesTo host p s (.running opened (node :: rest) u)
  /-- With the frames that the open loops leave, it stops there. -/
  stop? : u.stop? host p.root (host.room - 1 - opened.length) node = some o

variable {host : Host} {p : Program} {s u : State} {o : Outcome} {e : RunError} {c : Control}
  {opened : List (List Node)} {node : Node} {rest nodes tree : List Node}

/-! ## Places -/

/-- The place behind a node is a place. -/
lemma LiesIn.tail (h : LiesIn tree opened (node :: rest)) : LiesIn tree opened rest := by
  cases h with
  | outside h => exact .outside ((List.suffix_cons _ _).trans h)
  | inside hloop h => exact .inside hloop ((List.suffix_cons _ _).trans h)

/-- Around a place in a loop there is the place of the loop. -/
lemma LiesIn.outer {next : List Node} (h : LiesIn tree (next :: opened) nodes) :
    LiesIn tree opened next := by
  cases h with
  | inside hloop _ => exact hloop

/-- The place behind a node has the same loops around it. -/
lemma InPlace.tail (h : InPlace host p s opened (node :: rest)) :
    InPlace host p s opened rest :=
  ⟨h.liesIn.tail, h.isEntered⟩

/-- The loops around a loop are among those around a place in it. -/
lemma InPlace.outer {next : List Node} (h : InPlace host p s (next :: opened) nodes) :
    InPlace host p s opened next :=
  ⟨h.liesIn.outer, fun _ _ hsuffix => h.isEntered _ _ (hsuffix.trans (List.suffix_cons _ _))⟩

/-- The body of a loop that is entered is in place if the loop is. -/
lemma InPlace.body {pos : Position} {body : List Node}
    (h : InPlace host p s opened (.loop pos body :: rest))
    (hbody : ComesTo host p s (.running ((.loop pos body :: rest) :: opened) body u)) :
    InPlace host p s ((.loop pos body :: rest) :: opened) body := by
  refine ⟨.inside h.liesIn List.suffix_rfl, fun next outer hsuffix => ?_⟩
  rcases List.suffix_cons_iff.1 hsuffix with heq | hsuffix
  · obtain ⟨rfl, rfl⟩ := List.cons.inj heq
    exact ⟨pos, body, rest, u, rfl, hbody⟩
  · exact h.isEntered next outer hsuffix

/-! ## Controls to which a run comes -/

/-- A run goes on by one step. -/
lemma ComesTo.next (h : ComesTo host p s c) (hc : outcome? host p.root (host.room - 1) c = none) :
    ComesTo host p s (step host c) := by
  obtain ⟨n, h⟩ := h
  exact ⟨n + 1, h.trans (.single hc rfl)⟩

/-- **What holds at the start and passes on with every step of a run holds wherever it comes to.**

**Proof sketch.** Induction on the path, for every control from which it leads. -/
lemma ComesTo.induction {P : Control → Prop} (h : ComesTo host p s c)
    (hstart : P (start p s))
    (hstep : ∀ c, ComesTo host p s c → outcome? host p.root (host.room - 1) c = none → P c →
      P (step host c)) : P c := by
  have hpath : ∀ {n c c'}, Path host p.root (host.room - 1) n c c' → ComesTo host p s c → P c →
      P c' := by
    intro n c c' h
    induction h with
    | refl => exact fun _ hP => hP
    | next hc _ ih => exact fun hcomes hP => ih (hcomes.next hc) (hstep _ hcomes hc hP)
  obtain ⟨n, h⟩ := h
  exact hpath h ⟨0, .refl⟩ hstart

/-- **All loops around a place to which a run comes are entered**, and the place is one of the tree.

**Proof sketch.** A step goes to the next node, which has the same loops around it, or into a loop,
which it enters, or back to a loop whose body is done. -/
lemma ComesTo.inPlace (h : ComesTo host p s (.running opened nodes u)) :
    InPlace host p s opened nodes := by
  refine h.induction (P := fun c => ∀ opened nodes u, c = .running opened nodes u →
    InPlace host p s opened nodes) ?_ ?_ opened nodes u rfl
  · rintro opened nodes u ⟨⟩
    exact ⟨.outside List.suffix_rfl, fun _ _ hsuffix => nomatch List.suffix_nil.1 hsuffix⟩
  · intro c hcomes hc ih opened' nodes' u' hnext
    have hcomes' := hcomes.next hc
    rw [hnext] at hcomes'
    match c with
    | .halted o => cases hnext
    | .running opened [] u =>
      cases opened with
      | nil => cases hnext
      | cons next opened =>
        -- the body is done, and its loop is next again
        cases hnext
        exact (ih _ _ _ rfl).outer
    | .running opened (.command cmd pos :: rest) u =>
      simp only [LoopStack.step] at hnext
      split at hnext
      · cases hnext
        exact (ih _ _ _ rfl).tail
      · cases hnext
    | .running opened (.loop pos body :: rest) u =>
      simp only [LoopStack.step] at hnext
      split at hnext
      · cases hnext
        exact (ih _ _ _ rfl).tail
      · -- the step itself shows that the loop is entered
        cases hnext
        exact (ih _ _ _ rfl).body hcomes'
    | .running opened (.bare pos :: rest) u => cases hnext
    | .running opened (.block pos body :: rest) u => cases hnext

/-- A halt comes from a step at some nodes, for which there is room. -/
lemma ComesTo.exists_step (h : ComesTo host p s (.halted o)) :
    ∃ opened nodes u, ComesTo host p s (.running opened nodes u) ∧
      cutOff? host (host.room - 1) (.running opened nodes u) = none ∧
      step host (.running opened nodes u) = .halted o := by
  refine h.induction (P := fun c => ∀ o, c = .halted o → ∃ opened nodes u,
    ComesTo host p s (.running opened nodes u) ∧
      cutOff? host (host.room - 1) (.running opened nodes u) = none ∧
      step host (.running opened nodes u) = .halted o) nofun ?_ o rfl
  intro c hcomes hc _ o hhalt
  cases c with
  | running opened nodes u =>
    exact ⟨opened, nodes, u, hcomes, (outcome?_eq_none_iff.1 hc).1, hhalt⟩
  | halted o => cases hc

/-! ## Nodes at which a run stops -/

/-- Where no nodes are left, the machine does not halt with an error. -/
lemma error_eq_none_of_step_nil (h : step host (.running opened [] u) = .halted o) :
    o.error = none := by
  cases opened with
  | nil =>
    cases h
    rfl
  | cons next opened => cases h

/-- Where there is room for a node at which the machine halts, the run stops at that node. -/
lemma stop?_of_step {root : Position} {room : ℕ} (hroom : u.cutOff? host room node = none)
    (h : step host (.running opened (node :: rest) u) = .halted o) :
    u.stop? host root room node = some o := by
  cases node with
  | loop pos body =>
    simp only [step] at h
    split at h <;> cases h
  | bare pos | block pos body =>
    cases h
    simp only [State.stop?, hroom]
  | command cmd pos =>
    simp only [step] at h
    split at h
    · cases h
    · next herr =>
      cases h
      exact State.stop?_command_eq_some_iff.2 (.inr ⟨hroom, ⟨_, herr⟩, rfl⟩)

/-- **A run that ends in an error stops at a node.** -/
lemma exists_stopsAt (h : s.RunsTo host p o) (he : o.error = some e) :
    ∃ opened node rest u, StopsAt host p s opened node rest u o := by
  obtain ⟨n, c, hpath, hend⟩ := runsTo_iff_exists_path.1 h
  cases c with
  | running opened nodes u =>
    obtain ⟨t, hcut, rfl⟩ := exists_cutOff?_of_end? hend
    cases nodes with
    | nil => cases hcut
    | cons node rest =>
      exact ⟨opened, node, rest, u, ⟨n, hpath⟩, State.stop?_of_cutOff? hcut⟩
  | halted o' =>
    obtain rfl := Option.some.inj hend
    obtain ⟨opened, nodes, u, hcomes, hroom, hstep⟩ := ComesTo.exists_step ⟨n, hpath⟩
    cases nodes with
    | nil => cases (error_eq_none_of_step_nil hstep).symm.trans he
    | cons node rest => exact ⟨opened, node, rest, u, hcomes, stop?_of_step hroom hstep⟩

/-- The run from `s` leaves the tape that it stops with, and its error describes this. If it is for
want of room, more than 801 loops are open.

**Proof sketch.** By the node at which the run stops. -/
lemma StopsAt.describes (h : StopsAt host p s opened node rest u o)
    (hruns : s.RunsTo host p o) (he : o.error = some e) :
    o.state.tape = u.tape ∧ e.Describes p.root s o.state node ∧
      ∀ r, e = .nestingDepth r → 801 < opened.length := by
  have hstop := h.stop?
  unfold State.stop? at hstop
  cases hcut : u.cutOff? host (host.room - 1 - opened.length) node with
  | some t =>
    simp only [hcut, Option.some.injEq] at hstop
    subst hstop
    obtain rfl := Option.some.inj he
    refine ⟨(State.within_of_cutOff? hcut).tape, rfl, fun _ _ => Nat.lt_of_not_le fun hle => ?_⟩
    have hfits : cutOff? host (host.room - 1) (.running opened (node :: rest) u) = none :=
      cutOff?_eq_none_of_length_le hle
    cases hfits.symm.trans hcut
  | none =>
    cases node with
    | loop pos body => simp [hcut] at hstop
    | bare pos =>
      simp only [hcut, Option.some.injEq] at hstop
      subst hstop
      cases he
      exact ⟨rfl, ⟨rfl, .inl rfl, rfl⟩, nofun⟩
    | block pos body =>
      simp only [hcut, Option.some.injEq] at hstop
      subst hstop
      cases he
      exact ⟨rfl, ⟨rfl, .inr rfl, rfl⟩, nofun⟩
    | command cmd pos =>
      simp only [hcut] at hstop
      split at hstop
      · cases hstop
      · obtain rfl := Option.some.inj hstop
        have hne : ∀ r, e ≠ .nestingDepth r := by
          rintro r rfl
          exact State.perform_ne_nestingDepth u cmd pos r he
        have hgoes := (State.runsTo_iff.1 hruns).goesOn_of_ne s.tallies_clearCounters
          (State.perform_ne_nestingDepth u cmd pos p.root)
        exact ⟨(State.frame_of_perform_error he).1,
          RunError.describes_of_perform_error he hgoes, fun r heq => absurd heq (hne r)⟩

/-- **Errors come from nodes that are reached, and describe the state that they leave.** A run that
ends in an error stops at a node, and wherever it does, this is a node of the tree, every loop
around it has been entered, the tape is left as it was before the node, and the error describes the
node and the state that the run leaves. So no error comes from a node in the body of a loop that is
never entered. Only where more than 801 loops are open may the error be for want of room.

**Proof sketch.** The run stops where the path of the machine does. -/
theorem run_error_origin (host : Host) (p : Program) (s : State) (o : Outcome) (e : RunError)
    (hruns : s.RunsTo host p o) (he : o.error = some e) :
    (∃ opened node rest u, StopsAt host p s opened node rest u o) ∧
      ∀ opened node rest u, StopsAt host p s opened node rest u o →
        LiesIn p.body opened (node :: rest) ∧
        (∀ next outer, next :: outer <:+ opened → IsEntered host p s outer next) ∧
        o.state.tape = u.tape ∧ e.Describes p.root s o.state node ∧
        ∀ r, e = .nestingDepth r → 801 < opened.length := by
  refine ⟨exists_stopsAt hruns he, fun opened node rest u hstops => ?_⟩
  have hplace := hstops.comesTo.inPlace
  exact ⟨hplace.liesIn, hplace.isEntered, hstops.describes hruns he⟩

/-- In a loop that is entered, a loop around a node without a meaning is passed over, and a read
behind it finds no byte any more. -/
theorem run_error_origin_passed_over :
    let loop : Node := .loop ⟨1, 2⟩ [.command .moveRight ⟨1, 3⟩, .loop ⟨1, 4⟩ [.bare ⟨1, 5⟩],
      .command .input ⟨1, 6⟩]
    let p : Program := ⟨.start, [.command .input ⟨1, 1⟩, loop]⟩
    let s : State := { tape := ⟨[], 0, [0]⟩, input := [7] }
    let u : State := { tape := ⟨[7], 0, []⟩, reads := 1, trace := [.read (some 7)] }
    let e : RunError := .inputExhausted ⟨1, 6⟩ 1
    let o : Outcome := ⟨{ u with trace := .read none :: u.trace }, some e⟩
    s.RunsTo .usual p o ∧ StopsAt .usual p s [[loop]] (.command .input ⟨1, 6⟩) [] u o ∧
      LiesIn p.body [[loop]] [.command .input ⟨1, 6⟩] ∧ IsEntered .usual p s [] [loop] ∧
      o.state.tape = u.tape ∧ e.Describes p.root s o.state (.command .input ⟨1, 6⟩) := by
  intro loop p s u e o
  have hruns : s.RunsTo .usual p o := ⟨9, rfl⟩
  have hstops : StopsAt .usual p s [[loop]] (.command .input ⟨1, 6⟩) [] u o :=
    ⟨⟨4, .next rfl (.next rfl (.next rfl (.next rfl .refl)))⟩, rfl⟩
  obtain ⟨-, hall⟩ := run_error_origin .usual p s o e hruns rfl
  obtain ⟨hlies, hentered, htape, hdescribes, -⟩ := hall _ _ _ _ hstops
  exact ⟨hruns, hstops, hlies, hentered [loop] [] List.suffix_rfl, htape, hdescribes⟩

end LoopStack

end TapeLang
