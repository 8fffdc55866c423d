import TapeLang.Proofs.Concatenation

set_option autoImplicit false

/-!
# Exchanging a part of a tree

Two lists of nodes that run to the same outcomes from all states may be exchanged for each other
in a tree: the whole tree then runs to the same outcomes. So a law about the run of a few nodes is a
law about every tree in which they occur. The first such law is that a loop directly behind a loop
is dead.

The loops around a place take frames of the host, so nodes may run to the same outcomes at one place
and not at another, deeper one. What counts is the room that is left at the place itself.

## Main definitions

* `TapeLang.Context`, `TapeLang.Context.fill` — a tree with a hole in some body, and the tree with
  nodes in the hole.
* `TapeLang.Context.depth` — the number of loops around the hole.
* `TapeLang.Interchangeable` — two lists of nodes run to the same outcomes with the room there is.

## Main results

* `TapeLang.Interchangeable.append`, `TapeLang.Interchangeable.loop` — what is made of
  interchangeable parts in the same way is interchangeable.
* `TapeLang.Interchangeable.fill` — so is every tree in which one part is exchanged.
* `TapeLang.interchangeable_loop_loop` — a loop behind a loop does nothing.
* `TapeLang.runsTo_fill_loop_loop_iff` — in no tree does it make a difference.
-/

namespace TapeLang

/-- A tree with a hole for nodes, between two nodes of some body. -/
inductive Context where
  /-- The hole is in this body. -/
  | here (before after : List Node)
  /-- The hole is inside of a loop of this body. -/
  | inLoop (before : List Node) (pos : Position) (inner : Context) (after : List Node)
  /-- The hole is inside of a program in this body. -/
  | inBlock (before : List Node) (pos : Position) (inner : Context) (after : List Node)

/-- The tree with nodes in the hole. -/
def Context.fill (xs : List Node) : Context → List Node
  | here before after => before ++ xs ++ after
  | inLoop before pos inner after => before ++ [.loop pos (inner.fill xs)] ++ after
  | inBlock before pos inner after => before ++ [.block pos (inner.fill xs)] ++ after

/-- The number of loops around the hole. -/
def Context.depth : Context → ℕ
  | here _ _ => 0
  | inLoop _ _ inner _ => inner.depth + 1
  | inBlock _ _ inner _ => inner.depth

/-- With room for `room` frames the two lists of nodes run to the same outcomes from every state,
and so one of them comes to an end exactly if the other does. -/
def Interchangeable (host : Host) (room : ℕ) (xs ys : List Node) : Prop :=
  ∀ (root : Position) (s : State) (o : Outcome),
    Runs host root room xs s o ↔ Runs host root room ys s o

variable {host : Host} {root pos pos' : Position} {room : ℕ}
  {xs xs' ys ys' body body' rest : List Node} {s t : State} {o : Outcome}

/-! ## Equal parts make equal trees -/

namespace Interchangeable

lemma refl (xs : List Node) : Interchangeable host room xs xs :=
  fun _ _ _ => Iff.rfl

lemma symm (h : Interchangeable host room xs ys) : Interchangeable host room ys xs :=
  fun root s o => (h root s o).symm

/-- Interchangeable parts in a row are interchangeable. -/
lemma append (h : Interchangeable host room xs xs') (h' : Interchangeable host room ys ys') :
    Interchangeable host room (xs ++ ys) (xs' ++ ys') := by
  intro root s o
  rw [runs_append_iff, runs_append_iff, h root s o]
  refine or_congr Iff.rfl (exists_congr fun t => ?_)
  rw [h root s ⟨t, none⟩, h' root t o]

/-- A loop runs as before if its body is exchanged for one that runs to the same outcomes.

**Proof sketch.** Induction on the run of the loop. Each pass is one of the other body, and behind
it the loop is next again, with a shorter run. Testing the cell takes the same frames. -/
lemma runs_loop (h : Interchangeable host (room - 1) body body')
    (hruns : Runs host root room (.loop pos body :: rest) s o) :
    Runs host root room (.loop pos body' :: rest) s o := by
  induction hruns using Runs.loop_induction with
  | skip hroom hz hrest => exact .skip hroom hz hrest
  | again hroom hz hbody _ ih => exact .again hroom hz ((h _ _ _).1 hbody) ih
  | broken hroom hz hbody => exact .broken hroom hz ((h _ _ _).1 hbody)
  | cutOff hcut => exact .cutOff hcut

/-- Loops with interchangeable bodies are interchangeable. -/
lemma loop (h : Interchangeable host (room - 1) body body') (pos : Position) :
    Interchangeable host room [.loop pos body] [.loop pos body'] :=
  fun _ _ _ => ⟨h.runs_loop, h.symm.runs_loop⟩

end Interchangeable

/-- A program inside of a program runs as before if its body is exchanged, since it is not run. -/
lemma Runs.exchange_block (h : Runs host root room [.block pos body] s o) (body' : List Node) :
    Runs host root room [.block pos body'] s o := by
  cases h with
  | cutOff hcut => exact .cutOff hcut
  | block hroom => exact .block hroom

/-- Programs inside of a program are interchangeable. -/
lemma interchangeable_block (pos : Position) (body body' : List Node) :
    Interchangeable host room [.block pos body] [.block pos body'] :=
  fun _ _ _ => ⟨fun h => h.exchange_block body', fun h => h.exchange_block body⟩

/-- **If a part of a tree is exchanged for one that runs to the same outcomes with the room that the
loops around it leave, so does the tree.**

**Proof sketch.** Induction on what is around the part. -/
lemma Interchangeable.fill {k : Context} (h : Interchangeable host (room - k.depth) xs ys) :
    Interchangeable host room (k.fill xs) (k.fill ys) := by
  induction k generalizing room with
  | here before after => exact ((refl before).append h).append (refl after)
  | inLoop before pos inner after ih =>
    have hbody : Interchangeable host (room - 1) (inner.fill xs) (inner.fill ys) := by
      refine ih ?_
      rwa [Nat.sub_sub, Nat.add_comm 1]
    exact ((refl before).append (hbody.loop pos)).append (refl after)
  | inBlock before pos inner after _ =>
    exact ((refl before).append (interchangeable_block pos _ _)).append (refl after)

/-- Programs with interchangeable bodies run to the same outcomes. -/
lemma Interchangeable.runsTo_iff (h : Interchangeable host (host.room - 1) xs ys) :
    s.RunsTo host ⟨root, xs⟩ o ↔ s.RunsTo host ⟨root, ys⟩ o := by
  rw [State.runsTo_iff, State.runsTo_iff]
  exact h root s.clearCounters o

/-! ## Loops behind loops -/

/-- Behind a loop that comes to its end, after any number of passes, any loop is passed over: the
current cell is zero, and there is room for testing it since there was for the last test. -/
lemma Runs.skip_behind_loop (h : Runs host root room [.loop pos body] s o) (ho : o.error = none)
    (pos' : Position) (body' : List Node) :
    Runs host root room [.loop pos' body'] o.state ⟨o.state, none⟩ := by
  induction h using Runs.loop_induction with
  | skip hroom hz hrest =>
    cases hrest
    exact .skip hroom hz .nil
  | again _ _ _ _ ih => exact ih ho
  | broken _ _ _ => cases ho
  | cutOff _ => cases ho

/-- **A loop behind a loop does nothing.** -/
lemma interchangeable_loop_loop (pos pos' : Position) (body body' : List Node) :
    Interchangeable host room [.loop pos body, .loop pos' body'] [.loop pos body] := by
  intro root s o
  have hrow : [Node.loop pos body, .loop pos' body'] = [.loop pos body] ++ [.loop pos' body'] := rfl
  rw [hrow, runs_append_iff]
  constructor
  · rintro (⟨-, h⟩ | ⟨t, h, h'⟩)
    · exact h
    · rwa [h'.unique (h.skip_behind_loop rfl pos' body')]
  · intro h
    obtain ⟨t, _ | e⟩ := o
    · exact .inr ⟨t, h, h.skip_behind_loop rfl pos' body'⟩
    · exact .inl ⟨Option.some_ne_none e, h⟩

/-- **A loop directly behind a loop is dead**, whatever it holds and wherever the two stand in a
tree: without it every run comes to the same outcome, or to none. -/
theorem runsTo_fill_loop_loop_iff (k : Context) (pos pos' : Position) (body body' : List Node)
    (host : Host) (root : Position) (s : State) (o : Outcome) :
    s.RunsTo host ⟨root, k.fill [.loop pos body, .loop pos' body']⟩ o ↔
      s.RunsTo host ⟨root, k.fill [.loop pos body]⟩ o :=
  (Interchangeable.fill (interchangeable_loop_loop pos pos' body body')).runsTo_iff

/-- Inside of a loop, behind one that counts down to zero, a loop that would leave the tape and then
meet a node without a meaning is not entered. -/
example :
    let k : Context := .inLoop [] ⟨1, 1⟩ (.here [] [.command .moveRight ⟨1, 8⟩]) []
    let first : Node := .loop ⟨1, 2⟩ [.command .decrement ⟨1, 3⟩]
    let dead : Node := .loop ⟨1, 5⟩ [.command .moveLeft ⟨1, 6⟩, .bare ⟨1, 7⟩]
    ({ tape := ⟨[], 2, [0]⟩ } : State).run .usual 20 ⟨.start, k.fill [first, dead]⟩ =
      some ⟨{ tape := ⟨[0], 0, []⟩ }, none⟩ := by
  decide

end TapeLang
