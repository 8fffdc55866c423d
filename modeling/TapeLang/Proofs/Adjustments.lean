import Mathlib.Data.Int.ModEq
import TapeLang.Proofs.Contexts
import TapeLang.Proofs.Nests
import TapeLang.Proofs.StraightLoops

set_option autoImplicit false

/-!
# Increments and decrements in a row

Nodes in a row that change the current cell by one do in all what their number says: the cell is
changed by the number of increments minus that of decrements, modulo 256, and nothing else happens.
So two such rows may be exchanged for each other in a tree exactly if these numbers are congruent,
wherever the loops around them leave room for changing a cell.

## Main definitions

* `TapeLang.Node.IsAdjustment` — an increment or a decrement.
* `TapeLang.netChange` — the number of increments minus the number of decrements.

## Main results

* `TapeLang.runs_adjustments` — what a row of adjustments does.
* `TapeLang.netChange_modEq_iff_fill` — which rows may be exchanged.
* `TapeLang.netChange_modEq_iff_fill_without_room` — where there is no room, two such rows differ.
-/

namespace TapeLang

/-- The node changes the current cell by one. -/
def Node.IsAdjustment : Node → Prop
  | command c _ => c = .increment ∨ c = .decrement
  | _ => False

/-- The number of increments among some nodes, minus the number of decrements. -/
def netChange (xs : List Node) : ℤ :=
  (xs.map Node.kind).count (.command .increment) - (xs.map Node.kind).count (.command .decrement)

variable {host : Host} {root pos : Position} {room : ℕ} {xs ys : List Node} {s : State}
  {v : UInt8} {a b : ℤ}

@[simp] lemma netChange_nil : netChange [] = 0 := rfl

@[simp] lemma netChange_cons_increment :
    netChange (.command .increment pos :: xs) = 1 + netChange xs := by
  simp only [netChange, List.map_cons, Node.kind, List.count_cons_self,
    List.count_cons_of_ne (a := Kind.command .decrement) (b := Kind.command .increment) (by decide)]
  omega

@[simp] lemma netChange_cons_decrement :
    netChange (.command .decrement pos :: xs) = -1 + netChange xs := by
  simp only [netChange, List.map_cons, Node.kind, List.count_cons_self,
    List.count_cons_of_ne (a := Kind.command .increment) (b := Kind.command .decrement) (by decide)]
  omega

/-- Numbers change a byte alike exactly if they are congruent. -/
lemma addMod_eq_addMod_iff : addMod v a = addMod v b ↔ a ≡ b [ZMOD 256] := by
  rw [← UInt8.toNat_inj, ← Int.natCast_inj, toNat_addMod, toNat_addMod, Int.ModEq]
  omega

/-- The context of a nest: so many loops around the hole, and nothing else. -/
def nestContext : ℕ → Context
  | 0 => .here [] []
  | k + 1 => .inLoop [] .start (nestContext k) []

/-- A nest is what its context is filled to. -/
lemma fill_nestContext (k : ℕ) (xs : List Node) : (nestContext k).fill xs = nest k xs := by
  induction k with
  | zero => simp [nestContext, Context.fill, nest]
  | succ k ih => simp [nestContext, Context.fill, nest, ih]

/-- **A row of adjustments** adds to the current cell its net change and does nothing else.

**Proof sketch.** Induction on the row, for every state. The first node adds one or takes one
away. -/
lemma runs_adjustments (hroom : ∀ trace input, host.frames .adjust trace input ≤ room)
    (hxs : ∀ n ∈ xs, n.IsAdjustment) :
    Runs host root room xs s
      ⟨{ s with tape := s.tape.write (addMod s.tape.current (netChange xs)) }, none⟩ := by
  induction xs generalizing s with
  | nil =>
    rw [netChange_nil, addMod_zero]
    exact .nil
  | cons n rest ih =>
    obtain ⟨hn, hrest⟩ := List.forall_mem_cons.1 hxs
    cases n with
    | command c pos =>
      rcases hn with rfl | rfl
      · rw [netChange_cons_increment, ← addMod_addMod, addMod_one]
        refine .command (State.cutOff?_eq_none_iff.2 fun call hcall => ?_) rfl
          (ih (s := { s with tape := s.tape.write (s.tape.current + 1) }) hrest)
        obtain rfl := List.mem_singleton.1 hcall
        exact hroom _ _
      · rw [netChange_cons_decrement, ← addMod_addMod, addMod_neg_one]
        refine .command (State.cutOff?_eq_none_iff.2 fun call hcall => ?_) rfl
          (ih (s := { s with tape := s.tape.write (s.tape.current - 1) }) hrest)
        obtain rfl := List.mem_singleton.1 hcall
        exact hroom _ _
    | loop pos body => exact hn.elim
    | bare pos => exact hn.elim
    | block pos body => exact hn.elim

/-- Rows of adjustments with congruent net changes are interchangeable where there is room for them.
-/
lemma interchangeable_adjustments (hroom : ∀ trace input, host.frames .adjust trace input ≤ room)
    (hxs : ∀ n ∈ xs, n.IsAdjustment) (hys : ∀ n ∈ ys, n.IsAdjustment)
    (h : netChange xs ≡ netChange ys [ZMOD 256]) : Interchangeable host room xs ys := by
  intro root s o
  have hx : Runs host root room xs s _ := runs_adjustments hroom hxs
  have hy : Runs host root room ys s _ := runs_adjustments hroom hys
  rw [addMod_eq_addMod_iff.2 h] at hx
  constructor
  · intro ho
    rwa [ho.unique hx]
  · intro ho
    rwa [ho.unique hy]

/-- **Only the net change of a row of increments and decrements matters, modulo 256.** Two such
rows, each of which may be empty, have congruent net changes exactly if they make no difference at
any place of any tree where the host has room for changing a cell: the program with one of them runs
to the same outcomes as the program with the other, and so one comes to an end exactly if the other
does. Inside of 801 loops every host has that room, and elsewhere the tree may be as deep as it
likes.

**Proof sketch.** Congruent rows are interchangeable. Rows that are not congruent differ already
when they are the whole program. -/
theorem netChange_modEq_iff_fill (xs ys : List Node) (hxs : ∀ n ∈ xs, n.IsAdjustment)
    (hys : ∀ n ∈ ys, n.IsAdjustment) :
    (netChange xs ≡ netChange ys [ZMOD 256] ↔
      ∀ (k : Context) (host : Host) (root : Position) (s : State) (o : Outcome),
        (∀ trace input, host.frames .adjust trace input ≤ host.room - 1 - k.depth) →
        (s.RunsTo host ⟨root, k.fill xs⟩ o ↔ s.RunsTo host ⟨root, k.fill ys⟩ o)) ∧
    ∀ (k : Context) (host : Host), k.depth ≤ 801 →
      ∀ trace input, host.frames .adjust trace input ≤ host.room - 1 - k.depth := by
  refine ⟨⟨?_, ?_⟩, ?_⟩
  · intro h k host root s o hroom
    exact (interchangeable_adjustments hroom hxs hys h).fill.runsTo_iff
  · intro h
    -- the rows alone, on a tape of one cell: what they leave there tells them apart
    let s : State := { tape := ⟨[], 0, []⟩ }
    have hroom : ∀ trace input, Host.usual.frames .adjust trace input ≤ Host.usual.room - 1 :=
      fun _ _ => (by decide : 1 ≤ 996)
    have hsame (o : Outcome) := h (.here [] []) .usual .start s o hroom
    simp only [Context.fill, List.nil_append, List.append_nil, State.runsTo_iff] at hsame
    have hx := (hsame _).1 (runs_adjustments hroom hxs)
    have hend := congrArg (fun o => o.state.tape.current) (hx.unique (runs_adjustments hroom hys))
    exact addMod_eq_addMod_iff.1 hend
  · intro k host hdepth trace input
    have := host.frames_le_room .adjust trace input
    omega

/-- One decrement and 255 increments are the same, here in a loop that writes its cell before it
counts. -/
theorem netChange_modEq_iff_fill_wrapping :
    let up : List Node := List.replicate 255 (.command .increment ⟨1, 3⟩)
    let down : List Node := [.command .decrement ⟨1, 3⟩]
    let k : Context := .inLoop [] ⟨1, 1⟩ (.here [.command .output ⟨1, 2⟩] []) []
    let s : State := { tape := ⟨[], 2, []⟩ }
    let o : Outcome :=
      ⟨{ tape := ⟨[], 0, []⟩, writes := 2,
         trace := [.flush, .write [1], .flush, .write [2]] }, none⟩
    (∀ n ∈ down, n.IsAdjustment) ∧ (∀ n ∈ up, n.IsAdjustment) ∧
      netChange down ≡ netChange up [ZMOD 256] ∧
      (∀ trace input, Host.usual.frames .adjust trace input ≤ Host.usual.room - 1 - k.depth) ∧
      s.RunsTo .usual ⟨.start, k.fill down⟩ o ∧ s.RunsTo .usual ⟨.start, k.fill up⟩ o := by
  intro up down k s o
  have hruns : s.RunsTo .usual ⟨.start, k.fill down⟩ o := ⟨20, by decide +revert⟩
  have hdown : ∀ n ∈ down, n.IsAdjustment := by simp [down, Node.IsAdjustment]
  have hup : ∀ n ∈ up, n.IsAdjustment := by
    intro n hn
    rw [List.eq_of_mem_replicate hn]
    exact .inl rfl
  have hnet : netChange down ≡ netChange up [ZMOD 256] := by decide +kernel
  have hroom : ∀ trace input,
      Host.usual.frames .adjust trace input ≤ Host.usual.room - 1 - k.depth :=
    fun _ _ => (by decide : 1 ≤ 995)
  exact ⟨hdown, hup, hnet, hroom, hruns,
    ((netChange_modEq_iff_fill down up hdown hup).1.1 hnet k .usual .start s o hroom).1 hruns⟩

/-- Inside of 996 loops the usual host has no room for changing a cell. An increment and a decrement
are cut off there, and with nothing in their place the run takes no end. -/
theorem netChange_modEq_iff_fill_without_room :
    let both : List Node := [.command .increment .start, .command .decrement .start]
    let k : Context := nestContext 996
    let s : State := { tape := ⟨[], 1, []⟩ }
    (∀ n ∈ both, n.IsAdjustment) ∧ netChange both ≡ netChange [] [ZMOD 256] ∧
      s.RunsTo .usual ⟨.start, k.fill both⟩ ⟨s, some (.nestingDepth .start)⟩ ∧
      ∀ o, ¬s.RunsTo .usual ⟨.start, k.fill []⟩ o := by
  intro both k s
  have hinside : Runs .usual .start 0 both s ⟨s, some (.nestingDepth .start)⟩ := .cutOff rfl
  refine ⟨by simp [both, Node.IsAdjustment], by decide, ?_, fun o => ?_⟩
  · rw [fill_nestContext, State.runsTo_iff]
    exact hinside.nest_broken (by decide) (by decide) 996
  · rw [fill_nestContext, State.runsTo_iff]
    exact Runs.not_nest_nil (by decide) (by decide) 995

end TapeLang
