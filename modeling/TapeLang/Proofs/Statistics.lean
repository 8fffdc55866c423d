import Mathlib.Order.Bounds.Defs
import TapeLang.Proofs.Parsing

set_option autoImplicit false

/-!
# The statistics of a tree

How deep the loops of a tree nest, how many nodes it has and how many of them are loops can be
counted on the operations that spell it, without the tree: the first is the greatest depth of a
prefix, the others are numbers of operations.

## Main definitions

* `TapeLang.loopCount` — the number of loops in a list of nodes.

## Main results

* `TapeLang.Spells.isGreatest_depth` — loops nest as deep as the deepest prefix.
* `TapeLang.Spells.nodeCount_eq`, `TapeLang.Spells.loopCount_eq` — the nodes and the loops of a tree
  are counted on its spelling.
* `TapeLang.parse_statistics` — the three for the tree of a list that is parsed.
-/

namespace TapeLang

mutual

/-- The number of loops in a node, the node itself included. -/
def Node.loopCount : Node → ℕ
  | .command _ _ => 0
  | .loop _ body => 1 + loopCount body
  | .bare _ => 0
  | .block _ body => loopCount body

/-- The number of loops in a list of nodes, at any depth. -/
def loopCount : List Node → ℕ
  | [] => 0
  | n :: ns => n.loopCount + loopCount ns

end

variable {ops : List Operation} {nodes : List Node}

@[simp] lemma loopCount_cons_command (c : Command) (pos : Position) (ns : List Node) :
    loopCount (.command c pos :: ns) = loopCount ns := by
  simp [loopCount, Node.loopCount]

@[simp] lemma loopCount_cons_loop (pos : Position) (body ns : List Node) :
    loopCount (.loop pos body :: ns) = 1 + loopCount body + loopCount ns := by
  rw [loopCount, Node.loopCount]

/-- Every operation but a loop end is a node. -/
lemma Spells.nodeCount_eq (h : Spells ops nodes) :
    nodeCount nodes = ops.countP (·.symbol ≠ .loopEnd) := by
  induction h with
  | nil => rfl
  | command hop _ ih => simp [nodeCount, Node.nodeCount, hop, ih, Nat.add_comm]
  | loop hb he _ _ ihi ih =>
    simp [nodeCount, Node.nodeCount, hb, he, ihi, ih]
    omega

/-- Every loop begin is a loop. -/
lemma Spells.loopCount_eq (h : Spells ops nodes) :
    loopCount nodes = ops.countP (·.symbol = .loopBegin) := by
  induction h with
  | nil => rfl
  | command hop _ ih => simp [hop, ih]
  | loop hb he _ _ ihi ih =>
    simp [hb, he, ihi, ih]
    omega

/-- **Loops nest as deep as the deepest prefix.** The greatest depth is reached, as the operations
do not nest within a lower limit. -/
lemma Spells.isGreatest_depth (h : Spells ops nodes) :
    IsGreatest {d : ℤ | ∃ pre, pre <+: ops ∧ depth pre = d} (nesting nodes) := by
  have hwithin : NestsWithin (nesting nodes) ops := h.nestsWithin_iff.2 (Nat.le_refl _)
  constructor
  · cases hd : nesting nodes with
    | zero => exact ⟨[], List.nil_prefix, rfl⟩
    | succ d =>
      have hbeyond : ¬NestsWithin d ops := by
        rw [h.nestsWithin_iff]
        omega
      obtain ⟨n, hn⟩ := Classical.not_forall.1 hbeyond
      have hle := hwithin n
      exact ⟨ops.take n, List.take_prefix n ops, by omega⟩
  · rintro d ⟨pre, hpre, rfl⟩
    rw [List.prefix_iff_eq_take.1 hpre]
    exact hwithin _

/-- **The statistics of a tree are those of its operations**: the loops nest as deep as the greatest
difference of loop begins and loop ends in a prefix, every operation but a loop end is a node, and
every loop begin is a loop. -/
theorem parse_statistics {host : Host} {ops : List Operation} {p : Program}
    (h : parse host ops = .ok p) :
    IsGreatest {d : ℤ | ∃ pre, pre <+: ops ∧ depth pre = d} (nesting p.body) ∧
      nodeCount p.body = ops.countP (·.symbol ≠ .loopEnd) ∧
      loopCount p.body = ops.countP (·.symbol = .loopBegin) := by
  have hspells : Spells ops p.body := (parse_eq_ok_iff.1 h).1
  exact ⟨hspells.isGreatest_depth, hspells.nodeCount_eq, hspells.loopCount_eq⟩

/-- Two loops one behind the other, the second one around a third, which is the deepest. -/
theorem parse_statistics_siblings :
    let p : Program := ⟨.start, [.loop ⟨1, 1⟩ [.command .decrement ⟨1, 2⟩],
      .loop ⟨1, 4⟩ [.loop ⟨1, 5⟩ [], .command .output ⟨1, 7⟩]]⟩
    parse .usual (operations "[-][[].]") = .ok p ∧
      IsGreatest {d : ℤ | ∃ pre, pre <+: operations "[-][[].]" ∧ depth pre = d} 2 ∧
      nodeCount p.body = 5 ∧ loopCount p.body = 3 := by
  intro p
  have hparse : parse .usual (operations "[-][[].]") = .ok p := by cbv
  obtain ⟨hdepth, hnodes, hloops⟩ := parse_statistics hparse
  exact ⟨hparse, hdepth, hnodes.trans (by cbv), hloops.trans (by cbv)⟩

end TapeLang
