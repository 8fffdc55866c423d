import Mathlib.Algebra.BigOperators.Group.List.Basic
import Mathlib.Algebra.Order.Group.Int
import Mathlib.Algebra.Order.Monoid.Defs
import Mathlib.Order.Bounds.Image
import Mathlib.Tactic.Linarith
import Mathlib.Tactic.Ring
import TapeLang.Proofs.Concatenation
import TapeLang.Proofs.Extension
import TapeLang.Proofs.UncheckedTape

set_option autoImplicit false

/-!
# Loops over moves and changes by one

A loop whose body only moves the pointer and changes cells by one, and that comes back to the cell
where it began, does the same in each pass: it adds to each cell a number that depends only on the
offset of the cell from the pointer. So what the loop does in all is that number times the count of
passes, modulo 256, and the count is the least that brings its own cell to zero. Moving a cell to
another place and clearing a cell are such loops.

## Main definitions

* `TapeLang.displacement`, `TapeLang.visited`, `TapeLang.change` — how far a pass moves the pointer,
  where the pointer is on the way, and what the pass adds to each cell.
* `TapeLang.addMod` — adding a number to a byte modulo 256.
* `TapeLang.Finishes` — running nodes comes to an end with an outcome.

## Main results

* `TapeLang.runs_straight`, `TapeLang.runs_straight_isOffTape` — a pass that stays on the tape, and
  one that does not.
* `TapeLang.runs_loop` — the passes up to the first that leaves a zero.
* `TapeLang.finishes_straight_loop` — the closed form of such a loop.
-/

namespace TapeLang

namespace Node

/-- The node moves the pointer or changes the current cell by one. -/
def IsStraight : Node → Prop
  | command c _ => c ≠ .output ∧ c ≠ .input
  | _ => False

/-- How far a node moves the pointer, to the right if positive. -/
def shift : Node → ℤ
  | command .moveRight _ => 1
  | command .moveLeft _ => -1
  | _ => 0

/-- What a node adds to the current cell. -/
def amount : Node → ℤ
  | command .increment _ => 1
  | command .decrement _ => -1
  | _ => 0

end Node

/-- How far nodes move the pointer in all. -/
def displacement (body : List Node) : ℤ :=
  (body.map Node.shift).sum

/-- The offsets at which the pointer is while nodes are run once: behind each number of nodes. -/
def visited (body : List Node) : Set ℤ :=
  Set.range fun n => displacement (body.take n)

/-- What nodes that are run once add in all to the cell at an offset. -/
def change : List Node → ℤ → ℤ
  | [], _ => 0
  | n :: rest, j => (if j = 0 then n.amount else 0) + change rest (j - n.shift)

/-- The byte with a number added to it, modulo 256. -/
def addMod (v : UInt8) (n : ℤ) : UInt8 :=
  UInt8.ofNat ((v.toNat + n) % 256).toNat

/-- The tape with a number added to each cell, which is given by the offset of the cell from the
pointer. -/
def Tape.add (t : Tape) (f : ℤ → ℤ) : Tape where
  left := t.left.mapIdx fun i v => addMod v (f (-(i + 1)))
  current := addMod t.current (f 0)
  right := t.right.mapIdx fun i v => addMod v (f (i + 1))

/-- All offsets from the pointer lead to cells. -/
def Tape.Spans (t : Tape) (offsets : Set ℤ) : Prop :=
  ∀ x ∈ offsets, 0 ≤ t.pointer + x ∧ t.pointer + x < t.length

/-- Running nodes, where the host has room for `room` frames, comes to an end with an outcome. -/
def Finishes (host : Host) (root : Position) (room : ℕ) (nodes : List Node) (s : State)
    (o : Outcome) : Prop :=
  ∃ fuel, exec host root fuel room nodes s = some o

variable {host : Host} {root : Position} {room k : ℕ} {body rest : List Node} {n : Node}
  {c : Command} {pos : Position} {s : State} {o : Outcome} {v : UInt8} {a j : ℤ}

/-! ## Bytes -/

lemma toNat_addMod (v : UInt8) (n : ℤ) : ((addMod v n).toNat : ℤ) = (v.toNat + n) % 256 := by
  rw [addMod, UInt8.toNat_ofNat']
  omega

@[simp] lemma addMod_zero (v : UInt8) : addMod v 0 = v := by
  rw [addMod, Int.add_zero, ofNat_toNat_emod]

@[simp] lemma addMod_addMod (v : UInt8) (a b : ℤ) : addMod (addMod v a) b = addMod v (a + b) := by
  rw [← UInt8.toNat_inj, ← Int.natCast_inj, toNat_addMod, toNat_addMod, toNat_addMod]
  omega

lemma addMod_eq_zero_iff : addMod v a = 0 ↔ ((v.toNat : ℤ) + a) % 256 = 0 := by
  rw [← UInt8.toNat_inj, ← Int.natCast_inj, toNat_addMod]
  rfl

lemma addMod_one (v : UInt8) : addMod v 1 = v + 1 :=
  ofNat_toNat_add_one v

lemma addMod_neg_one (v : UInt8) : addMod v (-1) = v - 1 :=
  ofNat_toNat_sub_one v

/-- Adding nothing to any cell changes none. -/
lemma mapIdx_addMod_of_eq_zero {f : ℕ → ℤ} (h : ∀ i, f i = 0) (cells : List UInt8) :
    (cells.mapIdx fun i v => addMod v (f i)) = cells := by
  simp [h, List.mapIdx_eq_iff]

/-! ## Tapes -/

namespace Tape

@[simp] lemma pointer_add (t : Tape) (f : ℤ → ℤ) : (t.add f).pointer = t.pointer := by
  simp [add, pointer]

@[simp] lemma length_add (t : Tape) (f : ℤ → ℤ) : (t.add f).length = t.length := by
  simp [add, length]

/-- To each cell the number for its offset is added. -/
lemma cells_add (t : Tape) (f : ℤ → ℤ) :
    (t.add f).cells = t.cells.mapIdx fun i v => addMod v (f (i - t.pointer)) := by
  have hleft : t.left.reverse.mapIdx (fun i v => addMod v (f (i - t.pointer))) =
      (t.left.mapIdx fun i v => addMod v (f (-(i + 1)))).reverse := by
    rw [List.mapIdx_reverse, List.mapIdx_eq_mapIdx_iff.2]
    intro i hi
    have hoffset : ((t.left.length - 1 - i : ℕ) : ℤ) - t.pointer = -(i + 1) := by
      rw [pointer]
      omega
    rw [hoffset]
  have hright : t.right.mapIdx
        (fun i v => addMod v (f ((i + 1 + t.left.length : ℕ) - t.pointer))) =
      t.right.mapIdx fun i v => addMod v (f (i + 1)) := by
    rw [List.mapIdx_eq_mapIdx_iff]
    intro i hi
    have hoffset : ((i + 1 + t.left.length : ℕ) : ℤ) - t.pointer = i + 1 := by
      rw [pointer]
      omega
    rw [hoffset]
  rw [cells, cells, List.mapIdx_append, hleft, List.mapIdx_cons, List.length_reverse, hright]
  simp [add, pointer]

lemma add_add (t : Tape) (f g : ℤ → ℤ) : (t.add f).add g = t.add fun j => f j + g j := by
  simp [add, Function.comp_def]

/-- Adding nothing to any cell changes nothing. -/
lemma add_of_eq_zero {f : ℤ → ℤ} (h : ∀ j, f j = 0) (t : Tape) : t.add f = t := by
  refine ext_cells_pointer ?_ (t.pointer_add f)
  rw [cells_add, mapIdx_addMod_of_eq_zero fun i => h _]

/-- Adding to the current cell writes it. -/
lemma write_addMod (t : Tape) (n : ℤ) :
    t.write (addMod t.current n) = t.add fun j => if j = 0 then n else 0 := by
  have hleft (i : ℕ) : (if -((i : ℤ) + 1) = 0 then n else 0) = 0 := if_neg (by omega)
  have hright (i : ℕ) : (if (i : ℤ) + 1 = 0 then n else 0) = 0 := if_neg (by omega)
  simp only [add, write, mapIdx_addMod_of_eq_zero hleft, mapIdx_addMod_of_eq_zero hright, if_true]

end Tape

/-! ## One pass -/

/-- Straight nodes are no loops. -/
lemma nesting_straight (hbody : ∀ n ∈ body, n.IsStraight) : nesting body = 0 := by
  induction body with
  | nil => exact nesting_nil
  | cons n rest ih =>
    cases n with
    | command c pos =>
      rw [nesting_cons_command]
      exact ih fun m hm => hbody m (List.mem_cons_of_mem _ hm)
    | loop pos body => exact absurd (hbody _ List.mem_cons_self) id
    | bare pos => exact absurd (hbody _ List.mem_cons_self) id
    | block pos body => exact absurd (hbody _ List.mem_cons_self) id

/-- Inside of 800 loops there is room for a loop over straight nodes. -/
lemma hasRoom_straight_loop (host : Host) (pos : Position) (hbody : ∀ n ∈ body, n.IsStraight) :
    HasRoom host (host.room - 1 - 800) [.loop pos body] := by
  intro call trace input
  have hle := host.frames_le_room call trace input
  rw [nesting_cons_loop, nesting_straight hbody, nesting_nil]
  omega

lemma displacement_cons (n : Node) (rest : List Node) :
    displacement (n :: rest) = n.shift + displacement rest := by
  simp [displacement]

lemma visited_nil : visited [] = {0} := by
  simp [visited, displacement]

lemma visited_cons (n : Node) (rest : List Node) :
    visited (n :: rest) = insert 0 ((n.shift + ·) '' visited rest) := by
  ext x
  constructor
  · rintro ⟨m, rfl⟩
    cases m with
    | zero => exact .inl rfl
    | succ m => exact .inr ⟨_, ⟨m, rfl⟩, (displacement_cons n _).symm⟩
  · rintro (rfl | ⟨_, ⟨m, rfl⟩, rfl⟩)
    · exact ⟨0, rfl⟩
    · exact ⟨m + 1, displacement_cons n _⟩

/-- The pointer does not leave some range of offsets, and comes to both ends of it. -/
lemma exists_range_visited (body : List Node) :
    ∃ lo hi, IsLeast (visited body) lo ∧ IsGreatest (visited body) hi := by
  induction body with
  | nil =>
    rw [visited_nil]
    exact ⟨0, 0, isLeast_singleton, isGreatest_singleton⟩
  | cons n rest ih =>
    obtain ⟨lo, hi, hlo, hhi⟩ := ih
    have hmono : Monotone (n.shift + ·) := fun a b h => Int.add_le_add_left h _
    rw [visited_cons]
    exact ⟨_, _, (hmono.map_isLeast hlo).insert 0, (hmono.map_isGreatest hhi).insert 0⟩

/-- A cell at which the pointer is not keeps its value. -/
lemma change_eq_zero (h : j ∉ visited body) : change body j = 0 := by
  induction body generalizing j with
  | nil => rfl
  | cons n rest ih =>
    rw [visited_cons, Set.mem_insert_iff, not_or] at h
    have hrest : j - n.shift ∉ visited rest :=
      fun hmem => h.2 ⟨_, hmem, by dsimp only; omega⟩
    rw [change, if_neg h.1, ih hrest, Int.add_zero]

/-- A tape spans the offsets of some nodes if it spans those behind the first node, seen from
there. -/
lemma Tape.spans_visited_cons_iff {t u : Tape} (hp : (u.pointer : ℤ) = t.pointer + n.shift)
    (hl : u.length = t.length) : t.Spans (visited (n :: rest)) ↔ u.Spans (visited rest) := by
  have hlt := t.pointer_lt_length
  rw [visited_cons]
  constructor
  · intro h x hx
    have := h _ (.inr ⟨x, hx, rfl⟩)
    dsimp only at this
    rw [hp, hl]
    omega
  · rintro h _ (rfl | ⟨x, hx, rfl⟩)
    · omega
    · have := h x hx
      rw [hp, hl] at this
      dsimp only
      omega

/-- Changing cells one by one keeps their number. -/
lemma Tape.length_of_cells_eq_mapIdx {t u : Tape} {f : ℕ → UInt8 → UInt8}
    (h : u.cells = t.cells.mapIdx f) : u.length = t.length := by
  rw [← length_cells, h, List.length_mapIdx, length_cells]

/-- A straight node does to the tape what it says, if the pointer stays on it. -/
lemma State.perform_straight (s : State) (host : Host)
    (hc : (Node.command c pos).IsStraight)
    (h0 : 0 ≤ s.tape.pointer + (Node.command c pos).shift)
    (h1 : s.tape.pointer + (Node.command c pos).shift < s.tape.length) :
    ∃ t, s.perform host c pos = ⟨{ s with tape := t }, none⟩ ∧
      (t.pointer : ℤ) = s.tape.pointer + (Node.command c pos).shift ∧
      t.cells = s.tape.cells.mapIdx fun i v =>
        addMod v (if (i : ℤ) - s.tape.pointer = 0 then (Node.command c pos).amount else 0) := by
  have hcells : s.tape.cells.mapIdx (fun (i : ℕ) v =>
      addMod v (if (i : ℤ) - s.tape.pointer = 0 then 0 else 0)) = s.tape.cells :=
    mapIdx_addMod_of_eq_zero (fun _ => ite_self 0) _
  cases c with
  | moveRight =>
    cases hm : s.tape.move? .right with
    | none =>
      have := Tape.move?_right_eq_none_iff.1 hm
      simp only [Node.shift] at h1
      omega
    | some t =>
      refine ⟨t, by simp only [perform, move, hm], ?_, ?_⟩
      · rw [Tape.pointer_of_move?_right hm]
        rfl
      · exact (Tape.cells_of_move? hm).trans hcells.symm
  | moveLeft =>
    cases hm : s.tape.move? .left with
    | none =>
      have := Tape.move?_left_eq_none_iff.1 hm
      simp only [Node.shift] at h0
      omega
    | some t =>
      refine ⟨t, by simp only [perform, move, hm], ?_, ?_⟩
      · have := Tape.pointer_of_move?_left hm
        simp only [Node.shift]
        omega
      · exact (Tape.cells_of_move? hm).trans hcells.symm
  | increment =>
    refine ⟨_, rfl, (Int.add_zero _).symm, ?_⟩
    rw [← addMod_one, Tape.write_addMod, Tape.cells_add]
    rfl
  | decrement =>
    refine ⟨_, rfl, (Int.add_zero _).symm, ?_⟩
    rw [← addMod_neg_one, Tape.write_addMod, Tape.cells_add]
    rfl
  | output => exact absurd rfl hc.1
  | input => exact absurd rfl hc.2

/-- A straight node that would leave the tape fails. -/
lemma State.perform_straight_isOffTape (s : State) (host : Host)
    (hc : (Node.command c pos).IsStraight)
    (h : s.tape.pointer + (Node.command c pos).shift < 0 ∨
      s.tape.length ≤ s.tape.pointer + (Node.command c pos).shift) :
    ∃ e, s.perform host c pos = ⟨s, some e⟩ ∧ e.IsOffTape := by
  have hlt := s.tape.pointer_lt_length
  cases c with
  | moveRight =>
    simp only [Node.shift] at h
    have hm : s.tape.move? .right = none := Tape.move?_right_eq_none_iff.2 (by omega)
    exact ⟨_, by simp only [perform, move, hm]; rfl, _, _, _, _, rfl⟩
  | moveLeft =>
    simp only [Node.shift] at h
    have hm : s.tape.move? .left = none := Tape.move?_left_eq_none_iff.2 (by omega)
    exact ⟨_, by simp only [perform, move, hm]; rfl, _, _, _, _, rfl⟩
  | increment =>
    simp only [Node.shift] at h
    omega
  | decrement =>
    simp only [Node.shift] at h
    omega
  | output => exact absurd rfl hc.1
  | input => exact absurd rfl hc.2

/-- **One pass over straight nodes that stays on the tape** moves the pointer by the displacement
and adds to each cell what the nodes add to it in all.

**Proof sketch.** Induction on the nodes, for every tape. Behind the first node, all offsets are
shorter by its shift. -/
lemma runs_straight (hroom : HasRoom host room body) (hbody : ∀ n ∈ body, n.IsStraight)
    (hspans : s.tape.Spans (visited body)) :
    ∃ t, Runs host root room body s ⟨{ s with tape := t }, none⟩ ∧
      (t.pointer : ℤ) = s.tape.pointer + displacement body ∧
      t.cells = s.tape.cells.mapIdx fun i v => addMod v (change body (i - s.tape.pointer)) := by
  induction body generalizing s with
  | nil =>
    exact ⟨s.tape, .nil, (Int.add_zero _).symm, (mapIdx_addMod_of_eq_zero (fun _ => rfl) _).symm⟩
  | cons n rest ih =>
    obtain ⟨hn, hrest⟩ := List.forall_mem_cons.1 hbody
    cases n with
    | command c pos =>
      have hnext := hspans (Node.command c pos).shift
        (by rw [visited_cons]; exact .inr ⟨0, ⟨0, rfl⟩, Int.add_zero _⟩)
      obtain ⟨u, hu, hup, hucells⟩ := s.perform_straight host hn hnext.1 hnext.2
      have huspans : u.Spans (visited rest) :=
        (Tape.spans_visited_cons_iff hup (Tape.length_of_cells_eq_mapIdx hucells)).1 hspans
      obtain ⟨t, hruns, htp, htcells⟩ := ih (s := { s with tape := u }) hroom.tail hrest huspans
      refine ⟨t, .command (hroom.cutOff?_eq_none _ _) (by rw [hu]) (by rw [hu]; exact hruns),
        ?_, ?_⟩
      · rw [htp, hup, displacement_cons, Int.add_assoc]
      · rw [htcells, hucells, List.mapIdx_mapIdx]
        congr 1
        funext i v
        simp only [Function.comp_apply, addMod_addMod, change, hup, Int.sub_sub]
    | loop pos inner => exact hn.elim
    | bare pos => exact hn.elim
    | block pos inner => exact hn.elim

/-- A pass over straight nodes that does not stay on the tape stops at the move that leaves it. -/
lemma runs_straight_isOffTape (hroom : HasRoom host room body)
    (hbody : ∀ n ∈ body, n.IsStraight) (hspans : ¬s.tape.Spans (visited body)) :
    ∃ t e, Runs host root room body s ⟨{ s with tape := t }, some e⟩ ∧ e.IsOffTape := by
  induction body generalizing s with
  | nil =>
    refine absurd ?_ hspans
    rintro _ ⟨n, rfl⟩
    have := s.tape.pointer_lt_length
    simp [displacement]
    omega
  | cons n rest ih =>
    obtain ⟨hn, hrest⟩ := List.forall_mem_cons.1 hbody
    cases n with
    | command c pos =>
      by_cases hnext : 0 ≤ s.tape.pointer + (Node.command c pos).shift ∧
          s.tape.pointer + (Node.command c pos).shift < s.tape.length
      · obtain ⟨u, hu, hup, hucells⟩ := s.perform_straight host hn hnext.1 hnext.2
        have hlength := Tape.length_of_cells_eq_mapIdx hucells
        obtain ⟨t, e, hruns, he⟩ := ih (s := { s with tape := u }) hroom.tail hrest
          (mt (Tape.spans_visited_cons_iff hup hlength).2 hspans)
        have hnext := hroom.cutOff?_eq_none s (.command c pos)
        exact ⟨t, e, .command hnext (by rw [hu]) (by rw [hu]; exact hruns), he⟩
      · obtain ⟨e, he, hoff⟩ := s.perform_straight_isOffTape host hn (by omega)
        refine ⟨s.tape, e, ?_, hoff⟩
        have hfail : Runs host root room (.command c pos :: rest) s _ :=
          .fail (hroom.cutOff?_eq_none _ _) (by rw [he])
        rwa [he] at hfail
    | loop pos inner => exact hn.elim
    | bare pos => exact hn.elim
    | block pos inner => exact hn.elim

/-- A pass that comes back to where it began adds to each cell what the nodes add to it. -/
lemma runs_pass (hroom : HasRoom host room body) (hbody : ∀ n ∈ body, n.IsStraight)
    (hd : displacement body = 0) (hspans : s.tape.Spans (visited body)) :
    Runs host root room body s ⟨{ s with tape := s.tape.add (change body) }, none⟩ := by
  obtain ⟨t, hruns, hp, hcells⟩ := runs_straight hroom hbody hspans
  have htape : t = s.tape.add (change body) := by
    refine Tape.ext_cells_pointer (hcells.trans (Tape.cells_add _ _).symm) ?_
    rw [Tape.pointer_add]
    omega
  rwa [htape] at hruns

/-! ## Many passes -/

/-- The same offsets lead to cells when numbers were added to the cells. -/
lemma Tape.Spans.add {t : Tape} {offsets : Set ℤ} (h : t.Spans offsets) (f : ℤ → ℤ) :
    (t.add f).Spans offsets := by
  intro x hx
  rw [pointer_add, length_add]
  exact h x hx

/-- The current cell after one more pass than a number of passes, counted from behind the first. -/
lemma current_after_pass (t : Tape) (f : ℤ → ℤ) (m : ℤ) :
    (((t.add f).current.toNat : ℤ) + m * f 0) % 256 =
      (t.current.toNat + (m + 1) * f 0) % 256 := by
  have hcurrent : (t.add f).current = addMod t.current (f 0) := rfl
  rw [hcurrent, toNat_addMod, Int.emod_add_emod]
  congr 1
  ring

/-- One pass and then some number of passes are one more pass. -/
lemma Tape.add_pass (t : Tape) (f : ℤ → ℤ) (k : ℕ) :
    (t.add f).add (fun j => k * f j) = t.add fun j => (k + 1 : ℕ) * f j := by
  rw [add_add]
  congr 1
  funext j
  push_cast
  ring

/-- **A loop is left behind the first pass that leaves a zero in its cell.**

**Proof sketch.** Induction on the number of passes. Behind the first pass one less is to be made,
from the cell that this pass has left. -/
lemma runs_loop (hroom : HasRoom host room [.loop pos body])
    (hbody : ∀ n ∈ body, n.IsStraight) (hd : displacement body = 0)
    (hspans : s.tape.Spans (visited body))
    (hbefore : ∀ m < k, ((s.tape.current.toNat : ℤ) + m * change body 0) % 256 ≠ 0)
    (hend : ((s.tape.current.toNat : ℤ) + k * change body 0) % 256 = 0) :
    Runs host root room [.loop pos body] s
      ⟨{ s with tape := s.tape.add fun j => k * change body j }, none⟩ := by
  induction k generalizing s with
  | zero =>
    rw [Tape.add_of_eq_zero fun j => by simp]
    have hz : addMod s.tape.current 0 = 0 := addMod_eq_zero_iff.2 (by simpa using hend)
    rw [addMod_zero] at hz
    exact .skip (hroom.cutOff?_eq_none _ _) hz .nil
  | succ k ih =>
    have hz : s.tape.current ≠ 0 := by
      intro hz
      refine hbefore 0 (Nat.succ_pos k) ?_
      simp [hz]
    have hrest := ih (s := { s with tape := s.tape.add (change body) }) (hspans.add _)
      (fun m hm => by
        rw [current_after_pass]
        exact_mod_cast hbefore (m + 1) (Nat.succ_lt_succ hm))
      (by
        rw [current_after_pass]
        exact_mod_cast hend)
    -- the first pass and the `k` that are left add up to `k + 1`
    rw [← Tape.add_pass]
    exact .again (hroom.cutOff?_eq_none _ _) hz (runs_pass hroom.body hbody hd hspans) hrest

/-- A loop that comes to an end has made some number of passes and found a zero. -/
lemma exists_of_runs_loop (hroom : HasRoom host room [.loop pos body])
    (hbody : ∀ n ∈ body, n.IsStraight) (hd : displacement body = 0)
    (hspans : s.tape.Spans (visited body)) (h : Runs host root room [.loop pos body] s o) :
    ∃ k : ℕ, ((s.tape.current.toNat : ℤ) + k * change body 0) % 256 = 0 := by
  induction h using Runs.loop_induction with
  | @skip s o _ hz _ => exact ⟨0, by simp [hz]⟩
  | again _ hz hpass _ ih =>
    obtain rfl := congrArg Outcome.state ((runs_pass hroom.body hbody hd hspans).unique hpass)
    obtain ⟨k, hk⟩ := ih (hspans.add _)
    rw [current_after_pass] at hk
    exact ⟨k + 1, by exact_mod_cast hk⟩
  | broken _ _ hpass => cases (runs_pass hroom.body hbody hd hspans).unique hpass
  | cutOff hcut => cases (hroom.cutOff?_eq_none _ _).symm.trans hcut

/-- Only the ends of a range of offsets matter. -/
lemma Tape.spans_iff {t : Tape} {offsets : Set ℤ} {lo hi : ℤ} (hlo : IsLeast offsets lo)
    (hhi : IsGreatest offsets hi) :
    t.Spans offsets ↔ 0 ≤ t.pointer + lo ∧ t.pointer + hi < t.length := by
  constructor
  · intro h
    exact ⟨(h lo hlo.1).1, (h hi hhi.1).2⟩
  · intro h x hx
    have hlox : lo ≤ x := hlo.2 hx
    have hxhi : x ≤ hi := hhi.2 hx
    omega

/-- No pass at all leaves no zero in a cell that holds none. -/
lemma not_zero_of_no_pass (hv : v ≠ 0) (a : ℤ) : ((v.toNat : ℤ) + (0 : ℕ) * a) % 256 ≠ 0 := by
  have hbyte := mt (addMod_eq_zero_iff (v := v) (a := 0)).2
  rw [addMod_zero] at hbyte
  simpa using hbyte hv

/-- A loop that is entered is left behind the least positive number of passes that leaves a zero. -/
lemma runs_loop_of_isLeast (hroom : HasRoom host room [.loop pos body])
    (hbody : ∀ n ∈ body, n.IsStraight) (hd : displacement body = 0)
    (hspans : s.tape.Spans (visited body)) (hz : s.tape.current ≠ 0)
    (hk : IsLeast {k : ℕ | 1 ≤ k ∧
      ((s.tape.current.toNat : ℤ) + k * change body 0) % 256 = 0} k) :
    Runs host root room [.loop pos body] s
      ⟨{ s with tape := s.tape.add fun j => k * change body j }, none⟩ := by
  refine runs_loop hroom hbody hd hspans (fun m hm hend => ?_) hk.1.2
  cases m with
  | zero => exact not_zero_of_no_pass hz _ hend
  | succ m => exact absurd (hk.2 ⟨Nat.succ_pos m, hend⟩) (Nat.not_le.2 hm)

/-- **Straight loops that come back.** A loop over moves and changes by one that together do not
move the pointer is passed over on a zero cell. Where a pass would leave the tape, it fails in the
first pass. Else it comes to an end exactly if some positive number of passes leaves a zero in its
cell, and the least such number has then been added as often as a pass adds to each cell. All this
is so wherever the host has room for the calls of the loop, as every host has inside of 800 other
loops.

**Proof sketch.** A pass either leaves the tape or adds to each cell what the nodes add to it, and
so all passes do the same. The loop is left behind the first pass that leaves a zero. -/
theorem finishes_straight_loop (host : Host) (root pos : Position) (body : List Node)
    (hbody : ∀ n ∈ body, n.IsStraight) (hd : displacement body = 0) (s : State) :
    HasRoom host (host.room - 1 - 800) [.loop pos body] ∧
    ∀ room, HasRoom host room [.loop pos body] →
      ∃ lo hi, IsLeast (visited body) lo ∧ IsGreatest (visited body) hi ∧
        (∀ j, j < lo ∨ hi < j → change body j = 0) ∧
        (s.tape.current = 0 →
          Finishes host root room [.loop pos body] s ⟨s, none⟩) ∧
        (s.tape.current ≠ 0 → s.tape.pointer + lo < 0 ∨ s.tape.length ≤ s.tape.pointer + hi →
          ∃ t e, e.IsOffTape ∧
            Finishes host root (room - 1) body s ⟨{ s with tape := t }, some e⟩ ∧
            Finishes host root room [.loop pos body] s
              ⟨{ s with tape := t }, some e⟩) ∧
        (s.tape.current ≠ 0 → 0 ≤ s.tape.pointer + lo → s.tape.pointer + hi < s.tape.length →
          ((∃ o, Finishes host root room [.loop pos body] s o) ↔
            ∃ k : ℕ, 1 ≤ k ∧ ((s.tape.current.toNat : ℤ) + k * change body 0) % 256 = 0) ∧
          ∀ k : ℕ,
            IsLeast {k : ℕ | 1 ≤ k ∧
              ((s.tape.current.toNat : ℤ) + k * change body 0) % 256 = 0} k →
            ∃ t, Finishes host root room [.loop pos body] s
                ⟨{ s with tape := t }, none⟩ ∧
              t.pointer = s.tape.pointer ∧
              t.cells = s.tape.cells.mapIdx fun i v =>
                addMod v (k * change body (i - s.tape.pointer))) := by
  refine ⟨hasRoom_straight_loop host pos hbody, fun room hroom => ?_⟩
  obtain ⟨lo, hi, hlo, hhi⟩ := exists_range_visited body
  have htest := hroom.cutOff?_eq_none s (.loop pos body)
  refine ⟨lo, hi, hlo, hhi, ?_, ?_, ?_, ?_⟩
  · intro j hj
    refine change_eq_zero fun hmem => ?_
    have hloj : lo ≤ j := hlo.2 hmem
    have hjhi : j ≤ hi := hhi.2 hmem
    omega
  · intro hz
    exact runs_iff_exec.1 (.skip htest hz .nil)
  · intro hz hoff
    have hspans : ¬s.tape.Spans (visited body) := by
      rw [Tape.spans_iff hlo hhi]
      omega
    obtain ⟨t, e, hruns, he⟩ := runs_straight_isOffTape hroom.body hbody hspans
    exact ⟨t, e, he, runs_iff_exec.1 hruns, runs_iff_exec.1 (.broken htest hz hruns)⟩
  · intro hz h0 h1
    have hspans : s.tape.Spans (visited body) := (Tape.spans_iff hlo hhi).2 ⟨h0, h1⟩
    refine ⟨⟨?_, ?_⟩, ?_⟩
    · rintro ⟨o, ho⟩
      obtain ⟨k, hk⟩ := exists_of_runs_loop hroom hbody hd hspans (runs_iff_exec.2 ho)
      refine ⟨k, Nat.one_le_iff_ne_zero.2 ?_, hk⟩
      rintro rfl
      exact not_zero_of_no_pass hz _ hk
    · intro h
      -- some number of passes leaves a zero, so there is a least one
      exact ⟨_, runs_iff_exec.1 (runs_loop_of_isLeast hroom hbody hd hspans hz
        ⟨Nat.find_spec h, fun m hm => Nat.find_min' h hm⟩)⟩
    · intro k hk
      exact ⟨_, runs_iff_exec.1 (runs_loop_of_isLeast hroom hbody hd hspans hz hk),
        Tape.pointer_add _ _, Tape.cells_add _ _⟩

/-- A loop that counts up by two wraps around, and so does the cell that it counts down. -/
theorem finishes_straight_loop_wrapping :
    let body : List Node := [.command .increment ⟨1, 2⟩, .command .moveRight ⟨1, 3⟩,
      .command .decrement ⟨1, 4⟩, .command .moveLeft ⟨1, 5⟩, .command .increment ⟨1, 6⟩]
    let s : State := { tape := ⟨[], 250, [2, 9]⟩ }
    HasRoom .usual 996 [.loop ⟨1, 1⟩ body] ∧ (∀ n ∈ body, n.IsStraight) ∧
      displacement body = 0 ∧ s.tape.current ≠ 0 ∧
      ∃ t, Finishes .usual .start 996 [.loop ⟨1, 1⟩ body] s ⟨{ s with tape := t }, none⟩ ∧
        t.pointer = 0 ∧ t.cells = [0, 255, 9] := by
  intro body s
  have hroom : HasRoom .usual 996 [.loop ⟨1, 1⟩ body] :=
    .of_nesting_le (by decide) (by decide)
  have hbody : ∀ n ∈ body, n.IsStraight := by simp [body, Node.IsStraight]
  have hvisited : visited body = {1, 0} := by
    simp [body, visited_cons, visited_nil, Node.shift, Set.image_insert_eq]
  obtain ⟨lo, hi, hlo, hhi, -, -, -, hend⟩ :=
    (finishes_straight_loop .usual .start ⟨1, 1⟩ body hbody (by decide) s).2 996 hroom
  rw [hvisited] at hlo hhi
  have hlo0 : lo = 0 := hlo.unique (by simp [IsLeast, lowerBounds])
  have hhi1 : hi = 1 := hhi.unique (by simp [IsGreatest, upperBounds])
  obtain ⟨-, hleast⟩ := hend (by decide) (by rw [hlo0]; decide) (by rw [hhi1]; decide)
  have hthree : IsLeast {k : ℕ | 1 ≤ k ∧ ((250 : ℤ) + k * 2) % 256 = 0} 3 :=
    ⟨by decide, fun m hm => by have := hm.2; have := hm.1; omega⟩
  obtain ⟨t, ht, hp, hcells⟩ := hleast 3 hthree
  exact ⟨hroom, hbody, by decide, by decide, t, ht, hp, hcells.trans (by decide)⟩

end TapeLang
