import TapeLang.Proofs.BigStep
import TapeLang.Proofs.Spelling

set_option autoImplicit false

/-!
# Loops around a program

The simplest programs that need many frames are loops inside of each other around a few nodes. They
show where the room of a host ends: inside of `k` loops there are `k` frames less, and whatever the
nodes ask of the host has to find room in what is left.

## Main definitions

* `TapeLang.nest` — a list of nodes inside of so many loops.
* `TapeLang.nestOperations` — the operations that spell it.

## Main results

* `TapeLang.Spells.nest` — what spells a nest.
* `TapeLang.Runs.nest_broken` — a nest on a cell that is not zero stops where its nodes do.
* `TapeLang.Runs.nest_done` — it comes to its end if they leave a zero cell.
* `TapeLang.Runs.not_nest_nil` — it comes to no end if there are none.
-/

namespace TapeLang

/-- The nodes inside of `k` loops. -/
def nest (k : ℕ) (body : List Node) : List Node :=
  match k with
  | 0 => body
  | k + 1 => [.loop .start (nest k body)]

/-- The operations that spell a nest, all at the start of the text. -/
def nestOperations (k : ℕ) (ops : List Operation) : List Operation :=
  match k with
  | 0 => ops
  | k + 1 => ⟨.loopBegin, 0, .start⟩ :: (nestOperations k ops ++ [⟨.loopEnd, 0, .start⟩])

variable {k room : ℕ} {ops : List Operation} {body : List Node} {host : Host} {root : Position}
  {s t : State} {e : RunError}

/-- In a nest as many more loops are nested. -/
@[simp] lemma nesting_nest (k : ℕ) (body : List Node) :
    nesting (nest k body) = nesting body + k := by
  induction k with
  | zero => rfl
  | succ k ih =>
    rw [nest, nesting_cons_loop, ih, nesting_nil]
    omega

/-- A nest is as many levels higher. -/
@[simp] lemma height_nest (k : ℕ) (body : List Node) : height (nest k body) = height body + k := by
  induction k with
  | zero => rfl
  | succ k ih =>
    rw [nest, height_cons_loop, ih, height_nil]
    omega

/-- What spells the nodes of a nest spells the nest, with the delimiters around it. -/
lemma Spells.nest (h : Spells ops body) (k : ℕ) :
    Spells (nestOperations k ops) (TapeLang.nest k body) := by
  induction k with
  | zero => exact h
  | succ k ih => exact .loop rfl rfl ih .nil

/-- Loops around nothing are spelled by their delimiters. -/
lemma spells_nest_nil (k : ℕ) : Spells (nestOperations k []) (nest k []) :=
  Spells.nil.nest k

/-- Loops around a command are spelled by the command between their delimiters. -/
lemma spells_nest_command (c : Command) (k : ℕ) :
    Spells (nestOperations k [⟨.command c, 0, .start⟩]) (nest k [.command c .start]) :=
  (Spells.command rfl .nil).nest k

/-- Where there is room for testing the cell a loop is not cut off. -/
lemma State.cutOff?_loop_eq_none (hroom : host.frames .test s.trace s.input ≤ room)
    (pos : Position) (body : List Node) :
    s.cutOff? host room (.loop pos body) = none := by
  refine cutOff?_eq_none_iff.2 fun call hcall => ?_
  obtain rfl := List.mem_singleton.1 hcall
  exact hroom

/-- **A nest stops where its nodes do**, if it is entered. -/
lemma Runs.nest_broken (h : Runs host root room body s ⟨t, some e⟩) (hz : s.tape.current ≠ 0)
    (hroom : host.frames .test s.trace s.input ≤ room + 1) (k : ℕ) :
    Runs host root (room + k) (nest k body) s ⟨t, some e⟩ := by
  induction k with
  | zero => exact h
  | succ k ih =>
    exact .broken (State.cutOff?_loop_eq_none (Nat.le_trans hroom (by omega)) _ _) hz ih

/-- **A nest comes to its end if its nodes leave a zero cell.** -/
lemma Runs.nest_done (h : Runs host root room body s ⟨t, none⟩) (hz : s.tape.current ≠ 0)
    (hz' : t.tape.current = 0) (hroom : host.frames .test s.trace s.input ≤ room + 1)
    (hroom' : host.frames .test t.trace t.input ≤ room + 1) (k : ℕ) :
    Runs host root (room + k) (nest k body) s ⟨t, none⟩ := by
  induction k with
  | zero => exact h
  | succ k ih =>
    have hfits := State.cutOff?_loop_eq_none
      (Nat.le_trans hroom (Nat.add_le_add_left (Nat.succ_pos k) room)) .start (nest k body)
    have hfits' := State.cutOff?_loop_eq_none
      (Nat.le_trans hroom' (Nat.add_le_add_left (Nat.succ_pos k) room)) .start (nest k body)
    exact .again hfits hz ih (.skip hfits' hz' .nil)

/-- A loop around nothing comes back to itself without an end. -/
lemma Runs.not_loop_nil {pos : Position} {rest : List Node} {o : Outcome} (hz : s.tape.current ≠ 0)
    (hroom : host.frames .test s.trace s.input ≤ room) :
    ¬Runs host root room (.loop pos [] :: rest) s o := by
  intro h
  induction h using Runs.loop_induction with
  | skip _ hz' _ => exact hz hz'
  | again _ _ hbody _ ih =>
    cases hbody
    exact ih hz hroom
  | broken _ _ hbody => cases hbody
  | cutOff hcut => cases (State.cutOff?_loop_eq_none hroom _ _).symm.trans hcut

/-- **A nest around nothing takes no end**, if it is entered and there is room for testing the cell.

**Proof sketch.** Induction on the loops. The innermost comes back to itself without an end. -/
lemma Runs.not_nest_nil {o : Outcome} (hz : s.tape.current ≠ 0)
    (hroom : host.frames .test s.trace s.input ≤ room + 1) (k : ℕ) :
    ¬Runs host root (room + (k + 1)) (nest (k + 1) []) s o := by
  induction k generalizing o with
  | zero => exact Runs.not_loop_nil hz hroom
  | succ k ih =>
    intro h
    cases h with
    | cutOff hcut =>
      cases (State.cutOff?_loop_eq_none (Nat.le_trans hroom (by omega)) _ _).symm.trans hcut
    | skip _ hz' _ => exact hz hz'
    | again _ _ hbody _ => exact ih hbody
    | broken _ _ hbody => exact ih hbody

end TapeLang
