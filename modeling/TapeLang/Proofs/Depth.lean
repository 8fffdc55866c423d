import Mathlib.Data.Nat.Notation
import Mathlib.Data.Int.Notation
import Mathlib.Tactic.Lemma
import TapeLang.Operation

set_option autoImplicit false

/-!
# The depth of a list of operations

The depth of a list of operations is the number of its loop begins less the number of its loop
ends. What a scan from left to right can say about the loops of a list, it says about the depths of
the prefixes: where they fall below zero a loop end is stray, where they are zero no loop is open,
and the greatest of them is how deep the loops nest.

## Main definitions

* `TapeLang.depth` — loop begins less loop ends.
* `TapeLang.StaysOpen` — no prefix closes more loops than are open.
* `TapeLang.Balanced` — every loop begin has its loop end, and the other way round.
* `TapeLang.NestsWithin` — at no point are more than a given number of loops open.
* `TapeLang.FitsWithin` — at no point is a command or a loop begin met with a given number of loops
  open.

## Main results

* `TapeLang.balanced_loop_iff` — a list behind a loop is balanced exactly when it is with the loop.
* `TapeLang.nestsWithin_loop_iff`, `TapeLang.fitsWithin_loop_iff` — inside of a loop there is room
  for one level less.
* `TapeLang.NestsWithin.fitsWithin` — commands take one level more than loops.
-/

namespace TapeLang

/-- The number of loop begins less the number of loop ends. -/
def depth (ops : List Operation) : ℤ :=
  (ops.countP fun op => op.symbol = .loopBegin) - (ops.countP fun op => op.symbol = .loopEnd)

/-- No prefix closes more loops than it opens and `opened` loops that are open before it. -/
def StaysOpen (opened : ℕ) (ops : List Operation) : Prop :=
  ∀ n, 0 ≤ opened + depth (ops.take n)

/-- No prefix has more loop ends than loop begins, and the whole list has as many of both. -/
structure Balanced (ops : List Operation) : Prop where
  /-- No prefix has more loop ends than loop begins. -/
  staysOpen : StaysOpen 0 ops
  /-- There are as many loop ends as loop begins. -/
  depth_eq_zero : depth ops = 0

/-- No prefix has more than `limit` loop begins beyond its loop ends. -/
def NestsWithin (limit : ℕ) (ops : List Operation) : Prop :=
  ∀ n, depth (ops.take n) ≤ limit

/-- In front of every command and every loop begin, fewer than `limit` loops are open. -/
def FitsWithin (limit : ℕ) (ops : List Operation) : Prop :=
  ∀ n (_ : n < ops.length), ops[n].symbol ≠ .loopEnd → depth (ops.take n) < limit

/-- What holds of the prefixes that are no longer than a list holds of all its prefixes. -/
lemma forall_take_iff_le {P : List Operation → Prop} {ops : List Operation} :
    (∀ n ≤ ops.length, P (ops.take n)) ↔ ∀ n, P (ops.take n) := by
  refine ⟨fun h n => ?_, fun h n _ => h n⟩
  rcases Nat.le_total n ops.length with hn | hn
  · exact h n hn
  · rw [List.take_of_length_le hn]
    simpa using h ops.length (Nat.le_refl _)

instance (k : ℕ) (ops : List Operation) : Decidable (StaysOpen k ops) :=
  decidable_of_iff (∀ n ≤ ops.length, 0 ≤ k + depth (ops.take n))
    (forall_take_iff_le (P := fun xs => 0 ≤ k + depth xs))

instance (ops : List Operation) : Decidable (Balanced ops) :=
  decidable_of_iff (StaysOpen 0 ops ∧ depth ops = 0)
    ⟨fun h => ⟨h.1, h.2⟩, fun h => ⟨h.staysOpen, h.depth_eq_zero⟩⟩

instance (limit : ℕ) (ops : List Operation) : Decidable (NestsWithin limit ops) :=
  decidable_of_iff (∀ n ≤ ops.length, depth (ops.take n) ≤ limit)
    (forall_take_iff_le (P := fun xs => depth xs ≤ limit))

instance (limit : ℕ) (ops : List Operation) : Decidable (FitsWithin limit ops) :=
  inferInstanceAs (Decidable (∀ n (_ : n < ops.length), _ → _))

variable {op b e : Operation} {c : Command} {ops body rest xs ys : List Operation} {k d : ℕ}

/-! ## Depth -/

@[simp] lemma depth_nil : depth [] = 0 := rfl

@[simp] lemma depth_append (xs ys : List Operation) : depth (xs ++ ys) = depth xs + depth ys := by
  simp only [depth, List.countP_append]
  omega

/-- A loop begin adds one to the depth. -/
lemma depth_cons_begin (h : b.symbol = .loopBegin) (ops : List Operation) :
    depth (b :: ops) = depth ops + 1 := by
  simp [depth, h]
  omega

/-- A loop end takes one from the depth. -/
lemma depth_cons_end (h : e.symbol = .loopEnd) (ops : List Operation) :
    depth (e :: ops) = depth ops - 1 := by
  simp [depth, h]
  omega

/-- A command does not change the depth. -/
lemma depth_cons_command (h : op.symbol = .command c) (ops : List Operation) :
    depth (op :: ops) = depth ops := by
  simp [depth, h]

/-- The depth rises by one at a loop begin. -/
lemma depth_take_succ_begin {i : ℕ} (h : ops[i]?.map Operation.symbol = some .loopBegin) :
    depth (ops.take (i + 1)) = depth (ops.take i) + 1 := by
  obtain ⟨b, hi, hb⟩ := Option.map_eq_some_iff.1 h
  simp [List.take_add_one, hi, depth_cons_begin hb]

/-- The depth falls by one at a loop end. -/
lemma depth_take_succ_end {j : ℕ} (h : ops[j]?.map Operation.symbol = some .loopEnd) :
    depth (ops.take (j + 1)) = depth (ops.take j) - 1 := by
  obtain ⟨e, hj, he⟩ := Option.map_eq_some_iff.1 h
  simp [List.take_add_one, hj, depth_cons_end he]
  omega

/-! ## Prefixes -/

/-- A property of all prefixes of a nonempty list. -/
lemma forall_take_cons (P : List Operation → Prop) :
    (∀ n, P ((op :: ops).take n)) ↔ P [] ∧ ∀ n, P (op :: ops.take n) := by
  refine ⟨fun h => ⟨h 0, fun n => h (n + 1)⟩, fun ⟨h0, h⟩ n => ?_⟩
  cases n with
  | zero => exact h0
  | succ n => exact h n

/-- A property of all prefixes of two lists in a row. -/
lemma forall_take_append (P : List Operation → Prop) :
    (∀ n, P ((xs ++ ys).take n)) ↔ (∀ n, P (xs.take n)) ∧ ∀ n, P (xs ++ ys.take n) := by
  refine ⟨fun h => ⟨fun n => ?_, fun n => ?_⟩, fun ⟨hx, hy⟩ n => ?_⟩
  · rcases Nat.le_total n xs.length with hn | hn
    · have := h n
      rwa [List.take_append_of_le_length hn] at this
    · rw [List.take_of_length_le hn]
      simpa using h xs.length
  · simpa [List.take_append, List.take_of_length_le] using h (xs.length + n)
  · rcases Nat.le_total n xs.length with hn | hn
    · rw [List.take_append_of_le_length hn]
      exact hx n
    · rw [List.take_append, List.take_of_length_le hn]
      exact hy _

/-! ## Open loops -/

@[simp] lemma staysOpen_nil : StaysOpen k [] := by
  intro n
  simp

/-- Behind a loop begin one more loop is open. -/
lemma staysOpen_cons_begin (h : b.symbol = .loopBegin) :
    StaysOpen k (b :: ops) ↔ StaysOpen (k + 1) ops := by
  simp only [StaysOpen, forall_take_cons (fun p => 0 ≤ (k : ℤ) + depth p), depth_cons_begin h,
    depth_nil]
  refine ⟨fun hk n => ?_, fun hk => ⟨by omega, fun n => ?_⟩⟩
  · have := hk.2 n
    omega
  · have := hk n
    omega

/-- Behind a loop end one loop less is open. -/
lemma staysOpen_cons_end (h : e.symbol = .loopEnd) :
    StaysOpen (k + 1) (e :: ops) ↔ StaysOpen k ops := by
  simp only [StaysOpen, forall_take_cons (fun p => 0 ≤ ((k + 1 : ℕ) : ℤ) + depth p),
    depth_cons_end h, depth_nil]
  refine ⟨fun hk n => ?_, fun hk => ⟨by omega, fun n => ?_⟩⟩
  · have := hk.2 n
    omega
  · have := hk n
    omega

/-- A loop end in front is stray if no loop is open. -/
lemma not_staysOpen_zero_cons_end (h : e.symbol = .loopEnd) : ¬StaysOpen 0 (e :: ops) := by
  intro hk
  have := hk 1
  simp [depth_cons_end h] at this

/-- A command opens and closes nothing. -/
lemma staysOpen_cons_command (h : op.symbol = .command c) :
    StaysOpen k (op :: ops) ↔ StaysOpen k ops := by
  simp [StaysOpen, forall_take_cons (fun p => 0 ≤ (k : ℤ) + depth p), depth_cons_command h]

/-- A balanced list leaves as many loops open as there were before it. -/
lemma Balanced.staysOpen_append_iff (h : Balanced xs) :
    StaysOpen k (xs ++ ys) ↔ StaysOpen k ys := by
  simp only [StaysOpen, forall_take_append (fun p => 0 ≤ (k : ℤ) + depth p), depth_append,
    h.depth_eq_zero, Int.zero_add]
  refine ⟨fun hk => hk.2, fun hk => ⟨fun n => ?_, hk⟩⟩
  have := h.staysOpen n
  omega

/-! ## Balance -/

@[simp] lemma balanced_nil : Balanced [] := ⟨staysOpen_nil, rfl⟩

/-- A command in front does not change the balance. -/
lemma balanced_cons_command (h : op.symbol = .command c) : Balanced (op :: ops) ↔ Balanced ops := by
  refine ⟨fun hb => ⟨?_, ?_⟩, fun hb => ⟨?_, ?_⟩⟩
  · exact (staysOpen_cons_command h).1 hb.staysOpen
  · exact (depth_cons_command h ops).symm.trans hb.depth_eq_zero
  · exact (staysOpen_cons_command h).2 hb.staysOpen
  · exact (depth_cons_command h ops).trans hb.depth_eq_zero

/-- A balanced list does not begin with a loop end. -/
lemma not_balanced_cons_end (h : e.symbol = .loopEnd) : ¬Balanced (e :: ops) :=
  fun hb => not_staysOpen_zero_cons_end h hb.staysOpen

/-- What stands behind a balanced list is balanced exactly when both together are. -/
lemma Balanced.append_iff (h : Balanced xs) : Balanced (xs ++ ys) ↔ Balanced ys := by
  have hd : depth (xs ++ ys) = depth ys := by simp [h.depth_eq_zero]
  refine ⟨fun hb => ⟨h.staysOpen_append_iff.1 hb.staysOpen, hd ▸ hb.depth_eq_zero⟩, fun hb => ?_⟩
  exact ⟨h.staysOpen_append_iff.2 hb.staysOpen, hd.trans hb.depth_eq_zero⟩

/-- A list behind a loop is balanced exactly when it is together with the loop. -/
lemma balanced_loop_iff (h : Balanced body) (hb : b.symbol = .loopBegin)
    (he : e.symbol = .loopEnd) : Balanced (b :: (body ++ e :: rest)) ↔ Balanced rest := by
  have hs : StaysOpen 0 (b :: (body ++ e :: rest)) ↔ StaysOpen 0 rest := by
    rw [staysOpen_cons_begin hb, h.staysOpen_append_iff, staysOpen_cons_end he]
  have hd : depth (b :: (body ++ e :: rest)) = depth rest := by
    simp [depth_cons_begin hb, depth_cons_end he, h.depth_eq_zero]
  refine ⟨fun hl => ⟨hs.1 hl.staysOpen, hd ▸ hl.depth_eq_zero⟩, fun hr => ?_⟩
  exact ⟨hs.2 hr.staysOpen, hd.trans hr.depth_eq_zero⟩

/-! ## Nesting -/

@[simp] lemma nestsWithin_nil : NestsWithin d [] := by
  intro n
  simp

/-- What nests within a limit nests within a greater one. -/
lemma NestsWithin.mono {d' : ℕ} (h : NestsWithin d ops) (hd : d ≤ d') : NestsWithin d' ops := by
  intro n
  have := h n
  omega

/-- A command in front does not nest. -/
lemma nestsWithin_cons_command (h : op.symbol = .command c) :
    NestsWithin d (op :: ops) ↔ NestsWithin d ops := by
  simp [NestsWithin, forall_take_cons (fun p => depth p ≤ (d : ℤ)), depth_cons_command h]

/-- Behind a loop begin there is room for one level less. -/
lemma nestsWithin_cons_begin (h : b.symbol = .loopBegin) :
    NestsWithin (d + 1) (b :: ops) ↔ NestsWithin d ops := by
  simp only [NestsWithin, forall_take_cons (fun p => depth p ≤ ((d + 1 : ℕ) : ℤ)),
    depth_cons_begin h, depth_nil]
  refine ⟨fun hn n => ?_, fun hn => ⟨by omega, fun n => ?_⟩⟩
  · have := hn.2 n
    omega
  · have := hn n
    omega

/-- Behind a loop end there is room for one level more. -/
lemma nestsWithin_cons_end (h : e.symbol = .loopEnd) :
    NestsWithin d (e :: ops) ↔ NestsWithin (d + 1) ops := by
  simp only [NestsWithin, forall_take_cons (fun p => depth p ≤ (d : ℤ)), depth_cons_end h,
    depth_nil]
  refine ⟨fun hn n => ?_, fun hn => ⟨by omega, fun n => ?_⟩⟩
  · have := hn.2 n
    omega
  · have := hn n
    omega

/-- Where no loop may be open there is no loop begin. -/
lemma not_nestsWithin_zero_cons_begin (h : b.symbol = .loopBegin) : ¬NestsWithin 0 (b :: ops) := by
  intro hn
  have := hn 1
  simp [depth_cons_begin h] at this

/-- Behind a balanced list there is as much room as before it. -/
lemma Balanced.nestsWithin_append_iff (h : Balanced xs) :
    NestsWithin d (xs ++ ys) ↔ NestsWithin d xs ∧ NestsWithin d ys := by
  simp only [NestsWithin, forall_take_append (fun p => depth p ≤ (d : ℤ)), depth_append,
    h.depth_eq_zero, Int.zero_add]

/-- A loop and what follows it nest within a limit exactly when the body of the loop nests one level
less and the rest nests within the limit. -/
lemma nestsWithin_loop_iff (h : Balanced body) (hb : b.symbol = .loopBegin)
    (he : e.symbol = .loopEnd) :
    NestsWithin (d + 1) (b :: (body ++ e :: rest)) ↔
      NestsWithin d body ∧ NestsWithin (d + 1) rest := by
  rw [nestsWithin_cons_begin hb, h.nestsWithin_append_iff, nestsWithin_cons_end he]

/-! ## Commands inside of loops -/

@[simp] lemma fitsWithin_nil : FitsWithin d [] := by
  intro n h
  simp at h

/-- A loop begin or command in front, and what follows it. -/
lemma fitsWithin_cons (h : op.symbol ≠ .loopEnd) :
    FitsWithin d (op :: ops) ↔ 0 < d ∧
      ∀ n (h : n < ops.length), ops[n].symbol ≠ .loopEnd → depth (op :: ops.take n) < d := by
  refine ⟨fun hf => ⟨?_, fun n hn hne => ?_⟩, fun ⟨h0, hf⟩ n hn hne => ?_⟩
  · simpa using hf 0 (by simp) h
  · exact hf (n + 1) (by simpa using hn) hne
  · cases n with
    | zero => simpa using h0
    | succ n => exact hf n (by simpa using hn) hne

/-- A command takes one level. -/
lemma fitsWithin_cons_command (h : op.symbol = .command c) :
    FitsWithin d (op :: ops) ↔ 0 < d ∧ FitsWithin d ops := by
  rw [fitsWithin_cons (by simp [h])]
  simp only [FitsWithin, depth_cons_command h]

/-- Behind a loop begin there is room for one level less. -/
lemma fitsWithin_cons_begin (h : b.symbol = .loopBegin) :
    FitsWithin (d + 1) (b :: ops) ↔ FitsWithin d ops := by
  rw [fitsWithin_cons (by simp [h])]
  simp only [FitsWithin, depth_cons_begin h, Nat.zero_lt_succ, true_and]
  refine forall_congr' fun n => forall_congr' fun hn => imp_congr_right fun _ => ?_
  omega

/-- Behind a loop end there is room for one level more. -/
lemma fitsWithin_cons_end (h : e.symbol = .loopEnd) :
    FitsWithin d (e :: ops) ↔ FitsWithin (d + 1) ops := by
  have hshift : ∀ n, depth (e :: ops.take n) < d ↔ depth (ops.take n) < ((d + 1 : ℕ) : ℤ) := by
    intro n
    rw [depth_cons_end h]
    omega
  refine ⟨fun hf n hn hne => ?_, fun hf n hn hne => ?_⟩
  · exact (hshift n).1 (hf (n + 1) (by simpa using hn) hne)
  · cases n with
    | zero => exact absurd h hne
    | succ n => exact (hshift n).2 (hf n (by simpa using hn) hne)

/-- Where there is no level there is no loop begin. -/
lemma not_fitsWithin_zero_cons_begin (h : b.symbol = .loopBegin) : ¬FitsWithin 0 (b :: ops) := by
  rw [fitsWithin_cons (by simp [h])]
  simp

/-- Behind a balanced list there is as much room as before it. -/
lemma Balanced.fitsWithin_append_iff (h : Balanced xs) :
    FitsWithin d (xs ++ ys) ↔ FitsWithin d xs ∧ FitsWithin d ys := by
  constructor
  · intro hf
    constructor
    · intro n hn hne
      have hlt : n < (xs ++ ys).length := by simp; omega
      have := hf n hlt (by rwa [List.getElem_append_left hn])
      rwa [List.take_append_of_le_length (Nat.le_of_lt hn)] at this
    · intro n hn hne
      have hlt : xs.length + n < (xs ++ ys).length := by simpa using hn
      have := hf (xs.length + n) hlt (by simpa [List.getElem_append_right] using hne)
      rwa [List.take_length_add_append, depth_append, h.depth_eq_zero, Int.zero_add] at this
  · rintro ⟨hx, hy⟩ n hn hne
    rcases Nat.lt_or_ge n xs.length with hlt | hge
    · rw [List.take_append_of_le_length (Nat.le_of_lt hlt)]
      exact hx n hlt (by rwa [List.getElem_append_left hlt] at hne)
    · obtain ⟨m, rfl⟩ := Nat.exists_eq_add_of_le hge
      rw [List.take_length_add_append, depth_append, h.depth_eq_zero, Int.zero_add]
      exact hy m (by simpa using hn) (by simpa [List.getElem_append_right] using hne)

/-- A loop and what follows it fit within a limit exactly when the body of the loop fits within one
level less and the rest fits within the limit. -/
lemma fitsWithin_loop_iff (h : Balanced body) (hb : b.symbol = .loopBegin)
    (he : e.symbol = .loopEnd) :
    FitsWithin (d + 1) (b :: (body ++ e :: rest)) ↔
      FitsWithin d body ∧ FitsWithin (d + 1) rest := by
  rw [fitsWithin_cons_begin hb, h.fitsWithin_append_iff, fitsWithin_cons_end he]

/-- A prefix fits within the limit of a list. -/
lemma FitsWithin.take (h : FitsWithin d ops) (m : ℕ) : FitsWithin d (ops.take m) := by
  intro n hn hne
  rw [List.length_take] at hn
  rw [List.take_take, Nat.min_eq_left (by omega)]
  exact h n (by omega) (by rwa [List.getElem_take] at hne)

/-- Commands take one level more than loops. -/
lemma NestsWithin.fitsWithin (h : NestsWithin d ops) : FitsWithin (d + 1) ops := by
  intro n _ _
  have := h n
  omega

/-- Where commands fit, loops do. -/
lemma FitsWithin.nestsWithin (h : FitsWithin d ops) : NestsWithin d ops := by
  intro n
  induction n with
  | zero => simp
  | succ n ih =>
    by_cases hn : n < ops.length
    · rw [List.take_succ_eq_append_getElem hn, depth_append]
      cases hop : ops[n].symbol with
      | command c =>
        rw [depth_cons_command hop]
        simpa using ih
      | loopBegin =>
        have := h n hn (by simp [hop])
        rw [depth_cons_begin hop, depth_nil]
        omega
      | loopEnd =>
        rw [depth_cons_end hop, depth_nil]
        omega
    · rw [List.take_of_length_le (by omega)]
      rwa [List.take_of_length_le (by omega)] at ih

end TapeLang
