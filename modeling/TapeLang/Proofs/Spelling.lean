import Mathlib.Data.Nat.Init
import TapeLang.Parse
import TapeLang.Proofs.Depth

set_option autoImplicit false

/-!
# Trees and the operations that spell them

The nodes of a tree are written down as operations in one way only, but for the offsets and for the
positions of the loop ends, which no tree keeps. The relation between a list of operations and the
nodes that it spells is the grammar of the language; it says nothing about how the loops are found.

## Main definitions

* `TapeLang.Spells` — the operations that a list of nodes stands for.
* `TapeLang.isPlain` — a list of nodes holds commands and loops only.
* `TapeLang.marks`, `TapeLang.Operation.mark` — a tree in one row of symbols with positions, and
  what such a row keeps of an operation.
* `TapeLang.height` — how many nodes of a tree stand inside of one another.
* `TapeLang.Blocked` — a list at whose first operation a scan with no loop open cannot go on.

## Main results

* `TapeLang.splitLoop_eq_none_iff`, `TapeLang.balanced_of_splitLoop_eq_some` — a loop begin is
  closed exactly if the depth falls below zero behind it, and then its body is balanced.
* `TapeLang.exists_spells_append_blocked` — every list is the spelling of some nodes up to the point
  where it is blocked.
* `TapeLang.exists_spells_iff_balanced` — the balanced lists are those that spell a tree.
* `TapeLang.Spells.nestsWithin_iff`, `TapeLang.Spells.fitsWithin_iff` — the loops of the tree nest
  as the delimiters do, and its nodes stand inside of as many loops as their operations.
* `TapeLang.Spells.height_le` — a tree is higher than its loops nest by one level at most.
* `TapeLang.spells_iff` — a tree is spelled by exactly the lists with its marks.
-/

namespace TapeLang

/-- The operations that a list of nodes stands for, in order. -/
inductive Spells : List Operation → List Node → Prop where
  /-- No operations stand for no nodes. -/
  | nil : Spells [] []
  /-- A command is one operation. -/
  | command {op : Operation} {c : Command} {ops : List Operation} {nodes : List Node}
      (hop : op.symbol = .command c) (rest : Spells ops nodes) :
      Spells (op :: ops) (.command c op.position :: nodes)
  /-- A loop is a loop begin, at the position of the node, its body, and a loop end. -/
  | loop {b e : Operation} {body ops : List Operation} {inner nodes : List Node}
      (hb : b.symbol = .loopBegin) (he : e.symbol = .loopEnd) (inside : Spells body inner)
      (rest : Spells ops nodes) :
      Spells (b :: (body ++ e :: ops)) (.loop b.position inner :: nodes)

/-- A list at whose first operation a scan with no loop open cannot go on. -/
inductive Blocked : List Operation → Prop where
  /-- The list is at its end. -/
  | nil : Blocked []
  /-- No loop is open that the loop end could close. -/
  | strayEnd {e : Operation} {ops : List Operation} (he : e.symbol = .loopEnd) :
      Blocked (e :: ops)
  /-- No loop end closes the loop begin. -/
  | openBegin {b : Operation} {ops : List Operation} (hb : b.symbol = .loopBegin)
      (ho : StaysOpen 0 ops) : Blocked (b :: ops)

/-- What a tree keeps of an operation: its symbol and, unless it is a loop end, its position. -/
def Operation.mark (op : Operation) : Symbol × Option Position :=
  (op.symbol, if op.symbol = .loopEnd then none else some op.position)

mutual

/-- The symbols and positions that a node stands for. A loop is a loop begin at the position of the
node, its body, and a loop end. Nodes without a meaning stand for nothing. -/
def Node.marks : Node → List (Symbol × Option Position)
  | .command c pos => [(.command c, some pos)]
  | .loop pos body => (.loopBegin, some pos) :: (marks body ++ [(.loopEnd, none)])
  | .bare _ => []
  | .block _ _ => []

/-- The symbols and positions that a list of nodes stands for. -/
def marks : List Node → List (Symbol × Option Position)
  | [] => []
  | n :: ns => n.marks ++ marks ns

end

mutual

/-- Whether a node is a command, or a loop that holds commands and such loops only. -/
def Node.isPlain : Node → Bool
  | .command _ _ => true
  | .loop _ body => isPlain body
  | .bare _ => false
  | .block _ _ => false

/-- Whether a list of nodes holds commands and loops only, at any depth. -/
def isPlain : List Node → Bool
  | [] => true
  | n :: ns => n.isPlain && isPlain ns

end

mutual

/-- How many nodes stand inside of one another in a node, the node itself included. -/
def Node.height : Node → ℕ
  | .loop _ body => height body + 1
  | .command _ _ => 1
  | .bare _ => 1
  | .block _ _ => 1

/-- How many nodes stand inside of one another in a list of nodes. -/
def height : List Node → ℕ
  | [] => 0
  | n :: ns => max n.height (height ns)

end

@[simp] lemma marks_nil : marks [] = [] := by
  rw [marks]

@[simp] lemma marks_cons_command (c : Command) (pos : Position) (ns : List Node) :
    marks (.command c pos :: ns) = (.command c, some pos) :: marks ns := by
  simp [marks, Node.marks]

@[simp] lemma marks_cons_loop (pos : Position) (body ns : List Node) :
    marks (.loop pos body :: ns) =
      (.loopBegin, some pos) :: (marks body ++ (.loopEnd, none) :: marks ns) := by
  simp [marks, Node.marks]

@[simp] lemma isPlain_cons_command (c : Command) (pos : Position) (ns : List Node) :
    isPlain (.command c pos :: ns) = isPlain ns := by
  simp [isPlain, Node.isPlain]

@[simp] lemma isPlain_cons_loop (pos : Position) (body ns : List Node) :
    isPlain (.loop pos body :: ns) = (isPlain body && isPlain ns) := by
  rw [isPlain, Node.isPlain]

@[simp] lemma isPlain_cons_bare (pos : Position) (ns : List Node) :
    isPlain (.bare pos :: ns) = false := by
  simp [isPlain, Node.isPlain]

@[simp] lemma isPlain_cons_block (pos : Position) (body ns : List Node) :
    isPlain (.block pos body :: ns) = false := by
  simp [isPlain, Node.isPlain]

@[simp] lemma height_nil : height [] = 0 := by
  rw [height]

@[simp] lemma height_cons_command (c : Command) (pos : Position) (ns : List Node) :
    height (.command c pos :: ns) = max 1 (height ns) := by
  rw [height, Node.height]

@[simp] lemma height_cons_loop (pos : Position) (body ns : List Node) :
    height (.loop pos body :: ns) = max (height body + 1) (height ns) := by
  rw [height, Node.height]

/-- Of two lists in a row the higher one counts. -/
@[simp] lemma height_append (xs ys : List Node) :
    height (xs ++ ys) = max (height xs) (height ys) := by
  induction xs with
  | nil => simp
  | cons n xs ih => rw [List.cons_append, height, height, ih, Nat.max_assoc]

/-- A command takes one level. -/
lemma height_cons_command_le_iff {c : Command} {pos : Position} {ns : List Node} {d : ℕ} :
    height (.command c pos :: ns) ≤ d ↔ 0 < d ∧ height ns ≤ d := by
  rw [height_cons_command, Nat.max_le]
  rfl

/-- In the body of a loop there is room for one level less. -/
lemma height_cons_loop_le_iff {pos : Position} {body ns : List Node} {d : ℕ} :
    height (.loop pos body :: ns) ≤ d + 1 ↔ height body ≤ d ∧ height ns ≤ d + 1 := by
  rw [height_cons_loop]
  omega

variable {op b e : Operation} {ops body rest xs ys : List Operation} {nodes inner : List Node}
  {k d : ℕ}

/-! ## Loops found by counting -/

/-- A command goes into the body. -/
lemma splitLoop_cons_command {c : Command} (h : op.symbol = .command c) :
    splitLoop k (op :: ops) =
      (splitLoop k ops).map fun (body, close, rest) => (op :: body, close, rest) := by
  simp only [splitLoop, h]

/-- A loop begin goes into the body and opens a loop. -/
lemma splitLoop_cons_begin (h : b.symbol = .loopBegin) :
    splitLoop k (b :: ops) =
      (splitLoop (k + 1) ops).map fun (body, close, rest) => (b :: body, close, rest) := by
  simp only [splitLoop, h]

/-- A loop end goes into the body if a loop of the body is open. -/
lemma splitLoop_succ_cons_end (h : e.symbol = .loopEnd) :
    splitLoop (k + 1) (e :: ops) =
      (splitLoop k ops).map fun (body, close, rest) => (e :: body, close, rest) := by
  simp only [splitLoop, h]

/-- A loop end closes the loop itself if no loop of the body is open. -/
lemma splitLoop_zero_cons_end (h : e.symbol = .loopEnd) :
    splitLoop 0 (e :: ops) = some ([], e, ops) := by
  simp only [splitLoop, h]

/-- No loop end closes the loops that are open exactly if the depth never falls too low. -/
lemma splitLoop_eq_none_iff : splitLoop k ops = none ↔ StaysOpen k ops := by
  fun_induction splitLoop k ops with
  | case1 => simp
  | case2 e ops he => simpa using not_staysOpen_zero_cons_end he
  | case3 e ops k he ih => rw [Option.map_eq_none_iff, ih, staysOpen_cons_end he]
  | case4 k b ops hb ih => rw [Option.map_eq_none_iff, ih, staysOpen_cons_begin hb]
  | case5 k op ops c hop ih => rw [Option.map_eq_none_iff, ih, staysOpen_cons_command hop]

/-- An operation in front of what is split goes into the body. -/
private lemma map_cons_eq_some_iff {split : Option (List Operation × Operation × List Operation)} :
    (split.map fun (body, close, rest) => (op :: body, close, rest)) = some (body, e, rest) ↔
      ∃ tail, split = some (tail, e, rest) ∧ op :: tail = body := by
  simp only [Option.map_eq_some_iff, Prod.exists, Prod.mk.injEq]
  refine ⟨?_, ?_⟩
  · rintro ⟨tail, _, _, hs, ht, rfl, rfl⟩
    exact ⟨tail, hs, ht⟩
  · rintro ⟨tail, hs, ht⟩
    exact ⟨tail, e, rest, hs, ht, rfl, rfl⟩

/-- What stands in front of the loop end that closes all of `k + 1` open loops closes `k` of them,
and no prefix of it closes more.

**Proof sketch.** Induction along the split. Each operation that goes into the body changes the
number of open loops and the depth of the body by the same amount. -/
lemma closes_of_splitLoop_eq_some (h : splitLoop k ops = some (body, e, rest)) :
    e.symbol = .loopEnd ∧ StaysOpen k body ∧ k + depth body = 0 := by
  fun_induction splitLoop k ops generalizing body with
  | case1 => cases h
  | case2 e ops he =>
    cases h
    exact ⟨he, staysOpen_nil, rfl⟩
  | case3 e ops k he ih =>
    obtain ⟨tail, hs, rfl⟩ := map_cons_eq_some_iff.1 h
    obtain ⟨hc, ho, hd⟩ := ih hs
    refine ⟨hc, (staysOpen_cons_end he).2 ho, ?_⟩
    rw [depth_cons_end he]
    omega
  | case4 k b ops hb ih =>
    obtain ⟨tail, hs, rfl⟩ := map_cons_eq_some_iff.1 h
    obtain ⟨hc, ho, hd⟩ := ih hs
    refine ⟨hc, (staysOpen_cons_begin hb).2 ho, ?_⟩
    rw [depth_cons_begin hb]
    omega
  | case5 k op ops c hop ih =>
    obtain ⟨tail, hs, rfl⟩ := map_cons_eq_some_iff.1 h
    obtain ⟨hc, ho, hd⟩ := ih hs
    exact ⟨hc, (staysOpen_cons_command hop).2 ho, by rwa [depth_cons_command hop]⟩

/-- A loop begin in front of a balanced body and a loop end is closed by that loop end. -/
lemma balanced_of_splitLoop_eq_some (h : splitLoop 0 ops = some (body, e, rest)) :
    e.symbol = .loopEnd ∧ Balanced body := by
  obtain ⟨he, ho, hd⟩ := closes_of_splitLoop_eq_some h
  exact ⟨he, ho, by omega⟩

/-! ## Spellings -/

/-- What spells a tree is balanced. -/
lemma Spells.balanced (h : Spells ops nodes) : Balanced ops := by
  induction h with
  | nil => exact balanced_nil
  | command hop _ ih => exact (balanced_cons_command hop).2 ih
  | loop hb he _ _ ihi ih => exact (balanced_loop_iff ihi hb he).2 ih

/-- **Loops nest as the delimiters do**: the tree nests within a limit exactly when the depth of no
prefix of its spelling goes beyond the limit. -/
lemma Spells.nestsWithin_iff (h : Spells ops nodes) : NestsWithin d ops ↔ nesting nodes ≤ d := by
  induction h generalizing d with
  | nil => simp
  | command hop _ ih => simp [nestsWithin_cons_command hop, ih]
  | @loop b e body ops inner nodes hb he inside _ ihi ih =>
    cases d with
    | zero =>
      have : ¬nesting (.loop b.position inner :: nodes) ≤ 0 := by
        rw [nesting_cons_loop]
        omega
      exact iff_of_false (not_nestsWithin_zero_cons_begin hb) this
    | succ d =>
      rw [nestsWithin_loop_iff inside.balanced hb he, ihi, ih, nesting_cons_loop_le_iff]

/-- **Nodes stand inside of loops as their operations do**: a tree is no higher than a limit exactly
when its spelling fits within the limit. -/
lemma Spells.fitsWithin_iff (h : Spells ops nodes) : FitsWithin d ops ↔ height nodes ≤ d := by
  induction h generalizing d with
  | nil => simp
  | command hop _ ih => rw [fitsWithin_cons_command hop, ih, height_cons_command_le_iff]
  | @loop b e body ops inner nodes hb he inside _ ihi ih =>
    cases d with
    | zero =>
      have : ¬height (.loop b.position inner :: nodes) ≤ 0 := by
        rw [height_cons_loop]
        omega
      exact iff_of_false (not_fitsWithin_zero_cons_begin hb) this
    | succ d =>
      rw [fitsWithin_loop_iff inside.balanced hb he, ihi, ih, height_cons_loop_le_iff]

/-- A tree is as high as its loops nest, or higher by one level, which its commands take. -/
lemma Spells.height_le (h : Spells ops nodes) :
    nesting nodes ≤ height nodes ∧ height nodes ≤ nesting nodes + 1 :=
  ⟨h.nestsWithin_iff.1 (h.fitsWithin_iff.2 (Nat.le_refl _)).nestsWithin,
    h.fitsWithin_iff.1 (h.nestsWithin_iff.2 (Nat.le_refl _)).fitsWithin⟩

/-- A spelling goes into the body of a loop as a whole: it closes no loop that is open before it. -/
lemma Spells.splitLoop_append (h : Spells xs nodes) :
    splitLoop k (xs ++ ys) =
      (splitLoop k ys).map fun (body, close, rest) => (xs ++ body, close, rest) := by
  induction h generalizing k ys with
  | nil => simp
  | command hop _ ih =>
    rw [List.cons_append, splitLoop_cons_command hop, ih, Option.map_map]
    rfl
  | loop hb he _ _ ihi ih =>
    rw [List.cons_append, List.append_assoc, List.cons_append, splitLoop_cons_begin hb, ihi,
      splitLoop_succ_cons_end he, ih]
    simp only [Option.map_map]
    congr 1
    funext split
    simp

/-- A loop begin is closed by the loop end behind the spelling of its body. -/
lemma Spells.splitLoop_eq_some (h : Spells body inner) (he : e.symbol = .loopEnd) :
    splitLoop 0 (body ++ e :: rest) = some (body, e, rest) := by
  rw [h.splitLoop_append, splitLoop_zero_cons_end he]
  simp

/-! ## Up to the first fault -/

/-- A list that is blocked is balanced only if it is empty. -/
lemma Blocked.eq_nil_of_balanced (h : Blocked ops) (hb : Balanced ops) : ops = [] := by
  cases h with
  | nil => rfl
  | strayEnd he => exact absurd hb (not_balanced_cons_end he)
  | @openBegin b ops hop ho =>
    have h0 := hb.depth_eq_zero
    have h1 := ho ops.length
    rw [depth_cons_begin hop] at h0
    rw [List.take_length] at h1
    omega

/-- **Every list of operations spells some nodes up to the point where it is blocked.**

**Proof sketch.** Induction on the length. A loop begin is split off together with its body and its
loop end if it has one. The body is balanced, so the point where it is blocked is its end. -/
lemma exists_spells_append_blocked (ops : List Operation) :
    ∃ good nodes tail, ops = good ++ tail ∧ Spells good nodes ∧ Blocked tail := by
  induction hn : ops.length using Nat.strong_induction_on generalizing ops with
  | _ n ih =>
    cases ops with
    | nil => exact ⟨[], [], [], rfl, .nil, .nil⟩
    | cons op ops =>
      rw [List.length_cons] at hn
      cases hop : op.symbol with
      | command c =>
        obtain ⟨good, nodes, tail, rfl, hg, ht⟩ := ih ops.length (by omega) ops rfl
        exact ⟨op :: good, _, tail, rfl, .command hop hg, ht⟩
      | loopEnd => exact ⟨[], [], op :: ops, rfl, .nil, .strayEnd hop⟩
      | loopBegin =>
        cases hs : splitLoop 0 ops with
        | none => exact ⟨[], [], op :: ops, rfl, .nil, .openBegin hop (splitLoop_eq_none_iff.1 hs)⟩
        | some split =>
          obtain ⟨body, e, rest⟩ := split
          obtain ⟨he, hbal⟩ := balanced_of_splitLoop_eq_some hs
          have hbody := splitLoop_body_length hs
          have hrest := splitLoop_rest_length hs
          obtain ⟨inside, inner, stop, rfl, hi, hblocked⟩ := ih body.length (by omega) body rfl
          obtain rfl := hblocked.eq_nil_of_balanced (hi.balanced.append_iff.1 hbal)
          obtain ⟨good, nodes, tail, rfl, hg, ht⟩ := ih rest.length (by omega) rest rfl
          refine ⟨op :: (inside ++ e :: good), _, tail, ?_, .loop hop he hi hg, ht⟩
          simp [splitLoop_eq_some hs]

/-- **The balanced lists are those that spell a tree.** -/
lemma exists_spells_iff_balanced : (∃ nodes, Spells ops nodes) ↔ Balanced ops := by
  refine ⟨fun ⟨_, h⟩ => h.balanced, fun hb => ?_⟩
  obtain ⟨good, nodes, tail, rfl, hg, ht⟩ := exists_spells_append_blocked ops
  obtain rfl := ht.eq_nil_of_balanced (hg.balanced.append_iff.1 hb)
  exact ⟨nodes, by simpa using hg⟩

/-! ## Marks -/

/-- The marks of a tree are those of the operations that spell it. -/
lemma Spells.map_mark (h : Spells ops nodes) : ops.map Operation.mark = marks nodes := by
  induction h with
  | nil => simp
  | command hop _ ih => simp [Operation.mark, hop, ← ih]
  | loop hb he _ _ ihi ih => simp [← ihi, ← ih, Operation.mark, hb, he]

/-- Only commands and loops are spelled. -/
lemma Spells.isPlain (h : Spells ops nodes) : isPlain nodes = true := by
  induction h with
  | nil => rfl
  | command _ _ ih => simp [ih]
  | loop _ _ _ _ ihi ih => simp [ihi, ih]

/-- The operation of a mark with a position. -/
private lemma mark_eq_some_iff {x : Symbol} {pos : Position} :
    op.mark = (x, some pos) ↔ op.symbol = x ∧ x ≠ .loopEnd ∧ op.position = pos := by
  rw [Operation.mark, Prod.mk.injEq]
  refine and_congr_right fun hx => ?_
  subst hx
  by_cases h : op.symbol = .loopEnd
  · simp [h]
  · simp [h]

/-- The operation of a mark without a position. -/
private lemma mark_eq_none_iff {x : Symbol} :
    op.mark = (x, none) ↔ op.symbol = x ∧ x = .loopEnd := by
  rw [Operation.mark, Prod.mk.injEq]
  refine and_congr_right fun hx => ?_
  subst hx
  by_cases h : op.symbol = .loopEnd
  · simp [h]
  · simp [h]

/-- Operations with the marks of a plain tree spell it.

**Proof sketch.** Induction on the nodes. The marks of a loop are cut where those of its body end,
and the operations are cut at the same places. -/
lemma spells_of_map_mark (hp : isPlain nodes = true) (h : ops.map Operation.mark = marks nodes) :
    Spells ops nodes := by
  induction nodes using Node.list_induction generalizing ops with
  | nil =>
    obtain rfl := List.map_eq_nil_iff.1 h
    exact .nil
  | command c pos rest ih =>
    rw [marks_cons_command, List.map_eq_cons_iff] at h
    obtain ⟨op, ops, rfl, hop, h⟩ := h
    obtain ⟨hs, -, rfl⟩ := mark_eq_some_iff.1 hop
    exact .command hs (ih (by simpa using hp) h)
  | loop pos body rest ihb ih =>
    have hp' : isPlain body = true ∧ isPlain rest = true := by simpa using hp
    simp only [marks_cons_loop, List.map_eq_cons_iff, List.map_eq_append_iff] at h
    obtain ⟨b, _, rfl, hb, inside, _, rfl, hi, e, ops, rfl, he, h⟩ := h
    obtain ⟨hbs, -, rfl⟩ := mark_eq_some_iff.1 hb
    obtain ⟨hes, -⟩ := mark_eq_none_iff.1 he
    exact .loop hbs hes (ihb hp'.1 hi) (ih hp'.2 h)
  | bare pos rest ih => simp at hp
  | block pos body rest ihb ih => simp at hp

/-- **A tree is spelled by exactly the lists with its marks.** -/
lemma spells_iff : Spells ops nodes ↔ isPlain nodes = true ∧ ops.map Operation.mark = marks nodes :=
  ⟨fun h => ⟨h.isPlain, h.map_mark⟩, fun h => spells_of_map_mark h.1 h.2⟩

end TapeLang
