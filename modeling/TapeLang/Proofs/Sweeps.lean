import TapeLang.Proofs.Parsing

set_option autoImplicit false

/-!
# Parsing in one sweep

A list of operations can be parsed in one sweep from left to right that counts how many loops are
open. Where no loop is open, each command is a node, if there is room for one. Inside of a loop the
sweep only counts, until a loop end brings the count back to zero; then what stands between the two
delimiters is parsed in a sweep of its own, and is one node.

Parsing as it is defined looks for the loop end of a loop begin first and then parses what stands
between them. Here both ways are shown to give the same nodes and the same errors, and the count of
a sweep is shown to be the depth of the operations behind the loop begin that is open.

## Main definitions

* `TapeLang.slice` — the operations between two indices.
* `TapeLang.Sweep` — what a sweep holds between two operations.
* `TapeLang.Call` — a call of the parser on the operations between two indices.
* `TapeLang.Call.sweep` — what the sweep of a call holds in front of an index.
* `TapeLang.IsOpenLoop` — what there is to say about a loop that is open.
* `TapeLang.Sweep.Counts` — what a sweep holds is so.

## Main results

* `TapeLang.Call.parse_eq_sweep` — what a call gives is what its sweep gives.
* `TapeLang.Call.sweep_eq_error_iff` — a sweep is at fault at one of its operations.
* `TapeLang.Call.counts_of_sweep` — every sweep counts right, whatever the operations are.
-/

namespace TapeLang

/-- The operations from the index `start` up to the index `stop`, which is left out. -/
def slice (ops : List Operation) (start stop : ℕ) : List Operation :=
  (ops.take stop).drop start

/-- What a sweep holds between two operations. -/
inductive Sweep where
  /-- No loop is open; the nodes so far. -/
  | outside (nodes : List Node)
  /-- The loop that begins with `b` at index `k` is open, and so are `opened` loops of its body; the
  nodes in front of the loop. -/
  | inside (nodes : List Node) (b : Operation) (k opened : ℕ)

namespace Sweep

/-- Goes over the operation at an index. A command is a node unless `refuse?` gives an error for it.
What the body of a loop that begins with an operation gives is taken from `body`, by the indices
between which the body stands. -/
def step (refuse? : Operation → ℕ → Option ParseError)
    (body : Operation → ℕ → ℕ → Except ParseError (List Node)) :
    Sweep → Operation × ℕ → Except ParseError Sweep
  | outside nodes, (op, i) =>
    match op.symbol with
    | .command c =>
      match refuse? op i with
      | some err => .error err
      | none => .ok (outside (nodes ++ [.command c op.position]))
    | .loopBegin => .ok (inside nodes op i 0)
    | .loopEnd => .error (.unmatchedEnd op)
  | inside nodes b k opened, (op, i) =>
    match op.symbol, opened with
    | .command _, opened => .ok (inside nodes b k opened)
    | .loopBegin, opened => .ok (inside nodes b k (opened + 1))
    | .loopEnd, opened + 1 => .ok (inside nodes b k opened)
    | .loopEnd, 0 =>
      (body b (k + 1) i).map fun inner => outside (nodes ++ [.loop b.position inner])

/-- Goes over a list of operations, the first of which stands at index `i`. -/
def run (refuse? : Operation → ℕ → Option ParseError)
    (body : Operation → ℕ → ℕ → Except ParseError (List Node)) (s : Sweep)
    (ops : List Operation) (i : ℕ) : Except ParseError Sweep :=
  (ops.zipIdx i).foldlM (step refuse? body) s

/-- What a sweep gives at its end. A loop that is still open is a fault. -/
def result : Sweep → Except ParseError (List Node)
  | outside nodes => .ok nodes
  | inside _ b _ _ => .error (.unmatchedBegin b)

end Sweep

/-- A call of the parser on the operations from one index up to another. -/
structure Call where
  /-- How many nodes may stand inside of one another in these operations. -/
  room : ℕ
  /-- The index of the first operation. -/
  start : ℕ
  /-- The index behind the last operation. -/
  stop : ℕ

namespace Call

/-- What a call gives. It knows the first loop begin that stands in front of its operations. -/
def parse (ops : List Operation) (c : Call) : Except ParseError (List Node) :=
  parseSpan c.room (firstBegin? (ops.take c.start)) (slice ops c.start c.stop)

/-- The error with which a command is refused at an index, if there is no room for a node. It
carries the first loop begin in front of the command. -/
def refusal? (ops : List Operation) (room : ℕ) (op : Operation) (i : ℕ) : Option ParseError :=
  match room with
  | 0 => some (.tooDeep ((firstBegin? (ops.take i)).getD op))
  | _ + 1 => none

/-- What the body of a loop that begins with `b` gives to a call with some room: what a call with
one level less gives, or, if there is no room for the loop, the error that it nests too deeply. -/
def parseBody (ops : List Operation) (room : ℕ) (b : Operation) (start stop : ℕ) :
    Except ParseError (List Node) :=
  match room with
  | 0 => .error (.tooDeep ((firstBegin? ops).getD b))
  | room + 1 => parse ops ⟨room, start, stop⟩

/-- What the sweep of a call holds in front of index `i`. -/
def sweep (ops : List Operation) (c : Call) (i : ℕ) : Except ParseError Sweep :=
  Sweep.run (refusal? ops c.room) (parseBody ops c.room) (.outside []) (slice ops c.start i) c.start

end Call

/-- In front of index `i`, in operations that begin at index `start`, a loop is open that begins
with `b` at index `k`, and so are `opened` loops of its body. -/
structure IsOpenLoop (ops : List Operation) (start i : ℕ) (b : Operation) (k opened : ℕ) :
    Prop where
  /-- The loop does not begin in front of the operations. -/
  start_le : start ≤ k
  /-- The loop has begun. -/
  lt : k < i
  /-- The operation stands at the index. -/
  getElem?_eq : ops[k]? = some b
  /-- It is a loop begin. -/
  loopBegin : b.symbol = .loopBegin
  /-- What stands in front of the loop is balanced. -/
  before : Balanced (slice ops start k)
  /-- No prefix of what stands behind the loop begin closes the loop. -/
  staysOpen : StaysOpen 0 (slice ops (k + 1) i)
  /-- The depth behind the loop begin is the number of open loops of the body. -/
  depth_eq : depth (slice ops (k + 1) i) = opened

/-- What a sweep holds in front of index `i` is so, if it began at index `start`. -/
def Sweep.Counts (ops : List Operation) (start i : ℕ) : Sweep → Prop
  | outside _ => Balanced (slice ops start i)
  | inside _ b k opened => IsOpenLoop ops start i b k opened

variable {refuse? : Operation → ℕ → Option ParseError}
  {body : Operation → ℕ → ℕ → Except ParseError (List Node)} {s t : Sweep} {c : Call}
  {op b e : Operation} {first : Option Operation} {ops pre post rest xs ys : List Operation}
  {nodes : List Node} {err : ParseError} {room start mid stop k opened i : ℕ}

/-! ## Slices -/

/-- The operations between the first index and the last one are all of them. -/
@[simp] lemma slice_zero_length (ops : List Operation) : slice ops 0 ops.length = ops := by
  simp [slice]

/-- There is nothing between two indices in the wrong order. -/
lemma slice_of_le (h : stop ≤ start) : slice ops start stop = [] :=
  List.drop_eq_nil_of_le (Nat.le_trans (List.length_take_le stop ops) h)

/-- There is one operation for each index. -/
lemma length_slice (h : stop ≤ ops.length) : (slice ops start stop).length = stop - start := by
  rw [slice, List.length_drop, List.length_take_of_le h]

/-- What stands between two indices is cut at an index in between. -/
lemma slice_append (h : start ≤ mid) (h' : mid ≤ stop) :
    slice ops start mid ++ slice ops mid stop = slice ops start stop := by
  have hmid : ops.take mid = (ops.take stop).take mid := by
    rw [List.take_take, Nat.min_eq_left h']
  obtain ⟨n, rfl⟩ := Nat.exists_eq_add_of_le h
  rw [slice, slice, slice, hmid, List.drop_take, Nat.add_sub_cancel_left, ← List.drop_drop,
    List.take_append_drop]

/-- The operation at the first index comes first. -/
lemma slice_eq_cons (h : ops[start]? = some op) (hlt : start < stop) :
    slice ops start stop = op :: slice ops (start + 1) stop := by
  have hop : (ops.take stop)[start]? = some op := by rwa [List.getElem?_take_of_lt hlt]
  obtain ⟨hlen, hop⟩ := List.getElem?_eq_some_iff.1 hop
  rw [slice, List.drop_eq_getElem_cons hlen, hop, slice]

/-- The operation behind the last one comes next. -/
lemma slice_succ (h : ops[stop]? = some op) (hle : start ≤ stop) :
    slice ops start (stop + 1) = slice ops start stop ++ [op] := by
  rw [← slice_append hle (Nat.le_succ stop), slice_eq_cons h (Nat.lt_succ_self stop),
    slice_of_le (Nat.le_refl _)]

/-- A list in the middle of others stands between two indices. -/
lemma slice_append_append (pre xs post : List Operation) :
    slice (pre ++ (xs ++ post)) pre.length (pre.length + xs.length) = xs := by
  rw [slice, List.take_length_add_append, List.drop_left, List.take_left]

namespace Sweep

/-! ## One step of a sweep -/

lemma step_outside_command {c : Command} (h : op.symbol = .command c) (hr : refuse? op i = none) :
    (outside nodes).step refuse? body (op, i) =
      .ok (outside (nodes ++ [.command c op.position])) := by
  simp [step, h, hr]

lemma step_outside_command_refused {c : Command} (h : op.symbol = .command c)
    (hr : refuse? op i = some err) : (outside nodes).step refuse? body (op, i) = .error err := by
  simp [step, h, hr]

lemma step_outside_begin (h : b.symbol = .loopBegin) :
    (outside nodes).step refuse? body (b, i) = .ok (inside nodes b i 0) := by
  simp [step, h]

lemma step_outside_end (h : e.symbol = .loopEnd) :
    (outside nodes).step refuse? body (e, i) = .error (.unmatchedEnd e) := by
  simp [step, h]

lemma step_inside_command {c : Command} (h : op.symbol = .command c) :
    (inside nodes b k opened).step refuse? body (op, i) = .ok (inside nodes b k opened) := by
  simp [step, h]

lemma step_inside_begin (h : op.symbol = .loopBegin) :
    (inside nodes b k opened).step refuse? body (op, i) = .ok (inside nodes b k (opened + 1)) := by
  simp [step, h]

lemma step_inside_succ_end (h : e.symbol = .loopEnd) :
    (inside nodes b k (opened + 1)).step refuse? body (e, i) = .ok (inside nodes b k opened) := by
  simp [step, h]

lemma step_inside_zero_end (h : e.symbol = .loopEnd) :
    (inside nodes b k 0).step refuse? body (e, i) =
      (body b (k + 1) i).map fun inner => outside (nodes ++ [.loop b.position inner]) := by
  simp [step, h]

/-! ## Sweeps over lists -/

@[simp] lemma run_nil : run refuse? body s [] i = .ok s := rfl

lemma run_cons : run refuse? body s (op :: ops) i =
    (s.step refuse? body (op, i)).bind fun t => run refuse? body t ops (i + 1) := rfl

lemma run_singleton : run refuse? body s [op] i = s.step refuse? body (op, i) := by
  rw [run_cons]
  cases s.step refuse? body (op, i) <;> rfl

lemma run_append : run refuse? body s (xs ++ ys) i =
    (run refuse? body s xs i).bind fun t => run refuse? body t ys (i + xs.length) := by
  simp only [run, List.zipIdx_append, List.foldlM_append]
  rfl

/-- Where no loop is open a command is a node, if it is not refused. -/
lemma run_cons_command {c : Command} (h : op.symbol = .command c) (hr : refuse? op i = none) :
    run refuse? body (outside nodes) (op :: ops) i =
      run refuse? body (outside (nodes ++ [.command c op.position])) ops (i + 1) := by
  rw [run_cons, step_outside_command h hr]
  rfl

/-- Where no loop is open a command that is refused is a fault. -/
lemma run_cons_command_refused {c : Command} (h : op.symbol = .command c)
    (hr : refuse? op i = some err) :
    run refuse? body (outside nodes) (op :: ops) i = .error err := by
  rw [run_cons, step_outside_command_refused h hr]
  rfl

/-- Where no loop is open a loop end is a fault. -/
lemma run_cons_end (h : e.symbol = .loopEnd) :
    run refuse? body (outside nodes) (e :: ops) i = .error (.unmatchedEnd e) := by
  rw [run_cons, step_outside_end h]
  rfl

/-- As long as a loop stays open the sweep only counts.

**Proof sketch.** Induction on the operations. Each of them changes the count as it changes the
depth. -/
lemma run_inside (h : StaysOpen opened ops) (i : ℕ) :
    run refuse? body (inside nodes b k opened) ops i =
      .ok (inside nodes b k (opened + depth ops).toNat) := by
  induction ops generalizing opened i with
  | nil => simp
  | cons op ops ih =>
    rw [run_cons]
    cases hop : op.symbol with
    | command c =>
      rw [step_inside_command hop, depth_cons_command hop]
      exact ih ((staysOpen_cons_command hop).1 h) (i + 1)
    | loopBegin =>
      have hsum : (opened : ℤ) + (depth ops + 1) = (opened + 1 : ℕ) + depth ops := by omega
      rw [step_inside_begin hop, depth_cons_begin hop, hsum]
      exact ih ((staysOpen_cons_begin hop).1 h) (i + 1)
    | loopEnd =>
      cases opened with
      | zero => exact absurd h (not_staysOpen_zero_cons_end hop)
      | succ opened =>
        have hsum : ((opened + 1 : ℕ) : ℤ) + (depth ops - 1) = opened + depth ops := by omega
        rw [step_inside_succ_end hop, depth_cons_end hop, hsum]
        exact ih ((staysOpen_cons_end hop).1 h) (i + 1)

/-- A loop begin that is never closed stays open to the end. -/
lemma run_cons_openBegin (hb : b.symbol = .loopBegin) (ho : StaysOpen 0 ops) :
    run refuse? body (outside nodes) (b :: ops) i = .ok (inside nodes b i (depth ops).toNat) := by
  have hinside : run refuse? body (inside nodes b i 0) ops (i + 1) =
      .ok (inside nodes b i ((0 : ℕ) + depth ops).toNat) := run_inside ho (i + 1)
  rw [Int.natCast_zero, Int.zero_add] at hinside
  rw [run_cons, step_outside_begin hb]
  exact hinside

/-- A loop is a node with what its body gives. -/
lemma run_loop (hb : b.symbol = .loopBegin) (he : e.symbol = .loopEnd) (h : Balanced xs) :
    run refuse? body (outside nodes) (b :: (xs ++ e :: ys)) i =
      (body b (i + 1) (i + 1 + xs.length)).bind fun inner =>
        run refuse? body (outside (nodes ++ [.loop b.position inner])) ys
          (i + 1 + xs.length + 1) := by
  have hopen : run refuse? body (outside nodes) (b :: xs) i = .ok (inside nodes b i 0) := by
    rw [run_cons_openBegin hb h.staysOpen, h.depth_eq_zero, Int.toNat_zero]
  have hlen : i + (b :: xs).length = i + 1 + xs.length := by
    simp
    omega
  rw [← List.cons_append, run_append, hopen, Except.bind, hlen, run_cons, step_inside_zero_end he]
  cases body b (i + 1) (i + 1 + xs.length) <;> rfl

/-- An operation is at fault if it is a command that is refused, a loop end where no loop is open,
or the loop end of a body that is at fault. -/
lemma step_eq_error_iff : s.step refuse? body (op, i) = .error err ↔
    (∃ nodes c, s = outside nodes ∧ op.symbol = .command c ∧ refuse? op i = some err) ∨
    op.symbol = .loopEnd ∧ ((∃ nodes, s = outside nodes ∧ err = .unmatchedEnd op) ∨
      ∃ nodes b k, s = inside nodes b k 0 ∧ body b (k + 1) i = .error err) := by
  cases s with
  | outside nodes =>
    cases hop : op.symbol with
    | command c =>
      cases hr : refuse? op i with
      | none => simp [step_outside_command hop hr]
      | some err' => simp [step_outside_command_refused hop hr]
    | loopBegin => simp [step_outside_begin hop]
    | loopEnd => simp [step_outside_end hop, eq_comm]
  | inside nodes b k opened =>
    cases hop : op.symbol with
    | command c => simp [step_inside_command hop]
    | loopBegin => simp [step_inside_begin hop]
    | loopEnd =>
      cases opened with
      | succ opened => simp [step_inside_succ_end hop]
      | zero =>
        have hbody : (inside nodes b k 0).step refuse? body (op, i) = .error err ↔
            body b (k + 1) i = .error err := by
          rw [step_inside_zero_end hop]
          cases body b (k + 1) i <;> simp [Except.map]
        rw [hbody]
        constructor
        · intro h
          exact .inr ⟨rfl, .inr ⟨nodes, b, k, rfl, h⟩⟩
        · rintro (⟨_, _, hs, -⟩ | ⟨-, ⟨_, hs, -⟩ | ⟨_, _, _, hs, h⟩⟩)
          · cases hs
          · cases hs
          · cases hs
            exact h

end Sweep

/-! ## The sweep of a call -/

/-- The first loop begin of a list in which a loop begin is known. -/
lemma firstBegin?_append_begin (hb : b.symbol = .loopBegin) (pre post : List Operation) :
    firstBegin? (pre ++ b :: post) = some ((firstBegin? pre).getD b) := by
  rw [firstBegin?, List.find?_append, ← firstBegin?, ← firstBegin?, firstBegin?_cons_begin hb]
  cases firstBegin? pre <;> rfl

namespace Call

/-- The body of a loop is parsed with one level less. -/
lemma parseBody_succ (hb : b.symbol = .loopBegin) (pre xs post : List Operation) :
    parseBody (pre ++ b :: (xs ++ post)) (room + 1) b (pre.length + 1)
        (pre.length + 1 + xs.length) =
      parseSpan room (some ((firstBegin? pre).getD b)) xs := by
  have hcut : pre ++ b :: (xs ++ post) = (pre ++ [b]) ++ (xs ++ post) := by simp
  have hlen : (pre ++ [b]).length = pre.length + 1 := by simp
  rw [parseBody, parse, hcut, ← hlen, slice_append_append, List.take_left,
    firstBegin?_append_begin hb]

/-- Where no loop is open a sweep goes on to what parsing the rest gives, behind the nodes so far.

**Proof sketch.** Induction along the parse, which splits a loop off where the sweep closes it. That
the sweep gets there with nothing but counting is `Sweep.run_loop`. -/
lemma run_outside (hfirst : first = firstBegin? pre) (hops : ops = pre ++ (rest ++ post))
    (nodes : List Node) :
    (Sweep.run (refusal? ops room) (parseBody ops room) (.outside nodes) rest pre.length).bind
        Sweep.result =
      (parseSpan room first rest).map (nodes ++ ·) := by
  fun_induction parseSpan room first rest generalizing pre nodes with
  | case1 => simp [Except.bind, Except.map, Sweep.result]
  | case2 first op rest c hop =>
    have hrefused : refusal? ops 0 op pre.length = some (.tooDeep (first.getD op)) := by
      rw [refusal?, hops, List.take_left, ← hfirst]
    rw [Sweep.run_cons_command_refused hop hrefused]
    rfl
  | case3 first op rest c hop room ih =>
    have hnext : first = firstBegin? (pre ++ [op]) := by
      simp [hfirst, firstBegin?, hop]
    have hlen : (pre ++ [op]).length = pre.length + 1 := by simp
    rw [Sweep.run_cons_command hop rfl, ← hlen, ih hnext (by simpa using hops)]
    cases parseSpan (room + 1) first rest <;>
      simp [Except.map, bind, Except.bind, pure, Except.pure]
  | case4 room first e rest he =>
    rw [Sweep.run_cons_end he]
    rfl
  | case5 room first b rest hb hs =>
    rw [Sweep.run_cons_openBegin hb (splitLoop_eq_none_iff.1 hs)]
    rfl
  | case6 first b rest hb xs e ys hs =>
    obtain ⟨he, hbal⟩ := balanced_of_splitLoop_eq_some hs
    obtain rfl := splitLoop_eq_some hs
    have hall : firstBegin? ops = some (first.getD b) := by
      rw [hops, List.cons_append, firstBegin?_append_begin hb, ← hfirst]
    rw [Sweep.run_loop hb he hbal, parseBody, hall, Option.getD_some]
    rfl
  | case7 first b rest hb xs e ys hs first' room _ =>
    rename_i ih
    obtain ⟨he, hbal⟩ := balanced_of_splitLoop_eq_some hs
    obtain rfl := splitLoop_eq_some hs
    have hcut : ops = pre ++ b :: (xs ++ (e :: (ys ++ post))) := by simpa using hops
    have hbody : parseBody ops (room + 1) b (pre.length + 1) (pre.length + 1 + xs.length) =
        parseSpan room (some first') xs := by
      rw [hcut, parseBody_succ hb, ← hfirst]
    have hnext : some first' = firstBegin? (pre ++ b :: (xs ++ [e])) := by
      rw [firstBegin?_append_begin hb, ← hfirst]
    have hlen : (pre ++ b :: (xs ++ [e])).length = pre.length + 1 + xs.length + 1 := by
      simp
      omega
    rw [Sweep.run_loop hb he hbal, hbody]
    cases parseSpan room (some first') xs with
    | error err => rfl
    | ok inner =>
      have hrest := ih hnext (by simpa using hops) (nodes ++ [.loop b.position inner])
      rw [hlen] at hrest
      refine hrest.trans ?_
      cases parseSpan (room + 1) (some first') ys <;>
        simp [Except.map, bind, Except.bind, pure, Except.pure]

/-- **What a call gives is what its sweep gives.** -/
lemma parse_eq_sweep (ops : List Operation) (c : Call) :
    c.parse ops = (c.sweep ops c.stop).bind Sweep.result := by
  by_cases h : c.start < c.stop ∧ c.start < ops.length
  · have hlen : (ops.take c.start).length = c.start := List.length_take_of_le (by omega)
    have htake : (ops.take c.stop).take c.start = ops.take c.start := by
      rw [List.take_take, Nat.min_eq_left (by omega)]
    have hcut : ops = ops.take c.start ++ (slice ops c.start c.stop ++ ops.drop c.stop) := by
      rw [slice, ← htake, ← List.append_assoc, List.take_append_drop, List.take_append_drop]
    have hsweep : (Sweep.run (refusal? ops c.room) (parseBody ops c.room) (.outside [])
        (slice ops c.start c.stop) (ops.take c.start).length).bind Sweep.result =
          (c.parse ops).map ([] ++ ·) :=
      run_outside rfl hcut []
    rw [hlen] at hsweep
    rw [sweep, hsweep]
    cases c.parse ops <;> rfl
  · -- the call is on no operations
    have hnil : slice ops c.start c.stop = [] := List.drop_eq_nil_of_le (by simp; omega)
    rw [parse, sweep, hnil, parseSpan]
    rfl

/-- A sweep goes on from where it is. -/
lemma sweep_append (hle : c.start ≤ i) (h : i ≤ mid) (h' : mid ≤ ops.length) :
    c.sweep ops mid =
      (c.sweep ops i).bind fun s =>
        s.run (refusal? ops c.room) (parseBody ops c.room) (slice ops i mid) i := by
  have hlen : c.start + (slice ops c.start i).length = i := by
    rw [length_slice (Nat.le_trans h h')]
    omega
  rw [sweep, ← slice_append hle h, Sweep.run_append, hlen, ← sweep]

/-- A sweep goes over one operation after the other. -/
lemma sweep_succ (hi : ops[i]? = some op) (hle : c.start ≤ i) :
    c.sweep ops (i + 1) =
      (c.sweep ops i).bind fun s =>
        s.step (refusal? ops c.room) (parseBody ops c.room) (op, i) := by
  have hlt : i < ops.length := (List.getElem?_eq_some_iff.1 hi).1
  have hslice : slice ops i (i + 1) = [op] := by
    rw [slice_eq_cons hi (Nat.lt_succ_self i), slice_of_le (Nat.le_refl _)]
  rw [sweep_append hle (Nat.le_succ i) hlt, hslice]
  simp only [Sweep.run_singleton]

/-- In front of the first operation there are no nodes. -/
lemma sweep_of_le (hle : i ≤ c.start) : c.sweep ops i = .ok (.outside []) := by
  rw [sweep, slice_of_le hle, Sweep.run_nil]

/-- A sweep is at fault if it was before, or at one more operation. -/
lemma sweep_succ_eq_error_iff : c.sweep ops (i + 1) = .error err ↔
    c.sweep ops i = .error err ∨ ∃ op s, c.start ≤ i ∧ ops[i]? = some op ∧
      c.sweep ops i = .ok s ∧
        s.step (refusal? ops c.room) (parseBody ops c.room) (op, i) = .error err := by
  by_cases hle : c.start ≤ i
  · cases hi : ops[i]? with
    | none =>
      have hsame : c.sweep ops (i + 1) = c.sweep ops i := by
        rw [sweep, sweep, slice, slice, List.take_add_one, hi, Option.toList_none, List.append_nil]
      simp [hsame]
    | some op =>
      rw [sweep_succ hi hle]
      cases hs : c.sweep ops i <;> simp [Except.bind, hle]
  · have hhere : c.sweep ops i = .ok (.outside []) := sweep_of_le (by omega)
    have hnext : c.sweep ops (i + 1) = .ok (.outside []) := sweep_of_le (by omega)
    simp [hhere, hnext, hle]

/-- A sweep is at fault at one of its operations. -/
lemma sweep_eq_error_iff : c.sweep ops i = .error err ↔
    ∃ j op s, c.start ≤ j ∧ j < i ∧ ops[j]? = some op ∧ c.sweep ops j = .ok s ∧
      s.step (refusal? ops c.room) (parseBody ops c.room) (op, j) = .error err := by
  induction i with
  | zero => simp [sweep_of_le (Nat.zero_le _)]
  | succ i ih =>
    rw [sweep_succ_eq_error_iff, ih]
    constructor
    · rintro (⟨j, op, s, hstart, hlt, hrest⟩ | ⟨op, s, hstart, hrest⟩)
      · exact ⟨j, op, s, hstart, Nat.lt_succ_of_lt hlt, hrest⟩
      · exact ⟨i, op, s, hstart, Nat.lt_succ_self i, hrest⟩
    · rintro ⟨j, op, s, hstart, hlt, hrest⟩
      rcases Nat.lt_succ_iff_lt_or_eq.1 hlt with hlt | rfl
      · exact .inl ⟨j, op, s, hstart, hlt, hrest⟩
      · exact .inr ⟨op, s, hstart, hrest⟩

/-- A sweep that gets to an index has been at all that come before. -/
lemma exists_sweep_eq_ok (h : c.sweep ops stop = .ok s) (hle : i ≤ stop) :
    ∃ t, c.sweep ops i = .ok t := by
  cases hi : c.sweep ops i with
  | ok t => exact ⟨t, rfl⟩
  | error err =>
    obtain ⟨j, op, t, hstart, hlt, hrest⟩ := sweep_eq_error_iff.1 hi
    have herr := sweep_eq_error_iff.2 ⟨j, op, t, hstart, Nat.lt_of_lt_of_le hlt hle, hrest⟩
    rw [h] at herr
    cases herr

end Call

/-! ## The count -/

/-- Where no prefix closes too many loops, one more operation does not do so either if the depth
behind it is high enough. -/
lemma StaysOpen.concat (h : StaysOpen k xs) (hd : 0 ≤ k + depth (xs ++ [op])) :
    StaysOpen k (xs ++ [op]) := by
  refine (forall_take_append fun p => 0 ≤ (k : ℤ) + depth p).2 ⟨h, fun n => ?_⟩
  cases n with
  | zero => simpa using h xs.length
  | succ n => simpa using hd

/-- A loop that is open stays so if an operation closes none but loops of its body. -/
lemma IsOpenLoop.succ {opened' : ℕ} (h : IsOpenLoop ops start i b k opened)
    (hi : ops[i]? = some op) (hd : (opened' : ℤ) = opened + depth [op]) :
    IsOpenLoop ops start (i + 1) b k opened' := by
  have hsucc : slice ops (k + 1) (i + 1) = slice ops (k + 1) i ++ [op] := slice_succ hi h.lt
  have hdepth : depth (slice ops (k + 1) i ++ [op]) = opened' := by
    rw [depth_append, h.depth_eq, hd]
  refine ⟨h.start_le, Nat.lt_succ_of_lt h.lt, h.getElem?_eq, h.loopBegin, h.before, ?_, ?_⟩
  · rw [hsucc]
    exact h.staysOpen.concat (by omega)
  · rw [hsucc, hdepth]

/-- The body of a loop is balanced if no loop of it is open. -/
lemma IsOpenLoop.balanced (h : IsOpenLoop ops start i b k 0) : Balanced (slice ops (k + 1) i) :=
  ⟨h.staysOpen, h.depth_eq⟩

/-- Behind the loop end of an open loop the operations are balanced. -/
lemma IsOpenLoop.balanced_succ (h : IsOpenLoop ops start i b k 0) (hi : ops[i]? = some e)
    (he : e.symbol = .loopEnd) : Balanced (slice ops start (i + 1)) := by
  have hki : k ≤ i := Nat.le_of_lt h.lt
  rw [slice_succ hi (Nat.le_trans h.start_le hki), ← slice_append h.start_le hki,
    slice_eq_cons h.getElem?_eq h.lt, List.append_assoc, h.before.append_iff]
  exact (balanced_loop_iff h.balanced h.loopBegin he).2 balanced_nil

/-- A loop is open behind its loop begin. -/
lemma isOpenLoop_of_begin (h : Balanced (slice ops start k)) (hle : start ≤ k)
    (hk : ops[k]? = some b) (hb : b.symbol = .loopBegin) :
    IsOpenLoop ops start (k + 1) b k 0 := by
  have hnil : slice ops (k + 1) (k + 1) = [] := slice_of_le (Nat.le_refl _)
  exact ⟨hle, Nat.lt_succ_self k, hk, hb, h, by simp [hnil], by simp [hnil]⟩

/-- Where a loop is open the operations are not balanced. -/
lemma IsOpenLoop.depth_slice (h : IsOpenLoop ops start i b k opened) :
    depth (slice ops start i) = opened + 1 := by
  rw [← slice_append h.start_le (Nat.le_of_lt h.lt), slice_eq_cons h.getElem?_eq h.lt,
    depth_append, depth_cons_begin h.loopBegin, h.before.depth_eq_zero, h.depth_eq, Int.zero_add]

/-- Where the operations are balanced no loop is open. -/
lemma Sweep.Counts.exists_eq_outside (h : s.Counts ops start i)
    (hbal : Balanced (slice ops start i)) : ∃ nodes, s = .outside nodes := by
  cases s with
  | outside nodes => exact ⟨nodes, rfl⟩
  | inside nodes b k opened =>
    have hopen : IsOpenLoop ops start i b k opened := h
    have hdepth := hopen.depth_slice
    rw [hbal.depth_eq_zero] at hdepth
    omega

/-- Every operation keeps the count right. -/
lemma Sweep.Counts.step (h : s.Counts ops start i) (hle : start ≤ i) (hi : ops[i]? = some op)
    (hs : s.step refuse? body (op, i) = .ok t) : t.Counts ops start (i + 1) := by
  cases s with
  | outside nodes =>
    have hbal : Balanced (slice ops start i) := h
    cases hop : op.symbol with
    | command c =>
      cases hr : refuse? op i with
      | some err =>
        rw [Sweep.step_outside_command_refused hop hr] at hs
        cases hs
      | none =>
        rw [Sweep.step_outside_command hop hr] at hs
        cases hs
        rw [Sweep.Counts, slice_succ hi hle, hbal.append_iff, balanced_cons_command hop]
        exact balanced_nil
    | loopBegin =>
      rw [Sweep.step_outside_begin hop] at hs
      cases hs
      exact isOpenLoop_of_begin hbal hle hi hop
    | loopEnd =>
      rw [Sweep.step_outside_end hop] at hs
      cases hs
  | inside nodes b k opened =>
    have hopen : IsOpenLoop ops start i b k opened := h
    cases hop : op.symbol with
    | command c =>
      rw [Sweep.step_inside_command hop] at hs
      cases hs
      exact hopen.succ hi (by simp [depth_cons_command hop])
    | loopBegin =>
      rw [Sweep.step_inside_begin hop] at hs
      cases hs
      exact hopen.succ hi (by simp [depth_cons_begin hop])
    | loopEnd =>
      cases opened with
      | succ opened =>
        rw [Sweep.step_inside_succ_end hop] at hs
        cases hs
        exact hopen.succ hi (by rw [depth_cons_end hop, depth_nil]; omega)
      | zero =>
        -- the loop is closed, and its body gives some nodes
        rw [Sweep.step_inside_zero_end hop] at hs
        cases hbody : body b (k + 1) i with
        | error err =>
          rw [hbody] at hs
          cases hs
        | ok inner =>
          rw [hbody] at hs
          cases hs
          exact hopen.balanced_succ hi hop

/-- **Every sweep counts right**, whatever the operations are: where no loop is open they are
balanced so far, and otherwise the count is the depth behind the loop begin that is open.

**Proof sketch.** Induction on the index, with one operation at a time. -/
lemma Call.counts_of_sweep (hle : c.start ≤ i) (hi : i ≤ ops.length)
    (hs : c.sweep ops i = .ok s) : s.Counts ops c.start i := by
  induction i, hle using Nat.le_induction generalizing s with
  | base =>
    rw [sweep_of_le (Nat.le_refl _)] at hs
    cases hs
    rw [Sweep.Counts, slice_of_le (Nat.le_refl _)]
    exact balanced_nil
  | succ i hle ih =>
    have hop : ops[i]? = some ops[i] := List.getElem?_eq_getElem hi
    rw [sweep_succ hop hle] at hs
    cases ht : c.sweep ops i with
    | error err =>
      rw [ht] at hs
      cases hs
    | ok t =>
      rw [ht] at hs
      exact (ih (Nat.le_of_lt hi) ht).step hle hop hs

end TapeLang
