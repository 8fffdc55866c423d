import Mathlib.Logic.Relation
import TapeLang.Proofs.Sweeps
import TapeLang.Proofs.Matching

set_option autoImplicit false

/-!
# The calls of the parser

Where the sweep of a call closes a loop, the body of the loop is parsed by a call of its own, which
may make calls in turn. The sweep has counted the delimiters of the body, so the body is balanced,
however deep the call is nested and whatever is wrong with the list as a whole. Only the outermost
call can meet a delimiter without a partner.

## Main definitions

* `TapeLang.Call.outermost` — the call on all operations.
* `TapeLang.Call.Enters` — a call closes a loop and has its body parsed.
* `TapeLang.Call.Makes` — a call makes another one.
* `TapeLang.Call.Raises` — a call meets a fault in its own sweep.
* `TapeLang.IsBody`, `TapeLang.Call.Surrounds` — what stands between two indices is the body of a
  loop, and lies inside of a call.

## Main results

* `TapeLang.Call.enters_iff` — a call enters the bodies of its outermost loops, as far as its sweep
  gets.
* `TapeLang.Call.Enters.eq_or_apart` — two bodies that a call enters are the same or apart.
* `TapeLang.Call.parse_eq_error_iff_exists` — every error is met in the sweep of one call.
* `TapeLang.calls_balanced` — all calls but the outermost one are on balanced operations, and so
  none of them meets a delimiter without a partner.
-/

namespace TapeLang

/-- What stands from the index `start` up to the index `stop` is the body of a loop. -/
structure IsBody (ops : List Operation) (start stop : ℕ) : Prop where
  /-- Something stands in front of it. -/
  pos : 0 < start
  /-- In front of it stands a loop begin, and behind it the loop end that matches. -/
  isMatch : Matches ops (start - 1) stop
  /-- It is balanced, with no prefix that closes too many loops. -/
  balanced : Balanced (slice ops start stop)

namespace Call

/-- The call of the parser on all operations. -/
def outermost (host : Host) (ops : List Operation) : Call :=
  ⟨host.height, 0, ops.length⟩

/-- The sweep of a call comes to the loop end of an open loop, and has the body of the loop parsed,
which stands from the index `start` up to the index `stop`. -/
inductive Enters (ops : List Operation) (c : Call) : ℕ → ℕ → Prop where
  /-- No loop of the body is open in front of the loop end. -/
  | closes {nodes : List Node} {b e : Operation} {k stop : ℕ}
      (hsweep : c.sweep ops stop = .ok (.inside nodes b k 0)) (hstop : stop < c.stop)
      (hi : ops[stop]? = some e) (he : e.symbol = .loopEnd) : Enters ops c (k + 1) stop

/-- A call makes a call with one level less on each body that it enters, if it has room for it. -/
def Makes (ops : List Operation) (c c' : Call) : Prop :=
  c.room = c'.room + 1 ∧ c.Enters ops c'.start c'.stop

/-- A call meets a fault in its own sweep, and not in that of a call that it makes. -/
inductive Raises (ops : List Operation) (c : Call) : ParseError → Prop where
  /-- The sweep comes to a loop end where no loop is open. -/
  | unmatchedEnd {nodes : List Node} {e : Operation} {i : ℕ} (hstart : c.start ≤ i)
      (hstop : i < c.stop) (hsweep : c.sweep ops i = .ok (.outside nodes)) (hi : ops[i]? = some e)
      (he : e.symbol = .loopEnd) : Raises ops c (.unmatchedEnd e)
  /-- The sweep ends where a loop is open. -/
  | unmatchedBegin {nodes : List Node} {b : Operation} {k opened : ℕ}
      (hsweep : c.sweep ops c.stop = .ok (.inside nodes b k opened)) :
      Raises ops c (.unmatchedBegin b)
  /-- The sweep comes to a command, and there is no room for a node. -/
  | refused {nodes : List Node} {op : Operation} {x : Command} {i : ℕ} (hroom : c.room = 0)
      (hstart : c.start ≤ i) (hstop : i < c.stop) (hsweep : c.sweep ops i = .ok (.outside nodes))
      (hi : ops[i]? = some op) (hop : op.symbol = .command x) :
      Raises ops c (.tooDeep ((firstBegin? (ops.take i)).getD op))
  /-- The sweep enters a body, and there is no room for a loop. -/
  | tooDeep {b : Operation} {start stop : ℕ} (hroom : c.room = 0) (h : c.Enters ops start stop)
      (hb : firstBegin? ops = some b) : Raises ops c (.tooDeep b)

/-- What stands from the index `start` up to the index `stop` lies inside of a call. The call has at
least two operations more, one in front of it and one behind it. -/
structure Surrounds (c : Call) (start stop : ℕ) : Prop where
  /-- The call begins earlier. -/
  start_lt : c.start < start
  /-- The indices are in order. -/
  le : start ≤ stop
  /-- The call ends later. -/
  lt_stop : stop < c.stop

variable {host : Host} {ops : List Operation} {c c' : Call} {s : Sweep} {op : Operation}
  {err : ParseError} {start stop start' stop' i : ℕ}

/-! ## Bodies that are entered -/

/-- Where a body is entered its loop is open, and no loop of the body is. -/
lemma Enters.exists_isOpenLoop (h : c.Enters ops start stop) :
    ∃ b k, start = k + 1 ∧ IsOpenLoop ops c.start stop b k 0 := by
  cases h with
  | @closes nodes b e k _ hsweep hstop hi he =>
    have hlen : stop < ops.length := (List.getElem?_eq_some_iff.1 hi).1
    have hle : c.start ≤ stop := by
      refine Nat.le_of_not_lt fun hlt => ?_
      rw [sweep_of_le (Nat.le_of_lt hlt)] at hsweep
      cases hsweep
    exact ⟨b, k, rfl, counts_of_sweep hle (Nat.le_of_lt hlen) hsweep⟩

/-- **What is entered is the body of a loop.** -/
lemma Enters.isBody (h : c.Enters ops start stop) : IsBody ops start stop := by
  obtain ⟨b, k, rfl, hopen⟩ := h.exists_isOpenLoop
  cases h with
  | closes _ _ hi he =>
    have hmatch : Matches ops k stop :=
      ⟨hopen.lt, by simp [hopen.getElem?_eq, hopen.loopBegin], by simp [hi, he], hopen.balanced⟩
    exact ⟨Nat.succ_pos k, hmatch, hopen.balanced⟩

/-- **What is entered lies inside of the call.** -/
lemma Enters.surrounds (h : c.Enters ops start stop) : c.Surrounds start stop := by
  obtain ⟨b, k, rfl, hopen⟩ := h.exists_isOpenLoop
  cases h with
  | closes _ hstop _ _ => exact ⟨Nat.lt_succ_of_le hopen.start_le, hopen.lt, hstop⟩

/-- **What stands in front of a loop whose body is entered is balanced**, as far as the call goes
back. -/
lemma Enters.before (h : c.Enters ops start stop) : Balanced (slice ops c.start (start - 1)) := by
  obtain ⟨b, k, rfl, hopen⟩ := h.exists_isOpenLoop
  exact hopen.before

/-- The depth in front of a loop whose body is entered is that in front of the call. -/
lemma Enters.depth_eq (h : c.Enters ops start stop) :
    depth (ops.take (start - 1)) = depth (ops.take c.start) := by
  have hle : c.start ≤ start - 1 := Nat.le_sub_one_of_lt h.surrounds.start_lt
  have hcut : ops.take c.start ++ slice ops c.start (start - 1) = ops.take (start - 1) :=
    slice_append (Nat.zero_le c.start) hle
  rw [← hcut, depth_append, h.before.depth_eq_zero, Int.add_zero]

/-- Of two loops whose bodies are entered the later one begins behind the earlier one: inside of the
earlier one the depth is too high. -/
lemma Enters.lt_of_lt (h : c.Enters ops start stop) (h' : c.Enters ops start' stop')
    (hlt : start < start') : stop < start' := by
  refine Nat.lt_of_not_le fun hle => ?_
  have hpos := h.isBody.pos
  have hlow := h.isBody.isMatch.depth_le (n := start' - 1) (by omega) (by omega)
  rw [depth_take_succ_begin h.isBody.isMatch.loopBegin, h.depth_eq, h'.depth_eq] at hlow
  omega

/-- **Two bodies that are entered are the same or apart.** -/
lemma Enters.eq_or_apart (h : c.Enters ops start stop) (h' : c.Enters ops start' stop') :
    start' = start ∧ stop' = stop ∨ stop < start' ∨ stop' < start := by
  rcases Nat.lt_trichotomy start start' with hlt | rfl | hgt
  · exact .inr (.inl (h.lt_of_lt h' hlt))
  · exact .inl ⟨rfl, h'.isBody.isMatch.right_unique h.isBody.isMatch⟩
  · exact .inr (.inr (h'.lt_of_lt h hgt))

/-- **The bodies that a call enters are those of its outermost loops**, as far as its sweep gets.

**Proof sketch.** In front of an outermost loop the operations are balanced, so no loop is open, and
from there the sweep gets to the loop end that matches with nothing but counting. -/
lemma enters_iff : c.Enters ops start stop ↔
    (∃ s, c.sweep ops stop = .ok s) ∧ IsBody ops start stop ∧ c.Surrounds start stop ∧
      Balanced (slice ops c.start (start - 1)) := by
  constructor
  · intro h
    refine ⟨?_, h.isBody, h.surrounds, h.before⟩
    cases h with
    | closes hsweep _ _ _ => exact ⟨_, hsweep⟩
  · rintro ⟨⟨s, hs⟩, hbody, hsur, hbefore⟩
    obtain ⟨k, rfl⟩ := Nat.exists_eq_add_one.2 hbody.pos
    have hmatch : Matches ops k stop := hbody.isMatch
    have hle : c.start ≤ k := Nat.le_of_lt_succ hsur.start_lt
    have hstop : stop ≤ ops.length := Nat.le_of_lt hmatch.lt_length
    have hkstop : k ≤ stop := Nat.le_of_lt hmatch.lt
    obtain ⟨b, hk, hb⟩ := Option.map_eq_some_iff.1 hmatch.loopBegin
    obtain ⟨e, hi, he⟩ := Option.map_eq_some_iff.1 hmatch.loopEnd
    obtain ⟨t, ht⟩ := exists_sweep_eq_ok hs hkstop
    have hcounts := counts_of_sweep hle (Nat.le_trans hkstop hstop) ht
    obtain ⟨nodes, rfl⟩ := hcounts.exists_eq_outside hbefore
    have hsweep : c.sweep ops stop = .ok (.inside nodes b k 0) := by
      rw [sweep_append hle hkstop hstop, ht, Except.bind, slice_eq_cons hk hmatch.lt,
        Sweep.run_cons_openBegin hb hbody.balanced.staysOpen, hbody.balanced.depth_eq_zero,
        Int.toNat_zero]
    exact .closes hsweep hsur.lt_stop hi he

/-- Where a body is entered there is a first loop begin of all. -/
lemma Enters.exists_firstBegin (h : c.Enters ops start stop) : ∃ b, firstBegin? ops = some b := by
  obtain ⟨b, k, -, hopen⟩ := h.exists_isOpenLoop
  have hmem : b ∈ ops := List.mem_of_getElem? hopen.getElem?_eq
  exact Option.isSome_iff_exists.1
    (List.find?_isSome.2 ⟨b, hmem, decide_eq_true hopen.loopBegin⟩)

/-! ## Where an error comes from -/

/-- A call is at fault if an operation of its sweep is. -/
lemma parse_eq_error_of_step (hstart : c.start ≤ i) (hstop : i < c.stop) (hi : ops[i]? = some op)
    (hs : c.sweep ops i = .ok s)
    (hstep : s.step (refusal? ops c.room) (parseBody ops c.room) (op, i) = .error err) :
    c.parse ops = .error err := by
  rw [parse_eq_sweep, sweep_eq_error_iff.2 ⟨i, op, s, hstart, hstop, hi, hs, hstep⟩]
  rfl

/-- A call is at fault if a body that it enters is. -/
lemma Enters.exists_parse_eq_error (h : c.Enters ops start stop) :
    ∃ b, ∀ err, parseBody ops c.room b start stop = .error err → c.parse ops = .error err := by
  have hsur := h.surrounds
  cases h with
  | @closes nodes b e k stop hsweep hstop hi he =>
    have hle : c.start ≤ stop := Nat.le_trans (Nat.le_of_lt hsur.start_lt) hsur.le
    refine ⟨b, fun err hbody => parse_eq_error_of_step hle hstop hi hsweep ?_⟩
    exact Sweep.step_eq_error_iff.2 (.inr ⟨he, .inr ⟨nodes, b, k, rfl, hbody⟩⟩)

/-- A fault that is met in the sweep of a call is what the call gives. -/
lemma Raises.parse_eq (h : c.Raises ops err) : c.parse ops = .error err := by
  cases h with
  | @unmatchedEnd nodes e i hstart hstop hsweep hi he =>
    exact parse_eq_error_of_step hstart hstop hi hsweep
      (Sweep.step_eq_error_iff.2 (.inr ⟨he, .inl ⟨nodes, rfl, rfl⟩⟩))
  | unmatchedBegin hsweep =>
    rw [parse_eq_sweep, hsweep]
    rfl
  | @refused nodes op x i hroom hstart hstop hsweep hi hop =>
    exact parse_eq_error_of_step hstart hstop hi hsweep
      (Sweep.step_eq_error_iff.2 (.inl ⟨nodes, x, rfl, hop, by rw [hroom, refusal?]⟩))
  | tooDeep hroom h hb =>
    obtain ⟨_, hbody⟩ := h.exists_parse_eq_error
    exact hbody _ (by rw [hroom, parseBody, hb, Option.getD_some])

/-- An error of a call is one of the call that makes it. -/
lemma Makes.parse_eq (h : c.Makes ops c') (he : c'.parse ops = .error err) :
    c.parse ops = .error err := by
  obtain ⟨_, hbody⟩ := h.2.exists_parse_eq_error
  exact hbody _ (by rwa [h.1, parseBody])

/-- An error of a call is met in its sweep or is one of a call that it makes. -/
lemma raises_or_of_parse_eq (h : c.parse ops = .error err) :
    c.Raises ops err ∨ ∃ c', c.Makes ops c' ∧ c'.parse ops = .error err := by
  rw [parse_eq_sweep] at h
  cases hs : c.sweep ops c.stop with
  | ok s =>
    rw [hs] at h
    cases s with
    | outside nodes => cases h
    | inside nodes b k opened =>
      cases h
      exact .inl (.unmatchedBegin hs)
  | error err' =>
    rw [hs] at h
    cases h
    obtain ⟨i, op, s, hstart, hstop, hi, hsi, hstep⟩ := sweep_eq_error_iff.1 hs
    rcases Sweep.step_eq_error_iff.1 hstep with ⟨nodes, x, rfl, hop, hrefused⟩ |
      ⟨hop, ⟨nodes, rfl, rfl⟩ | ⟨nodes, b, k, rfl, hbody⟩⟩
    · -- a command is refused
      cases hroom : c.room with
      | zero =>
        rw [hroom, refusal?, Option.some.injEq] at hrefused
        exact .inl (hrefused ▸ .refused hroom hstart hstop hsi hi hop)
      | succ room =>
        rw [hroom, refusal?] at hrefused
        cases hrefused
    · exact .inl (.unmatchedEnd hstart hstop hsi hi hop)
    · -- a body is entered that is at fault
      have henter : c.Enters ops (k + 1) i := .closes hsi hstop hi hop
      cases hroom : c.room with
      | zero =>
        obtain ⟨first, hfirst⟩ := henter.exists_firstBegin
        rw [hroom, parseBody, hfirst, Option.getD_some] at hbody
        cases hbody
        exact .inl (.tooDeep hroom henter hfirst)
      | succ room =>
        rw [hroom, parseBody] at hbody
        exact .inr ⟨⟨room, k + 1, i⟩, ⟨hroom, henter⟩, hbody⟩

/-- **Every error is met in the sweep of one call**: of the call itself, or of one below it.

**Proof sketch.** Towards the sweep, induction on the room, as a call that is made has less of it.
Back to the call, induction along the calls that are made in between. -/
lemma parse_eq_error_iff_exists : c.parse ops = .error err ↔
    ∃ c', Relation.ReflTransGen (Makes ops) c c' ∧ c'.Raises ops err := by
  constructor
  · intro h
    induction hroom : c.room generalizing c with
    | zero =>
      rcases raises_or_of_parse_eq h with hraises | ⟨c', hmakes, -⟩
      · exact ⟨c, .refl, hraises⟩
      · have := hmakes.1
        omega
    | succ room ih =>
      rcases raises_or_of_parse_eq h with hraises | ⟨c', hmakes, he⟩
      · exact ⟨c, .refl, hraises⟩
      · have hless := hmakes.1
        obtain ⟨c'', hchain, hraises⟩ := ih he (by omega)
        exact ⟨c'', hchain.head hmakes, hraises⟩
  · rintro ⟨c', hchain, hraises⟩
    induction hchain using Relation.ReflTransGen.head_induction_on with
    | refl => exact hraises.parse_eq
    | head hmakes _ ih => exact hmakes.parse_eq ih

/-! ## Calls below another one -/

/-- A call below another one is on the body of a loop. -/
lemma isBody_of_transGen (h : Relation.TransGen (Makes ops) c c') :
    IsBody ops c'.start c'.stop := by
  cases h with
  | single h => exact h.2.isBody
  | tail _ h => exact h.2.isBody

/-- A call below another one lies inside of it. -/
lemma surrounds_of_transGen (h : Relation.TransGen (Makes ops) c c') :
    c.Surrounds c'.start c'.stop := by
  induction h with
  | single h => exact h.2.surrounds
  | tail _ h ih =>
    have hsur := h.2.surrounds
    exact ⟨Nat.lt_trans ih.start_lt hsur.start_lt, hsur.le, Nat.lt_trans hsur.lt_stop ih.lt_stop⟩

/-- A call on balanced operations gives an error only if they nest too deeply. -/
lemma exists_tooDeep_of_balanced (h : Balanced (slice ops c.start c.stop))
    (he : c.parse ops = .error err) : ∃ b, err = .tooDeep b := by
  obtain ⟨nodes, hspells⟩ := exists_spells_iff_balanced.2 h
  by_cases hn : height nodes ≤ c.room
  · rw [parse, parseSpan_eq_ok hspells hn] at he
    cases he
  · obtain ⟨b, -, hdeep⟩ := parseSpan_append_tooDeep hspells (Nat.lt_of_not_le hn)
      (firstBegin? (ops.take c.start)) []
    rw [List.append_nil] at hdeep
    rw [parse, hdeep] at he
    cases he
    exact ⟨b, rfl⟩

/-- A call below another one meets no delimiter without a partner. -/
lemma parse_ne_of_transGen (h : Relation.TransGen (Makes ops) c c') (op : Operation) :
    c'.parse ops ≠ .error (.unmatchedEnd op) ∧ c'.parse ops ≠ .error (.unmatchedBegin op) := by
  have hbal := (isBody_of_transGen h).balanced
  constructor
  · intro he
    obtain ⟨b, hb⟩ := exists_tooDeep_of_balanced hbal he
    cases hb
  · intro he
    obtain ⟨b, hb⟩ := exists_tooDeep_of_balanced hbal he
    cases hb

/-- An error that no call gives that is made is met in the sweep of the call itself. -/
lemma parse_eq_error_iff_raises (h : ∀ c', c.Makes ops c' → c'.parse ops ≠ .error err) :
    c.parse ops = .error err ↔ c.Raises ops err := by
  refine ⟨fun he => ?_, Raises.parse_eq⟩
  rcases raises_or_of_parse_eq he with hraises | ⟨c', hmakes, he'⟩
  · exact hraises
  · exact absurd he' (h c' hmakes)

/-- Parsing is the outermost call. -/
lemma parse_eq_outermost (host : Host) (ops : List Operation) :
    TapeLang.parse host ops = ((outermost host ops).parse ops).map (Program.mk .start) := by
  rw [parse, outermost, slice_zero_length]
  rfl

/-- Parsing gives an error if the outermost call does. -/
lemma parse_error_iff_outermost : TapeLang.parse host ops = .error err ↔
    (outermost host ops).parse ops = .error err := by
  rw [parse_eq_outermost]
  cases (outermost host ops).parse ops <;> simp [Except.map]

end Call

open Call

/-- **Every list that is parsed by a call of its own is balanced**, whatever list is parsed and
however deep the call is nested.

Parsing is the outermost call, each call is one sweep, and each error of parsing is met in the sweep
of one call. A call enters the bodies of its outermost loops, as far as its sweep gets: each of them
stands between matching delimiters, is balanced, lies inside of the call and is apart from all
others. A call below another one is on such a body, lies inside of the other call, and gives no
error for a delimiter without a partner: these errors are met in the sweep of the outermost call.

**Proof sketch.** The count of a sweep is right, so it is zero only in front of the loop end that
matches, and what was counted is balanced. Siblings are apart, as the depth in front of each of them
is that in front of the call, and inside of a loop it is higher. -/
theorem calls_balanced (host : Host) (ops : List Operation) :
    (parse host ops = ((outermost host ops).parse ops).map (Program.mk .start) ∧
      (∀ c : Call, c.parse ops = (c.sweep ops c.stop).bind Sweep.result) ∧
      ∀ err, parse host ops = .error err ↔
        ∃ c, Relation.ReflTransGen (Makes ops) (outermost host ops) c ∧ c.Raises ops err) ∧
    (∀ (c : Call) (start stop : ℕ),
      (c.Enters ops start stop ↔
        (∃ s, c.sweep ops stop = .ok s) ∧ IsBody ops start stop ∧ c.Surrounds start stop ∧
          Balanced (slice ops c.start (start - 1))) ∧
      (c.Enters ops start stop → ∀ start' stop', c.Enters ops start' stop' →
        start' = start ∧ stop' = stop ∨ stop < start' ∨ stop' < start)) ∧
    (∀ c c' : Call, Relation.TransGen (Makes ops) c c' →
      IsBody ops c'.start c'.stop ∧ c.Surrounds c'.start c'.stop ∧
        ∀ op, c'.parse ops ≠ .error (.unmatchedEnd op) ∧
          c'.parse ops ≠ .error (.unmatchedBegin op)) ∧
    ∀ op,
      (parse host ops = .error (.unmatchedEnd op) ↔
        (outermost host ops).Raises ops (.unmatchedEnd op)) ∧
      (parse host ops = .error (.unmatchedBegin op) ↔
        (outermost host ops).Raises ops (.unmatchedBegin op)) := by
  refine ⟨⟨parse_eq_outermost host ops, parse_eq_sweep ops, fun err => ?_⟩,
    fun c start stop => ⟨enters_iff, fun h start' stop' h' => h.eq_or_apart h'⟩,
    fun c c' h => ?_, fun op => ⟨?_, ?_⟩⟩
  · rw [parse_error_iff_outermost, parse_eq_error_iff_exists]
  · exact ⟨isBody_of_transGen h, surrounds_of_transGen h, parse_ne_of_transGen h⟩
  · rw [parse_error_iff_outermost]
    exact parse_eq_error_iff_raises fun c' h => (parse_ne_of_transGen (.single h) op).1
  · rw [parse_error_iff_outermost]
    exact parse_eq_error_iff_raises fun c' h => (parse_ne_of_transGen (.single h) op).2

/-- A loop around another one, a second loop behind it, and a loop end too many. The outermost call
makes two calls, which are apart, and the first of them makes one more. All are on bodies of loops,
and the outermost call itself meets the last loop end. -/
theorem calls_balanced_nested_and_stray :
    let ops := operations "[[-]>][+]]"
    let outer : Call := ⟨995, 1, 5⟩
    let inner : Call := ⟨994, 2, 3⟩
    let stray : Operation := ⟨.loopEnd, 9, ⟨1, 10⟩⟩
    (Makes ops (outermost .usual ops) outer ∧ Makes ops outer inner ∧
      (outermost .usual ops).Enters ops 7 8) ∧
      (IsBody ops 7 8 ∧ (1 = 7 ∧ 5 = 8 ∨ 8 < 1 ∨ 5 < 7)) ∧
      (IsBody ops 2 3 ∧ (outermost .usual ops).Surrounds 2 3 ∧
        inner.parse ops ≠ .error (.unmatchedEnd stray)) ∧
      (outermost .usual ops).Raises ops (.unmatchedEnd stray) := by
  have houter : Makes (operations "[[-]>][+]]") (outermost .usual (operations "[[-]>][+]]"))
      ⟨995, 1, 5⟩ := by
    have hsweep : (outermost .usual (operations "[[-]>][+]]")).sweep (operations "[[-]>][+]]") 5 =
        .ok (.inside [] ⟨.loopBegin, 0, ⟨1, 1⟩⟩ 0 0) := by cbv
    have hstop : 5 < (outermost .usual (operations "[[-]>][+]]")).stop := by cbv
    have hend : (operations "[[-]>][+]]")[5]? = some ⟨.loopEnd, 5, ⟨1, 6⟩⟩ := by cbv
    exact ⟨rfl, .closes hsweep hstop hend rfl⟩
  have hinner : Makes (operations "[[-]>][+]]") ⟨995, 1, 5⟩ ⟨994, 2, 3⟩ := by
    have hsweep : (⟨995, 1, 5⟩ : Call).sweep (operations "[[-]>][+]]") 3 =
        .ok (.inside [] ⟨.loopBegin, 1, ⟨1, 2⟩⟩ 1 0) := by cbv
    have hend : (operations "[[-]>][+]]")[3]? = some ⟨.loopEnd, 3, ⟨1, 4⟩⟩ := by cbv
    exact ⟨rfl, .closes hsweep (by decide) hend rfl⟩
  have hnext :
      (outermost .usual (operations "[[-]>][+]]")).Enters (operations "[[-]>][+]]") 7 8 := by
    have hsweep : (outermost .usual (operations "[[-]>][+]]")).sweep (operations "[[-]>][+]]") 8 =
        .ok (.inside [.loop ⟨1, 1⟩ [.loop ⟨1, 2⟩ [.command .decrement ⟨1, 3⟩],
          .command .moveRight ⟨1, 5⟩]] ⟨.loopBegin, 6, ⟨1, 7⟩⟩ 6 0) := by cbv
    have hstop : 8 < (outermost .usual (operations "[[-]>][+]]")).stop := by cbv
    have hend : (operations "[[-]>][+]]")[8]? = some ⟨.loopEnd, 8, ⟨1, 9⟩⟩ := by cbv
    exact .closes hsweep hstop hend rfl
  have herror : parse .usual (operations "[[-]>][+]]") =
      .error (.unmatchedEnd ⟨.loopEnd, 9, ⟨1, 10⟩⟩) := by cbv
  obtain ⟨-, henters, hbelow, hraises⟩ := calls_balanced .usual (operations "[[-]>][+]]")
  obtain ⟨hiff, hapart⟩ := henters (outermost .usual (operations "[[-]>][+]]")) 7 8
  obtain ⟨-, hbody, -⟩ := hiff.1 hnext
  obtain ⟨hbody', hsur, hne⟩ := hbelow _ _ (.tail (.single houter) hinner)
  exact ⟨⟨houter, hinner, hnext⟩, ⟨hbody, hapart hnext 1 5 houter.2⟩, ⟨hbody', hsur, (hne _).1⟩,
    (hraises _).1.1 herror⟩

end TapeLang
