import Mathlib.Logic.Basic
import TapeLang.Proofs.Parsing
import TapeLang.Proofs.Matching

set_option autoImplicit false

/-!
# Which fault is reported

A list that is no program may be at fault in three ways at once: it may hold a loop end that closes
nothing, a loop begin that nothing closes, and an operation inside of too many loops. Which of them
is reported is said here by the depths and the matching delimiters of the list alone.

## Main definitions

* `TapeLang.IsStrayEnd`, `TapeLang.IsFirstStrayEnd` — a loop end where no loop is open, and the
  first of these.
* `TapeLang.IsOuterSpan`, `TapeLang.IsClosedSpan` — an outermost loop, and one that is closed in
  front of every stray loop end.
* `TapeLang.HasDeepSpan` — such a loop does not fit within a limit.
* `TapeLang.IsFirstOpenBegin` — the first loop begin without a loop end.

## Main results

* `TapeLang.parse_eq_error_iff` — a deep closed span is reported first, with the first loop begin of
  the list, then the first stray loop end, then the first open loop begin.
* `TapeLang.not_exists_fault_limit` — how deep a span is cannot be said by its loops alone.
-/

namespace TapeLang

/-- A loop end stands at index `i`, and no loop is open in front of it. -/
structure IsStrayEnd (ops : List Operation) (i : ℕ) : Prop where
  /-- A loop end stands at the index. -/
  loopEnd : ops[i]?.map Operation.symbol = some .loopEnd
  /-- No loop is open in front of it. -/
  depth_eq_zero : depth (ops.take i) = 0

/-- The operation at index `i` is the first loop end in front of which no loop is open. -/
structure IsFirstStrayEnd (ops : List Operation) (i : ℕ) (op : Operation) : Prop where
  /-- The operation stands at the index. -/
  getElem?_eq : ops[i]? = some op
  /-- It is a stray loop end. -/
  isStrayEnd : IsStrayEnd ops i
  /-- No stray loop end comes earlier. -/
  first : ∀ k < i, ¬IsStrayEnd ops k

/-- A loop from index `i` to index `j` that is in no other loop. -/
structure IsOuterSpan (ops : List Operation) (i j : ℕ) : Prop where
  /-- The delimiters of the loop match. -/
  isMatch : Matches ops i j
  /-- No loop is open in front of it. -/
  depth_eq_zero : depth (ops.take i) = 0

/-- An outermost loop from index `i` to index `j` that is closed in front of every stray loop
end. -/
structure IsClosedSpan (ops : List Operation) (i j : ℕ) : Prop extends IsOuterSpan ops i j where
  /-- It is closed in front of every stray loop end. -/
  closed : ∀ k, IsStrayEnd ops k → j < k

/-- Some closed span, its delimiters included, does not fit within the limit: it holds a command or
a loop begin inside of so many loops. -/
def HasDeepSpan (limit : ℕ) (ops : List Operation) : Prop :=
  ∃ i j, IsClosedSpan ops i j ∧ ¬FitsWithin limit ((ops.take (j + 1)).drop i)

/-- The operation at index `i` is the first loop begin that no loop end matches. -/
structure IsFirstOpenBegin (ops : List Operation) (i : ℕ) (op : Operation) : Prop where
  /-- The operation stands at the index. -/
  getElem?_eq : ops[i]? = some op
  /-- It is a loop begin. -/
  loopBegin : op.symbol = .loopBegin
  /-- No loop end matches it. -/
  isOpen : ∀ j, ¬Matches ops i j
  /-- All loop begins that come earlier are closed. -/
  first : ∀ k < i, ops[k]?.map Operation.symbol = some .loopBegin → ∃ j, Matches ops k j

variable {op b e : Operation} {ops good tail rest xs ys : List Operation} {nodes : List Node}
  {i j d : ℕ} {host : Host}

/-! ## Stray loop ends -/

/-- Where no prefix closes too many loops there is no stray loop end. -/
lemma StaysOpen.not_isStrayEnd (h : StaysOpen 0 ops) (i : ℕ) : ¬IsStrayEnd ops i := by
  rintro ⟨he, hd⟩
  have := h (i + 1)
  rw [depth_take_succ_end he] at this
  omega

/-- There is no stray loop end in a balanced list in front. -/
lemma Balanced.le_of_isStrayEnd (h : Balanced good) (hi : IsStrayEnd (good ++ tail) i) :
    good.length ≤ i := by
  refine Nat.le_of_not_lt fun hlt => ?_
  refine h.staysOpen.not_isStrayEnd i ⟨?_, ?_⟩
  · rw [← List.getElem?_append_left (by omega)]
    exact hi.loopEnd
  · rw [← List.take_append_of_le_length (by omega)]
    exact hi.depth_eq_zero

/-- A loop end behind a balanced list is stray. -/
lemma Balanced.isStrayEnd_append (h : Balanced good) (he : e.symbol = .loopEnd) :
    IsStrayEnd (good ++ e :: rest) good.length := by
  refine ⟨by simp [he], ?_⟩
  rw [List.take_left]
  exact h.depth_eq_zero

/-- A loop begin behind a balanced list that is never closed keeps all prefixes from closing too
many loops. -/
lemma Balanced.staysOpen_append_openBegin (h : Balanced good) (hb : b.symbol = .loopBegin)
    (ho : StaysOpen 0 rest) : StaysOpen 0 (good ++ b :: rest) := by
  rw [h.staysOpen_append_iff, staysOpen_cons_begin hb]
  intro n
  have := ho n
  omega

/-- The first stray loop end is the one at which the list is blocked. -/
lemma Balanced.exists_isFirstStrayEnd_iff (h : Balanced good) (ht : Blocked tail) :
    (∃ i, IsFirstStrayEnd (good ++ tail) i op) ↔
      ∃ rest, tail = op :: rest ∧ op.symbol = .loopEnd := by
  cases ht with
  | nil =>
    refine ⟨fun ⟨i, hi⟩ => ?_, by simp⟩
    exact absurd hi.isStrayEnd (by simpa using h.staysOpen.not_isStrayEnd i)
  | @strayEnd e rest he =>
    have hstray : IsStrayEnd (good ++ e :: rest) good.length := h.isStrayEnd_append he
    constructor
    · rintro ⟨i, hi⟩
      have hle := h.le_of_isStrayEnd hi.isStrayEnd
      have hge : ¬good.length < i := fun hlt => hi.first _ hlt hstray
      obtain rfl : i = good.length := by omega
      have := hi.getElem?_eq
      simp only [List.getElem?_append_right (Nat.le_refl _), Nat.sub_self,
        List.getElem?_cons_zero, Option.some.injEq] at this
      exact ⟨rest, by rw [this], this ▸ he⟩
    · rintro ⟨_, heq, -⟩
      obtain ⟨rfl, rfl⟩ := List.cons.inj heq
      refine ⟨good.length, by simp, hstray, fun k hk hs => ?_⟩
      have := h.le_of_isStrayEnd hs
      omega
  | @openBegin b rest hb ho =>
    refine ⟨fun ⟨i, hi⟩ => ?_, ?_⟩
    · exact absurd hi.isStrayEnd ((h.staysOpen_append_openBegin hb ho).not_isStrayEnd i)
    · rintro ⟨_, heq, he⟩
      obtain ⟨rfl, rfl⟩ := List.cons.inj heq
      rw [hb] at he
      cases he

/-! ## Loop begins without a loop end -/

/-- Behind a loop begin that is never closed the depth does not come down again. -/
lemma Balanced.one_le_depth {k : ℕ} (h : Balanced good) (hb : b.symbol = .loopBegin)
    (ho : StaysOpen 0 rest) (hk : good.length < k) :
    1 ≤ depth ((good ++ b :: rest).take k) := by
  obtain ⟨n, rfl⟩ : ∃ n, k = good.length + (n + 1) := ⟨k - good.length - 1, by omega⟩
  have := ho n
  rw [List.take_length_add_append, List.take_succ_cons, depth_append, depth_cons_begin hb,
    h.depth_eq_zero]
  omega

/-- In a balanced list no loop begin is open. -/
lemma Balanced.not_isFirstOpenBegin (h : Balanced ops) : ¬IsFirstOpenBegin ops i op := by
  intro hi
  obtain ⟨j, hj⟩ := h.exists_matches (i := i) (by rw [hi.getElem?_eq]; simp [hi.loopBegin])
  exact hi.isOpen j hj

/-- The first open loop begin is the one at which the list is blocked. -/
lemma Balanced.exists_isFirstOpenBegin_iff (h : Balanced good) (hb : b.symbol = .loopBegin)
    (ho : StaysOpen 0 rest) :
    (∃ i, IsFirstOpenBegin (good ++ b :: rest) i op) ↔ op = b := by
  have hopen : ∀ j, ¬Matches (good ++ b :: rest) good.length j := by
    intro j hj
    have hlow := h.one_le_depth hb ho (Nat.lt_succ_of_lt hj.lt)
    rw [hj.depth_succ_eq, List.take_left, h.depth_eq_zero] at hlow
    omega
  have hclosed : ∀ k < good.length,
      (good ++ b :: rest)[k]?.map Operation.symbol = some .loopBegin →
        ∃ j, Matches (good ++ b :: rest) k j := by
    intro k hk hkb
    rw [List.getElem?_append_left hk] at hkb
    obtain ⟨j, hj⟩ := h.exists_matches hkb
    exact ⟨j, hj.append_right _⟩
  constructor
  · rintro ⟨i, hi⟩
    have hle : ¬i < good.length := by
      intro hlt
      obtain ⟨j, hj⟩ := hclosed i hlt (by rw [hi.getElem?_eq]; simp [hi.loopBegin])
      exact hi.isOpen j hj
    have hge : ¬good.length < i := by
      intro hlt
      obtain ⟨j, hj⟩ := hi.first good.length hlt (by simp [hb])
      exact hopen j hj
    obtain rfl : i = good.length := by omega
    have := hi.getElem?_eq
    simpa [eq_comm] using this
  · rintro rfl
    exact ⟨good.length, by simp, hb, hopen, hclosed⟩

/-! ## Loops that nest too deeply -/

/-- An outermost loop stays one behind a balanced list. -/
lemma IsOuterSpan.append_left (h : IsOuterSpan ys i j) (hx : Balanced xs) :
    IsOuterSpan (xs ++ ys) (xs.length + i) (xs.length + j) := by
  refine ⟨h.isMatch.append_left xs, ?_⟩
  rw [List.take_length_add_append, depth_append, hx.depth_eq_zero, h.depth_eq_zero, Int.add_zero]

/-- An outermost loop stays one in front of any list. -/
lemma IsOuterSpan.append_right (h : IsOuterSpan xs i j) (ys : List Operation) :
    IsOuterSpan (xs ++ ys) i j := by
  refine ⟨h.isMatch.append_right ys, ?_⟩
  have := h.isMatch.lt
  have := h.isMatch.lt_length
  rw [List.take_append_of_le_length (by omega)]
  exact h.depth_eq_zero

/-- An outermost loop fits within a limit if the list does so up to the loop end. -/
lemma IsOuterSpan.fitsWithin (h : IsOuterSpan ops i j) (hf : FitsWithin d (ops.take (j + 1))) :
    FitsWithin d ((ops.take (j + 1)).drop i) := by
  intro n hn hne
  have hlt : i + n < (ops.take (j + 1)).length := by
    rw [List.length_drop] at hn
    omega
  have hle : i ≤ j + 1 := Nat.le_succ_of_le (Nat.le_of_lt h.isMatch.lt)
  have hstart : (ops.take (j + 1)).take i = ops.take i := by
    rw [List.take_take, Nat.min_eq_left hle]
  have hlow := hf (i + n) hlt (by rwa [List.getElem_drop] at hne)
  rwa [List.take_add, depth_append, hstart, h.depth_eq_zero, Int.zero_add] at hlow

/-- In an outermost loop no more loops are nested than in the list up to the loop end. -/
lemma IsOuterSpan.nestsWithin (h : IsOuterSpan ops i j) (hn : NestsWithin d (ops.take (j + 1))) :
    NestsWithin d ((ops.take (j + 1)).drop i) := by
  intro n
  have hle : i ≤ j + 1 := Nat.le_succ_of_le (Nat.le_of_lt h.isMatch.lt)
  have hstart : (ops.take (j + 1)).take i = ops.take i := by
    rw [List.take_take, Nat.min_eq_left hle]
  have hlow := hn (i + n)
  rwa [List.take_add, depth_append, hstart, h.depth_eq_zero, Int.zero_add] at hlow

/-- In a balanced list that does not fit within a limit, an outermost loop does not.

**Proof sketch.** Induction on the spelling. Either the first loop does not fit within the limit or
what follows it does not. -/
lemma Spells.exists_isOuterSpan (h : Spells ops nodes) (hpos : 0 < d) (hn : ¬FitsWithin d ops) :
    ∃ i j, IsOuterSpan ops i j ∧ ¬FitsWithin d ((ops.take (j + 1)).drop i) := by
  induction h with
  | nil => exact absurd fitsWithin_nil hn
  | @command op c ops nodes hop rest ih =>
    have hop' : Balanced [op] := (balanced_cons_command hop).2 balanced_nil
    obtain ⟨i, j, hs, hd⟩ := ih fun hf => hn ((fitsWithin_cons_command hop).2 ⟨hpos, hf⟩)
    exact ⟨_, _, hs.append_left hop', by simpa [Nat.add_comm 1] using hd⟩
  | @loop b e body ops inner nodes hb he inside rest _ ih =>
    have hcut : b :: (body ++ e :: ops) = (b :: (body ++ [e])) ++ ops := by simp
    have hloop : Balanced (b :: (body ++ [e])) :=
      (balanced_loop_iff inside.balanced hb he).2 (by simp)
    by_cases hfirst : FitsWithin d (b :: (body ++ [e]))
    · have hrest : ¬FitsWithin d ops := by
        rw [hcut, hloop.fitsWithin_append_iff] at hn
        exact fun h => hn ⟨hfirst, h⟩
      obtain ⟨i, j, hs, hd⟩ := ih hrest
      rw [hcut]
      refine ⟨_, _, hs.append_left hloop, ?_⟩
      rwa [Nat.add_assoc, List.take_length_add_append, List.drop_length_add_append]
    · refine ⟨0, body.length + 1, ⟨?_, by simp⟩, ?_⟩
      · simpa [Nat.add_comm] using matches_of_balanced hb he inside.balanced [] ops
      · have hlen : (b :: (body ++ [e])).length = body.length + 1 + 1 := by simp
        rwa [hcut, List.drop_zero, List.take_left' hlen]

/-- Some closed span does not fit within a limit exactly if the list does not in front of the point
where it is blocked.

**Proof sketch.** A closed span ends in front of that point: behind a stray loop end it would not be
closed in time, and behind an open loop begin the depth does not come down to zero again. -/
lemma Spells.hasDeepSpan_append_iff (h : Spells good nodes) (ht : Blocked tail) (hpos : 0 < d) :
    HasDeepSpan d (good ++ tail) ↔ ¬FitsWithin d good := by
  constructor
  · rintro ⟨i, j, hs, hd⟩ hn
    have hj : j < good.length := by
      cases ht with
      | nil =>
        obtain ⟨e, he, -⟩ := Option.map_eq_some_iff.1 hs.isMatch.loopEnd
        simpa using (List.getElem?_eq_some_iff.1 he).1
      | strayEnd he => exact hs.closed _ (h.balanced.isStrayEnd_append he)
      | openBegin hb ho =>
        refine Nat.lt_of_not_le fun hle => ?_
        have hlow := h.balanced.one_le_depth hb ho (Nat.lt_succ_of_le hle)
        rw [hs.isMatch.depth_succ_eq, hs.depth_eq_zero] at hlow
        omega
    refine hd (hs.fitsWithin ?_)
    rw [List.take_append_of_le_length hj]
    exact hn.take (j + 1)
  · intro hn
    obtain ⟨i, j, hs, hd⟩ := h.exists_isOuterSpan hpos hn
    have hj := hs.isMatch.lt_length
    refine ⟨i, j, ⟨hs.append_right tail, fun k hk => ?_⟩, ?_⟩
    · have := h.balanced.le_of_isStrayEnd hk
      omega
    · rwa [List.take_append_of_le_length hj]

/-! ## The fault that is reported -/

/-- What is no higher than the limit is parsed up to the point where the list is blocked, and there
a loop end is unmatched, or else a loop begin. -/
lemma Spells.parse_append_blocked (h : Spells good nodes) (hn : height nodes ≤ host.height)
    (ht : Blocked tail) :
    parse host (good ++ tail) = match tail with
      | [] => .ok ⟨.start, nodes⟩
      | op :: _ =>
        if op.symbol = .loopEnd then .error (.unmatchedEnd op)
        else .error (.unmatchedBegin op) := by
  rw [parse, parseSpan_append h hn]
  cases ht with
  | nil => simp [parseSpan, Except.map, bind, Except.bind, pure, Except.pure]
  | strayEnd he =>
    rw [parseSpan_cons_end he]
    simp [he, Except.map, bind, Except.bind]
  | openBegin hb ho =>
    rw [parseSpan_cons_openBegin hb (splitLoop_eq_none_iff.2 ho)]
    simp [hb, Except.map, bind, Except.bind]

/-- What is higher than the limit is not parsed, whatever follows. -/
lemma Spells.parse_append_tooDeep (h : Spells good nodes) (hn : ¬height nodes ≤ host.height)
    (tail : List Operation) :
    ∃ b, firstBegin? (good ++ tail) = some b ∧
      parse host (good ++ tail) = .error (.tooDeep b) := by
  obtain ⟨b, hfirst, herr⟩ := parseSpan_append_tooDeep h (Nat.lt_of_not_le hn) none tail
  have hb : firstBegin? good = some b := hfirst (.inl host.height_pos)
  refine ⟨b, ?_, by rw [parse, herr]; rfl⟩
  rw [firstBegin?, List.find?_append, ← firstBegin?, hb, Option.some_or]

/-- **Exactly one fault of a list is reported.** If in a closed span a command or a loop begin
stands inside of more loops than the host has room for, the error carries the first loop begin of
the list; otherwise, if there is a stray loop end, the first of these; otherwise the first loop
begin that no loop end matches. The text of an error shows the position and the offset of the
operation that it carries. The host has room for 801 loops inside of each other, and not for 1100.

**Proof sketch.** The list is cut where it is blocked. Some closed span is too high exactly if what
is in front of the cut is, and then parsing fails there. Otherwise parsing comes to the cut, and the
operation behind it is the first stray loop end or the first open loop begin. -/
theorem parse_eq_error_iff (host : Host) :
    (802 ≤ host.height ∧ host.height < 1100) ∧
      (∀ (ops : List Operation) (op : Operation),
        (parse host ops = .error (.tooDeep op) ↔
          HasDeepSpan host.height ops ∧ firstBegin? ops = some op) ∧
        (parse host ops = .error (.unmatchedEnd op) ↔
          ¬HasDeepSpan host.height ops ∧ ∃ i, IsFirstStrayEnd ops i op) ∧
        (parse host ops = .error (.unmatchedBegin op) ↔
          ¬HasDeepSpan host.height ops ∧ (¬∃ i e, IsFirstStrayEnd ops i e) ∧
            ∃ i, IsFirstOpenBegin ops i op)) ∧
      ∀ op : Operation,
        (ParseError.tooDeep op).message = "Parse error at " ++ op.position.text ++ ": " ++
          ("Loops starting at #" ++ toString op.offset ++ " are nested too deeply") ∧
        (ParseError.unmatchedEnd op).message = "Parse error at " ++ op.position.text ++ ": " ++
          ("Loop ending at #" ++ toString op.offset ++ " has no beginning") ∧
        (ParseError.unmatchedBegin op).message = "Parse error at " ++ op.position.text ++ ": " ++
          ("Loop that starts at #" ++ toString op.offset ++ " has no matching ending!") := by
  refine ⟨host.height_bounds, fun ops op => ?_, fun op => ⟨rfl, rfl, rfl⟩⟩
  obtain ⟨good, nodes, tail, rfl, hg, ht⟩ := exists_spells_append_blocked ops
  have hdeep : HasDeepSpan host.height (good ++ tail) ↔ ¬height nodes ≤ host.height := by
    rw [hg.hasDeepSpan_append_iff ht host.height_pos, hg.fitsWithin_iff]
  have hstray : (∃ i e, IsFirstStrayEnd (good ++ tail) i e) ↔
      ∃ e rest, tail = e :: rest ∧ e.symbol = .loopEnd := by
    rw [exists_comm]
    exact exists_congr fun e => hg.balanced.exists_isFirstStrayEnd_iff ht
  rw [hdeep, hstray, hg.balanced.exists_isFirstStrayEnd_iff ht]
  by_cases hn : height nodes ≤ host.height
  · rw [hg.parse_append_blocked hn ht]
    cases ht with
    | nil => simp [hn, hg.balanced.not_isFirstOpenBegin]
    | @strayEnd e rest he =>
      have hop : e = op → op.symbol = .loopEnd := fun h => h ▸ he
      simpa [hn, he] using hop
    | @openBegin b rest hb ho =>
      rw [hg.balanced.exists_isFirstOpenBegin_iff hb ho]
      have hop : b = op → op.symbol ≠ .loopEnd := fun h => by simp [← h, hb]
      simpa [hn, hb, eq_comm] using hop
  · obtain ⟨b, hfirst, herr⟩ := hg.parse_append_tooDeep hn tail
    simp [herr, hfirst, hn]

/-- A nest in front of other operations is a closed span, from its first operation to its last. -/
lemma isClosedSpan_nest {k : ℕ} (h : Spells ops nodes) (tail : List Operation) :
    IsClosedSpan (nestOperations (k + 1) ops ++ tail) 0 ((nestOperations k ops).length + 1) ∧
      ((nestOperations (k + 1) ops ++ tail).take ((nestOperations k ops).length + 1 + 1)).drop 0 =
        nestOperations (k + 1) ops := by
  have hlength : (nestOperations (k + 1) ops).length = (nestOperations k ops).length + 1 + 1 := by
    simp [nestOperations]
  have hmatch : Matches (nestOperations (k + 1) ops) 0 ((nestOperations k ops).length + 1) := by
    have hloop := matches_of_balanced (b := ⟨.loopBegin, 0, .start⟩) (e := ⟨.loopEnd, 0, .start⟩)
      rfl rfl (h.nest k).balanced [] []
    simpa [nestOperations, Nat.add_comm] using hloop
  refine ⟨⟨⟨hmatch.append_right tail, by simp⟩, fun i hi => ?_⟩, ?_⟩
  · have hle := (h.nest (k + 1)).balanced.le_of_isStrayEnd hi
    omega
  · rw [List.drop_zero, ← hlength, List.take_left]

/-- Behind loops that nest as deeply a stray loop end is reported with nothing in the innermost, and
not with a command. So no number of loops makes a span too deep. -/
theorem not_exists_fault_limit :
    ¬∃ limit, ∀ ops, (∃ op, parse .usual ops = .error (.tooDeep op)) ↔
      ∃ i j, IsClosedSpan ops i j ∧ ¬NestsWithin limit ((ops.take (j + 1)).drop i) := by
  rintro ⟨limit, hlimit⟩
  let stray : Operation := ⟨.loopEnd, 0, .start⟩
  have hblocked : Blocked [stray] := .strayEnd rfl
  have hempty := spells_nest_nil 996
  have hfull := spells_nest_command .decrement 996
  have hle : 996 ≤ limit := by
    have hparse : parse .usual (nestOperations 996 [] ++ [stray]) = .error (.unmatchedEnd stray) :=
      hempty.parse_append_blocked height_nest_nil_le hblocked
    obtain ⟨hspan, hwhole⟩ := isClosedSpan_nest (k := 995) .nil [stray]
    refine Nat.le_of_not_lt fun hlt => ?_
    have hdeep : ¬NestsWithin limit (nestOperations 996 []) := by
      rw [hempty.nestsWithin_iff, nesting_nest, nesting_nil, Nat.zero_add]
      exact Nat.not_le_of_lt hlt
    obtain ⟨op, hop⟩ := (hlimit _).2 ⟨_, _, hspan, hwhole.symm ▸ hdeep⟩
    cases hparse.symm.trans hop
  obtain ⟨b, -, herr⟩ :=
    hfull.parse_append_tooDeep (not_height_nest_command_le .decrement) [stray]
  obtain ⟨i, j, hspan, hdeep⟩ := (hlimit _).1 ⟨b, herr⟩
  refine hdeep (hspan.nestsWithin fun n => ?_)
  have hnests : NestsWithin limit
      (nestOperations 996 [⟨.command .decrement, 0, .start⟩] ++ [stray]) := by
    rw [hfull.balanced.nestsWithin_append_iff, hfull.nestsWithin_iff, nesting_nest,
      nestsWithin_cons_end rfl]
    exact ⟨hle, nestsWithin_nil⟩
  rw [List.take_take]
  exact hnests _

end TapeLang
