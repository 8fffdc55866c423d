import TapeLang.Proofs.Spelling

set_option autoImplicit false

/-!
# Matching delimiters

A loop begin and a loop end match if what stands between them is balanced. Each delimiter matches
one other at most, so the partner of a delimiter can be looked up by its index.

## Main definitions

* `TapeLang.Matches` — the loop begin and the loop end at two indices match.
* `TapeLang.closing?`, `TapeLang.opening?` — the index of the partner of a delimiter.

## Main results

* `TapeLang.matches_iff` — where two delimiters match, a list is cut into five parts.
* `TapeLang.Matches.right_unique`, `TapeLang.Matches.left_unique` — partners are unique.
* `TapeLang.closing?_eq_some_iff`, `TapeLang.opening?_eq_some_iff` — partners are found.
* `TapeLang.Balanced.exists_matches` — in a balanced list every loop begin has its loop end.
-/

namespace TapeLang

/-- A loop begin at index `i` and a loop end at index `j` with balanced operations in between. -/
structure Matches (ops : List Operation) (i j : ℕ) : Prop where
  /-- The index of the loop begin comes first. -/
  lt : i < j
  /-- A loop begin stands at the first index. -/
  loopBegin : ops[i]?.map Operation.symbol = some .loopBegin
  /-- A loop end stands at the second index. -/
  loopEnd : ops[j]?.map Operation.symbol = some .loopEnd
  /-- What stands between them is balanced. -/
  between : Balanced ((ops.take j).drop (i + 1))

instance (ops : List Operation) (i j : ℕ) : Decidable (Matches ops i j) :=
  decidable_of_iff (i < j ∧ ops[i]?.map Operation.symbol = some .loopBegin ∧
      ops[j]?.map Operation.symbol = some .loopEnd ∧ Balanced ((ops.take j).drop (i + 1)))
    ⟨fun h => ⟨h.1, h.2.1, h.2.2.1, h.2.2.2⟩, fun h => ⟨h.lt, h.loopBegin, h.loopEnd, h.between⟩⟩

/-- The index of the loop end that matches the loop begin at index `i`. -/
def closing? (ops : List Operation) (i : ℕ) : Option ℕ :=
  (List.range ops.length).find? fun j => Matches ops i j

/-- The index of the loop begin that matches the loop end at index `j`. -/
def opening? (ops : List Operation) (j : ℕ) : Option ℕ :=
  (List.range j).find? fun i => Matches ops i j

variable {b e : Operation} {ops body pre post xs ys : List Operation} {i i' j j' : ℕ}

/-! ## Cutting a list at two delimiters -/

/-- A list is cut at one of its operations. -/
private lemma eq_take_append_cons_drop (h : ops[i]? = some b) :
    ops = ops.take i ++ b :: ops.drop (i + 1) := by
  obtain ⟨hi, rfl⟩ := List.getElem?_eq_some_iff.1 h
  rw [← List.drop_eq_getElem_cons hi, List.take_append_drop]

/-- Delimiters around a balanced list match. -/
lemma matches_of_balanced (hb : b.symbol = .loopBegin) (he : e.symbol = .loopEnd)
    (h : Balanced body) (pre post : List Operation) :
    Matches (pre ++ b :: (body ++ e :: post)) pre.length (pre.length + 1 + body.length) := by
  refine ⟨by omega, ?_, ?_, ?_⟩
  · simp [hb]
  · simp [Nat.add_assoc, Nat.add_comm 1, he]
  · have hcut : pre ++ b :: (body ++ e :: post) = (pre ++ [b] ++ body) ++ e :: post := by simp
    have hlen : (pre ++ [b]).length = pre.length + 1 := by simp
    rw [hcut, List.take_left' (by simp; omega), List.drop_left' hlen]
    exact h

/-- Where two delimiters match, a list is cut into what stands before, between and behind them. -/
lemma matches_iff :
    Matches ops i j ↔ ∃ pre b body e post, ops = pre ++ b :: (body ++ e :: post) ∧
      pre.length = i ∧ i + 1 + body.length = j ∧ b.symbol = .loopBegin ∧ e.symbol = .loopEnd ∧
        Balanced body := by
  constructor
  · rintro ⟨hlt, hb, he, h⟩
    simp only [Option.map_eq_some_iff] at hb he
    obtain ⟨b, hi, hb⟩ := hb
    obtain ⟨e, hj, he⟩ := he
    have hjl : j < ops.length := (List.getElem?_eq_some_iff.1 hj).1
    have hi' : (ops.take j)[i]? = some b := by rwa [List.getElem?_take_of_lt hlt]
    refine ⟨(ops.take j).take i, b, (ops.take j).drop (i + 1), e, ops.drop (j + 1), ?_, ?_, ?_, hb,
      he, h⟩
    · have hcut := eq_take_append_cons_drop hj
      rw [eq_take_append_cons_drop hi'] at hcut
      simpa using hcut
    · simp
      omega
    · simp
      omega
  · rintro ⟨pre, b, body, e, post, rfl, rfl, rfl, hb, he, h⟩
    exact matches_of_balanced hb he h pre post

/-- Both delimiters stand in the list. -/
lemma Matches.lt_length (h : Matches ops i j) : j < ops.length := by
  obtain ⟨e, he, -⟩ := Option.map_eq_some_iff.1 h.loopEnd
  exact (List.getElem?_eq_some_iff.1 he).1

/-- Delimiters match whatever follows. -/
lemma Matches.append_right (h : Matches xs i j) (ys : List Operation) : Matches (xs ++ ys) i j := by
  obtain ⟨pre, b, body, e, post, rfl, hi, hj, hb, he, hbal⟩ := matches_iff.1 h
  exact matches_iff.2 ⟨pre, b, body, e, post ++ ys, by simp, hi, hj, hb, he, hbal⟩

/-- Delimiters match whatever stands before them. -/
lemma Matches.append_left (h : Matches ys i j) (xs : List Operation) :
    Matches (xs ++ ys) (xs.length + i) (xs.length + j) := by
  obtain ⟨pre, b, body, e, post, rfl, hi, hj, hb, he, hbal⟩ := matches_iff.1 h
  exact matches_iff.2 ⟨xs ++ pre, b, body, e, post, by simp, by simp [hi], by omega, hb, he, hbal⟩

/-! ## The depth between matching delimiters -/

/-- The depth between matching delimiters is never lower than behind the loop begin. -/
lemma Matches.depth_le {n : ℕ} (h : Matches ops i j) (hi : i < n) (hj : n ≤ j) :
    depth (ops.take (i + 1)) ≤ depth (ops.take n) := by
  have hcut : ops.take n =
      ops.take (i + 1) ++ ((ops.take j).drop (i + 1)).take (n - (i + 1)) := by
    have hle : i + 1 ≤ j := h.lt
    have hadd := List.take_add (l := ops.take j) (i := i + 1) (j := n - (i + 1))
    rwa [List.take_take, List.take_take, Nat.add_sub_cancel' hi, Nat.min_eq_left hj,
      Nat.min_eq_left hle] at hadd
  have := h.between.staysOpen (n - (i + 1))
  rw [hcut, depth_append]
  omega

/-- The depth in front of the loop end is that behind the loop begin. -/
lemma Matches.depth_eq (h : Matches ops i j) :
    depth (ops.take j) = depth (ops.take (i + 1)) := by
  have hcut := List.take_append_drop (i + 1) (ops.take j)
  rw [List.take_take, Nat.min_eq_left h.lt] at hcut
  rw [← hcut, depth_append, h.between.depth_eq_zero, Int.add_zero]

/-- Behind a loop the depth is that in front of it. -/
lemma Matches.depth_succ_eq (h : Matches ops i j) :
    depth (ops.take (j + 1)) = depth (ops.take i) := by
  rw [depth_take_succ_end h.loopEnd, h.depth_eq, depth_take_succ_begin h.loopBegin]
  omega

/-! ## Partners -/

/-- A loop begin matches one loop end at most: behind the nearer one of two the depth is lower than
it may be in front of the farther one. -/
lemma Matches.right_unique (h : Matches ops i j) (h' : Matches ops i j') : j = j' := by
  have key : ∀ {m m'}, Matches ops i m → Matches ops i m' → ¬m < m' := by
    intro m m' hm hm' hlt
    have hlow := hm'.depth_le (n := m + 1) (by have := hm.lt; omega) hlt
    rw [depth_take_succ_end hm.loopEnd, hm.depth_eq] at hlow
    omega
  have := key h h'
  have := key h' h
  omega

/-- A loop end matches one loop begin at most: in front of the loop end the depth is that behind the
farther one of two, and it is higher behind the nearer one. -/
lemma Matches.left_unique (h : Matches ops i j) (h' : Matches ops i' j) : i = i' := by
  have key : ∀ {m m'}, Matches ops m j → Matches ops m' j → ¬m < m' := by
    intro m m' hm hm' hlt
    have hhigh := hm.depth_le (n := m') hlt (Nat.le_of_lt hm'.lt)
    have hsame := hm.depth_eq.symm.trans hm'.depth_eq
    rw [depth_take_succ_begin hm'.loopBegin] at hsame
    omega
  have := key h h'
  have := key h' h
  omega

/-- The loop end of a loop begin is found. -/
lemma closing?_eq_some_iff : closing? ops i = some j ↔ Matches ops i j := by
  rw [closing?, List.find?_range_eq_some]
  simp only [decide_eq_true_eq, List.mem_range, Bool.not_eq_true', decide_eq_false_iff_not]
  refine ⟨fun h => h.1, fun h => ⟨h, h.lt_length, fun k hk hm => ?_⟩⟩
  exact absurd (h.right_unique hm) (by omega)

/-- The loop begin of a loop end is found. -/
lemma opening?_eq_some_iff : opening? ops j = some i ↔ Matches ops i j := by
  rw [opening?, List.find?_range_eq_some]
  simp only [decide_eq_true_eq, List.mem_range, Bool.not_eq_true', decide_eq_false_iff_not]
  refine ⟨fun h => h.1, fun h => ⟨h, h.lt, fun k hk hm => ?_⟩⟩
  exact absurd (h.left_unique hm) (by omega)

/-- In a balanced list every loop begin has its loop end. -/
lemma Balanced.exists_matches (h : Balanced ops)
    (hi : ops[i]?.map Operation.symbol = some .loopBegin) : ∃ j, Matches ops i j := by
  obtain ⟨nodes, hs⟩ := exists_spells_iff_balanced.2 h
  clear h
  induction hs generalizing i with
  | nil => simp at hi
  | @command op c ops nodes hop _ ih =>
    cases i with
    | zero => simp [hop] at hi
    | succ i =>
      obtain ⟨j, hj⟩ := ih (i := i) (by simpa using hi)
      exact ⟨_, by simpa [Nat.add_comm] using hj.append_left [op]⟩
  | @loop b e body ops inner nodes hb he inside _ ihi ih =>
    have hloop := matches_of_balanced hb he inside.balanced [] ops
    cases i with
    | zero => exact ⟨_, by simpa using hloop⟩
    | succ i =>
      rw [List.getElem?_cons_succ] at hi
      rcases Nat.lt_trichotomy i body.length with hlt | rfl | hgt
      · -- the loop begin stands in the body
        rw [List.getElem?_append_left hlt] at hi
        obtain ⟨j, hj⟩ := ihi hi
        have := (hj.append_right (e :: ops)).append_left [b]
        exact ⟨_, by simpa [Nat.add_comm] using this⟩
      · simp [he] at hi
      · -- the loop begin stands behind the loop
        obtain ⟨k, rfl⟩ : ∃ k, i = body.length + 1 + k := ⟨i - (body.length + 1), by omega⟩
        rw [List.getElem?_append_right (by omega)] at hi
        obtain ⟨j, hj⟩ := ih (i := k) (by
          have : body.length + 1 + k - body.length = k + 1 := by omega
          simpa [this] using hi)
        have hcut : b :: (body ++ e :: ops) = (b :: (body ++ [e])) ++ ops := by simp
        have hidx : body.length + 1 + k + 1 = (b :: (body ++ [e])).length + k := by
          simp
          omega
        rw [hcut, hidx]
        exact ⟨_, hj.append_left _⟩

end TapeLang
