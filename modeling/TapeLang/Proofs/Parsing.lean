import TapeLang.Proofs.Nests

set_option autoImplicit false

/-!
# What is parsed, and to which tree

Parsing goes through the part of a list that spells some nodes and ends where the list is blocked.
The nodes of the first part are its result if nothing is left; otherwise the first operation of what
is left is at fault. A node in the first part inside of too many loops comes before both.

## Main definitions

* `TapeLang.firstBegin?` — the first loop begin of a list.

## Main results

* `TapeLang.parseSpan_append`, `TapeLang.parseSpan_append_tooDeep` — parsing goes through a
  spelling, unless it is too high.
* `TapeLang.parse_eq_ok_iff` — a program is parsed from exactly the lists that spell it, if it is
  not too high.
* `TapeLang.parse_lossless` — parsing accepts the balanced lists that fit within the limit and
  loses nothing but offsets and positions of loop ends.
* `TapeLang.not_exists_parse_limit` — the limit is none of loops alone.
-/

namespace TapeLang

/-- The first loop begin of a list, if there is one. -/
def firstBegin? (ops : List Operation) : Option Operation :=
  ops.find? fun op => op.symbol = .loopBegin

variable {op b e : Operation} {first : Option Operation} {ops body rest xs ys : List Operation}
  {nodes inner : List Node} {d : ℕ}

/-! ## One step of parsing -/

/-- A command is a node, if there is a level for it. -/
lemma parseSpan_cons_command {c : Command} (h : op.symbol = .command c) (hd : 0 < d) :
    parseSpan d first (op :: ops) =
      (parseSpan d first ops).map fun nodes => .command c op.position :: nodes := by
  obtain ⟨d, rfl⟩ := Nat.exists_eq_add_one.2 hd
  rw [parseSpan, h]
  dsimp only
  cases parseSpan (d + 1) first ops <;> rfl

/-- A command is a fault where there is no level for it. -/
lemma parseSpan_zero_command {c : Command} (h : op.symbol = .command c) :
    parseSpan 0 first (op :: ops) = .error (.tooDeep (first.getD op)) := by
  rw [parseSpan, h]

/-- A loop end that is met outside of a loop is a fault. -/
lemma parseSpan_cons_end (h : e.symbol = .loopEnd) :
    parseSpan d first (e :: ops) = .error (.unmatchedEnd e) := by
  rw [parseSpan, h]

/-- A loop begin that is never closed is a fault. -/
lemma parseSpan_cons_openBegin (h : b.symbol = .loopBegin) (hs : splitLoop 0 ops = none) :
    parseSpan d first (b :: ops) = .error (.unmatchedBegin b) := by
  rw [parseSpan, h]
  dsimp only
  split
  · rfl
  · rename_i hs'
    rw [hs] at hs'
    cases hs'

/-- A loop is a fault where there is no level for it. -/
lemma parseSpan_zero_loop (h : b.symbol = .loopBegin)
    (hs : splitLoop 0 ops = some (body, e, rest)) :
    parseSpan 0 first (b :: ops) = .error (.tooDeep (first.getD b)) := by
  rw [parseSpan, h]
  dsimp only
  split
  · rename_i hs'
    rw [hs] at hs'
    cases hs'
  · rfl

/-- A loop is a node if its body is parsed with one level less. -/
lemma parseSpan_succ_loop (h : b.symbol = .loopBegin)
    (hs : splitLoop 0 ops = some (body, e, rest)) :
    parseSpan (d + 1) first (b :: ops) =
      (parseSpan d (some (first.getD b)) body).bind fun inner =>
        (parseSpan (d + 1) (some (first.getD b)) rest).map fun nodes =>
          .loop b.position inner :: nodes := by
  rw [parseSpan, h]
  dsimp only
  split
  · rename_i hs'
    rw [hs] at hs'
    cases hs'
  · rename_i hs'
    rw [hs] at hs'
    cases hs'
    cases parseSpan d (some (first.getD b)) body with
    | error err => rfl
    | ok inner => cases parseSpan (d + 1) (some (first.getD b)) rest <;> rfl

/-! ## Through a spelling -/

@[simp] lemma firstBegin?_nil : firstBegin? [] = none := rfl

lemma firstBegin?_cons_begin (h : b.symbol = .loopBegin) : firstBegin? (b :: ops) = some b := by
  simp [firstBegin?, h]

lemma firstBegin?_cons_command {c : Command} (h : op.symbol = .command c) :
    firstBegin? (op :: ops) = firstBegin? ops := by
  simp [firstBegin?, h]

/-- Where a first loop begin was met, a later one does not replace it. -/
private lemma or_some_eq (first : Option Operation) (b : Operation) :
    first.or (some b) = some (first.getD b) := by
  cases first <;> rfl

/-- Parsing goes through the spelling of nodes that are no higher than the limit, and remembers the
first loop begin that it meets. -/
lemma parseSpan_append (h : Spells xs nodes) (hn : height nodes ≤ d) (first : Option Operation)
    (ys : List Operation) :
    parseSpan d first (xs ++ ys) =
      (parseSpan d (first.or (firstBegin? xs)) ys).map (nodes ++ ·) := by
  induction h generalizing d first ys with
  | nil => cases h : parseSpan d first ys <;> simp [Except.map, h]
  | @command op c ops nodes hop _ ih =>
    obtain ⟨hd, hrest⟩ := height_cons_command_le_iff.1 hn
    rw [List.cons_append, parseSpan_cons_command hop hd, ih hrest, firstBegin?_cons_command hop]
    cases parseSpan d (first.or (firstBegin? ops)) ys <;> rfl
  | @loop b e body ops inner nodes hb he inside _ ihi ih =>
    obtain ⟨d, rfl⟩ : ∃ m, d = m + 1 := ⟨d - 1, by rw [height_cons_loop] at hn; omega⟩
    obtain ⟨hbody, hrest⟩ := height_cons_loop_le_iff.1 hn
    have hin : parseSpan d (some (first.getD b)) body = .ok inner := by
      have := ihi hbody (some (first.getD b)) []
      simpa [parseSpan, Except.map] using this
    rw [List.cons_append, List.append_assoc, List.cons_append,
      parseSpan_succ_loop hb (inside.splitLoop_eq_some he), hin, ih hrest,
      firstBegin?_cons_begin hb, or_some_eq, Option.some_or]
    cases parseSpan (d + 1) (some (first.getD b)) ys <;> rfl

/-- The spelling of nodes that are no higher than the limit is parsed to these nodes. -/
lemma parseSpan_eq_ok (h : Spells ops nodes) (hn : height nodes ≤ d) (first : Option Operation) :
    parseSpan d first ops = .ok nodes := by
  have := parseSpan_append h hn first []
  simpa [parseSpan, Except.map] using this

/-- Parsing does not go through the spelling of nodes that are higher than the limit. The error
carries the first loop begin that was met, unless there is no level at all and none was met.

**Proof sketch.** Induction on the spelling. A loop is parsed before what follows it, and its body
before the loop is done, so an error of the body is the error of all. -/
lemma parseSpan_append_tooDeep (h : Spells xs nodes) (hn : d < height nodes)
    (first : Option Operation) (ys : List Operation) :
    ∃ b, (0 < d ∨ first.isSome → first.or (firstBegin? xs) = some b) ∧
      parseSpan d first (xs ++ ys) = .error (.tooDeep b) := by
  induction h generalizing d first ys with
  | nil => simp at hn
  | @command op c ops nodes hop _ ih =>
    rw [firstBegin?_cons_command hop, List.cons_append]
    rcases Nat.eq_zero_or_pos d with rfl | hd
    · refine ⟨first.getD op, fun hfirst => ?_, parseSpan_zero_command hop⟩
      obtain ⟨b, rfl⟩ := Option.isSome_iff_exists.1 (hfirst.resolve_left (Nat.lt_irrefl 0))
      rfl
    · have hrest : d < height nodes := by
        rw [height_cons_command] at hn
        omega
      obtain ⟨b, hf, he⟩ := ih hrest first ys
      refine ⟨b, hf, ?_⟩
      rw [parseSpan_cons_command hop hd, he]
      rfl
  | @loop b e body ops inner nodes hb he inside _ ihi ih =>
    refine ⟨first.getD b, fun _ => by rw [firstBegin?_cons_begin hb, or_some_eq], ?_⟩
    have hs : splitLoop 0 (body ++ e :: (ops ++ ys)) = some (body, e, ops ++ ys) :=
      inside.splitLoop_eq_some he
    rw [List.cons_append, List.append_assoc, List.cons_append]
    cases d with
    | zero => exact parseSpan_zero_loop hb hs
    | succ d =>
      rw [parseSpan_succ_loop hb hs]
      by_cases hi : d < height inner
      · -- the body is at fault
        obtain ⟨_, hsome, herr⟩ := ihi hi (some (first.getD b)) []
        obtain rfl := Option.some.inj (hsome (.inr rfl))
        rw [List.append_nil] at herr
        rw [herr]
        rfl
      · -- what follows the loop is at fault
        have hin := parseSpan_eq_ok inside (Nat.le_of_not_lt hi) (some (first.getD b))
        rw [height_cons_loop] at hn
        obtain ⟨_, hsome, herr⟩ := ih (d := d + 1) (by omega) (some (first.getD b)) ys
        obtain rfl := Option.some.inj (hsome (.inr rfl))
        rw [hin, herr]
        rfl

/-! ## Whole programs -/

/-- What is left where a list is blocked is parsed only if it is empty. -/
lemma Blocked.parseSpan_eq_ok_iff (h : Blocked ops) (first : Option Operation) :
    parseSpan d first ops = .ok nodes ↔ ops = [] ∧ nodes = [] := by
  cases h with
  | nil => simp [parseSpan, eq_comm]
  | strayEnd he => simp [parseSpan_cons_end he]
  | openBegin hb ho => simp [parseSpan_cons_openBegin hb (splitLoop_eq_none_iff.2 ho)]

/-- A list is parsed to the nodes that it spells, if they are no higher than the limit. -/
lemma parseSpan_eq_ok_iff (first : Option Operation) :
    parseSpan d first ops = .ok nodes ↔ Spells ops nodes ∧ height nodes ≤ d := by
  refine ⟨fun h => ?_, fun ⟨h, hn⟩ => parseSpan_eq_ok h hn first⟩
  obtain ⟨good, ms, tail, rfl, hg, ht⟩ := exists_spells_append_blocked ops
  by_cases hn : d < height ms
  · obtain ⟨b, -, herr⟩ := parseSpan_append_tooDeep hg hn first tail
    rw [herr] at h
    cases h
  · rw [parseSpan_append hg (Nat.le_of_not_lt hn)] at h
    cases hp : parseSpan d (first.or (firstBegin? good)) tail with
    | error err =>
      rw [hp] at h
      cases h
    | ok left =>
      rw [hp] at h
      obtain ⟨rfl, rfl⟩ := (ht.parseSpan_eq_ok_iff _).1 hp
      cases h
      simpa using ⟨hg, Nat.le_of_not_lt hn⟩

variable {host : Host}

/-- A host has room for one level at least. -/
lemma Host.height_pos (host : Host) : 0 < host.height :=
  Nat.lt_of_lt_of_le (by decide) host.height_bounds.1

/-- **A program is parsed from exactly the lists that spell it**, if the host has room for its
height and its root stands at the start of the text. -/
lemma parse_eq_ok_iff {p : Program} :
    parse host ops = .ok p ↔
      Spells ops p.body ∧ height p.body ≤ host.height ∧ p.root = .start := by
  obtain ⟨root, body⟩ := p
  rw [← and_assoc, ← parseSpan_eq_ok_iff none, parse]
  cases parseSpan host.height none ops with
  | error err => simp [bind, Except.bind]
  | ok nodes => simp [bind, Except.bind, pure, Except.pure, eq_comm, and_comm]

/-- Loops that nest 801 deep are parsed. -/
lemma Spells.parse_eq_ok (h : Spells ops nodes) (hn : nesting nodes ≤ 801) :
    parse host ops = .ok ⟨.start, nodes⟩ := by
  have hheight : height nodes ≤ 802 := Nat.le_trans h.height_le.2 (Nat.succ_le_succ hn)
  exact parse_eq_ok_iff.2 ⟨h, Nat.le_trans hheight host.height_bounds.1, rfl⟩

/-- The lists that are parsed are those that are balanced and fit within the limit. -/
lemma exists_parse_eq_ok_iff :
    (∃ p, parse host ops = .ok p) ↔ Balanced ops ∧ FitsWithin host.height ops := by
  constructor
  · rintro ⟨p, hp⟩
    obtain ⟨hs, hn, -⟩ := parse_eq_ok_iff.1 hp
    exact ⟨hs.balanced, hs.fitsWithin_iff.2 hn⟩
  · rintro ⟨hb, hn⟩
    obtain ⟨nodes, hs⟩ := exists_spells_iff_balanced.2 hb
    exact ⟨⟨.start, nodes⟩, parse_eq_ok_iff.2 ⟨hs, hs.fitsWithin_iff.1 hn, rfl⟩⟩

/-- **Parsing accepts exactly the balanced lists in which nodes stand inside of no more loops than
the host has room for, and loses nothing.** The program has the marks of the operations, which leave
out only the offsets and the positions of loop ends, and every plain tree within the limit is the
program of every list with its marks. A command takes a level of its own in the innermost loop, so
what nests one level less than the limit is accepted, and what nests deeper than the limit is not.
The limit allows 801 loops inside of each other, and not 1100. -/
theorem parse_lossless (host : Host) :
    (802 ≤ host.height ∧ host.height < 1100) ∧
      (∀ ops, (∃ p, parse host ops = .ok p) ↔ Balanced ops ∧ FitsWithin host.height ops) ∧
      (∀ ops, (NestsWithin (host.height - 1) ops → FitsWithin host.height ops) ∧
        (FitsWithin host.height ops → NestsWithin host.height ops)) ∧
      ∀ ops root body, parse host ops = .ok ⟨root, body⟩ ↔
        ops.map Operation.mark = marks body ∧ isPlain body = true ∧ height body ≤ host.height ∧
          root = ⟨1, 1⟩ := by
  refine ⟨host.height_bounds, fun ops => exists_parse_eq_ok_iff,
    fun ops => ⟨fun h => ?_, FitsWithin.nestsWithin⟩, fun ops root body => ?_⟩
  · have hpos : host.height - 1 + 1 = host.height := Nat.sub_add_cancel host.height_pos
    exact hpos ▸ h.fitsWithin
  · rw [parse_eq_ok_iff, spells_iff]
    exact ⟨fun ⟨⟨hp, hm⟩, hn, hr⟩ => ⟨hm, hp, hn, hr⟩, fun ⟨hm, hp, hn, hr⟩ => ⟨⟨hp, hm⟩, hn, hr⟩⟩

/-- In the usual host there is room for 996 loops inside of each other with nothing in them. -/
lemma height_nest_nil_le : height (nest 996 []) ≤ Host.usual.height := by
  rw [height_nest]
  decide

/-- There is no room for as many loops with a command in them. -/
lemma not_height_nest_command_le (c : Command) :
    ¬height (nest 996 [.command c .start]) ≤ Host.usual.height := by
  rw [height_nest, height_cons_command, height_nil]
  decide

/-- Loops that nest as deeply are accepted with nothing in the innermost, and not with a command. So
no number of loops is the limit. -/
theorem not_exists_parse_limit :
    ¬∃ limit, ∀ ops, (∃ p, parse .usual ops = .ok p) ↔ Balanced ops ∧ NestsWithin limit ops := by
  rintro ⟨limit, hlimit⟩
  have hempty := spells_nest_nil 996
  have hfull := spells_nest_command .decrement 996
  have hle : 996 ≤ limit := by
    have hfits := hempty.fitsWithin_iff.2 height_nest_nil_le
    have hparse := exists_parse_eq_ok_iff.2 ⟨hempty.balanced, hfits⟩
    have hnests := hempty.nestsWithin_iff.1 ((hlimit _).1 hparse).2
    rwa [nesting_nest, nesting_nil, Nat.zero_add] at hnests
  have hnests : NestsWithin limit (nestOperations 996 [⟨.command .decrement, 0, .start⟩]) := by
    rw [hfull.nestsWithin_iff, nesting_nest]
    exact hle
  have hfits := (exists_parse_eq_ok_iff.1 ((hlimit _).2 ⟨hfull.balanced, hnests⟩)).2
  exact not_height_nest_command_le .decrement (hfull.fitsWithin_iff.1 hfits)

end TapeLang
