import TapeLang.Proofs.BigStep
import TapeLang.Proofs.Relocation

set_option autoImplicit false

/-!
# Two texts in a row

A text behind another one has its symbols at other places: on the last line of the first text they
are moved to the right, below it they are moved down. Where both are programs, the two in a row are
the program that has the nodes of the first and then those of the second, and running it is running
the first and then, unless that fails, the second.

## Main definitions

* `TapeLang.Position.locate` — the place of a character in a text that begins somewhere else.
* `TapeLang.State.ExecutesTo` — executing a program comes to an end with an outcome, where the
  counters go on.

## Main results

* `TapeLang.operationsFrom_locate` — the operations of a text that begins somewhere else.
* `TapeLang.parseText_append` — the program of two texts in a row.
* `TapeLang.runs_append_iff` — running nodes in a row.
* `TapeLang.executesTo_append` — executing two texts in a row.
-/

namespace TapeLang

/-- The place of a character in a text that begins at `origin`, where `p` is its place if the text
begins at the start. Only the first line of the text is moved to the right. -/
def Position.locate (origin p : Position) : Position :=
  if p.line = 1 then ⟨origin.line, origin.col + p.col - 1⟩ else ⟨origin.line + p.line - 1, p.col⟩

/-- Executing a program from a state, in which the counters go on, comes to an end with an
outcome. -/
def State.ExecutesTo (s : State) (host : Host) (p : Program) (o : Outcome) : Prop :=
  ∃ fuel, s.execute host fuel p = some o

variable {origin p : Position} {host : Host} {root : Position} {room : ℕ}
  {xs ys : List Node} {s : State} {o : Outcome}

/-! ## Places -/

/-- The start of a text stands where the text begins. -/
@[simp] lemma Position.locate_start (origin : Position) : origin.locate .start = origin := by
  have hfirst : start.line = 1 := rfl
  rw [locate, if_pos hfirst]
  show (⟨origin.line, origin.col + 1 - 1⟩ : Position) = origin
  rw [Int.add_sub_cancel]

/-- Where a text begins somewhere else, the next character stands behind the one before it too. -/
lemma Position.locate_next (h : 1 ≤ p.line) (c : Char) :
    origin.locate (p.next c) = (origin.locate p).next c := by
  unfold locate next
  by_cases hc : c = '\n'
  · rw [if_pos hc, if_pos hc, if_neg (by dsimp only; omega)]
    split
    · next hp =>
      show (⟨origin.line + (p.line + 1) - 1, 1⟩ : Position) = ⟨origin.line + 1, 1⟩
      rw [mk.injEq]
      omega
    · show (⟨origin.line + (p.line + 1) - 1, 1⟩ : Position) = ⟨origin.line + p.line - 1 + 1, 1⟩
      rw [mk.injEq]
      omega
  · rw [if_neg hc, if_neg hc]
    split
    · next hp =>
      show (⟨origin.line, origin.col + (p.col + 1) - 1⟩ : Position) =
        ⟨origin.line, origin.col + p.col - 1 + 1⟩
      rw [mk.injEq]
      omega
    · rfl

/-- No character stands above the one before it. -/
lemma Position.one_le_line_next (h : 1 ≤ p.line) (c : Char) : 1 ≤ (p.next c).line := by
  unfold next
  split
  · show 1 ≤ p.line + 1
    omega
  · exact h

/-- The operations of a text that begins somewhere else, behind a number of other symbols. -/
lemma operationsFrom_locate (origin : Position) (k : ℤ) (h : 1 ≤ p.line) (offset : ℤ)
    (text : List Char) :
    operationsFrom (origin.locate p) (k + offset) text =
      (operationsFrom p offset text).map fun op =>
        ⟨op.symbol, k + op.offset, origin.locate op.position⟩ := by
  induction text generalizing p offset with
  | nil => rfl
  | cons c cs ih =>
    have ih' := ih (p := p.next c) (Position.one_le_line_next h c)
    rw [Position.locate_next h] at ih'
    cases hc : Symbol.ofChar? c with
    | none =>
      simp only [operationsFrom, hc]
      exact ih' offset
    | some x =>
      simp only [operationsFrom, hc, List.map_cons, List.cons.injEq, true_and]
      rw [Int.add_assoc]
      exact ih' (offset + 1)

/-! ## Programs -/

/-- Two lists of operations in a row spell the nodes of the first and then those of the second. -/
lemma Spells.append {ops ops' : List Operation} (h : Spells ops xs) (h' : Spells ops' ys) :
    Spells (ops ++ ops') (xs ++ ys) := by
  induction h with
  | nil => exact h'
  | command hop _ ih => exact .command hop ih
  | loop hb he inside _ _ ih =>
    rw [List.cons_append, List.append_assoc, List.cons_append]
    exact .loop hb he inside ih

/-- **Two programs in a row are a program**: it has the nodes of the first and then those of the
second, which stand where the second text begins. -/
lemma parseText_append {a b : String} {p q : Program} (ha : parseText host a = .ok p)
    (hb : parseText host b = .ok q) :
    parseText host (a ++ b) =
      .ok ⟨.start, p.body ++ relocate (Position.start.after a.toList).locate q.body⟩ := by
  let origin := Position.start.after a.toList
  let g (op : Operation) : Operation :=
    ⟨op.symbol, (symbols a.toList).length + op.offset, origin.locate op.position⟩
  have hmoved : operationsFrom origin (0 + (symbols a.toList).length) b.toList =
      (operations b).map g := by
    have hlocate := operationsFrom_locate (p := .start) origin (symbols a.toList).length
      (Int.le_refl 1) 0 b.toList
    rw [Position.locate_start, Int.add_zero] at hlocate
    rw [Int.zero_add]
    exact hlocate
  have hops : operations (a ++ b) = operations a ++ (operations b).map g := by
    rw [operations, String.toList_append, operationsFrom_append, hmoved]
    rfl
  have hb' : parse host ((operations b).map g) = .ok (q.relocate origin.locate) := by
    have hs (op : Operation) : (g op).symbol = op.symbol := rfl
    have hp (op : Operation) : (g op).position = origin.locate op.position := rfl
    have hmap := parse_map hs hp host (operations b)
    rw [parseText] at hb
    rw [hmap, hb]
    rfl
  obtain ⟨hspells, hfits, -⟩ := parse_eq_ok_iff.1 ha
  obtain ⟨hspells', hfits', -⟩ := parse_eq_ok_iff.1 hb'
  rw [parseText, hops]
  refine parse_eq_ok_iff.2 ⟨hspells.append hspells', ?_, rfl⟩
  rw [height_append]
  exact Nat.max_le.2 ⟨hfits, hfits'⟩

/-! ## Runs -/

/-- A first part that runs to its end is followed by the rest. -/
lemma Runs.append {t : State} (h : Runs host root room xs s ⟨t, none⟩)
    (h' : Runs host root room ys t o) : Runs host root room (xs ++ ys) s o := by
  generalize hend : (⟨t, none⟩ : Outcome) = o₁ at h
  induction h with
  | nil =>
    cases hend
    exact h'
  | cutOff _ => cases hend
  | command hroom hok _ ih => exact .command hroom hok (ih h' hend)
  | fail _ herr =>
    rw [← hend] at herr
    cases herr
  | skip hroom hz _ ih => exact .skip hroom hz (ih h' hend)
  | again hroom hz hbody _ _ ih => exact .again hroom hz hbody (ih h' hend)
  | broken _ _ _ => cases hend
  | bare _ => cases hend
  | block _ => cases hend

/-- A first part that stops with an error is the end, whatever follows. -/
lemma Runs.append_of_error {e : RunError} (h : Runs host root room xs s o)
    (he : o.error = some e) (ys : List Node) : Runs host root room (xs ++ ys) s o := by
  induction h with
  | nil => cases he
  | cutOff hcut => exact .cutOff hcut
  | command hroom hok _ ih => exact .command hroom hok (ih he)
  | fail hroom herr => exact .fail hroom herr
  | skip hroom hz _ ih => exact .skip hroom hz (ih he)
  | again hroom hz hbody _ _ ih => exact .again hroom hz hbody (ih he)
  | broken hroom hz hbody => exact .broken hroom hz hbody
  | bare hroom => exact .bare hroom
  | block hroom => exact .block hroom

/-- **Running nodes in a row** is running the first part and then, unless that stops with an error,
the rest.

**Proof sketch.** Induction on the run of all. Where the first part is empty the rest is next;
otherwise the first node is one of the first part, and so is a loop that comes back to itself. -/
lemma runs_append_iff :
    Runs host root room (xs ++ ys) s o ↔
      (o.error ≠ none ∧ Runs host root room xs s o) ∨
        ∃ t, Runs host root room xs s ⟨t, none⟩ ∧ Runs host root room ys t o := by
  constructor
  · intro h
    cases xs with
    | nil => exact .inr ⟨s, .nil, h⟩
    | cons n xs =>
      generalize hall : n :: xs ++ ys = nodes at h
      induction h generalizing n xs with
      | nil => cases hall
      | cutOff hcut =>
        cases hall
        exact .inl ⟨Option.some_ne_none _, .cutOff hcut⟩
      | command hroom hok hrest ih =>
        cases hall
        rcases xs with _ | ⟨m, xs⟩
        · exact .inr ⟨_, .command hroom hok .nil, hrest⟩
        · rcases ih m xs rfl with ⟨herr, h⟩ | ⟨t, h, h'⟩
          · exact .inl ⟨herr, .command hroom hok h⟩
          · exact .inr ⟨t, .command hroom hok h, h'⟩
      | fail hroom herr =>
        cases hall
        refine .inl ⟨?_, .fail hroom herr⟩
        rw [herr]
        exact Option.some_ne_none _
      | skip hroom hz hrest ih =>
        cases hall
        rcases xs with _ | ⟨m, xs⟩
        · exact .inr ⟨_, .skip hroom hz .nil, hrest⟩
        · rcases ih m xs rfl with ⟨herr, h⟩ | ⟨t, h, h'⟩
          · exact .inl ⟨herr, .skip hroom hz h⟩
          · exact .inr ⟨t, .skip hroom hz h, h'⟩
      | again hroom hz hbody _ _ ih =>
        cases hall
        -- the loop that comes back to itself is the first node again
        rcases ih _ xs rfl with ⟨herr, h⟩ | ⟨t, h, h'⟩
        · exact .inl ⟨herr, .again hroom hz hbody h⟩
        · exact .inr ⟨t, .again hroom hz hbody h, h'⟩
      | broken hroom hz hbody =>
        cases hall
        exact .inl ⟨Option.some_ne_none _, .broken hroom hz hbody⟩
      | bare hroom =>
        cases hall
        exact .inl ⟨Option.some_ne_none _, .bare hroom⟩
      | block hroom =>
        cases hall
        exact .inl ⟨Option.some_ne_none _, .block hroom⟩
  · rintro (⟨herr, h⟩ | ⟨t, h, h'⟩)
    · obtain ⟨e, he⟩ := Option.ne_none_iff_exists'.1 herr
      exact h.append_of_error he ys
    · exact h.append h'

/-- Nodes at other places run to the outcomes of the nodes themselves, where an error reports the
new place. -/
lemma runs_relocate_iff {f : Position → Position} :
    Runs host root room (relocate f xs) s o ↔
      ∃ o', Runs host root room xs s o' ∧ o = o'.relocate f := by
  constructor
  · intro h
    obtain ⟨fuel, hexec⟩ := h.exists_exec
    rw [exec_relocate] at hexec
    obtain ⟨o', ho', rfl⟩ := Option.map_eq_some_iff.1 hexec
    exact ⟨o', runs_of_exec ho', rfl⟩
  · rintro ⟨o', h, rfl⟩
    obtain ⟨fuel, hexec⟩ := h.exists_exec
    refine runs_iff_exec.2 ⟨fuel, ?_⟩
    rw [exec_relocate, hexec, Option.map_some]

/-! ## Texts -/

/-- A program executes as its nodes do. -/
lemma State.executesTo_iff {p : Program} :
    s.ExecutesTo host p o ↔ Runs host p.root host.room p.body s o :=
  runs_iff_exec.symm

/-- **Two texts in a row do what the first one does and then, unless that fails, what the second one
does.** If both are programs, so are the two in a row, and executing them from any state comes to an
end exactly if executing the parts does, with the same tape, streams, events and counters. An error
of the first text stays the same. An error of the second text reports the place that its command has
behind the first text, whose end is where the scanner stands after it. -/
theorem executesTo_append (host : Host) (a b : String) (p q : Program)
    (ha : parseText host a = .ok p) (hb : parseText host b = .ok q) :
    ∃ r, parseText host (a ++ b) = .ok r ∧ ∀ host' s o,
      State.ExecutesTo s host' r o ↔
        (o.error ≠ none ∧ s.ExecutesTo host' p o) ∨
          ∃ t o', s.ExecutesTo host' p ⟨t, none⟩ ∧ t.ExecutesTo host' q o' ∧
            o = o'.relocate (Position.locate (({} : Scanner).scan a).position) := by
  refine ⟨_, parseText_append ha hb, fun host' s o => ?_⟩
  have hroot : p.root = .start := (parse_eq_ok_iff.1 ha).2.2
  have hroot' : q.root = .start := (parse_eq_ok_iff.1 hb).2.2
  simp only [State.executesTo_iff, hroot, hroot', runs_append_iff, runs_relocate_iff]
  refine or_congr Iff.rfl (exists_congr fun t => ?_)
  exact exists_and_left.symm

/-- The second text goes on in the second line of the first one. A move of it leaves the tape, which
is reported in that line; and if no byte is left for the first text, the second one is not
executed. -/
theorem executesTo_append_second_line :
    let p : Program := ⟨.start, [.command .increment ⟨1, 1⟩, .command .input ⟨2, 1⟩]⟩
    let q : Program :=
      ⟨.start, [.loop ⟨1, 1⟩ [.command .output ⟨1, 2⟩, .command .moveRight ⟨1, 3⟩]]⟩
    let s (input : List UInt8) : State := { tape := ⟨[], 0, []⟩, input, reads := 3 }
    let t : State := { tape := ⟨[], 7, []⟩, reads := 4, trace := [.read (some 7)] }
    let u : State := { t with writes := 1, trace := [.flush, .write [7], .read (some 7)] }
    let cut : Outcome :=
      ⟨{ tape := ⟨[], 1, []⟩, reads := 3, trace := [.read none] }, some (.inputExhausted ⟨2, 1⟩ 3)⟩
    (parseText .usual "+\n," = .ok p ∧ parseText .usual "[.>]" = .ok q) ∧
    ((s [7]).ExecutesTo .usual p ⟨t, none⟩ ∧
      t.ExecutesTo .usual q ⟨u, some (.offTape ⟨1, 3⟩ 0 .right 1)⟩ ∧
      (s []).ExecutesTo .usual p cut) ∧
    ∃ r, parseText .usual ("+\n," ++ "[.>]") = .ok r ∧
      (s [7]).ExecutesTo .usual r ⟨u, some (.offTape ⟨2, 4⟩ 0 .right 1)⟩ ∧
      (s []).ExecutesTo .usual r cut := by
  intro p q s t u cut
  have ha : parseText .usual "+\n," = .ok p := by cbv
  have hb : parseText .usual "[.>]" = .ok q := by cbv
  have hfirst : (s [7]).ExecutesTo .usual p ⟨t, none⟩ := ⟨9, rfl⟩
  have hsecond : t.ExecutesTo .usual q ⟨u, some (.offTape ⟨1, 3⟩ 0 .right 1)⟩ := ⟨9, rfl⟩
  have hcut : (s []).ExecutesTo .usual p cut := ⟨9, rfl⟩
  obtain ⟨r, hr, hall⟩ := executesTo_append .usual "+\n," "[.>]" p q ha hb
  refine ⟨⟨ha, hb⟩, ⟨hfirst, hsecond, hcut⟩, r, hr, ?_, ?_⟩
  · exact (hall .usual (s [7]) _).2 (.inr ⟨t, _, hfirst, hsecond, by cbv⟩)
  · exact (hall .usual (s []) cut).2 (.inl ⟨Option.some_ne_none _, hcut⟩)

end TapeLang
