import TapeLang.Proofs.Relocation

set_option autoImplicit false

/-!
# Comments do nothing

What a text does depends on its symbols alone. Everything else in it, line ends included, moves the
symbols to other places, which only errors show.

## Main definitions

* `TapeLang.StartError.relocate` — an error before a run that reports another place.
* `TapeLang.placeless` — what a text comes to, without the places in errors.

## Main results

* `TapeLang.map_relocate_operationsFrom` — without their places, the operations of a text are given
  by its symbols.
* `TapeLang.placeless_runText_eq` — texts with the same symbols come to the same.
-/

namespace TapeLang

/-- The error with another place of the operation that it reports. -/
def StartError.relocate (f : Position → Position) : StartError → StartError
  | parse e => parse (e.map (Operation.relocate f))
  | allocation e => allocation e

/-- What a text comes to, where every place in an error is taken to be the start of the text. -/
def placeless (r : Except StartError (Option Outcome)) : Except StartError (Option Outcome) :=
  (r.mapError (StartError.relocate fun _ => .start)).map
    (Option.map (Outcome.relocate fun _ => .start))

variable {a b : String}

/-- Without their places, the operations of a text are its symbols, numbered in order. -/
lemma map_relocate_operationsFrom (pos p : Position) (offset : ℤ) (text : List Char) :
    (operationsFrom pos offset text).map (Operation.relocate fun _ => p) =
      (symbols text).mapIdx fun i x => ⟨x, offset + i, p⟩ := by
  induction text generalizing pos offset with
  | nil => rfl
  | cons c cs ih =>
    cases hc : Symbol.ofChar? c with
    | none =>
      simp only [operationsFrom, symbols, hc, List.filterMap_cons_none]
      exact ih _ _
    | some x =>
      have hnext : (fun (i : ℕ) (y : Symbol) => (⟨y, offset + 1 + i, p⟩ : Operation)) =
          fun i y => ⟨y, offset + (i + 1 : ℕ), p⟩ := by
        funext i y
        rw [Operation.mk.injEq]
        refine ⟨rfl, ?_, rfl⟩
        omega
      simp only [operationsFrom, symbols, hc, List.map_cons, List.filterMap_cons_some hc,
        List.mapIdx_cons]
      rw [ih, hnext]
      simp [Operation.relocate, symbols]

/-- Texts with the same symbols are parsed to the same program, or refused for the same reason, but
for the places. -/
lemma parseText_relocate_eq (host : Host) (h : symbols a.toList = symbols b.toList) :
    ((parseText host a).mapError (ParseError.map (Operation.relocate fun _ => .start))).map
        (Program.relocate fun _ => .start) =
      ((parseText host b).mapError (ParseError.map (Operation.relocate fun _ => .start))).map
        (Program.relocate fun _ => .start) := by
  have hops : (operations a).map (Operation.relocate fun _ => .start) =
      (operations b).map (Operation.relocate fun _ => .start) := by
    rw [operations, operations, map_relocate_operationsFrom, map_relocate_operationsFrom, h]
  have hs (op : Operation) : (op.relocate fun _ => .start).symbol = op.symbol := rfl
  have hp (op : Operation) : (op.relocate fun _ => .start).position = .start := rfl
  rw [parseText, parseText, ← parse_map hs hp, ← parse_map hs hp, hops]

/-- Programs that agree but for the places come to the same. -/
lemma run_relocate_eq {p q : Program} {f : Position → Position} (hroot : p.root = q.root)
    (hbody : relocate f p.body = relocate f q.body) (s : State) (host : Host) (fuel : ℕ) :
    (s.run host fuel p).map (Outcome.relocate f) =
      (s.run host fuel q).map (Outcome.relocate f) := by
  rw [State.run, State.run, ← exec_relocate, ← exec_relocate, hroot, hbody]

/-- **Texts with the same symbols come to the same**, whatever their comments are: with the same
number of steps both come to an end or neither does, they leave the same tape, streams, counters and
events, and the same error but for its line and column. -/
theorem placeless_runText_eq (a b : String) (h : symbols a.toList = symbols b.toList)
    (host : Host) (fuel : ℕ) (layout : Layout) (input : List UInt8) :
    placeless (runText host fuel a layout input) =
      placeless (runText host fuel b layout input) := by
  have hparse := parseText_relocate_eq host h
  rw [runText, runText]
  cases hpa : parseText host a with
  | error e =>
    cases hpb : parseText host b with
    | error e' =>
      rw [hpa, hpb] at hparse
      have he : e.map (Operation.relocate fun _ => .start) =
          e'.map (Operation.relocate fun _ => .start) := Except.error.inj hparse
      show Except.error (StartError.parse _) = Except.error (StartError.parse _)
      rw [he]
    | ok q =>
      rw [hpa, hpb] at hparse
      cases hparse
  | ok p =>
    cases hpb : parseText host b with
    | error e' =>
      rw [hpa, hpb] at hparse
      cases hparse
    | ok q =>
      rw [hpa, hpb] at hparse
      obtain ⟨hroot, hbody⟩ := Program.mk.inj (Except.ok.inj hparse)
      dsimp only
      cases Tape.allocate host.storage layout with
      | error e => rfl
      | ok tape => exact congrArg Except.ok (run_relocate_eq hroot hbody _ host fuel)

/-- A loop that leaves the tape, and the same loop with comments on three lines: the error shows
another place. A loop end without a beginning is found with and without comments. -/
theorem placeless_runText_eq_three_lines :
    let bare := "+[,>]"
    let told := "one +\nthen [ read ,\nstep > ]"
    let left : State := { tape := ⟨[0], 5, []⟩, reads := 1, trace := [.read (some 5)] }
    (symbols bare.toList = symbols told.toList ∧
      runText .usual 9 bare ⟨2, 1, by decide⟩ [5] =
        .ok (some ⟨left, some (.offTape ⟨1, 4⟩ 1 .right 2)⟩) ∧
      runText .usual 9 told ⟨2, 1, by decide⟩ [5] =
        .ok (some ⟨left, some (.offTape ⟨3, 6⟩ 1 .right 2)⟩) ∧
      placeless (runText .usual 9 bare ⟨2, 1, by decide⟩ [5]) =
        placeless (runText .usual 9 told ⟨2, 1, by decide⟩ [5])) ∧
    symbols ".]".toList = symbols ".\nend ]".toList ∧
      runText .usual 9 ".]" ⟨2, 1, by decide⟩ [5] =
        .error (.parse (.unmatchedEnd ⟨.loopEnd, 1, ⟨1, 2⟩⟩)) ∧
      runText .usual 9 ".\nend ]" ⟨2, 1, by decide⟩ [5] =
        .error (.parse (.unmatchedEnd ⟨.loopEnd, 1, ⟨2, 5⟩⟩)) ∧
      placeless (runText .usual 9 ".]" ⟨2, 1, by decide⟩ [5]) =
        placeless (runText .usual 9 ".\nend ]" ⟨2, 1, by decide⟩ [5]) := by
  intro bare told left
  have hloop : symbols "+[,>]".toList = symbols "one +\nthen [ read ,\nstep > ]".toList := by cbv
  have hend : symbols ".]".toList = symbols ".\nend ]".toList := by cbv
  have hbare : parseText .usual "+[,>]" = .ok ⟨.start, [.command .increment ⟨1, 1⟩,
      .loop ⟨1, 2⟩ [.command .input ⟨1, 3⟩, .command .moveRight ⟨1, 4⟩]]⟩ := by cbv
  have htold : parseText .usual "one +\nthen [ read ,\nstep > ]" =
      .ok ⟨.start, [.command .increment ⟨1, 5⟩,
        .loop ⟨2, 6⟩ [.command .input ⟨2, 13⟩, .command .moveRight ⟨3, 6⟩]]⟩ := by cbv
  refine ⟨⟨hloop, ?_, ?_, placeless_runText_eq _ _ hloop .usual 9 _ [5]⟩, hend, by cbv, by cbv,
    placeless_runText_eq _ _ hend .usual 9 _ [5]⟩
  · rw [runText, hbare]
    rfl
  · rw [runText, htold]
    rfl

end TapeLang
