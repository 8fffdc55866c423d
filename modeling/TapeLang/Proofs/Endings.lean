import TapeLang.Proofs.Locations
import TapeLang.Proofs.Points

set_option autoImplicit false

/-!
# How a run ends

A run ends with an error where a command fails, where the host has no room for a call, or at a node
without a meaning. What the error says of the state in which it arises holds of the state that the
run leaves, since nothing happens in between. Of a plain tree, such as every program that is parsed,
some errors do not arise at all.

## Main results

* `TapeLang.Runs.error_induction` — what holds where an error arises holds at the end of the run.
* `TapeLang.Runs.ordinal_eq_reads` — a read that finds no byte reports the number of the reads
  before it.
* `TapeLang.Runs.ne_nestingDepth`, `TapeLang.State.RunsTo.ne_nestingDepth` — a run is not cut off if
  there is room for every call inside of all loops, as there is if 801 of them are nested.
* `TapeLang.Runs.error_cases` — the ways in which a plain tree may end.
-/

namespace TapeLang

variable {host : Host} {root : Position} {room : ℕ} {nodes : List Node} {s : State}
  {o : Outcome} {e : RunError} {Q : State → RunError → Prop}

/-- **What holds where an error arises holds at the end of the run.** -/
lemma Runs.error_induction
    (hcmd : ∀ (s : State) c pos e, (s.perform host c pos).error = some e →
      Q (s.perform host c pos).state e)
    (hdeep : ∀ s, Q s (.nestingDepth root)) (hunknown : ∀ s kind, Q s (.unknownNode kind))
    (h : Runs host root room nodes s o) (he : o.error = some e) : Q o.state e := by
  induction h with
  | nil => cases he
  | cutOff _ =>
    obtain rfl := Option.some.inj he
    exact hdeep _
  | command _ _ _ ih => exact ih he
  | fail _ _ => exact hcmd _ _ _ _ he
  | skip _ _ _ ih => exact ih he
  | again _ _ _ _ _ ihl => exact ihl he
  | broken _ _ _ ih => exact ih he
  | bare _ | block _ =>
    obtain rfl := Option.some.inj he
    exact hunknown _ _

/-- A read that finds no byte reports how many bytes were read before it. -/
lemma Runs.ordinal_eq_reads {pos : Position} {ordinal : ℕ}
    (h : Runs host root room nodes s o) (he : o.error = some (.inputExhausted pos ordinal)) :
    ordinal = o.state.reads := by
  refine h.error_induction (Q := fun u e => ∀ pos n, e = .inputExhausted pos n → n = u.reads)
    ?_ (fun _ => nofun) (fun _ _ => nofun) he pos ordinal rfl
  rintro t c pos' _ herr pos n rfl
  rcases State.error_cases herr with ⟨-, -, he⟩ | ⟨-, -, he⟩ | ⟨rfl, hin, he⟩
  · cases he
  · cases he
  · obtain ⟨-, rfl⟩ := RunError.inputExhausted.inj he
    obtain ⟨-, hi, hr, -⟩ := t.ask_frame host
    rw [State.perform, State.read_of_input_eq_nil (hi.trans hin)]
    exact hr.symm

/-- **A run is not cut off if there is room for every call inside of all loops that are nested.** -/
lemma Runs.ne_nestingDepth (h : Runs host root room nodes s o) (hroom : HasRoom host room nodes)
    (r : Position) : o.error ≠ some (.nestingDepth r) := by
  induction h with
  | nil => simp
  | cutOff hcut => cases (hroom.cutOff?_eq_none _ _).symm.trans hcut
  | command _ _ _ ih => exact ih hroom.tail
  | fail _ _ => exact State.perform_ne_nestingDepth _ _ _ _
  | skip _ _ _ ih => exact ih hroom.tail
  | again _ _ _ _ _ ihl => exact ihl hroom
  | broken _ _ _ ih => exact ih hroom.body
  | bare _ => simp
  | block _ => simp

/-- **A program whose loops nest 801 deep is not cut off.** -/
lemma State.RunsTo.ne_nestingDepth {p : Program} (h : s.RunsTo host p o)
    (hn : nesting p.body ≤ 801) (r : Position) : o.error ≠ some (.nestingDepth r) :=
  (State.runsTo_iff.1 h).ne_nestingDepth (.of_nesting_le hn (Nat.le_refl _)) r

/-- **A plain tree ends without an error, at a move off the tape, at a read behind the end of the
input, or where there is no room for a call.** -/
lemma Runs.error_cases (h : Runs host root room nodes s o) (hp : isPlain nodes = true) :
    o.error = none ∨ (∃ pos pointer d length, o.error = some (.offTape pos pointer d length)) ∨
      (∃ pos ordinal, o.error = some (.inputExhausted pos ordinal)) ∨
      o.error = some (.nestingDepth root) := by
  cases he : o.error with
  | none => exact .inl rfl
  | some e =>
    refine .inr ?_
    rcases h.carriesMark hp he with ⟨c, pos, hnode, -⟩ | rfl
    · cases e with
      | offTape pos pointer d length => exact .inl ⟨_, _, _, _, rfl⟩
      | inputExhausted pos ordinal => exact .inr (.inl ⟨_, _, rfl⟩)
      | nestingDepth r => cases hnode
      | unknownNode kind => cases hnode
    · exact .inr (.inr rfl)

end TapeLang
