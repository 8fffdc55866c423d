import Mathlib.Data.Int.Notation
import TapeLang.Proofs.BigStep
import TapeLang.Session

set_option autoImplicit false

/-!
# What a step does to a session

A step of a session changes the tape, clears the counters, feeds the input, or runs a program; or it
is refused and changes nothing. Which of these it does is said here once, so that what holds of all
sessions is shown for these few ways to go on and not for every kind of step.

## Main definitions

* `TapeLang.Session.Step.fed` — the bytes that a step puts behind the input.
* `TapeLang.Session.Step.resets` — a step clears the counters.
* `TapeLang.Session.Does` — what a step does to a session.

## Main results

* `TapeLang.Session.does_of_step` — every step does one of these things.
-/

namespace TapeLang

namespace Tape

/-- A tape that is allocated is the blank one of its layout. -/
lemma eq_blank_of_allocate {storage : ℕ} {layout : Layout} {tape : Tape}
    (h : allocate storage layout = .ok tape) :
    tape = .blank layout := by
  rw [allocate] at h
  split at h
  · cases h
  · split at h
    · cases h
    · exact (Except.ok.inj h).symm

/-- A pointer that is put on a cell leaves the cells as they are. -/
lemma length_moveTo?_getD (t : Tape) (index : ℕ) :
    ((t.moveTo? index).getD t).length = t.length := by
  cases hm : t.moveTo? index with
  | none => rfl
  | some u =>
    rw [Option.getD_some, ← length_cells, (ofCells?_eq_some_iff.1 hm).1, length_cells]

end Tape

namespace Session

/-- The bytes that a step puts behind the input. -/
def Step.fed : Step → List UInt8
  | .feed bytes => bytes
  | _ => []

/-- A step clears the counters if it is a restart, or if it is a run and the text is a program. -/
def Step.resets (host : Host) : Step → Bool
  | .restart => true
  | .run source => (parseText host source).isOk
  | _ => false

/-- What a step does to a session, with its result. -/
inductive Does (host : Host) (s : Session) : Step → Result → Prop where
  /-- Cells are written, the pointer is moved, or a question is answered. -/
  | touch {st : Step} {tape : Tape} {answer : Option Answer} (hfed : st.fed = [])
      (hresets : st.resets host = false) (hlength : tape.length = s.state.tape.length) :
      Does host s st ⟨s.withState { s.state with tape }, answer, none⟩
  /-- A blank tape replaces the tape. -/
  | replace {length : ℤ} {start : Option ℤ} {layout : Layout}
      (hmake : Layout.make length start = .ok layout) :
      Does host s (.tape length start)
        ⟨⟨layout, { s.state with tape := .blank layout }⟩, none, none⟩
  /-- There is no program to run or no tape to replace the old one, and nothing changes. -/
  | refuse {st : Step} {failure : Failure} (hfed : st.fed = []) (hresets : st.resets host = false)
      (hrefused : ∀ e, failure ≠ .run e) : Does host s st ⟨s, none, some failure⟩
  /-- The counters are cleared. -/
  | restart : Does host s .restart ⟨s.withState s.state.clearCounters, none, none⟩
  /-- Bytes are put behind the input. -/
  | feed (bytes : List UInt8) :
      Does host s (.feed bytes)
        ⟨s.withState { s.state with input := s.state.input ++ bytes }, none, none⟩
  /-- A program runs with cleared counters. -/
  | run {source : String} {p : Program} {o : Outcome} (hparse : parseText host source = .ok p)
      (hruns : Runs host p.root (host.room - 1) p.body s.state.clearCounters o) :
      Does host s (.run source) (s.ofOutcome o)
  /-- A program runs and the counters go on. -/
  | exec {source : String} {p : Program} {o : Outcome} (hparse : parseText host source = .ok p)
      (hruns : Runs host p.root host.room p.body s.state o) :
      Does host s (.exec source) (s.ofOutcome o)

variable {host : Host} {fuel : ℕ} {s : Session} {st : Step} {r : Result} {source : String}
  {run : Program → Option Outcome}

/-- A tape that is made is the blank one of its layout. -/
lemma makeTape_eq_ok {length : ℤ} {start : Option ℤ} {layout : Layout} {tape : Tape}
    (h : makeTape host.storage length start = .ok (layout, tape)) :
    Layout.make length start = .ok layout ∧ tape = .blank layout := by
  rw [makeTape] at h
  cases hm : Layout.make length start with
  | error e => simp [hm] at h
  | ok layout' =>
    cases ha : Tape.allocate host.storage layout' with
    | error e => simp [hm, ha] at h
    | ok tape' =>
      simp only [hm, ha, Except.ok.injEq, Prod.mk.injEq] at h
      obtain ⟨rfl, rfl⟩ := h
      exact ⟨rfl, Tape.eq_blank_of_allocate ha⟩

/-- A text that is no program is refused, and a program is handed on. -/
lemma withProgram_eq_some (h : s.withProgram host source run = some r) :
    (∃ e, parseText host source = .error e ∧ r = ⟨s, none, some (.parse e)⟩) ∨
      ∃ p o, parseText host source = .ok p ∧ run p = some o ∧ r = s.ofOutcome o := by
  rw [withProgram] at h
  cases hp : parseText host source with
  | error e =>
    simp only [hp, Option.some.injEq] at h
    exact .inl ⟨e, rfl, h.symm⟩
  | ok p =>
    simp only [hp, Option.map_eq_some_iff] at h
    obtain ⟨o, ho, rfl⟩ := h
    exact .inr ⟨p, o, rfl, ho, rfl⟩

/-- **Every step touches the tape, replaces it, clears the counters, feeds the input, runs a
program, or is refused.** -/
lemma does_of_step (h : s.step host fuel st = some r) : Does host s st r := by
  cases st with
  | increment | decrement | set v | reaches distance | length | cells | dump start length =>
    cases h
    exact .touch rfl rfl rfl
  | pointer index =>
    cases h
    exact .touch rfl rfl (Tape.length_moveTo?_getD _ _)
  | tape length start =>
    simp only [step] at h
    cases hm : makeTape host.storage length start with
    | error e =>
      cases e with
      | layout e | allocation e =>
        simp only [hm, Option.some.injEq] at h
        subst h
        exact .refuse rfl rfl (by simp)
    | ok made =>
      obtain ⟨layout, tape⟩ := made
      simp only [hm, Option.some.injEq] at h
      obtain ⟨hmake, rfl⟩ := makeTape_eq_ok hm
      subst h
      exact .replace hmake
  | restart =>
    cases h
    exact .restart
  | feed bytes =>
    cases h
    exact .feed bytes
  | run source =>
    rcases withProgram_eq_some h with ⟨e, hp, rfl⟩ | ⟨p, o, hp, ho, rfl⟩
    · exact .refuse rfl (by simp [Step.resets, hp, Except.isOk, Except.toBool]) (by simp)
    · exact .run hp (runs_of_exec ho)
  | exec source =>
    rcases withProgram_eq_some h with ⟨e, hp, rfl⟩ | ⟨p, o, hp, ho, rfl⟩
    · exact .refuse rfl rfl (by simp)
    · exact .exec hp (runs_of_exec ho)

end Session

end TapeLang
