import TapeLang.Parse
import TapeLang.State

set_option autoImplicit false

/-!
# Running a program

A list of nodes runs from left to right. A loop runs its body and comes back to itself while the
current cell is not zero, so a program need not come to an end: running takes a number of steps to
spend, and there is no outcome if they do not suffice.

A loop that is open takes a frame of the host, and what a node asks of the host has to find room in
what is left. Where it does not, the run is cut off. Only loops that are really entered count.

## Main definitions

* `TapeLang.exec` — runs a list of nodes.
* `TapeLang.State.execute` — runs a program and lets the counters go on.
* `TapeLang.State.run` — runs a program with cleared counters.
* `TapeLang.runText` — parses a text, allocates a tape and runs.

## Main results

* `TapeLang.exec_mono` — more steps do not change an outcome.
-/

namespace TapeLang

/-- Runs a list of nodes, spending at most `fuel` steps, where the host has room for `room` frames;
`root` is the position reported if this is not enough. There is no outcome if the steps do not
suffice. -/
def exec (host : Host) (root : Position) (fuel room : Nat) (nodes : List Node) (s : State) :
    Option Outcome :=
  match fuel, nodes with
  | 0, _ => none
  | _ + 1, [] => some ⟨s, none⟩
  | fuel + 1, n :: rest =>
    match s.cutOff? host room n with
    | some t => some ⟨t, some (.nestingDepth root)⟩
    | none =>
      match n with
      | .command c pos =>
        let o := s.perform host c pos
        match o.error with
        | none => exec host root fuel room rest o.state
        | some _ => some o
      | .loop pos body =>
        if s.tape.current = 0 then
          exec host root fuel room rest s
        else
          match exec host root fuel (room - 1) body s with
          | none => none
          | some o =>
            match o.error with
            | none => exec host root fuel room (.loop pos body :: rest) o.state
            | some _ => some o
      | .bare _ => some ⟨s, some (.unknownNode .bare)⟩
      | .block _ _ => some ⟨s, some (.unknownNode .block)⟩

namespace State

/-- Runs a program; the counters go on. -/
def execute (s : State) (host : Host) (fuel : Nat) (p : Program) : Option Outcome :=
  exec host p.root fuel host.room p.body s

/-- The state with cleared counters. -/
def clearCounters (s : State) : State :=
  { s with reads := 0, writes := 0 }

/-- Runs a program with cleared counters. This takes a frame of its own. -/
def run (s : State) (host : Host) (fuel : Nat) (p : Program) : Option Outcome :=
  exec host p.root fuel (host.room - 1) p.body s.clearCounters

end State

/-- Why a program text does not get to run. -/
inductive StartError where
  /-- The text is no program. -/
  | parse (e : ParseError)
  /-- There is no room for the tape. -/
  | allocation (e : Tape.AllocationError)
  deriving DecidableEq

/-- Parses a text, allocates a blank tape and runs the program on it. -/
def runText (host : Host) (fuel : Nat) (source : String) (layout : Layout)
    (input : List UInt8) : Except StartError (Option Outcome) :=
  match parseText host source with
  | .error e => .error (.parse e)
  | .ok p =>
    match Tape.allocate host.storage layout with
    | .error e => .error (.allocation e)
    | .ok tape => .ok ((State.mk tape input 0 0 []).run host fuel p)

/-! ## Fuel -/

/-- One more step does not change an outcome. -/
theorem exec_succ {host : Host} {root : Position} {fuel room : Nat} {nodes : List Node}
    {s : State} {o : Outcome} (h : exec host root fuel room nodes s = some o) :
    exec host root (fuel + 1) room nodes s = some o := by
  induction fuel generalizing room nodes s o with
  | zero =>
    rw [exec] at h
    cases h
  | succ fuel ih =>
    cases nodes with
    | nil => simpa only [exec] using h
    | cons n rest =>
      rw [exec.eq_def] at h ⊢
      dsimp only at h ⊢
      cases hcut : s.cutOff? host room n with
      | some t => simpa only [hcut] using h
      | none =>
        simp only [hcut] at h ⊢
        cases n with
        | command c pos =>
          dsimp only at h ⊢
          cases he : (s.perform host c pos).error with
          | none =>
            simp only [he] at h ⊢
            exact ih h
          | some e => simpa only [he] using h
        | bare pos => exact h
        | block pos body => exact h
        | loop pos body =>
          dsimp only at h ⊢
          by_cases hz : s.tape.current = 0
          · rw [if_pos hz] at h ⊢
            exact ih h
          · rw [if_neg hz] at h ⊢
            cases hb : exec host root fuel (room - 1) body s with
            | none => simp [hb] at h
            | some o' =>
              simp only [hb] at h
              simp only [ih hb]
              cases he : o'.error with
              | none =>
                simp only [he] at h ⊢
                exact ih h
              | some e => simpa only [he] using h

/-- More steps do not change an outcome. -/
theorem exec_mono {host : Host} {root : Position} {fuel fuel' room : Nat}
    {nodes : List Node} {s : State} {o : Outcome} (hle : fuel ≤ fuel')
    (h : exec host root fuel room nodes s = some o) :
    exec host root fuel' room nodes s = some o := by
  induction hle with
  | refl => exact h
  | step _ ih => exact exec_succ ih

end TapeLang
