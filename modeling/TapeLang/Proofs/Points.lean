import TapeLang.Proofs.BigStep

set_option autoImplicit false

/-!
# Points of a run

A run passes through points: at each of them some nodes are next, in some state, and the host has
room for some number of frames. A run that takes no end has points as well, so what is said of all
points is said of every moment of every run.

## Main definitions

* `TapeLang.Visits` — running a list of nodes comes to a point.
* `TapeLang.State.Passes` — a state is met while a program executes.

## Main results

* `TapeLang.Runs.preserves_or_cutOff` — a run changes the state by whole commands, and one that is
  cut off at the end.
* `TapeLang.Runs.preserves` — what every command preserves, cut off or not, every run preserves.
* `TapeLang.Visits.preserves` — it holds at every point of every run too.
* `TapeLang.Visits.preserves_to_end` — what the run from a point on establishes holds at the end.
-/

namespace TapeLang

/-- Running `nodes` from `s`, where the host has room for `room` frames, comes to a point where
`nodes'` are next in the state `s'` and the host has room for `room'` frames. -/
inductive Visits (host : Host) (root : Position) :
    ℕ → List Node → State → ℕ → List Node → State → Prop where
  /-- A run begins at a point. -/
  | here {room : ℕ} {nodes : List Node} {s : State} :
      Visits host root room nodes s room nodes s
  /-- A command is done, and the point lies in the rest. -/
  | command {room room' : ℕ} {c : Command} {pos : Position} {rest nodes' : List Node}
      {s s' : State} (hroom : s.cutOff? host room (.command c pos) = none)
      (hok : (s.perform host c pos).error = none)
      (hrest : Visits host root room rest (s.perform host c pos).state room' nodes' s') :
      Visits host root room (.command c pos :: rest) s room' nodes' s'
  /-- A loop is passed over on a zero cell, and the point lies in the rest. -/
  | skip {room room' : ℕ} {pos : Position} {body rest nodes' : List Node} {s s' : State}
      (hroom : s.cutOff? host room (.loop pos body) = none)
      (hz : s.tape.current = 0) (hrest : Visits host root room rest s room' nodes' s') :
      Visits host root room (.loop pos body :: rest) s room' nodes' s'
  /-- A loop is entered, and the point lies in its body. -/
  | enter {room room' : ℕ} {pos : Position} {body rest nodes' : List Node} {s s' : State}
      (hroom : s.cutOff? host room (.loop pos body) = none)
      (hz : s.tape.current ≠ 0) (hbody : Visits host root (room - 1) body s room' nodes' s') :
      Visits host root room (.loop pos body :: rest) s room' nodes' s'
  /-- A loop is entered, its body runs to its end, and the point is met when the loop comes back to
  itself, or later. -/
  | again {room room' : ℕ} {pos : Position} {body rest nodes' : List Node} {s t s' : State}
      (hroom : s.cutOff? host room (.loop pos body) = none)
      (hz : s.tape.current ≠ 0) (hbody : Runs host root (room - 1) body s ⟨t, none⟩)
      (hloop : Visits host root room (.loop pos body :: rest) t room' nodes' s') :
      Visits host root room (.loop pos body :: rest) s room' nodes' s'

/-- The state `s'` is met while a program executes from the state `s`. -/
def State.Passes (s : State) (host : Host) (p : Program) (s' : State) : Prop :=
  ∃ room nodes, Visits host p.root host.room p.body s room nodes s'

variable {host : Host} {root : Position} {room room' : ℕ} {nodes nodes' : List Node}
  {s s' : State} {o : Outcome} {P : State → Prop}

/-- **A run changes the state by whole commands**, except that one may be cut off at the end. So
what every command preserves holds of the state that the run leaves, or of the one before the node
that was cut off.

**Proof sketch.** Induction on the run. The body of a loop that comes back to itself is not cut
off. -/
lemma Runs.preserves_or_cutOff (hcmd : ∀ s c pos, P s → P (s.perform host c pos).state)
    (h : Runs host root room nodes s o) (hs : P s) :
    P o.state ∨ o.error = some (.nestingDepth root) ∧
      ∃ u room n, P u ∧ u.cutOff? host room n = some o.state := by
  induction h with
  | nil => exact .inl hs
  | cutOff hcut => exact .inr ⟨rfl, _, _, _, hs, hcut⟩
  | command _ _ _ ih => exact ih (hcmd _ _ _ hs)
  | fail _ _ => exact .inl (hcmd _ _ _ hs)
  | skip _ _ _ ih => exact ih hs
  | again _ _ _ _ ihb ihl =>
    rcases ihb hs with ht | ⟨herr, -⟩
    · exact ihl ht
    · cases herr
  | broken _ _ _ ih => exact ih hs
  | bare _ => exact .inl hs
  | block _ => exact .inl hs

/-- **What every command preserves, cut off or not, every run preserves**, whether or not it ends in
an error. -/
lemma Runs.preserves (hcmd : ∀ s c pos, P s → P (s.perform host c pos).state)
    (hcut : ∀ s room n t, P s → s.cutOff? host room n = some t → P t)
    (h : Runs host root room nodes s o) (hs : P s) : P o.state := by
  rcases h.preserves_or_cutOff hcmd hs with ho | ⟨-, u, _, _, hu, h⟩
  · exact ho
  · exact hcut _ _ _ _ hu h

/-- **What every command preserves holds at every point**, also of a run that takes no end. -/
lemma Visits.preserves (hcmd : ∀ s c pos, P s → P (s.perform host c pos).state)
    (h : Visits host root room nodes s room' nodes' s') (hs : P s) : P s' := by
  induction h with
  | here => exact hs
  | command _ _ _ ih => exact ih (hcmd _ _ _ hs)
  | skip _ _ _ ih => exact ih hs
  | enter _ _ _ ih => exact ih hs
  | again _ _ hbody _ ih =>
    rcases hbody.preserves_or_cutOff hcmd hs with ht | ⟨herr, -⟩
    · exact ih ht
    · cases herr

/-- **What holds where the run from a point on ends holds at the end of the whole run**, if it is
preserved by every command, cut off or not. The error with which the rest ends, if any, is that of
the whole run.

**Proof sketch.** Induction on the way to the point. Behind the body of a loop in which the point
lies there are only commands. -/
lemma Visits.preserves_to_end (hcmd : ∀ s c pos, P s → P (s.perform host c pos).state)
    (hcut : ∀ s room n t, P s → s.cutOff? host room n = some t → P t)
    (hv : Visits host root room nodes s room' nodes' s')
    (hpoint : ∀ o', Runs host root room' nodes' s' o' →
      (∀ e, o'.error = some e → o.error = some e) → P o'.state)
    (h : Runs host root room nodes s o) : P o.state := by
  induction hv generalizing o with
  | here => exact hpoint o h fun _ => id
  | command hroom hok _ ih =>
    cases h with
    | cutOff hcut' => cases hroom.symm.trans hcut'
    | command _ _ hrest => exact ih hpoint hrest
    | fail _ herr => cases hok.symm.trans herr
  | skip hroom hz _ ih =>
    cases h with
    | cutOff hcut' => cases hroom.symm.trans hcut'
    | skip _ _ hrest => exact ih hpoint hrest
    | again _ hnz _ _ => exact absurd hz hnz
    | broken _ hnz _ => exact absurd hz hnz
  | enter hroom hz _ ih =>
    cases h with
    | cutOff hcut' => cases hroom.symm.trans hcut'
    | skip _ hz' _ => exact absurd hz' hz
    | again _ _ hbody hloop =>
      refine hloop.preserves hcmd hcut (ih (fun o' ho' herr => hpoint o' ho' fun e he => ?_) hbody)
      cases herr e he
    | broken _ _ hbody => exact ih hpoint hbody
  | again hroom hz hbody _ ih =>
    cases h with
    | cutOff hcut' => cases hroom.symm.trans hcut'
    | skip _ hz' _ => exact absurd hz' hz
    | again _ _ hbody' hloop =>
      obtain rfl := congrArg Outcome.state (hbody.unique hbody')
      exact ih hpoint hloop
    | broken _ _ hbody' => cases hbody.unique hbody'

end TapeLang
