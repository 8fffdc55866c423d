import Mathlib.Data.Option.Basic
import TapeLang.Proofs.Points

set_option autoImplicit false

/-!
# Two runs in lockstep

Two runs of trees of one shape stay together as long as their commands do. What has to be shown for
this concerns single commands: from states that are near each other, related commands lead to states
that are near each other, or stop both runs with related errors. The rest follows for all trees,
whatever loops they have and however deep an error lies.

A command may stop the first run and not the second. Then the runs part: the first one ends there,
and the second one comes to the same command in a state that is near. It may also be that the two
runs do not need the same frames; then either of them may be cut off where the other is not.

## Main definitions

* `TapeLang.Alike` — two lists of nodes have one shape and related commands.
* `TapeLang.SameCommand` — the same command at the same position.
* `TapeLang.Lockstep` — what single commands have to fulfil.
* `TapeLang.Lockstep.CutApart` — one of two runs is cut off, since they need different frames.
* `TapeLang.Lockstep.Parts` — two runs part at a command.

## Main results

* `TapeLang.State.cutOff?_map` — two commands with the same calls are cut off alike.
* `TapeLang.Lockstep.exists_runs` — if the first run comes to an end, so does the second, or the
  runs part. -/

namespace TapeLang

/-- Two lists of nodes have the same shape, and `Same` relates their commands in pairs. -/
inductive Alike (Same : Command → Position → Command → Position → Prop) :
    List Node → List Node → Prop where
  /-- No nodes are alike. -/
  | nil : Alike Same [] []
  /-- Two commands are related, and what follows them is alike. -/
  | command {c c' : Command} {pos pos' : Position} {rest rest' : List Node}
      (hc : Same c pos c' pos') (hrest : Alike Same rest rest') :
      Alike Same (.command c pos :: rest) (.command c' pos' :: rest')
  /-- Two loops have bodies that are alike, and what follows them is alike. -/
  | loop {pos pos' : Position} {body body' rest rest' : List Node} (hbody : Alike Same body body')
      (hrest : Alike Same rest rest') :
      Alike Same (.loop pos body :: rest) (.loop pos' body' :: rest')
  /-- Nothing behind a bare instruction is run. -/
  | bare {pos pos' : Position} {rest rest' : List Node} :
      Alike Same (.bare pos :: rest) (.bare pos' :: rest')
  /-- Neither the body of a program inside a program nor anything behind it is run. -/
  | block {pos pos' : Position} {body body' rest rest' : List Node} :
      Alike Same (.block pos body :: rest) (.block pos' body' :: rest')

/-- A list of nodes is like itself if every command is related to itself. -/
lemma Alike.refl {Same : Command → Position → Command → Position → Prop}
    (h : ∀ c pos, Same c pos c pos) (nodes : List Node) : Alike Same nodes nodes := by
  induction nodes using Node.list_induction with
  | nil => exact .nil
  | command c pos rest ih => exact .command (h c pos) ih
  | loop pos body rest ihb ih => exact .loop ihb ih
  | bare pos rest _ => exact .bare
  | block pos body rest _ _ => exact .block

/-- The same command at the same position. -/
def SameCommand (c : Command) (pos : Position) (c' : Command) (pos' : Position) : Prop :=
  c = c' ∧ pos = pos'

/-- A tree is like itself. -/
lemma alike_self (nodes : List Node) : Alike SameCommand nodes nodes :=
  .refl (fun _ _ => ⟨rfl, rfl⟩) nodes

/-- **Two commands with the same calls are cut off alike**, if the calls take the same frames. -/
lemma State.cutOff?_map {host host' : Host} {room : ℕ} {c c' : Command} {pos pos' : Position}
    {s s' : State} {f : State → State}
    (hcalls : s'.calls host' c' = (s.calls host c).map (Prod.map id f))
    (hframes : ∀ call t, host'.frames call (f t).trace (f t).input =
      host.frames call t.trace t.input) :
    s'.cutOff? host' room (.command c' pos') = (s.cutOff? host room (.command c pos)).map f := by
  have hfits : (fun call => !fits host' room call) ∘ Prod.map id f =
      fun call => !fits host room call := by
    funext ⟨call, t⟩
    simp [fits, hframes]
  rw [cutOff?, cutOff?, nodeCalls, nodeCalls, hcalls, List.find?_map, hfits, Option.map_map,
    Option.map_map]
  rfl

/-- Related commands keep two runs together. `Near` relates the states of the two sides and `Err`
their errors. Where `Parting` holds of a command and an outcome, the first run stops there, and the
second need not. `Uneven` says that the two sides may need different frames. -/
structure Lockstep (host host' : Host) (root root' : Position)
    (Same : Command → Position → Command → Position → Prop) (Near : State → State → Prop)
    (Err : RunError → RunError → Prop) (Parting : ℕ → State → Command → Outcome → Prop)
    (Uneven : Prop) : Prop where
  /-- Both sides pass over a loop or neither does. -/
  zero_iff {s s' : State} (hs : Near s s') : s.tape.current = 0 ↔ s'.tape.current = 0
  /-- A call takes the same frames on both sides. -/
  frames_eq {s s' : State} (hs : Near s s') (call : HostCall) :
    host'.frames call s'.trace s'.input = host.frames call s.trace s.input ∨ Uneven
  /-- Where the first run goes on behind a command, so does the second. -/
  go {room : ℕ} {s s' : State} {c c' : Command} {pos pos' : Position} (hs : Near s s')
    (hc : Same c pos c' pos') (h : s.stop? host root room (.command c pos) = none) :
    (s'.stop? host' root' room (.command c' pos') = none ∧
        Near (s.perform host c pos).state (s'.perform host' c' pos').state) ∨
      Uneven ∧ ∃ t', s'.cutOff? host' room (.command c' pos') = some t'
  /-- Where the first run stops at a command, so does the second, or the runs part. -/
  stop {room : ℕ} {s s' : State} {c c' : Command} {pos pos' : Position} {o : Outcome}
    (hs : Near s s') (hc : Same c pos c' pos')
    (h : s.stop? host root room (.command c pos) = some o) :
    (∃ o', s'.stop? host' root' room (.command c' pos') = some o' ∧ Near o.state o'.state ∧
        Option.Rel Err o.error o'.error) ∨
      Parting room s c o ∨
      Uneven ∧ (o.error = some (.nestingDepth root) ∨
        ∃ t', s'.cutOff? host' room (.command c' pos') = some t')
  /-- Two runs that are cut off end alike. -/
  nestingDepth : Err (.nestingDepth root) (.nestingDepth root')
  /-- Two runs that meet a node without a meaning end alike. -/
  unknownNode (kind : Kind) : Err (.unknownNode kind) (.unknownNode kind)

namespace Lockstep

variable {host host' : Host} {root root' : Position}
  {Same : Command → Position → Command → Position → Prop} {Near : State → State → Prop}
  {Err : RunError → RunError → Prop} {Parting : ℕ → State → Command → Outcome → Prop}
  {Uneven : Prop} {room : ℕ} {n n' : Node} {nodes nodes' rest rest' : List Node}
  {s s' : State} {o o' : Outcome}

/-- The first run is cut off with the outcome `o`, or the second run is, and the two sides may need
different frames. -/
def CutApart (host' : Host) (root root' : Position) (Uneven : Prop) (room : ℕ) (nodes' : List Node)
    (s' : State) (o : Outcome) : Prop :=
  Uneven ∧ (o.error = some (.nestingDepth root) ∨
    ∃ t', Runs host' root' room nodes' s' ⟨t', some (.nestingDepth root')⟩)

/-- The first run stops at a command with the outcome `o`, and the second one comes to the related
command in a state that is near. -/
def Parts (host host' : Host) (root root' : Position)
    (Same : Command → Position → Command → Position → Prop) (Near : State → State → Prop)
    (Parting : ℕ → State → Command → Outcome → Prop) (room : ℕ) (nodes' : List Node) (s' : State)
    (o : Outcome) : Prop :=
  ∃ (room' : ℕ) (u u' : State) (c c' : Command) (pos pos' : Position) (rest' : List Node),
    Near u u' ∧ Same c pos c' pos' ∧ u.stop? host root room' (.command c pos) = some o ∧
      Parting room' u c o ∧ Visits host' root' room nodes' s' room' (.command c' pos' :: rest') u'

/-- A node with a single call is cut off on both sides or on neither, or it is cut off on one side
and the sides may need different frames. -/
lemma cutOff?_sole (hl : Lockstep host host' root root' Same Near Err Parting Uneven)
    (hs : Near s s') (room : ℕ) (n n' : Node) {call : HostCall}
    (hn : s.nodeCalls host n = [(call, s)]) (hn' : s'.nodeCalls host' n' = [(call, s')]) :
    (s.cutOff? host room n = none ∧ s'.cutOff? host' room n' = none) ∨
      (s.cutOff? host room n = some s ∧ s'.cutOff? host' room n' = some s') ∨
      Uneven ∧ (s.cutOff? host room n = some s ∨ s'.cutOff? host' room n' = some s') := by
  have hcut : s.cutOff? host room n =
      if host.frames call s.trace s.input ≤ room then none else some s := by
    simp only [State.cutOff?, hn, State.fits]
    split <;> simp_all
  have hcut' : s'.cutOff? host' room n' =
      if host'.frames call s'.trace s'.input ≤ room then none else some s' := by
    simp only [State.cutOff?, hn', State.fits]
    split <;> simp_all
  rw [hcut, hcut']
  rcases hl.frames_eq hs call with heq | huneven
  · rw [heq]
    split <;> simp
  · split <;> split <;> simp [huneven]

/-- Behind a node, the second run goes on as it does from there. -/
lemma CutApart.imp {room₁ : ℕ} {nodes₁ : List Node} {s₁ : State} {o₁ : Outcome}
    (h : CutApart host' root root' Uneven room₁ nodes₁ s₁ o₁)
    (hfirst : o₁.error = some (.nestingDepth root) → o.error = some (.nestingDepth root))
    (hsecond : ∀ t', Runs host' root' room₁ nodes₁ s₁ ⟨t', some (.nestingDepth root')⟩ →
      Runs host' root' room nodes' s' ⟨t', some (.nestingDepth root')⟩) :
    CutApart host' root root' Uneven room nodes' s' o :=
  ⟨h.1, h.2.imp hfirst fun ⟨t', ht'⟩ => ⟨t', hsecond t' ht'⟩⟩

/-- The second run is cut off, and the sides may need different frames. -/
lemma CutApart.of_cutOff? {t' : State} (huneven : Uneven)
    (h : s'.cutOff? host' room n' = some t') :
    CutApart host' root root' Uneven room (n' :: rest') s' o :=
  ⟨huneven, .inr ⟨t', .cutOff h⟩⟩

/-- Where the first run is not cut off at a loop, neither is the second, or it is cut off there and
the sides may need different frames. -/
lemma go_loop (hl : Lockstep host host' root root' Same Near Err Parting Uneven) (hs : Near s s')
    {pos : Position} {body : List Node} (h : s.cutOff? host room (.loop pos body) = none)
    (pos' : Position) (body' : List Node) :
    s'.cutOff? host' room (.loop pos' body') = none ∨
      CutApart host' root root' Uneven room (.loop pos' body' :: rest') s' o := by
  rcases hl.cutOff?_sole hs room (.loop pos body) (.loop pos' body') rfl rfl with
    ⟨-, hcut'⟩ | ⟨hcut, -⟩ | ⟨huneven, hcut | hcut'⟩
  · exact .inl hcut'
  · cases h.symm.trans hcut
  · cases h.symm.trans hcut
  · exact .inr (.of_cutOff? huneven hcut')

/-- Where the first run stops at a node with a single call, the second run ends with it, or one of
them is cut off. -/
lemma stop_sole (hl : Lockstep host host' root root' Same Near Err Parting Uneven)
    (hs : Near s s') (n n' : Node) {call : HostCall} (hn : s.nodeCalls host n = [(call, s)])
    (hn' : s'.nodeCalls host' n' = [(call, s')]) (hstop : s.stop? host root room n = some o)
    (hend : s.cutOff? host room n = none → s'.cutOff? host' room n' = none →
      ∃ o', Runs host' root' room (n' :: rest') s' o' ∧ Near o.state o'.state ∧
        Option.Rel Err o.error o'.error) :
    (∃ o', Runs host' root' room (n' :: rest') s' o' ∧ Near o.state o'.state ∧
        Option.Rel Err o.error o'.error) ∨
      CutApart host' root root' Uneven room (n' :: rest') s' o := by
  rcases hl.cutOff?_sole hs room n n' hn hn' with
    ⟨hcut, hcut'⟩ | ⟨hcut, hcut'⟩ | ⟨huneven, hcut | hcut'⟩
  · exact .inl (hend hcut hcut')
  · obtain rfl := Option.some.inj ((State.stop?_of_cutOff? hcut).symm.trans hstop)
    exact .inl ⟨_, .cutOff hcut', hs, .some hl.nestingDepth⟩
  · obtain rfl := Option.some.inj ((State.stop?_of_cutOff? hcut).symm.trans hstop)
    exact .inr ⟨huneven, .inl rfl⟩
  · exact .inr (.of_cutOff? huneven hcut')

/-- Runs part later if they part behind the node that is next. -/
lemma Parts.imp {room₁ : ℕ} {nodes₁ : List Node} {s₁ : State}
    (h : Parts host host' root root' Same Near Parting room₁ nodes₁ s₁ o)
    (hvisits : ∀ {room₂ nodes₂ s₂}, Visits host' root' room₁ nodes₁ s₁ room₂ nodes₂ s₂ →
      Visits host' root' room nodes' s' room₂ nodes₂ s₂) :
    Parts host host' root root' Same Near Parting room nodes' s' o := by
  obtain ⟨room', u, u', c, c', pos, pos', rest', hu, hc, hstop, hpart, hv⟩ := h
  exact ⟨room', u, u', c, c', pos, pos', rest', hu, hc, hstop, hpart, hvisits hv⟩

/-- **If the first run comes to an end, so does the second**, with an outcome near to that of the
first, unless the runs part or one of them is cut off.

**Proof sketch.** Induction on the first run. Every rule by which it goes on is one by which the
second run goes on. -/
lemma exists_runs (hl : Lockstep host host' root root' Same Near Err Parting Uneven)
    (h : Runs host root room nodes s o) (hn : Alike Same nodes nodes') (hs : Near s s') :
    (∃ o', Runs host' root' room nodes' s' o' ∧ Near o.state o'.state ∧
        Option.Rel Err o.error o'.error) ∨
      Parts host host' root root' Same Near Parting room nodes' s' o ∨
      CutApart host' root root' Uneven room nodes' s' o := by
  induction h using Runs.stop_induction generalizing nodes' s' with
  | nil =>
    cases hn
    exact .inl ⟨_, .nil, hs, .none⟩
  | @stop room n rest s o hstop =>
    cases hn with
    | @command c c' pos pos' rest rest' hc hrest =>
      rcases hl.stop hs hc hstop with ⟨o', hstop', hend⟩ | hpart | ⟨huneven, hcut | ⟨t', hcut⟩⟩
      · exact .inl ⟨o', .stop hstop', hend⟩
      · exact .inr (.inl ⟨room, s, s', c, c', pos, pos', rest', hs, hc, hstop, hpart, .here⟩)
      · exact .inr (.inr ⟨huneven, .inl hcut⟩)
      · exact .inr (.inr (.of_cutOff? huneven hcut))
    | @loop pos pos' body body' rest rest' hbody hrest =>
      refine (hl.stop_sole hs (.loop pos body) (.loop pos' body') rfl rfl hstop ?_).imp_right .inr
      intro hcut
      simp [State.stop?_loop, hcut] at hstop
    | @bare pos pos' rest rest' =>
      refine (hl.stop_sole hs (.bare pos) (.bare pos') rfl rfl hstop ?_).imp_right .inr
      intro hcut hcut'
      simp only [State.stop?, hcut, Option.some.injEq] at hstop
      exact hstop ▸ ⟨_, .bare hcut', hs, .some (hl.unknownNode .bare)⟩
    | @block pos pos' body body' rest rest' =>
      refine (hl.stop_sole hs (.block pos body) (.block pos' body') rfl rfl hstop ?_).imp_right .inr
      intro hcut hcut'
      simp only [State.stop?, hcut, Option.some.injEq] at hstop
      exact hstop ▸ ⟨_, .block hcut', hs, .some (hl.unknownNode .block)⟩
  | go hgo _ ih =>
    cases hn with
    | command hc hrest =>
      rcases hl.go hs hc hgo with ⟨hgo', hnear⟩ | ⟨huneven, t', hcut⟩
      · obtain ⟨hroom', hok'⟩ := State.stop?_command_eq_none_iff.1 hgo'
        rcases ih hrest hnear with ⟨o', ho', hend⟩ | hpart | hcut
        · exact .inl ⟨o', .command hroom' hok' ho', hend⟩
        · exact .inr (.inl (hpart.imp (.command hroom' hok')))
        · exact .inr (.inr (hcut.imp id fun _ => .command hroom' hok'))
      · exact .inr (.inr (.of_cutOff? huneven hcut))
  | @skip room pos body rest s o hroom hz _ ih =>
    cases hn with
    | @loop _ pos' _ body' _ rest' hbody hrest =>
      rcases hl.go_loop hs hroom pos' body' with hroom' | hapart
      · have hz' := (hl.zero_iff hs).1 hz
        rcases ih hrest hs with ⟨o', ho', hend⟩ | hpart | hcut
        · exact .inl ⟨o', .skip hroom' hz' ho', hend⟩
        · exact .inr (.inl (hpart.imp (.skip hroom' hz')))
        · exact .inr (.inr (hcut.imp id fun _ => .skip hroom' hz'))
      · exact .inr (.inr hapart)
  | @again room pos body rest s t o hroom hz _ _ ihb ihl =>
    cases hn with
    | @loop _ pos' _ body' _ rest' hbody hrest =>
      rcases hl.go_loop hs hroom pos' body' with hroom' | hapart
      · have hz' := mt (hl.zero_iff hs).2 hz
        rcases ihb hbody hs with
          ⟨⟨t', err⟩, hb', hnear, hnone⟩ | hpart | ⟨huneven, hcut | ⟨t', hb'⟩⟩
        · cases hnone
          rcases ihl (.loop hbody hrest) hnear with ⟨o', ho', hend⟩ | hpart | hcut
          · exact .inl ⟨o', .again hroom' hz' hb' ho', hend⟩
          · exact .inr (.inl (hpart.imp (.again hroom' hz' hb')))
          · exact .inr (.inr (hcut.imp id fun _ => .again hroom' hz' hb'))
        · obtain ⟨_, _, _, _, _, _, _, _, -, -, hstop, -⟩ := hpart
          obtain ⟨e, he⟩ := State.exists_error_of_stop? hstop
          cases he
        · cases hcut
        · exact .inr (.inr ⟨huneven, .inr ⟨t', .broken hroom' hz' hb'⟩⟩)
      · exact .inr (.inr hapart)
  | @broken room pos body rest s t e hroom hz _ ih =>
    cases hn with
    | @loop _ pos' _ body' _ rest' hbody hrest =>
      rcases hl.go_loop hs hroom pos' body' with hroom' | hapart
      · have hz' := mt (hl.zero_iff hs).2 hz
        rcases ih hbody hs with ⟨⟨t', err⟩, hb', hnear, hsome⟩ | hpart | hcut
        · cases hsome with
          | some hrel => exact .inl ⟨_, .broken hroom' hz' hb', hnear, .some hrel⟩
        · exact .inr (.inl (hpart.imp (.enter hroom' hz')))
        · exact .inr (.inr (hcut.imp id fun _ => .broken hroom' hz'))
      · exact .inr (.inr hapart)

/-! ## States that are mapped -/

/-- The error is the counterpart of another one under a map, and not one at which runs part. -/
def Counterpart (g : RunError → RunError) (Apart : RunError → Prop) (e e' : RunError) : Prop :=
  e' = g e ∧ ¬Apart e

variable {f : State → State} {g : RunError → RunError} {Apart : RunError → Prop}

/-- **Two runs stay together if the states of the second are those of the first under a map** that
the commands respect. `Free` are the commands that need not respect it; they fail in the first run,
and unless they are cut off alike the runs part there. -/
lemma of_map (Free : State → Command → Prop)
    (hzero : ∀ s, (f s).tape.current = 0 ↔ s.tape.current = 0)
    (hframes : ¬Uneven → ∀ call t, host'.frames call (f t).trace (f t).input =
      host.frames call t.trace t.input)
    (hdepth : Counterpart g Apart (.nestingDepth root) (.nestingDepth root'))
    (hunknown : ∀ kind, Counterpart g Apart (.unknownNode kind) (.unknownNode kind))
    (hperform : ∀ {s c pos c' pos'}, Same c pos c' pos' → ¬Free s c →
      (f s).perform host' c' pos' =
          ⟨f (s.perform host c pos).state, (s.perform host c pos).error.map g⟩ ∧
        (f s).calls host' c' = (s.calls host c).map (Prod.map id f))
    (hfail : ∀ {s c pos}, (∃ e, (s.perform host c pos).error = some e ∧ Apart e) → Free s c)
    (hfree : ∀ {s c} pos, Free s c → (s.perform host c pos).error ≠ none)
    (hpart : ∀ {room s c pos c' pos' o}, Same c pos c' pos' → Free s c →
      s.stop? host root room (.command c pos) = some o →
      Parting room s c o ∨ ∃ t, o = ⟨t, some (.nestingDepth root)⟩ ∧
        (¬Uneven → (f s).cutOff? host' room (.command c' pos') = some (f t))) :
    Lockstep host host' root root' Same (fun s s' => s' = f s) (Counterpart g Apart) Parting
      Uneven where
  zero_iff := by
    rintro s _ rfl
    exact (hzero s).symm
  frames_eq := by
    rintro s _ rfl call
    by_cases huneven : Uneven
    · exact .inr huneven
    · exact .inl (hframes huneven call s)
  go := by
    rintro room s _ c c' pos pos' rfl hc h
    obtain ⟨hroom, hok⟩ := State.stop?_command_eq_none_iff.1 h
    obtain ⟨hp, hcalls⟩ := hperform hc fun hf => hfree pos hf hok
    have hok' : ((f s).perform host' c' pos').error = none := by simp [hp, hok]
    cases hcut : (f s).cutOff? host' room (.command c' pos') with
    | none => exact .inl ⟨State.stop?_command_eq_none_iff.2 ⟨hcut, hok'⟩, by rw [hp]⟩
    | some t' =>
      refine .inr ⟨?_, t', rfl⟩
      by_contra huneven
      have hmap : (f s).cutOff? host' room (.command c' pos') =
          (s.cutOff? host room (.command c pos)).map f :=
        State.cutOff?_map hcalls (hframes huneven)
      rw [hcut, hroom] at hmap
      cases hmap
  stop := by
    rintro room s _ c c' pos pos' o rfl hc h
    -- Two nodes that are cut off alike end both runs.
    have hboth : ∀ {t}, (f s).cutOff? host' room (.command c' pos') = some (f t) →
        ∃ o', (f s).stop? host' root' room (.command c' pos') = some o' ∧ o'.state = f t ∧
          Option.Rel (Counterpart g Apart) (some (.nestingDepth root)) o'.error :=
      fun hcut => ⟨_, State.stop?_of_cutOff? hcut, rfl, .some hdepth⟩
    by_cases hf : Free s c
    · rcases hpart hc hf h with hpart | ⟨t, rfl, hcut⟩
      · exact .inr (.inl hpart)
      · by_cases huneven : Uneven
        · exact .inr (.inr ⟨huneven, .inl rfl⟩)
        · exact .inl (hboth (hcut huneven))
    · obtain ⟨hp, hcalls⟩ := hperform hc hf
      have hmap : ¬Uneven → (f s).cutOff? host' room (.command c' pos') =
          (s.cutOff? host room (.command c pos)).map f :=
        fun huneven => State.cutOff?_map hcalls (hframes huneven)
      rcases State.stop?_command_eq_some_iff.1 h with ⟨t, ht, rfl⟩ | ⟨hroom, ⟨e, he⟩, rfl⟩
      · by_cases huneven : Uneven
        · exact .inr (.inr ⟨huneven, .inl rfl⟩)
        · exact .inl (hboth (by rw [hmap huneven, ht, Option.map_some]))
      · cases hcut : (f s).cutOff? host' room (.command c' pos') with
        | some t' =>
          refine .inr (.inr ⟨?_, .inr ⟨t', rfl⟩⟩)
          by_contra huneven
          rw [hmap huneven, hroom] at hcut
          cases hcut
        | none =>
          have he' : ((f s).perform host' c' pos').error = some (g e) := by simp [hp, he]
          have hrel : Counterpart g Apart e (g e) := ⟨rfl, fun ha => hf (hfail ⟨e, he, ha⟩)⟩
          refine .inl ⟨_, State.stop?_command_eq_some_iff.2 (.inr ⟨hcut, ⟨_, he'⟩, rfl⟩), ?_, ?_⟩
          · rw [hp]
          · rw [he, he']
            exact .some hrel
  nestingDepth := hdepth
  unknownNode := hunknown

/-- If the first run comes to an end, so does the second, with the outcome of the first under the
maps, unless the runs part or one of them is cut off. -/
lemma exists_runs_map
    (hl : Lockstep host host' root root' Same (fun s s' => s' = f s) (Counterpart g Apart) Parting
      Uneven)
    (h : Runs host root room nodes s o) (hn : Alike Same nodes nodes') :
    (Runs host' root' room nodes' (f s) ⟨f o.state, o.error.map g⟩ ∧
        ∀ e, o.error = some e → ¬Apart e) ∨
      Parts host host' root root' Same (fun s s' => s' = f s) Parting room nodes' (f s) o ∨
      CutApart host' root root' Uneven room nodes' (f s) o := by
  refine (hl.exists_runs h hn rfl).imp_left ?_
  rintro ⟨⟨t, err⟩, hruns, hnear, hrel⟩
  dsimp only at hnear hrel
  subst hnear
  cases herr : o.error with
  | none =>
    rw [herr] at hrel
    cases hrel
    exact ⟨hruns, nofun⟩
  | some e =>
    rw [herr] at hrel
    cases hrel with
    | some hrel =>
      obtain ⟨rfl, hapart⟩ := hrel
      exact ⟨hruns, fun e' he' => Option.some.inj he' ▸ hapart⟩

end Lockstep

end TapeLang
