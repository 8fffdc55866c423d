import TapeLang.Proofs.Parsing
import TapeLang.Run

set_option autoImplicit false

/-!
# Positions decide nothing

Operations and nodes carry positions so that errors can report them, and nothing else depends on
them. If all operations of a list are moved to other places, the list is parsed to the same tree at
those places, or refused for the same reason. If all nodes of a tree are moved, the tree runs as
before, and an error reports the new place. The root of a program is not a node and stays where it
is.

## Main definitions

* `TapeLang.Operation.relocate`, `TapeLang.relocate` — operations and nodes at other places.
* `TapeLang.ParseError.map` — a parse error with another operation.
* `TapeLang.RunError.relocate`, `TapeLang.Outcome.relocate` — a run error that reports another
  place, and an outcome with such an error.

## Main results

* `TapeLang.parse_map` — what is parsed from operations at other places.
* `TapeLang.State.perform_relocate`, `TapeLang.exec_relocate` — what is done by nodes at other
  places.
-/

namespace TapeLang

/-- The operation at another place. -/
def Operation.relocate (f : Position → Position) (op : Operation) : Operation :=
  { op with position := f op.position }

mutual

/-- The node at another place, with all nodes of its body. -/
def Node.relocate (f : Position → Position) : Node → Node
  | .command c pos => .command c (f pos)
  | .loop pos body => .loop (f pos) (relocate f body)
  | .bare pos => .bare (f pos)
  | .block pos body => .block (f pos) (relocate f body)

/-- The nodes at other places. -/
def relocate (f : Position → Position) : List Node → List Node
  | [] => []
  | n :: ns => n.relocate f :: relocate f ns

end

/-- The program with its nodes at other places, under the same root. -/
def Program.relocate (f : Position → Position) (p : Program) : Program :=
  { p with body := TapeLang.relocate f p.body }

/-- The error with another operation in place of the one that it carries. -/
def ParseError.map (g : Operation → Operation) : ParseError → ParseError
  | unmatchedEnd op => unmatchedEnd (g op)
  | unmatchedBegin op => unmatchedBegin (g op)
  | tooDeep op => tooDeep (g op)

/-- The error with another place of the command that it reports. That there is no room for a call is
reported at the root. -/
def RunError.relocate (f : Position → Position) : RunError → RunError
  | offTape pos pointer direction length => offTape (f pos) pointer direction length
  | inputExhausted pos ordinal => inputExhausted (f pos) ordinal
  | nestingDepth root => nestingDepth root
  | unknownNode kind => unknownNode kind

/-- The outcome with another place in its error. -/
def Outcome.relocate (f : Position → Position) (o : Outcome) : Outcome :=
  ⟨o.state, o.error.map (RunError.relocate f)⟩

variable {f : Position → Position} {g : Operation → Operation} {c : Command} {pos : Position}
  {op : Operation} {ops : List Operation} {body ns : List Node} {d k : ℕ}

@[simp] lemma relocate_nil : relocate f [] = [] := by
  rw [relocate]

@[simp] lemma relocate_cons_command :
    relocate f (.command c pos :: ns) = .command c (f pos) :: relocate f ns := by
  rw [relocate, Node.relocate]

@[simp] lemma relocate_cons_loop :
    relocate f (.loop pos body :: ns) = .loop (f pos) (relocate f body) :: relocate f ns := by
  rw [relocate, Node.relocate]

/-! ## Parsing -/

/-- A list whose operations are exchanged for others with the same symbols is split at the same
place. -/
lemma splitLoop_map (hs : ∀ op, (g op).symbol = op.symbol) :
    splitLoop k (ops.map g) =
      (splitLoop k ops).map fun (body, close, rest) => (body.map g, g close, rest.map g) := by
  fun_induction splitLoop k ops with
  | case1 => rfl
  | case2 e ops he =>
    rw [List.map_cons, splitLoop_zero_cons_end ((hs e).trans he)]
    rfl
  | case3 e ops k he ih =>
    rw [List.map_cons, splitLoop_succ_cons_end ((hs e).trans he), ih, Option.map_map,
      Option.map_map]
    rfl
  | case4 k b ops hb ih =>
    rw [List.map_cons, splitLoop_cons_begin ((hs b).trans hb), ih, Option.map_map, Option.map_map]
    rfl
  | case5 k op ops c hop ih =>
    rw [List.map_cons, splitLoop_cons_command ((hs op).trans hop), ih, Option.map_map,
      Option.map_map]
    rfl

/-- Operations at other places are parsed to the same nodes at those places, or refused for the
same reason.

**Proof sketch.** Induction along the parse. The list is split at the same places, and whatever is
found there is found on both sides. -/
lemma parseSpan_map (hs : ∀ op, (g op).symbol = op.symbol)
    (hp : ∀ op, (g op).position = f op.position) (first : Option Operation) :
    parseSpan d (first.map g) (ops.map g) =
      ((parseSpan d first ops).mapError (ParseError.map g)).map (relocate f) := by
  fun_induction parseSpan d first ops with
  | case1 =>
    rw [List.map_nil, parseSpan]
    rfl
  | case2 first op ops c hop =>
    rw [List.map_cons, parseSpan_zero_command ((hs op).trans hop), Option.getD_map]
    rfl
  | case3 first op ops c hop levels ih =>
    have hop' : (g op).symbol = .command c := (hs op).trans hop
    rw [List.map_cons, parseSpan_cons_command hop' (Nat.succ_pos levels), ih, hp]
    cases parseSpan (levels + 1) first ops with
    | error e => rfl
    | ok nodes =>
      show Except.ok (.command c (f op.position) :: relocate f nodes) =
        Except.ok (relocate f (.command c op.position :: nodes))
      rw [relocate_cons_command]
  | case4 levels first e ops he =>
    rw [List.map_cons, parseSpan_cons_end ((hs e).trans he)]
    rfl
  | case5 levels first b ops hb hsplit =>
    have hsplit' : splitLoop 0 (ops.map g) = none := by
      rw [splitLoop_map hs, hsplit, Option.map_none]
    rw [List.map_cons, parseSpan_cons_openBegin ((hs b).trans hb) hsplit']
    rfl
  | case6 first b ops hb inner close rest hsplit =>
    have hsplit' : splitLoop 0 (ops.map g) = _ := splitLoop_map hs
    rw [hsplit, Option.map_some] at hsplit'
    rw [List.map_cons, parseSpan_zero_loop ((hs b).trans hb) hsplit', Option.getD_map]
    rfl
  | case7 first b ops hb inner close rest hsplit first' depth ihi ih =>
    have hsplit' : splitLoop 0 (ops.map g) = _ := splitLoop_map hs
    rw [hsplit, Option.map_some] at hsplit'
    rw [Option.map_some] at ihi ih
    rw [List.map_cons, parseSpan_succ_loop ((hs b).trans hb) hsplit', Option.getD_map, ihi, ih, hp]
    cases parseSpan depth (some first') inner with
    | error e => rfl
    | ok body =>
      cases parseSpan (depth + 1) (some first') rest with
      | error e => rfl
      | ok nodes =>
        show Except.ok (.loop (f b.position) (relocate f body) :: relocate f nodes) =
          Except.ok (relocate f (.loop b.position body :: nodes))
        rw [relocate_cons_loop]

/-- **Operations at other places are parsed to the same program at those places**, or refused for
the same reason. -/
lemma parse_map (hs : ∀ op, (g op).symbol = op.symbol)
    (hp : ∀ op, (g op).position = f op.position) (host : Host) (ops : List Operation) :
    parse host (ops.map g) =
      ((parse host ops).mapError (ParseError.map g)).map (Program.relocate f) := by
  have h : parseSpan host.height (Option.map g none) (ops.map g) = _ := parseSpan_map hs hp none
  rw [Option.map_none] at h
  rw [parse, parse, h]
  cases parseSpan host.height none ops <;> rfl

/-! ## Running -/

variable {host : Host} {root : Position}

/-- A command at another place does the same. -/
lemma State.perform_relocate (f : Position → Position) (s : State) (host : Host)
    (c : Command) (pos : Position) :
    s.perform host c (f pos) = (s.perform host c pos).relocate f := by
  cases c with
  | moveRight | moveLeft =>
    simp only [perform, move]
    split <;> rfl
  | increment | decrement | output => rfl
  | input =>
    simp only [perform, read]
    split <;> rfl

/-- A node at another place is cut off in the same state. -/
lemma State.cutOff?_relocate (f : Position → Position) (s : State) (host : Host) (room : ℕ)
    (n : Node) : s.cutOff? host room (n.relocate f) = s.cutOff? host room n := by
  cases n with
  | command c pos => rw [Node.relocate, cutOff?, cutOff?, nodeCalls, nodeCalls]
  | loop pos body => rw [Node.relocate, cutOff?, cutOff?, nodeCalls, nodeCalls]
  | bare pos => rw [Node.relocate, cutOff?, cutOff?, nodeCalls, nodeCalls]
  | block pos body => rw [Node.relocate, cutOff?, cutOff?, nodeCalls, nodeCalls]

/-- **Nodes at other places run as before**, in as many steps, and an error reports the new place.

**Proof sketch.** Induction on the number of steps. Every case of the first node is the same on
both sides. -/
lemma exec_relocate (f : Position → Position) (fuel room : ℕ) (nodes : List Node) (s : State) :
    exec host root fuel room (relocate f nodes) s =
      (exec host root fuel room nodes s).map (Outcome.relocate f) := by
  induction fuel generalizing room nodes s with
  | zero => rw [exec, exec, Option.map_none]
  | succ fuel ih =>
    cases nodes with
    | nil =>
      rw [relocate_nil, exec]
      rfl
    | cons n rest =>
      rw [relocate, exec.eq_def, exec.eq_def]
      dsimp only
      rw [s.cutOff?_relocate]
      cases s.cutOff? host room n with
      | some t => rfl
      | none =>
        cases n with
        | command c pos =>
          simp only [Node.relocate]
          rw [State.perform_relocate]
          cases he : (s.perform host c pos).error with
          | none =>
            simp only [Outcome.relocate, he, Option.map_none]
            exact ih room rest _
          | some e => simp only [Outcome.relocate, he, Option.map_some]
        | bare pos => simp [Node.relocate, Outcome.relocate, RunError.relocate]
        | block pos body => simp [Node.relocate, Outcome.relocate, RunError.relocate]
        | loop pos body =>
          simp only [Node.relocate]
          by_cases hz : s.tape.current = 0
          · rw [if_pos hz, if_pos hz]
            exact ih room rest s
          · rw [if_neg hz, if_neg hz, ih]
            cases exec host root fuel (room - 1) body s with
            | none => rfl
            | some o =>
              obtain ⟨t, _ | e⟩ := o
              · have hl := ih room (.loop pos body :: rest) t
                rwa [relocate_cons_loop] at hl
              · rfl

end TapeLang
