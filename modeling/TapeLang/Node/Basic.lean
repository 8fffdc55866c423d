import TapeLang.Symbol
import TapeLang.Position

set_option autoImplicit false

/-!
# Instruction trees

A program is a list of nodes. A node is a command or a loop that owns its body. Trees that are put
together by hand may hold two more kinds of node, to which the evaluator gives no meaning: a bare
instruction and a block.

## Main definitions

* `TapeLang.Node` — a node with its position.
* `TapeLang.Kind` — the kinds of node, with their names.
* `TapeLang.Program` — a list of nodes under a root, which has a position too.
* `TapeLang.nesting`, `TapeLang.nodeCount` — the deepest nesting of loops, and the number of
  nodes. Both descend into loops only, so a block counts as one node.

## Main results

* `TapeLang.Node.list_induction` — a property of lists of nodes holds if it passes from the rest of
  a list, and from the body of its first node, to the list.
-/

namespace TapeLang

/-- The kinds of node. -/
inductive Kind where
  | command (c : Command)
  | loop
  /-- An instruction of no kind. -/
  | bare
  /-- A whole program, the root of a tree. -/
  | block
  deriving DecidableEq

/-- The name of a kind of node in text forms and errors. -/
def Kind.name : Kind → String
  | command .moveRight => "MoveRight"
  | command .moveLeft => "MoveLeft"
  | command .increment => "Increment"
  | command .decrement => "Decrement"
  | command .output => "Output"
  | command .input => "Input"
  | loop => "Repeat"
  | bare => "Instruction"
  | block => "Program"

/-- A node of an instruction tree. -/
inductive Node where
  /-- A command. -/
  | command (c : Command) (pos : Position)
  /-- Runs its body while the current cell is not zero. -/
  | loop (pos : Position) (body : List Node)
  /-- An instruction of no kind, which no program text has. -/
  | bare (pos : Position)
  /-- A program inside a program, which no program text has. -/
  | block (pos : Position) (body : List Node)

namespace Node

/-- The kind of a node. -/
def kind : Node → Kind
  | command c _ => .command c
  | loop _ _ => .loop
  | bare _ => .bare
  | block _ _ => .block

/-- The position of a node. -/
def position : Node → Position
  | command _ pos => pos
  | loop pos _ => pos
  | bare pos => pos
  | block pos _ => pos

/-- A property of lists of nodes holds if it passes from a list, and from the body of a first node
that has one, to the list with a node in front. -/
theorem list_induction {motive : List Node → Prop} (nil : motive [])
    (command : ∀ c pos rest, motive rest → motive (.command c pos :: rest))
    (loop : ∀ pos body rest, motive body → motive rest → motive (.loop pos body :: rest))
    (bare : ∀ pos rest, motive rest → motive (.bare pos :: rest))
    (block : ∀ pos body rest, motive body → motive rest → motive (.block pos body :: rest))
    (ns : List Node) : motive ns := by
  apply @Node.rec_1 (fun n => ∀ rest, motive rest → motive (n :: rest)) motive
  · exact command
  · intro pos body hbody rest hrest
    exact loop pos body rest hbody hrest
  · exact bare
  · intro pos body hbody rest hrest
    exact block pos body rest hbody hrest
  · exact nil
  · intro n rest hn hrest
    exact hn rest hrest

mutual

/-- Decides whether two nodes agree in kind, position and body. -/
def decEq : (a b : Node) → Decidable (a = b)
  | command c p, command d q =>
    if h : c = d ∧ p = q then isTrue (by rw [h.1, h.2]) else isFalse (by simpa using h)
  | loop p xs, loop q ys =>
    match decEqList xs ys with
    | isTrue h =>
      if hp : p = q then isTrue (by rw [hp, h]) else isFalse (by simp [hp])
    | isFalse h => isFalse (by simp [h])
  | bare p, bare q => if h : p = q then isTrue (by rw [h]) else isFalse (by simpa using h)
  | block p xs, block q ys =>
    match decEqList xs ys with
    | isTrue h =>
      if hp : p = q then isTrue (by rw [hp, h]) else isFalse (by simp [hp])
    | isFalse h => isFalse (by simp [h])
  | command _ _, loop _ _ => isFalse nofun
  | command _ _, bare _ => isFalse nofun
  | command _ _, block _ _ => isFalse nofun
  | loop _ _, command _ _ => isFalse nofun
  | loop _ _, bare _ => isFalse nofun
  | loop _ _, block _ _ => isFalse nofun
  | bare _, command _ _ => isFalse nofun
  | bare _, loop _ _ => isFalse nofun
  | bare _, block _ _ => isFalse nofun
  | block _ _, command _ _ => isFalse nofun
  | block _ _, loop _ _ => isFalse nofun
  | block _ _, bare _ => isFalse nofun

/-- Decides whether two lists of nodes are equal. -/
def decEqList : (xs ys : List Node) → Decidable (xs = ys)
  | [], [] => isTrue rfl
  | [], _ :: _ => isFalse nofun
  | _ :: _, [] => isFalse nofun
  | x :: xs, y :: ys =>
    match decEq x y, decEqList xs ys with
    | isTrue h, isTrue hs => isTrue (by rw [h, hs])
    | isFalse h, _ => isFalse (by simp [h])
    | _, isFalse hs => isFalse (by simp [hs])

end

instance : DecidableEq Node := decEq

end Node

/-- A whole program: a list of nodes under a root. -/
structure Program where
  /-- The position of the root. -/
  root : Position := .start
  /-- The nodes under the root. -/
  body : List Node
  deriving DecidableEq

mutual

/-- How many loops are nested in a node, the node itself included. -/
def Node.nesting : Node → Nat
  | .loop _ body => 1 + nesting body
  | .command _ _ => 0
  | .bare _ => 0
  | .block _ _ => 0

/-- The deepest nesting of loops in a list of nodes. -/
def nesting : List Node → Nat
  | [] => 0
  | n :: ns => max n.nesting (nesting ns)

end

mutual

/-- The number of nodes in a node, the node itself included. -/
def Node.nodeCount : Node → Nat
  | .loop _ body => 1 + nodeCount body
  | .command _ _ => 1
  | .bare _ => 1
  | .block _ _ => 1

/-- The number of nodes in a list of nodes, those inside of loops included. -/
def nodeCount : List Node → Nat
  | [] => 0
  | n :: ns => n.nodeCount + nodeCount ns

end

@[simp] theorem nesting_nil : nesting [] = 0 := by
  rw [nesting]

@[simp] theorem nesting_cons_command (c : Command) (pos : Position) (ns : List Node) :
    nesting (.command c pos :: ns) = nesting ns := by
  simp [nesting, Node.nesting]

@[simp] theorem nesting_cons_loop (pos : Position) (body ns : List Node) :
    nesting (.loop pos body :: ns) = max (1 + nesting body) (nesting ns) := by
  rw [nesting, Node.nesting]

/-- In the body of a loop there is room for one level less. -/
theorem nesting_cons_loop_le_iff {pos : Position} {body ns : List Node} {d : Nat} :
    nesting (.loop pos body :: ns) ≤ d + 1 ↔ nesting body ≤ d ∧ nesting ns ≤ d + 1 := by
  rw [nesting_cons_loop]
  omega

end TapeLang
