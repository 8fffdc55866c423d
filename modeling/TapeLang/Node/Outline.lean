import TapeLang.Node.Basic

set_option autoImplicit false

/-!
# Outlines

An outline lists the nodes of a tree, each before the nodes of its body, with the depth at which
each one stands.

## Main definitions

* `TapeLang.Outline.Entry` — one node of an outline.
* `TapeLang.outline` — the outline of a list of nodes.
* `TapeLang.ofOutline` — the nodes that an outline lists.
* `TapeLang.Program.text` — the outline of a program with one node on each line, indented by depth.
-/

namespace TapeLang

/-- A node of an outline: its depth, kind and position. -/
structure Outline.Entry where
  /-- In how many bodies the node stands. -/
  depth : Nat
  /-- The kind of the node. -/
  kind : Kind
  /-- The position of the node. -/
  position : Position
  deriving DecidableEq

/-- The node of a kind and a position that owns a body; leaves drop the body. -/
def Node.ofKind (kind : Kind) (pos : Position) (body : List Node) : Node :=
  match kind with
  | .command c => .command c pos
  | .loop => .loop pos body
  | .bare => .bare pos
  | .block => .block pos body

mutual

/-- The outline of a node that stands at a depth. -/
def Node.outline (depth : Nat) : Node → List Outline.Entry
  | .command c pos => [⟨depth, .command c, pos⟩]
  | .bare pos => [⟨depth, .bare, pos⟩]
  | .loop pos body => ⟨depth, .loop, pos⟩ :: outline (depth + 1) body
  | .block pos body => ⟨depth, .block, pos⟩ :: outline (depth + 1) body

/-- The outline of a list of nodes that stand at a depth. -/
def outline (depth : Nat) : List Node → List Outline.Entry
  | [] => []
  | n :: ns => n.outline depth ++ outline depth ns

end

/-- The nodes that an outline lists at a depth. A node owns the entries behind it that are deeper,
up to the next one that is not. -/
def ofOutline (depth : Nat) : List Outline.Entry → List Node
  | [] => []
  | e :: rest =>
    Node.ofKind e.kind e.position
        (ofOutline (depth + 1) (rest.takeWhile fun x => depth < x.depth)) ::
      ofOutline depth (rest.dropWhile fun x => depth < x.depth)
termination_by entries => entries.length
decreasing_by
  · exact Nat.lt_succ_of_le (List.takeWhile_sublist _).length_le
  · exact Nat.lt_succ_of_le (List.dropWhile_sublist _).length_le

/-- One line of an indented outline, as in `    Increment @L1:2`. -/
def Outline.Entry.line (e : Outline.Entry) : String :=
  String.ofList (List.replicate (2 * e.depth) ' ') ++ e.kind.name ++ " @" ++ e.position.text ++ "\n"

/-- The outline of a program: its root at depth zero, then the nodes under it. -/
def Program.outline (p : Program) : List Outline.Entry :=
  ⟨0, .block, p.root⟩ :: TapeLang.outline 1 p.body

/-- The indented outline of a program, one line for each node. -/
def Program.text (p : Program) : String :=
  String.join (p.outline.map Outline.Entry.line)

end TapeLang
