import TapeLang.Node.Basic

set_option autoImplicit false

/-!
# The text form of nodes

A leaf is written as its name with its line and column, a loop or a block also with its body, and a
list of nodes in square brackets with commas between the nodes:
`[Increment(line=1, col=1), Repeat(line=1, col=2, body=[Decrement(line=1, col=3)])]`.

## Main definitions

* `TapeLang.Node.text`, `TapeLang.nodesText` — the text form of a node and of a list of nodes.
-/

namespace TapeLang

/-- The name and the position of a node, and `tail` in the same brackets. -/
def fieldsText (kind : Kind) (pos : Position) (tail : String) : String :=
  kind.name ++ "(line=" ++ toString pos.line ++ ", col=" ++ toString pos.col ++ tail ++ ")"

mutual

/-- The text form of a node. -/
def Node.text : Node → String
  | .command c pos => fieldsText (.command c) pos ""
  | .bare pos => fieldsText .bare pos ""
  | .loop pos body => fieldsText .loop pos (", body=[" ++ itemsText body ++ "]")
  | .block pos body => fieldsText .block pos (", body=[" ++ itemsText body ++ "]")

/-- The text forms of nodes with commas between them. -/
def itemsText : List Node → String
  | [] => ""
  | [n] => n.text
  | n :: m :: ns => n.text ++ ", " ++ itemsText (m :: ns)

end

/-- The text form of a list of nodes. -/
def nodesText (nodes : List Node) : String :=
  "[" ++ itemsText nodes ++ "]"

end TapeLang
