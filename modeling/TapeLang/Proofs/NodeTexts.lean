import TapeLang.Node.Text
import TapeLang.Proofs.Readback

set_option autoImplicit false

/-!
# The text form of nodes is read in one way

The text form of nodes is put together of names, numbers, commas and brackets. No mark that ends a
part of it stands inside of that part, and the text of the nodes of a body ends at the bracket that
closes it, however many brackets there are in between. So the text of a node, whatever may follow
it, determines the node and where its text ends.

## Main definitions

* `TapeLang.Node.bodyText` — what a node shows behind its column.
* `TapeLang.separatedText` — the nodes behind another one, with the comma in front of them.

## Main results

* `TapeLang.Node.text_append_inj` — the text of a node determines the node and its end.
* `TapeLang.itemsText_append_inj` — the text of a body determines the nodes and its end.
* `TapeLang.nodesText_inj` — the text form of nodes determines them.
-/

namespace TapeLang

/-- What a node shows behind its column: nothing for a leaf, else its body. -/
def Node.bodyText : Node → String
  | command _ _ => ""
  | loop _ body => ", body=[" ++ itemsText body ++ "]"
  | bare _ => ""
  | block _ body => ", body=[" ++ itemsText body ++ "]"

/-- The text forms of the nodes behind another one, with a comma in front of them. -/
def separatedText : List Node → String
  | [] => ""
  | n :: ns => ", " ++ itemsText (n :: ns)

variable {n m : Node} {nodes nodes' : List Node} {kind kind' : Kind} {pos pos' : Position}
  {tail tail' : String} {stop : Char} {a b : ℤ} {xs ys rest rest' : List Char}

/-! ## Parts of a text -/

/-- A part of a text that does not hold the mark behind it ends at that mark. -/
lemma append_cons_inj_of_not_mem (hx : stop ∉ xs) (hy : stop ∉ ys)
    (h : xs ++ stop :: rest = ys ++ stop :: rest') : xs = ys ∧ rest = rest' := by
  have hfield : field? "" stop (xs ++ stop :: rest) = field? "" stop (ys ++ stop :: rest') :=
    congrArg _ h
  have hxs : field? "" stop (xs ++ stop :: rest) = some (xs, rest) := field?_append hx
  have hys : field? "" stop (ys ++ stop :: rest') = some (ys, rest') := field?_append hy
  rw [hxs, hys] at hfield
  exact Prod.mk.inj (Option.some.inj hfield)

/-- A number ends at a mark that is neither a digit nor a sign. -/
lemma toString_append_inj (hdigit : stop.isDigit = false) (hsign : stop ≠ '-')
    (h : (toString a).toList ++ stop :: rest = (toString b).toList ++ stop :: rest') :
    a = b ∧ rest = rest' := by
  obtain ⟨htext, hrest⟩ := append_cons_inj_of_not_mem (not_mem_toString a hdigit hsign)
    (not_mem_toString b hdigit hsign) h
  have hread := congrArg integer? htext
  rw [integer?_toString, integer?_toString] at hread
  exact ⟨Option.some.inj hread, hrest⟩

/-- A name is made of letters. -/
lemma Kind.isAlpha_of_mem_name {c : Char} (h : c ∈ kind.name.toList) : c.isAlpha = true := by
  have hall : kind.name.toList.all Char.isAlpha = true := by
    cases kind with
    | command c => cases c <;> decide
    | loop => decide
    | bare => decide
    | block => decide
  exact List.all_eq_true.1 hall c h

lemma Kind.bracket_not_mem_name (kind : Kind) : '(' ∉ kind.name.toList := by
  intro h
  cases isAlpha_of_mem_name h

lemma Kind.name_inj (h : kind.name.toList = kind'.name.toList) : kind = kind' := by
  have hread := congrArg ofName? h
  rw [ofName?_name, ofName?_name] at hread
  exact Option.some.inj hread

/-! ## Nodes -/

lemma toList_fieldsText (kind : Kind) (pos : Position) (tail : String) :
    (fieldsText kind pos tail).toList = kind.name.toList ++ '(' :: ("line=".toList ++
      ((toString pos.line).toList ++ ',' :: (" col=".toList ++
        ((toString pos.col).toList ++ (tail.toList ++ [')']))))) := by
  simp [fieldsText]

/-- Name and line of a node end at their marks. -/
lemma fieldsText_append_inj (h : (fieldsText kind pos tail).toList ++ rest =
      (fieldsText kind' pos' tail').toList ++ rest') :
    kind = kind' ∧ pos.line = pos'.line ∧
      (toString pos.col).toList ++ (tail.toList ++ ')' :: rest) =
        (toString pos'.col).toList ++ (tail'.toList ++ ')' :: rest') := by
  simp only [toList_fieldsText, List.append_assoc, List.cons_append, List.nil_append] at h
  obtain ⟨hname, hline⟩ :=
    append_cons_inj_of_not_mem kind.bracket_not_mem_name kind'.bracket_not_mem_name h
  obtain ⟨hline, hcol⟩ :=
    toString_append_inj (by decide) (by decide) (List.append_cancel_left hline)
  exact ⟨Kind.name_inj hname, hline, List.append_cancel_left hcol⟩

lemma Node.text_eq (n : Node) : n.text = fieldsText n.kind n.position n.bodyText := by
  cases n <;> rw [text, bodyText, kind, position]

/-- **The text of a node determines the node and its end**, if the text of its body determines the
body and its end. -/
lemma Node.text_append_inj
    (hbody : ∀ (nodes : List Node) (rest rest' : List Char),
      (itemsText n.body).toList ++ ']' :: rest = (itemsText nodes).toList ++ ']' :: rest' →
        n.body = nodes ∧ rest = rest')
    (h : n.text.toList ++ rest = m.text.toList ++ rest') : n = m ∧ rest = rest' := by
  rw [n.text_eq, m.text_eq] at h
  obtain ⟨hkind, hline, hcol⟩ := fieldsText_append_inj h
  -- behind the column of a leaf stands a bracket
  have hleaf (hn : n.bodyText = "") (hm : m.bodyText = "") :
      n.position.col = m.position.col ∧ rest = rest' := by
    rw [hn, hm] at hcol
    exact toString_append_inj (by decide) (by decide) hcol
  -- behind the column of an owner stands a comma, and then its body
  have howner (hn : n.bodyText = ", body=[" ++ itemsText n.body ++ "]")
      (hm : m.bodyText = ", body=[" ++ itemsText m.body ++ "]") :
      n.position.col = m.position.col ∧ n.body = m.body ∧ rest = rest' := by
    rw [hn, hm] at hcol
    simp only [String.toList_append, List.append_assoc] at hcol
    obtain ⟨hcol, htail⟩ := toString_append_inj (by decide) (by decide) hcol
    obtain ⟨hnodes, hrest⟩ := hbody _ _ _ (List.append_cancel_left htail)
    exact ⟨hcol, hnodes, (List.cons.inj hrest).2⟩
  have hpos (hcol : n.position.col = m.position.col) : n.position = m.position := by
    rw [← show (⟨n.position.line, n.position.col⟩ : Position) = n.position from rfl, hline, hcol]
  have hnode (hcol : n.position.col = m.position.col) (hnodes : n.body = m.body) : n = m := by
    rw [← n.ofKind_body, ← m.ofKind_body, hkind, hpos hcol, hnodes]
  cases n with
  | command =>
    cases m <;> cases hkind
    exact ⟨hnode (hleaf rfl rfl).1 rfl, (hleaf rfl rfl).2⟩
  | bare =>
    cases m <;> cases hkind
    exact ⟨hnode (hleaf rfl rfl).1 rfl, (hleaf rfl rfl).2⟩
  | loop =>
    cases m <;> cases hkind
    obtain ⟨hcol, hnodes, hrest⟩ := howner rfl rfl
    exact ⟨hnode hcol hnodes, hrest⟩
  | block =>
    cases m <;> cases hkind
    obtain ⟨hcol, hnodes, hrest⟩ := howner rfl rfl
    exact ⟨hnode hcol hnodes, hrest⟩

/-! ## Lists of nodes -/

lemma itemsText_cons (n : Node) (nodes : List Node) :
    itemsText (n :: nodes) = n.text ++ separatedText nodes := by
  cases nodes with
  | nil => rw [itemsText, separatedText, String.append_empty]
  | cons m nodes => rw [itemsText, separatedText, String.append_assoc]

lemma toList_separatedText_cons (n : Node) (nodes : List Node) :
    (separatedText (n :: nodes)).toList = ',' :: ' ' :: (itemsText (n :: nodes)).toList := by
  simp [separatedText]

/-- The text of a node begins with a letter. -/
lemma Node.exists_text_eq_cons (n : Node) : ∃ c cs, n.text.toList = c :: cs ∧ c.isAlpha = true := by
  obtain ⟨c, cs, hname⟩ := List.exists_cons_of_ne_nil n.kind.name_ne_nil
  have hc : c.isAlpha = true := Kind.isAlpha_of_mem_name (hname ▸ List.mem_cons_self)
  rw [n.text_eq, toList_fieldsText, hname, List.cons_append]
  exact ⟨c, _, rfl, hc⟩

/-- The text of a body with nodes does not begin with a closing bracket. -/
lemma itemsText_cons_append_ne (n : Node) (nodes : List Node) (rest rest' : List Char) :
    (itemsText (n :: nodes)).toList ++ rest ≠ ']' :: rest' := by
  obtain ⟨c, cs, htext, hc⟩ := n.exists_text_eq_cons
  rw [itemsText_cons, String.toList_append, htext]
  intro h
  obtain ⟨rfl, -⟩ := List.cons.inj h
  cases hc

/-- **The text of a body determines its nodes and its end.**

**Proof sketch.** Induction on the nodes and their bodies. The text of the first node ends where the
induction says that its body ends; behind it stands a comma if there are more nodes. -/
lemma itemsText_append_inj
    (h : (itemsText nodes).toList ++ ']' :: rest = (itemsText nodes').toList ++ ']' :: rest') :
    nodes = nodes' ∧ rest = rest' := by
  induction nodes using Node.body_induction generalizing nodes' rest rest' with
  | nil =>
    cases nodes' with
    | nil => exact ⟨rfl, (List.cons.inj h).2⟩
    | cons m nodes' => exact absurd h.symm (itemsText_cons_append_ne m nodes' _ _)
  | cons n nodes ihBody ih =>
    cases nodes' with
    | nil => exact absurd h (itemsText_cons_append_ne n nodes _ _)
    | cons m nodes' =>
      rw [itemsText_cons, itemsText_cons, String.toList_append, String.toList_append,
        List.append_assoc, List.append_assoc] at h
      obtain ⟨rfl, hbehind⟩ := Node.text_append_inj (fun _ _ _ => ihBody) h
      cases nodes with
      | nil =>
        cases nodes' with
        | nil => exact ⟨rfl, (List.cons.inj hbehind).2⟩
        | cons m nodes' =>
          rw [toList_separatedText_cons] at hbehind
          cases hbehind
      | cons k nodes =>
        rw [toList_separatedText_cons] at hbehind
        cases nodes' with
        | nil => cases hbehind
        | cons m nodes' =>
          rw [toList_separatedText_cons] at hbehind
          -- the comma and the blank behind it
          have hitems := (List.cons.inj (List.cons.inj hbehind).2).2
          obtain ⟨hnodes, hrest⟩ := ih hitems
          exact ⟨by rw [hnodes], hrest⟩

/-- **The text form of nodes determines them.** Two lists of nodes of any kinds, with any positions
and nested in any way, have the same text exactly if they agree in the kinds, positions and bodies
of all their nodes. -/
theorem nodesText_inj (nodes nodes' : List Node) :
    nodesText nodes = nodesText nodes' ↔ nodes = nodes' := by
  constructor
  · intro h
    have htext := congrArg String.toList h
    simp only [nodesText, String.toList_append, List.append_assoc] at htext
    exact (itemsText_append_inj (List.append_cancel_left htext)).1
  · exact congrArg nodesText

/-- Where a body ends makes a difference. -/
example : nodesText [.loop ⟨1, -1⟩ [.bare ⟨0, 7⟩], .block ⟨0, 0⟩ []] =
    "[Repeat(line=1, col=-1, body=[Instruction(line=0, col=7)]), " ++
      "Program(line=0, col=0, body=[])]" := by
  decide +kernel

end TapeLang
