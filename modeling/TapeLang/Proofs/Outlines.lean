import TapeLang.Node.Outline
import TapeLang.Proofs.Spelling

set_option autoImplicit false

/-!
# Outlines and operations

An outline loses nothing of a tree: the depths say which entries belong to the body of a node. Of a
tree that a list of operations spells, the outline also follows that list. Each operation that is no
loop end has one entry, in the same order, and stands as deep as there are loops open before it.

## Main definitions

* `TapeLang.Symbol.kind?` — the kind of node that begins with a symbol.

## Main results

* `TapeLang.ofOutline_outline` — the nodes of an outline are those it was made of.
* `TapeLang.Spells.length_outline`, `TapeLang.Spells.getElem?_outline` — the entries of an outline
  are found on the operations.
-/

namespace TapeLang

/-- The kind of node that begins with a symbol. With a loop end begins none. -/
def Symbol.kind? : Symbol → Option Kind
  | command c => some (.command c)
  | loopBegin => some .loop
  | loopEnd => none

variable {d : ℕ} {ops pre post : List Operation} {op : Operation} {nodes : List Node} {kind : Kind}
  {entry : Outline.Entry}

/-! ## Nodes by their bodies -/

/-- The body of a node, which is empty for a leaf. -/
def Node.body : Node → List Node
  | command _ _ => []
  | loop _ body => body
  | bare _ => []
  | block _ body => body

/-- A property of lists of nodes holds if it passes from the body of a first node and the nodes
behind it to the whole list. -/
lemma Node.body_induction {motive : List Node → Prop} (nil : motive [])
    (cons : ∀ (n : Node) rest, motive n.body → motive rest → motive (n :: rest))
    (nodes : List Node) : motive nodes := by
  induction nodes using Node.list_induction with
  | nil => exact nil
  | command c pos rest ih => exact cons (.command c pos) rest nil ih
  | loop pos body rest ihBody ih => exact cons (.loop pos body) rest ihBody ih
  | bare pos rest ih => exact cons (.bare pos) rest nil ih
  | block pos body rest ihBody ih => exact cons (.block pos body) rest ihBody ih

lemma Node.ofKind_body (n : Node) : Node.ofKind n.kind n.position n.body = n := by
  cases n <;> rfl

@[simp] lemma outline_nil (d : ℕ) : outline d [] = [] := by
  rw [outline]

lemma outline_cons (d : ℕ) (n : Node) (rest : List Node) :
    outline d (n :: rest) =
      ⟨d, n.kind, n.position⟩ :: (outline (d + 1) n.body ++ outline d rest) := by
  cases n <;> simp [outline, Node.outline, Node.kind, Node.position, Node.body]

@[simp] lemma outline_cons_command (d : ℕ) (c : Command) (pos : Position) (rest : List Node) :
    outline d (.command c pos :: rest) = ⟨d, .command c, pos⟩ :: outline d rest := by
  rw [outline_cons, show (Node.command c pos).body = [] from rfl, outline_nil]
  rfl

@[simp] lemma outline_cons_loop (d : ℕ) (pos : Position) (body rest : List Node) :
    outline d (.loop pos body :: rest) =
      ⟨d, .loop, pos⟩ :: (outline (d + 1) body ++ outline d rest) :=
  outline_cons d (.loop pos body) rest

/-! ## From the outline to the nodes -/

/-- No entry stands above the depth of its outline. -/
lemma le_depth_of_mem_outline (h : entry ∈ outline d nodes) : d ≤ entry.depth := by
  induction nodes using Node.body_induction generalizing d with
  | nil => simp at h
  | cons n rest ihBody ih =>
    rw [outline_cons, List.mem_cons, List.mem_append] at h
    obtain rfl | h | h := h
    · exact Nat.le_refl _
    · exact Nat.le_of_succ_le (ihBody h)
    · exact ih h

/-- The entries of a body end where one stands no deeper than the owner of the body. -/
lemma span_outline (d : ℕ) (body rest : List Node) :
    (outline (d + 1) body ++ outline d rest).takeWhile (fun x => d < x.depth) =
        outline (d + 1) body ∧
      (outline (d + 1) body ++ outline d rest).dropWhile (fun x => d < x.depth) =
        outline d rest := by
  have hbody : ∀ e ∈ outline (d + 1) body, decide (d < e.depth) = true := fun e he =>
    decide_eq_true (le_depth_of_mem_outline he)
  rw [List.takeWhile_append_of_pos hbody, List.dropWhile_append_of_pos hbody]
  cases rest with
  | nil => simp
  | cons n rest => simp [outline_cons]

lemma ofOutline_cons (d : ℕ) (e : Outline.Entry) (rest : List Outline.Entry) :
    ofOutline d (e :: rest) =
      Node.ofKind e.kind e.position
          (ofOutline (d + 1) (rest.takeWhile fun x => d < x.depth)) ::
        ofOutline d (rest.dropWhile fun x => d < x.depth) := by
  rw [ofOutline]

/-- **The nodes of an outline are those it was made of.** -/
lemma ofOutline_outline (d : ℕ) (nodes : List Node) : ofOutline d (outline d nodes) = nodes := by
  induction nodes using Node.body_induction generalizing d with
  | nil => simp [ofOutline]
  | cons n rest ihBody ih =>
    obtain ⟨htake, hdrop⟩ := span_outline d n.body rest
    rw [outline_cons, ofOutline_cons, htake, hdrop, ihBody, ih, Node.ofKind_body]

/-! ## From the operations to the outline -/

/-- Every operation but a loop end has an entry. -/
lemma Spells.length_outline (h : Spells ops nodes) (d : ℕ) :
    (outline d nodes).length = ops.countP (·.symbol ≠ .loopEnd) := by
  induction h generalizing d with
  | nil => simp
  | command hop _ ih => simp [hop, ih]
  | loop hb he _ _ ihBody ih => simp [hb, he, ihBody, ih]

/-- **An operation has its entry behind those of the operations before it**, as deep as there are
loops open. -/
lemma Spells.getElem?_outline (h : Spells ops nodes) (d : ℕ) (hcut : ops = pre ++ op :: post)
    (hkind : op.symbol.kind? = some kind) :
    ∃ k : ℕ, depth pre = k ∧
      (outline d nodes)[pre.countP (·.symbol ≠ .loopEnd)]? = some ⟨d + k, kind, op.position⟩ := by
  induction h generalizing d pre post with
  | nil => simp at hcut
  | @command op' c ops nodes hop _ ih =>
    cases pre with
    | nil =>
      cases hcut
      rw [hop] at hkind
      cases hkind
      exact ⟨0, rfl, by simp⟩
    | cons _ pre =>
      cases hcut
      obtain ⟨k, hdepth, hentry⟩ := ih d rfl
      refine ⟨k, by rw [depth_cons_command hop, hdepth], ?_⟩
      simpa [hop] using hentry
  | @loop b e body ops inner nodes hb he hinside _ ihBody ih =>
    cases pre with
    | nil =>
      cases hcut
      rw [hb] at hkind
      cases hkind
      exact ⟨0, rfl, by simp⟩
    | cons _ pre =>
      rw [List.cons_append, List.cons.injEq] at hcut
      obtain ⟨rfl, hcut⟩ := hcut
      have hne : op ≠ e := by
        rintro rfl
        rw [he] at hkind
        cases hkind
      rcases List.append_eq_append_iff.1 hcut with ⟨mid, rfl, hmid⟩ | ⟨mid, rfl, hmid⟩
      · -- the operation stands behind the loop
        cases mid with
        | nil =>
          cases hmid
          exact absurd rfl hne
        | cons _ mid =>
          rw [List.cons_append, List.cons.injEq] at hmid
          obtain ⟨rfl, rfl⟩ := hmid
          obtain ⟨k, hdepth, hentry⟩ := ih d rfl
          refine ⟨k, ?_, ?_⟩
          · rw [depth_cons_begin hb, depth_append, depth_cons_end he, hdepth,
              hinside.balanced.depth_eq_zero]
            omega
          · have hindex : (b :: (body ++ e :: mid)).countP (·.symbol ≠ .loopEnd) =
                (outline (d + 1) inner).length + mid.countP (·.symbol ≠ .loopEnd) + 1 := by
              simp [hb, he, hinside.length_outline]
            rw [hindex, outline_cons_loop, List.getElem?_cons_succ,
              List.getElem?_append_right (Nat.le_add_right _ _), Nat.add_sub_cancel_left, hentry]
      · -- the operation stands in the loop
        cases mid with
        | nil =>
          cases hmid
          exact absurd rfl hne
        | cons _ mid =>
          rw [List.cons_append, List.cons.injEq] at hmid
          obtain ⟨rfl, rfl⟩ := hmid
          obtain ⟨k, hdepth, hentry⟩ := ihBody (d + 1) rfl
          refine ⟨k + 1, ?_, ?_⟩
          · rw [depth_cons_begin hb, hdepth]
            push_cast
            omega
          · have hindex : (b :: pre).countP (·.symbol ≠ .loopEnd) =
                pre.countP (·.symbol ≠ .loopEnd) + 1 := by
              simp [hb]
            have hlt := (List.getElem?_eq_some_iff.1 hentry).1
            rw [hindex, outline_cons_loop, List.getElem?_cons_succ, List.getElem?_append_left hlt,
              hentry, Nat.add_assoc, Nat.add_comm 1]

end TapeLang
