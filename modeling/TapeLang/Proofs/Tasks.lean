import Mathlib.Data.List.Basic
import TapeLang.CommandLine.Arguments

set_option autoImplicit false

/-!
# The task of a command line

Some options only ask for records of what happens, or for prompts. Without them what is left of a
command line is its task: the program file, the values for the tape and what is to be listed. An
argument for records or prompts may stand anywhere between complete arguments, except next to a
separator or behind it, and the task is the same as without it.

## Main definitions

* `TapeLang.Options.task` — the options without those that ask for records and prompts.
* `TapeLang.SameTask` — two command lines ask for the same but for records and prompts.

## Main results

* `TapeLang.Draft.task_consume` — records and prompts that were asked for before do not change the
  task.
* `TapeLang.readArguments_insert` — an argument that asks for records or prompts does not change the
  task.
-/

namespace TapeLang

/-- The option only asks for records or prompts. -/
def Switch.IsDiagnostic (o : Switch) : Prop :=
  o = prompt ∨ o = verbose ∨ o = quiet

/-- The options without those that ask for records and prompts. -/
def Options.task (o : Options) : Options :=
  { o with prompt := false, verbosity := 0, quiet := false }

/-- What is known while arguments are read, without the options for records and prompts. -/
def Draft.task (d : Draft) : Draft :=
  { d with options := d.options.task }

/-- Two command lines ask for the same but for records and prompts, or both ask for nothing that is
run. -/
def SameTask (rules : ArgumentRules) (arguments arguments' : List String) : Prop :=
  (readArguments rules arguments).map Options.task =
    (readArguments rules arguments').map Options.task

/-- The argument behind this one is its value. -/
def Item.Waits : Item → Prop
  | option o _ none => o.takesValue
  | _ => False

variable {rules : ArgumentRules} {d d' : Draft} {o : Switch} {items xs ys : List Item} {l : Bool}

/-! ## Drafts -/

/-- Two steps that agree in a view, with all that follows agreeing where the view does. -/
lemma map_bind_congr {ε α β γ δ : Type} {x x' : Except ε α} {f f' : α → Except ε β} {view : α → γ}
    {view' : β → δ} (hx : x.map view = x'.map view)
    (hf : ∀ a a', view a = view a' → (f a).map view' = (f' a').map view') :
    (x >>= f).map view' = (x' >>= f').map view' := by
  cases x with
  | error e =>
    cases x' with
    | error e' =>
      cases hx
      rfl
    | ok a' => cases hx
  | ok a =>
    cases x' with
    | error e' => cases hx
    | ok a' => exact hf a a' (Except.ok.inj hx)

namespace Draft

lemma task_extra (h : d.task = d'.task) (text : String) :
    (d.extra text).task = (d'.extra text).task :=
  congrArg (·.extra text) h

lemma task_assign (h : d.task = d'.task) (o : Switch) (value : Option String) :
    (d.assign o value).task = (d'.assign o value).task := by
  have hself (d : Draft) : (d.assign o value).task = (d.task.assign o value).task := by
    cases o <;> rfl
  rw [hself, h, ← hself]

lemma task_act (h : d.task = d'.task) (o : Switch) : (d.act o).map task = (d'.act o).map task := by
  have hself (d : Draft) : (d.act o).map task = (d.task.act o).map task := by
    cases o <;> rfl
  rw [hself, h, ← hself]

/-- An option for records or prompts leaves the task alone. -/
lemma act_of_isDiagnostic (ho : o.IsDiagnostic) (d : Draft) :
    ∃ d', d.act o = .ok d' ∧ d'.task = d.task := by
  obtain rfl | rfl | rfl := ho <;> exact ⟨_, rfl, rfl⟩

lemma task_actAll (h : d.task = d'.task) (os : List Switch) :
    (d.actAll os).map task = (d'.actAll os).map task := by
  induction os generalizing d d' with
  | nil => exact congrArg Except.ok h
  | cons o os ih => exact map_bind_congr (task_act h o) fun _ _ => ih

lemma task_attach (h : d.task = d'.task) (o : Switch) (letter : Bool) (value : List Char) :
    (d.attach rules o letter value).map task = (d'.attach rules o letter value).map task := by
  unfold attach
  split
  · exact congrArg Except.ok (task_assign h o _)
  · split
    · cases spelled rules o value with
      | error stop => rfl
      | ok read =>
        obtain ⟨os, left⟩ := read
        show (d.actAll os >>= fun d => .ok (left.elim d d.extra)).map task =
          (d'.actAll os >>= fun d => .ok (left.elim d d.extra)).map task
        refine map_bind_congr (task_actAll h os) fun d d' hd => ?_
        cases left with
        | none => exact congrArg Except.ok hd
        | some text => exact congrArg Except.ok (task_extra hd text)
    · rfl

lemma task_finish (h : d.task = d'.task) :
    d.finish.map Options.task = d'.finish.map Options.task := by
  have hself (d : Draft) : d.finish.map Options.task = d.task.finish.map Options.task := by
    obtain ⟨input, options, extras⟩ := d
    cases input with
    | none => rfl
    | some input => cases extras <;> rfl
  rw [hself, h, ← hself]

lemma input_eq_of_task_eq (h : d.task = d'.task) : d.input = d'.input :=
  (congrArg input h : d.task.input = d'.task.input)

lemma task_withInput (h : d.task = d'.task) (text : String) :
    { d with input := some text }.task = { d' with input := some text }.task :=
  congrArg (fun d : Draft => { d with input := some text }) h

lemma consume_option_of_not_takesValue (ho : ¬o.takesValue) (d : Draft) (l : Bool)
    (items : List Item) :
    d.consume rules (.option o l none :: items) = d.act o >>= fun d' => d'.consume rules items := by
  rw [consume.eq_def]
  split <;> simp_all

/-- **The task that arguments ask for does not depend on the records and prompts that were asked
for before them.** -/
lemma task_consume (h : d.task = d'.task) (items : List Item) :
    (d.consume rules items).map Options.task = (d'.consume rules items).map Options.task := by
  fun_induction d.consume rules items generalizing d' with
  | case1 d =>
    rw [consume]
    exact task_finish h
  | case2 d text rest ih =>
    rw [consume]
    exact ih (task_extra h text)
  | case3 d o letter value rest ih =>
    rw [consume]
    exact map_bind_congr (task_attach h o letter value) fun d d' hd => ih d hd
  | case4 d o letter value rest ho ih =>
    rw [consume, if_pos ho]
    exact ih (task_assign h o _)
  | case6 d o letter rest hrest ho =>
    rw [consume, if_pos ho]
    exact hrest
  | case5 d o letter value rest ho ih
  | case7 d o letter rest hrest ho ih =>
    rw [consume_option_of_not_takesValue ho]
    exact map_bind_congr (task_act h o) fun d d' hd => ih d hd
  | case8 d text rest hnone ih
  | case11 d text rest hnone ih
  | case13 d text rest hrest hnone ih =>
    rw [input_eq_of_task_eq h] at hnone
    simp only [consume, hnone]
    exact ih (task_withInput h text)
  | case9 d text rest input hsome ih
  | case12 d text rest input hsome ih
  | case14 d text rest hrest input hsome ih =>
    rw [input_eq_of_task_eq h] at hsome
    simp only [consume, hsome]
    exact ih (task_extra h _)
  | case10 d rest hrest ih =>
    rw [consume]
    · exact ih (task_extra h _)
    · exact hrest

lemma consume_option_of_takesValue (ho : o.takesValue)
    (hitems : ∀ value rest, items = .positional value :: rest → False) (d : Draft) (l : Bool) :
    d.consume rules (.option o l none :: items) = .error (.wrong (.missingValue o)) := by
  rw [consume, if_pos ho]
  exact hitems

lemma consume_positional (hitems : items.head? ≠ some .separator) (d : Draft) (text : String) :
    d.consume rules (.positional text :: items) =
      match d.input with
      | none => { d with input := some text }.consume rules items
      | some _ => (d.extra text).consume rules items := by
  have hrest : ∀ rest, items = .separator :: rest → False := by
    rintro rest rfl
    exact hitems rfl
  cases hinput : d.input <;> simp only [consume, hinput]

/-- **An option for records or prompts does not change the task.** It may stand anywhere but behind
an option that waits for its value and next to a separator or behind it. -/
lemma task_consume_insert (ho : o.IsDiagnostic) (hxs : .separator ∉ xs)
    (hlast : ∀ x ∈ xs.getLast?, ¬x.Waits) (hys : ys.head? ≠ some .separator) (d : Draft) :
    (d.consume rules (xs ++ .option o l none :: ys)).map Options.task =
      (d.consume rules (xs ++ ys)).map Options.task := by
  have htail {x : Item} {rest : List Item} (h : ∀ y ∈ (x :: rest).getLast?, ¬y.Waits) :
      ∀ y ∈ rest.getLast?, ¬y.Waits := fun y hy => h y (List.mem_getLast?_cons hy)
  have hhead {rest : List Item} (hrest : .separator ∉ rest) {zs : List Item}
      (hzs : zs.head? ≠ some .separator) : (rest ++ zs).head? ≠ some .separator := by
    cases rest with
    | nil => exact hzs
    | cons x rest =>
      intro h
      exact hrest (Option.some.inj h ▸ List.mem_cons_self)
  -- the cases are those in which the arguments before the inserted one are read
  fun_induction d.consume rules xs with
  | case1 d =>
    obtain ⟨d', hd', htask⟩ := act_of_isDiagnostic ho d
    have hvalue : ¬o.takesValue := by obtain rfl | rfl | rfl := ho <;> decide
    rw [List.nil_append, consume_option_of_not_takesValue hvalue, hd']
    exact task_consume htask ys
  | case2 d text rest ih =>
    rw [List.cons_append, consume, List.cons_append, consume]
    exact ih (List.not_mem_of_not_mem_cons hxs) (htail hlast)
  | case3 d o letter value rest ih =>
    rw [List.cons_append, consume, List.cons_append, consume]
    exact map_bind_congr rfl fun d d' hd =>
      (task_consume hd _).trans (ih d' (List.not_mem_of_not_mem_cons hxs) (htail hlast))
  | case4 d o letter value rest ho ih =>
    rw [List.cons_append, List.cons_append, consume, if_pos ho, List.cons_append,
      List.cons_append, consume, if_pos ho]
    exact ih (List.not_mem_of_not_mem_cons (List.not_mem_of_not_mem_cons hxs))
      (htail (htail hlast))
  | case5 d o letter value rest ho ih =>
    rw [List.cons_append, List.cons_append, consume_option_of_not_takesValue ho, List.cons_append,
      List.cons_append, consume_option_of_not_takesValue ho]
    exact map_bind_congr rfl fun d d' hd =>
      (task_consume hd _).trans (ih d' (List.not_mem_of_not_mem_cons hxs) (htail hlast))
  | case6 d o letter rest hrest ho =>
    cases rest with
    -- the inserted argument would be taken for the value
    | nil => exact absurd ho (hlast _ rfl)
    | cons x rest =>
      have hx (zs : List Item) :
          ∀ value rest', x :: rest ++ zs = .positional value :: rest' → False :=
        fun value rest' h => hrest value rest (by cases h; rfl)
      rw [List.cons_append, consume_option_of_takesValue ho (hx _), List.cons_append,
        consume_option_of_takesValue ho (hx _)]
  | case7 d o letter rest hrest ho ih =>
    rw [List.cons_append, consume_option_of_not_takesValue ho, List.cons_append,
      consume_option_of_not_takesValue ho]
    exact map_bind_congr rfl fun d d' hd =>
      (task_consume hd _).trans (ih d' (List.not_mem_of_not_mem_cons hxs) (htail hlast))
  | case8 | case9 | case10 | case11 | case12 => simp at hxs
  | case13 d text rest hrest hnone ih =>
    have hrest := List.not_mem_of_not_mem_cons hxs
    rw [List.cons_append, consume_positional (hhead hrest (by simp)), List.cons_append,
      consume_positional (hhead hrest hys), hnone]
    exact ih hrest (htail hlast)
  | case14 d text rest hrest input hsome ih =>
    have hrest := List.not_mem_of_not_mem_cons hxs
    rw [List.cons_append, consume_positional (hhead hrest (by simp)), List.cons_append,
      consume_positional (hhead hrest hys), hsome]
    exact ih hrest (htail hlast)

end Draft

/-! ## Arguments -/

/-- No argument but the separator is one. -/
lemma classify_ne_separator (argument : String) : classify argument ≠ .ok .separator := by
  have hother : classifyOther argument ≠ .separator := by
    unfold classifyOther
    dsimp only
    split <;> simp
  unfold classify
  split
  · dsimp only
    repeat' split
    all_goals simp [hother]
  · simp

/-- An argument that is no separator is classified by itself. -/
lemma classifyAll_cons_eq_ok_iff {argument : String} (hne : argument ≠ "--")
    {rest : List String} :
    classifyAll (argument :: rest) = .ok items ↔
      ∃ item items', classify argument = .ok item ∧ classifyAll rest = .ok items' ∧
        items = item :: items' := by
  rw [classifyAll, if_neg hne]
  cases classify argument with
  | error e => simp [bind, Except.bind]
  | ok item =>
    cases classifyAll rest with
    | error e => simp [bind, Except.bind]
    | ok items' => simp [bind, Except.bind, pure, Except.pure, eq_comm]

/-- Without a separator all arguments are. -/
lemma map_classify {arguments : List String} (hseparator : "--" ∉ arguments)
    (h : classifyAll arguments = .ok items) : arguments.map classify = items.map .ok := by
  induction arguments generalizing items with
  | nil =>
    cases h
    rfl
  | cons argument rest ih =>
    rw [List.mem_cons, not_or] at hseparator
    obtain ⟨item, items', hitem, hrest, rfl⟩ :=
      (classifyAll_cons_eq_ok_iff (Ne.symm hseparator.1)).1 h
    rw [List.map_cons, List.map_cons, hitem, ih hseparator.2 hrest]

lemma classifyAll_append {before : List String} (hseparator : "--" ∉ before)
    (after : List String) :
    classifyAll (before ++ after) =
      classifyAll before >>= fun xs => (classifyAll after).map (xs ++ ·) := by
  induction before with
  | nil =>
    show classifyAll after = (classifyAll after).map id
    cases classifyAll after <;> rfl
  | cons argument rest ih =>
    rw [List.mem_cons, not_or] at hseparator
    rw [List.cons_append, classifyAll, if_neg (Ne.symm hseparator.1), classifyAll,
      if_neg (Ne.symm hseparator.1), ih hseparator.2]
    cases classify argument with
    | error e => rfl
    | ok item =>
      cases classifyAll rest with
      | error e => rfl
      | ok items => cases classifyAll after <;> rfl

/-- The names of an option stand for it. -/
lemma classify_name (o : Switch) :
    ∀ name ∈ o.names, name ≠ "--" ∧ ∃ l, classify name = .ok (.option o l none) := by
  cases o <;> decide +kernel

/-- **An argument that asks for records or prompts does not change the task.** It may stand
anywhere but behind an option that waits for its value and next to a separator or behind it. -/
lemma readArguments_insert {name : String} (ho : o.IsDiagnostic) (hname : name ∈ o.names)
    {before after : List String} (hseparator : "--" ∉ before)
    (hlast : ∀ argument ∈ before.getLast?, ∀ x, classify argument = .ok x → ¬x.Waits)
    (hafter : after.head? ≠ some "--") :
    SameTask rules (before ++ name :: after) (before ++ after) := by
  obtain ⟨hne, l, hl⟩ := classify_name o name hname
  unfold SameTask readArguments
  rw [classifyAll_append hseparator, classifyAll_append hseparator, classifyAll, if_neg hne, hl]
  cases hxs : classifyAll before with
  | error e => rfl
  | ok xs =>
    cases hys : classifyAll after with
    | error e => rfl
    | ok ys =>
      have hmap := map_classify hseparator hxs
      refine Draft.task_consume_insert ho ?_ ?_ ?_ {}
      · intro hmem
        have hclassify : Except.ok .separator ∈ before.map classify := by
          rw [hmap]
          exact List.mem_map_of_mem hmem
        obtain ⟨argument, -, hargument⟩ := List.mem_map.1 hclassify
        exact classify_ne_separator argument hargument
      · intro x hx
        have hclassify := congrArg List.getLast? hmap
        rw [List.getLast?_map, List.getLast?_map, hx] at hclassify
        obtain ⟨argument, hargument, hclassify⟩ := Option.map_eq_some_iff.1 hclassify
        exact hlast argument hargument x hclassify
      · cases after with
        | nil =>
          cases hys
          simp
        | cons argument rest =>
          have hargument : argument ≠ "--" := fun h => hafter (congrArg some h)
          obtain ⟨item, items, hitem, -, rfl⟩ := (classifyAll_cons_eq_ok_iff hargument).1 hys
          intro hseparator
          exact classify_ne_separator argument (Option.some.inj hseparator ▸ hitem)

end TapeLang
