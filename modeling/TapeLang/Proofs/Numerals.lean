import Mathlib.Data.List.Chain
import Mathlib.Data.List.DropRight
import TapeLang.Proofs.Digits

set_option autoImplicit false

/-!
# The grammar of option values

The value of an option is read in steps: the blank ends go, the first characters give the base, then
blank ends go again, a sign, a lead and the digits. Here the texts that pass all of these steps are
described at once, by a grammar, and with them their values. Where the base is given by `0x` there
is no sign, and behind `$` there may be all that a numeral of base sixteen may have.

## Main definitions

* `TapeLang.Sign`, `TapeLang.HexLead`, `TapeLang.Numeral.Lead` — what may stand before the digits.
* `TapeLang.Numeral` — the numerals of a base.
* `TapeLang.OptionNumeral` — the texts of option values.
* `TapeLang.HasPlainLeads` — no other zero than that of ASCII makes a lead.

## Main results

* `TapeLang.HasPlainLeads.readNumeral_eq_ok_iff` — numerals are read as the grammar says.
* `TapeLang.readOptionValue_eq_ok_iff` — option values are read as the grammar says, and nothing
  else is.
-/

namespace TapeLang

/-- The texts of a sign, with the factor that each stands for. -/
inductive Sign : List Char → ℤ → Prop
  | absent : Sign [] 1
  | plus : Sign ['+'] 1
  | minus : Sign ['-'] (-1)

/-- The leads of a numeral in base sixteen: `0x` or `0X`, and one underscore at most behind it. -/
inductive HexLead : List Char → Prop
  | zeroX {x : Char} (hx : x = 'x' ∨ x = 'X') : HexLead ['0', x]
  | underscored {x : Char} (hx : x = 'x' ∨ x = 'X') : HexLead ['0', x, '_']

/-- The leads of a numeral in a base. -/
inductive Numeral.Lead : Base → List Char → Prop
  | absent (base : Base) : Numeral.Lead base []
  | hex {lead : List Char} (h : HexLead lead) : Numeral.Lead .sixteen lead

/-- The numerals of a base and their values: a sign, a lead and digits, which are limited in number
in base ten. -/
inductive Numeral (base : Base) : List Char → ℤ → Prop
  | mk {sign lead cs : List Char} {σ : ℤ} {ds : List ℕ} (hsign : Sign sign σ)
      (hlead : Numeral.Lead base lead) (hdigits : Digits base cs ds)
      (hcount : base = .ten → ds.length ≤ maxDigits) :
      Numeral base (sign ++ (lead ++ cs)) (σ * Nat.ofDigits base.radix ds.reverse)

/-- The texts of option values without their blank ends, and the values: digits of base sixteen
behind a lead, a numeral of base sixteen behind a dollar sign, or a numeral of base ten. -/
inductive OptionNumeral : List Char → ℤ → Prop
  | hex {lead cs : List Char} {ds : List ℕ} (hlead : HexLead lead)
      (hdigits : Digits .sixteen cs ds) :
      OptionNumeral (lead ++ cs) (Nat.ofDigits 16 ds.reverse : ℕ)
  | dollar {text : List Char} {n : ℤ} (h : Numeral .sixteen (strip isNumeralBlank text) n) :
      OptionNumeral ('$' :: text) n
  | decimal {sign cs : List Char} {σ : ℤ} {ds : List ℕ} (hsign : Sign sign σ)
      (hdigits : Digits .ten cs ds) (hcount : ds.length ≤ maxDigits) :
      OptionNumeral (sign ++ cs) (σ * (Nat.ofDigits 10 ds.reverse : ℕ))

/-- No zero but that of ASCII stands in front of an x. -/
def HasPlainLeads (text : List Char) : Prop :=
  text.IsChain fun z x => x = 'x' ∨ x = 'X' → decimalDigit? z = some 0 → z = '0'

instance : DecidablePred HasPlainLeads := fun text =>
  inferInstanceAs (Decidable (text.IsChain _))

variable {base : Base} {text sign lead cs rest : List Char} {σ n : ℤ} {ds : List ℕ}
  {p q : Char → Bool}

/-! ## Blank ends -/

/-- What stands behind the stripped text are characters of the class. -/
lemma exists_dropWhile_eq_strip_append (p : Char → Bool) (text : List Char) :
    ∃ blanks, (∀ c ∈ blanks, p c = true) ∧ text.dropWhile p = strip p text ++ blanks :=
  ⟨_, fun _ => List.mem_rtakeWhile_imp, List.rdropWhile_append_rtakeWhile.symm⟩

/-- A text that ends in a character of another class is stripped of what stands behind it. -/
lemma strip_eq_of_dropWhile_eq {c : Char} {blanks : List Char}
    (h : text.dropWhile p = cs ++ [c] ++ blanks) (hblanks : ∀ c ∈ blanks, p c = true)
    (hc : p c = false) : strip p text = cs ++ [c] := by
  rw [strip, h, List.reverse_append, List.dropWhile_append_of_pos (by simpa using hblanks),
    List.reverse_concat', List.dropWhile_cons_of_neg (by simp [hc]), List.reverse_cons,
    List.reverse_reverse]

/-- A stripped text has no characters of a smaller class at its ends. -/
lemma strip_strip (hpq : ∀ c, p c = true → q c = true) (text : List Char) :
    strip p (strip q text) = strip q text := by
  have hpre : strip q text <+: text.dropWhile q := List.rdropWhile_prefix q _
  have hfront : (strip q text).dropWhile p = strip q text := by
    rw [List.dropWhile_eq_self_iff]
    intro hlen hp
    rw [hpre.getElem] at hp
    exact List.dropWhile_get_zero_not q text _ (hpq _ hp)
  have hback : (strip q text).rdropWhile p = strip q text := by
    rw [List.rdropWhile_eq_self_iff]
    exact fun hne hp => List.rdropWhile_last_not q _ hne (hpq _ hp)
  exact (congrArg (List.rdropWhile p) hfront).trans hback

/-! ## Signs and leads -/

lemma takeSign_cons (c : Char) (cs : List Char) :
    takeSign (c :: cs) =
      if c = '-' then (true, cs) else if c = '+' then (false, cs) else (false, c :: cs) := by
  split_ifs with hminus hplus
  · rw [hminus]; rfl
  · rw [hplus]; rfl
  · simp [takeSign, hminus, hplus]

lemma exists_takeSign (text : List Char) :
    ∃ sign, Sign sign (if (takeSign text).1 then -1 else 1) ∧ text = sign ++ (takeSign text).2 := by
  unfold takeSign
  split
  · exact ⟨_, .minus, rfl⟩
  · exact ⟨_, .plus, rfl⟩
  · exact ⟨_, .absent, rfl⟩

/-- A sign is taken off in front of anything that does not begin with one. -/
lemma Sign.takeSign_append (h : Sign sign σ) (hrest : ∀ c ∈ rest.head?, c ≠ '+' ∧ c ≠ '-') :
    ∃ negative, takeSign (sign ++ rest) = (negative, rest) ∧ (if negative then -1 else 1) = σ := by
  cases h with
  | plus => exact ⟨false, rfl, rfl⟩
  | minus => exact ⟨true, rfl, rfl⟩
  | absent =>
    refine ⟨false, ?_, rfl⟩
    cases rest with
    | nil => rfl
    | cons c cs =>
      obtain ⟨hplus, hminus⟩ := hrest c rfl
      rw [List.nil_append, takeSign_cons, if_neg hminus, if_neg hplus]

lemma dropLead_cons_cons (z x : Char) (cs : List Char) :
    dropLead .sixteen (z :: x :: cs) =
      if z = '0' ∧ (x = 'x' ∨ x = 'X') then (if cs.head? = some '_' then cs.tail else cs)
      else z :: x :: cs := by
  by_cases hz : z = '0'
  · subst hz
    simp only [dropLead, true_and]
    congr 1
    cases cs <;> grind
  · rw [if_neg (fun h => hz h.1)]
    simp [dropLead, hz]

lemma exists_dropLead (base : Base) (text : List Char) :
    ∃ lead, Numeral.Lead base lead ∧ text = lead ++ dropLead base text := by
  unfold dropLead
  split
  · split
    · rename_i hx
      split
      · exact ⟨_, .hex (.underscored hx), rfl⟩
      · exact ⟨_, .hex (.zeroX hx), rfl⟩
    · exact ⟨_, .absent _, rfl⟩
  · exact ⟨_, .absent _, rfl⟩

lemma dropLead_eq_self (hx : 'x' ∉ text) (hX : 'X' ∉ text) : dropLead base text = text := by
  unfold dropLead
  split
  · rw [if_neg]
    rintro (rfl | rfl)
    · simp at hx
    · simp at hX
  · rfl

/-- Neither a lead nor digits begin with a sign. -/
lemma Numeral.Lead.ne_sign (h : Numeral.Lead base lead) (hdigits : Digits base cs ds) :
    ∀ c ∈ (lead ++ (cs ++ rest)).head?, c ≠ '+' ∧ c ≠ '-' := by
  obtain ⟨c, d, cs', rfl, hc⟩ := hdigits.exists_cons
  rintro _ hhead
  cases h with
  | absent =>
    cases hhead
    constructor <;> rintro rfl <;> cases base <;> cases hc
  | hex h => cases h <;> cases hhead <;> decide

/-- A lead is taken off in front of digits. -/
lemma Numeral.Lead.dropLead_append {blanks : List Char} (h : Numeral.Lead base lead)
    (hdigits : Digits base cs ds) (hx : 'x' ∉ cs ++ blanks) (hX : 'X' ∉ cs ++ blanks) :
    dropLead base (lead ++ (cs ++ blanks)) = cs ++ blanks := by
  obtain ⟨c, d, cs', rfl, hc⟩ := hdigits.exists_cons
  cases h with
  | absent => exact dropLead_eq_self hx hX
  | hex h =>
    cases h with
    | underscored hx => simp [dropLead_cons_cons, hx]
    | zeroX hx => simp [dropLead_cons_cons, hx, ne_underscore_of_digit? hc]

/-! ## The plain text of a text -/

lemma takeSign_map_plainChar (text : List Char) :
    takeSign (text.map plainChar) = ((takeSign text).1, (takeSign text).2.map plainChar) := by
  cases text with
  | nil => rfl
  | cons c cs =>
    have hminus : plainChar c = '-' ↔ c = '-' := plainChar_eq_symbol_iff (by decide)
    have hplus : plainChar c = '+' ↔ c = '+' := plainChar_eq_symbol_iff (by decide)
    simp only [List.map_cons, takeSign_cons, hminus, hplus]
    split_ifs <;> rfl

lemma HasPlainLeads.dropLead_map_plainChar (h : HasPlainLeads text) :
    dropLead base (text.map plainChar) = (dropLead base text).map plainChar := by
  cases base with
  | ten => rfl
  | sixteen =>
    cases text with
    | nil => rfl
    | cons z text =>
      cases text with
      | nil => simp [dropLead]
      | cons x cs =>
        have hx : plainChar x = 'x' ∨ plainChar x = 'X' ↔ x = 'x' ∨ x = 'X' :=
          or_congr (plainChar_eq_symbol_iff (by decide)) (plainChar_eq_symbol_iff (by decide))
        have hz : plainChar z = '0' ∧ (x = 'x' ∨ x = 'X') ↔ z = '0' ∧ (x = 'x' ∨ x = 'X') := by
          rw [plainChar_eq_zero_iff]
          constructor
          · exact fun ⟨hzero, hlead⟩ => ⟨(List.isChain_cons_cons.1 h).1 hlead hzero, hlead⟩
          · rintro ⟨rfl, hlead⟩
            exact ⟨rfl, hlead⟩
        have hunderscore : (cs.map plainChar).head? = some '_' ↔ cs.head? = some '_' := by
          cases cs with
          | nil => rfl
          | cons c cs => simpa using plainChar_eq_symbol_iff (by decide)
        simp only [List.map_cons, dropLead_cons_cons, hx, hz, hunderscore]
        split_ifs <;> simp

lemma underscoresSeparate_map_plainChar (b : Bool) (text : List Char) :
    underscoresSeparate b (text.map plainChar) = underscoresSeparate b text := by
  induction text generalizing b with
  | nil => rfl
  | cons c cs ih =>
    have hu : plainChar c = '_' ↔ c = '_' := plainChar_eq_symbol_iff (by decide)
    simp only [List.map_cons, underscoresSeparate, ih, hu]

lemma isDigitOrUnderscore_plainChar (base : Base) (c : Char) :
    (isDigitOrUnderscore base ∘ plainChar) c = true ↔ c = '_' ∨ (base.digit? c).isSome := by
  rw [Function.comp_apply, isDigitOrUnderscore, digitValue?_plainChar, Bool.or_eq_true, beq_iff_eq,
    plainChar_eq_symbol_iff (by decide)]

/-! ## Reading numerals -/

/-- What is read of a text is read of what counts for its characters. -/
lemma HasPlainLeads.readPlain_map_plainChar (h : HasPlainLeads text) :
    readPlain base (text.map plainChar) =
      let (negative, unsigned) := takeSign (text.dropWhile isNumeralBlank)
      let body := dropLead base unsigned
      let run := body.takeWhile (isDigitOrUnderscore base ∘ plainChar)
      let rest := body.dropWhile (isDigitOrUnderscore base ∘ plainChar)
      let digits := run.filterMap base.digit?
      if !underscoresSeparate false run then .malformed
      else if base = .ten ∧ maxDigits < digits.length then .tooManyDigits digits.length
      else if !rest.all isNumeralBlank then .malformed
      else .value (if negative then -digitsValue base digits else digitsValue base digits) := by
  have hblank : isAsciiBlank ∘ plainChar = isNumeralBlank := funext isAsciiBlank_plainChar
  have hdigit : digitValue? base ∘ plainChar = base.digit? := funext (digitValue?_plainChar base)
  have hunsigned : HasPlainLeads (takeSign (text.dropWhile isNumeralBlank)).2 := by
    obtain ⟨sign, -, hsign⟩ := exists_takeSign (text.dropWhile isNumeralBlank)
    exact h.suffix (List.IsSuffix.trans ⟨sign, hsign.symm⟩ (List.dropWhile_suffix _))
  simp only [readPlain, List.dropWhile_map, List.takeWhile_map, hblank, takeSign_map_plainChar,
    hunsigned.dropLead_map_plainChar, underscoresSeparate_map_plainChar, List.filterMap_map,
    hdigit, List.all_map]

/-- The longest run of digits and underscores ends where blanks begin. -/
lemma Digits.span_append {blanks : List Char} (h : Digits base cs ds)
    (hblanks : ∀ c ∈ blanks, isNumeralBlank c = true) :
    (cs ++ blanks).takeWhile (isDigitOrUnderscore base ∘ plainChar) = cs ∧
      (cs ++ blanks).dropWhile (isDigitOrUnderscore base ∘ plainChar) = blanks := by
  have hin : ∀ c ∈ cs, (isDigitOrUnderscore base ∘ plainChar) c = true := fun c hc =>
    (isDigitOrUnderscore_plainChar base c).2 (h.forall_mem c hc)
  rw [List.takeWhile_append_of_pos hin, List.dropWhile_append_of_pos hin]
  cases blanks with
  | nil => simp
  | cons c blanks =>
    have hblank := hblanks c List.mem_cons_self
    have hout : ¬(isDigitOrUnderscore base ∘ plainChar) c = true := by
      rw [isDigitOrUnderscore_plainChar, digit?_of_isNumeralBlank hblank]
      rintro (rfl | h)
      · cases hblank
      · cases h
    simp [List.takeWhile_cons_of_neg hout, List.dropWhile_cons_of_neg hout]

/-- What is behind the sign and the lead are digits, then blanks. -/
lemma HasPlainLeads.readPlain_eq_value_iff (h : HasPlainLeads text) :
    readPlain base (text.map plainChar) = .value n ↔
      ∃ cs ds blanks, Digits base cs ds ∧ (∀ c ∈ blanks, isNumeralBlank c = true) ∧
        dropLead base (takeSign (text.dropWhile isNumeralBlank)).2 = cs ++ blanks ∧
        (base = .ten → ds.length ≤ maxDigits) ∧
        n = (if (takeSign (text.dropWhile isNumeralBlank)).1 then -1 else 1) *
          Nat.ofDigits base.radix ds.reverse := by
  rw [h.readPlain_map_plainChar]
  generalize takeSign (text.dropWhile isNumeralBlank) = signed
  obtain ⟨negative, unsigned⟩ := signed
  have hsigned (m : ℤ) : (if negative then -m else m) = (if negative then -1 else 1) * m := by
    cases negative <;> simp
  dsimp only
  rw [hsigned]
  -- what follows holds of any body and sign
  generalize dropLead base unsigned = body, (if negative then (-1 : ℤ) else 1) = σ
  constructor
  · intro hread
    split_ifs at hread with hsep hmany hrest
    have hrun : ∀ c ∈ body.takeWhile (isDigitOrUnderscore base ∘ plainChar),
        c = '_' ∨ (base.digit? c).isSome := fun c hc =>
      (isDigitOrUnderscore_plainChar base c).1 (List.mem_takeWhile_imp hc)
    have hdigits := digits_iff.2 ⟨hrun, by simpa using hsep, rfl⟩
    refine ⟨_, _, _, hdigits, by simpa using hrest, List.takeWhile_append_dropWhile.symm,
      fun hbase => Nat.not_lt.1 fun hlt => hmany ⟨hbase, hlt⟩, ?_⟩
    rw [← digitsValue_eq_ofDigits, ← PlainNumeral.value.inj hread]
  · rintro ⟨cs, ds, blanks, hdigits, hblanks, rfl, hcount, rfl⟩
    obtain ⟨hrun, hrest⟩ := hdigits.span_append hblanks
    have hfew : ¬(base = .ten ∧ maxDigits < ds.length) := fun hmany =>
      Nat.not_lt.2 (hcount hmany.1) hmany.2
    have hall : blanks.all isNumeralBlank = true := List.all_eq_true.2 hblanks
    rw [hrun, hrest, hdigits.filterMap_eq, hdigits.underscoresSeparate_eq, if_neg (by simp),
      if_neg hfew, hall, if_neg (by simp), digitsValue_eq_ofDigits]

/-- A letter that is no digit of the base stands neither in digits nor in blanks. -/
lemma Digits.not_mem_append {x : Char} {blanks : List Char} (h : Digits base cs ds)
    (hblanks : ∀ c ∈ blanks, isNumeralBlank c = true) (hx : x = 'x' ∨ x = 'X') :
    x ∉ cs ++ blanks := by
  rw [List.mem_append, not_or]
  constructor
  · intro hmem
    have := h.forall_mem x hmem
    rcases hx with rfl | rfl <;> cases base <;> revert this <;> decide
  · intro hmem
    have := hblanks x hmem
    rcases hx with rfl | rfl <;> cases this

/-- **A text is read as a numeral exactly if it is one without its blank ends.** -/
lemma HasPlainLeads.readNumeral_eq_ok_iff (h : HasPlainLeads text) :
    readNumeral base text = .ok n ↔ Numeral base (strip isNumeralBlank text) n := by
  have hplain : readNumeral base text = .ok n ↔ readPlain base (text.map plainChar) = .value n := by
    unfold readNumeral
    split <;> simp [*]
  rw [hplain, h.readPlain_eq_value_iff]
  constructor
  · rintro ⟨cs, ds, blanks, hdigits, hblanks, hbody, hcount, rfl⟩
    obtain ⟨sign, hsign, htext⟩ := exists_takeSign (text.dropWhile isNumeralBlank)
    obtain ⟨lead, hlead, hunsigned⟩ :=
      exists_dropLead base (takeSign (text.dropWhile isNumeralBlank)).2
    obtain ⟨front, c, d, rfl, hc⟩ := hdigits.exists_concat
    -- the digits end in a character that is not blank, so stripping ends there
    have hstrip : strip isNumeralBlank text = sign ++ (lead ++ (front ++ [c])) := by
      have hlast : isNumeralBlank c = false := by
        by_contra hblank
        simp [digit?_of_isNumeralBlank (Bool.eq_true_of_not_eq_false hblank)] at hc
      have hdrop : text.dropWhile isNumeralBlank =
          (sign ++ (lead ++ front)) ++ [c] ++ blanks := by
        rw [htext, hunsigned, hbody]
        simp
      simpa using strip_eq_of_dropWhile_eq hdrop hblanks hlast
    rw [hstrip]
    exact .mk hsign hlead hdigits hcount
  · intro hnumeral
    obtain ⟨blanks, hblanks, hdrop⟩ := exists_dropWhile_eq_strip_append isNumeralBlank text
    generalize strip isNumeralBlank text = stripped at hnumeral hdrop
    cases hnumeral with
    | @mk sign lead cs σ ds hsign hlead hdigits hcount =>
      obtain ⟨negative, htake, hσ⟩ := hsign.takeSign_append (hlead.ne_sign hdigits)
      rw [hdrop, List.append_assoc, List.append_assoc, htake]
      exact ⟨cs, ds, blanks, hdigits, hblanks,
        hlead.dropLead_append hdigits (hdigits.not_mem_append hblanks (.inl rfl))
          (hdigits.not_mem_append hblanks (.inr rfl)), hcount, by rw [hσ]⟩

/-! ## Option values -/

lemma HasPlainLeads.strip (h : HasPlainLeads text) (p : Char → Bool) :
    HasPlainLeads (strip p text) := by
  have hpre : TapeLang.strip p text <+: text.dropWhile p := List.rdropWhile_prefix p _
  exact List.IsChain.prefix (List.IsChain.suffix h (List.dropWhile_suffix p)) hpre

/-- What a decimal numeral consists of. -/
lemma Sign.mem_append {c : Char} (h : Sign sign σ) (hdigits : Digits .ten cs ds)
    (hc : c ∈ sign ++ cs) : c = '+' ∨ c = '-' ∨ c = '_' ∨ (Base.ten.digit? c).isSome := by
  rcases List.mem_append.1 hc with hc | hc
  · cases h <;> simp_all
  · exact .inr (.inr (hdigits.forall_mem c hc))

lemma optionNumeral_dollar_iff :
    OptionNumeral ('$' :: rest) n ↔ Numeral .sixteen (strip isNumeralBlank rest) n := by
  constructor
  · intro h
    generalize htext : '$' :: rest = text at h
    cases h with
    | hex hlead => cases hlead <;> cases htext
    | dollar h =>
      cases htext
      exact h
    | @decimal sign cs σ ds hsign hdigits hcount =>
      have hdollar : '$' ∈ sign ++ cs := htext ▸ List.mem_cons_self
      exact absurd (hsign.mem_append hdigits hdollar) (by decide)
  · exact .dollar

lemma optionNumeral_zeroX_iff {x : Char} (hx : x = 'x' ∨ x = 'X') :
    OptionNumeral ('0' :: x :: rest) n ↔ Numeral .sixteen ('0' :: x :: rest) n := by
  constructor
  · intro h
    generalize htext : '0' :: x :: rest = text at h
    cases h with
    | hex hlead hdigits =>
      simpa [Base.radix] using Numeral.mk .absent (.hex hlead) hdigits (fun h => by cases h)
    | dollar h => cases htext
    | @decimal sign cs σ ds hsign hdigits hcount =>
      have hmem : x ∈ sign ++ cs := htext ▸ List.mem_cons_of_mem _ List.mem_cons_self
      rcases hx with rfl | rfl <;> exact absurd (hsign.mem_append hdigits hmem) (by decide)
  · intro h
    generalize htext : '0' :: x :: rest = text at h
    cases h with
    | @mk sign lead cs σ ds hsign hlead hdigits hcount =>
      cases hsign with
      | plus => cases htext
      | minus => cases htext
      | absent =>
        cases hlead with
        | absent =>
          have hmem : x ∈ cs ++ [] := by
            rw [List.append_nil, ← show '0' :: x :: rest = cs from htext]
            exact List.mem_cons_of_mem _ List.mem_cons_self
          exact absurd hmem (hdigits.not_mem_append (by simp) hx)
        | hex hlead => simpa [Base.radix] using OptionNumeral.hex hlead hdigits

lemma optionNumeral_iff_ten (hdollar : ∀ rest, text ≠ '$' :: rest)
    (hlower : ∀ rest, text ≠ '0' :: 'x' :: rest) (hupper : ∀ rest, text ≠ '0' :: 'X' :: rest) :
    OptionNumeral text n ↔ Numeral .ten text n := by
  constructor
  · intro h
    cases h with
    | hex hlead =>
      rcases hlead with ⟨rfl | rfl⟩ | ⟨rfl | rfl⟩
      · exact absurd rfl (hlower _)
      · exact absurd rfl (hupper _)
      · exact absurd rfl (hlower _)
      · exact absurd rfl (hupper _)
    | dollar h => exact absurd rfl (hdollar _)
    | decimal hsign hdigits hcount =>
      simpa [Base.radix] using Numeral.mk hsign (.absent .ten) hdigits (fun _ => hcount)
  · intro h
    cases h with
    | mk hsign hlead hdigits hcount =>
      cases hlead
      simpa [Base.radix] using OptionNumeral.decimal hsign hdigits (hcount rfl)

/-- **Option values are read as the grammar says.** A text has the value that the grammar gives it
without its blank ends, and a text to which the grammar gives no value is an error.

**Proof sketch.** The first characters of the stripped text decide between the three forms of the
grammar, and in each of them a numeral is read. Stripping once more takes nothing away, except
behind a dollar sign. -/
theorem readOptionValue_eq_ok_iff (text : String) (h : HasPlainLeads text.toList) :
    (∀ n, readOptionValue text = .ok n ↔ OptionNumeral (strip isBlank text.toList) n) ∧
      ((∃ e, readOptionValue text = .error e) ↔
        ∀ n, ¬OptionNumeral (strip isBlank text.toList) n) := by
  have hok : ∀ n, readOptionValue text = .ok n ↔
      OptionNumeral (strip isBlank text.toList) n := by
    intro n
    have hstripped : HasPlainLeads (strip isBlank text.toList) := h.strip isBlank
    have hstrip : strip isNumeralBlank (strip isBlank text.toList) = strip isBlank text.toList :=
      strip_strip (fun c hc => (Bool.and_eq_true_iff.1 hc).1) _
    unfold readOptionValue
    generalize strip isBlank text.toList = stripped at hstripped hstrip
    split
    · rw [optionNumeral_dollar_iff]
      exact HasPlainLeads.readNumeral_eq_ok_iff (List.IsChain.tail hstripped)
    · rw [optionNumeral_zeroX_iff (.inl rfl), hstripped.readNumeral_eq_ok_iff, hstrip]
    · rw [optionNumeral_zeroX_iff (.inr rfl), hstripped.readNumeral_eq_ok_iff, hstrip]
    · rw [optionNumeral_iff_ten ‹_› ‹_› ‹_›, hstripped.readNumeral_eq_ok_iff, hstrip]
  refine ⟨hok, ?_⟩
  simp only [← hok]
  cases readOptionValue text <;> simp

/-- Blanks may stand behind a dollar sign and digits of two scripts around an underscore, but no
sign in front of a lead. -/
theorem readOptionValue_dollar_and_signed :
    HasPlainLeads " $ -0X_f_\u0663\t".toList ∧ HasPlainLeads "-0x1".toList ∧
      readOptionValue " $ -0X_f_\u0663\t" = .ok (-243) ∧
      ∀ n, ¬OptionNumeral (strip isBlank "-0x1".toList) n := by
  have hdollar : HasPlainLeads " $ -0X_f_\u0663\t".toList := by decide
  have hsigned : HasPlainLeads "-0x1".toList := by decide
  have hdigits : Digits .sixteen ['f', '_', '\u0663'] [15, 3] := .underscore rfl (.last rfl)
  have hnumeral : OptionNumeral (strip isBlank " $ -0X_f_\u0663\t".toList) (-243) :=
    .dollar (.mk .minus (.hex (.underscored (.inr rfl))) hdigits (fun h => by cases h))
  exact ⟨hdollar, hsigned, ((readOptionValue_eq_ok_iff _ hdollar).1 _).2 hnumeral,
    (readOptionValue_eq_ok_iff _ hsigned).2.1 ⟨_, rfl⟩⟩

/-- Another zero in front of an x is read as a lead. -/
example : readOptionValue "$\u0660x1" = .ok 1 := by
  decide +kernel

end TapeLang
