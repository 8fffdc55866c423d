import Mathlib.Data.Nat.Digits.Defs
import Mathlib.Tactic.Lemma
import TapeLang.Numeral

set_option autoImplicit false

/-!
# Digits of numerals

A numeral is read from the characters of ASCII that count for its own. What each character of a
numeral is can be said without that detour: a decimal digit of any script, in base sixteen also one
of twelve letters, or a blank. The digits of a numeral are a text of such digits, in which a single
underscore may stand between two of them.

## Main definitions

* `TapeLang.Base.digit?` — the value of a character that is a digit of a base.
* `TapeLang.isNumeralBlank` — whether a character may stand around a numeral.
* `TapeLang.Digits` — the texts of digits, with the values of the digits.

## Main results

* `TapeLang.digitValue?_plainChar`, `TapeLang.isAsciiBlank_plainChar`,
  `TapeLang.plainChar_eq_symbol_iff`, `TapeLang.plainChar_eq_zero_iff` — what a character counts as.
* `TapeLang.digits_iff` — the texts of digits are those in which every underscore separates.
* `TapeLang.digitsValue_eq_ofDigits` — the value of digits is that of their positional system.
-/

namespace TapeLang

/-- The value of a letter that is a digit of a base. -/
def Base.letter? : Base → Char → Option ℕ
  | ten, _ => none
  | sixteen, c => (("abcdef".toList.idxOf? c).or ("ABCDEF".toList.idxOf? c)).map (10 + ·)

/-- The value of a character that is a digit of a base: a decimal digit of any script, or a letter
if the base has letters. -/
def Base.digit? (base : Base) (c : Char) : Option ℕ :=
  (decimalDigit? c).or (base.letter? c)

/-- Whether a character may stand around a numeral: it is blank and no information separator. -/
def isNumeralBlank (c : Char) : Bool :=
  isBlank c && !(0x1C ≤ c.toNat && c.toNat ≤ 0x1F)

/-- The texts of digits of a base, with the values of the digits. Between two digits there may be
one underscore. -/
inductive Digits (base : Base) : List Char → List ℕ → Prop
  | last {c : Char} {d : ℕ} (hc : base.digit? c = some d) : Digits base [c] [d]
  | next {c : Char} {d : ℕ} {cs : List Char} {ds : List ℕ} (hc : base.digit? c = some d)
      (hcs : Digits base cs ds) : Digits base (c :: cs) (d :: ds)
  | underscore {c : Char} {d : ℕ} {cs : List Char} {ds : List ℕ} (hc : base.digit? c = some d)
      (hcs : Digits base cs ds) : Digits base (c :: '_' :: cs) (d :: ds)

variable {base : Base} {c a : Char} {d : ℕ} {cs : List Char} {ds : List ℕ}

/-! ## What a character counts as -/

/-- A property of all characters of ASCII is checked number by number. -/
lemma forall_ascii {P : Char → Prop} (h : ∀ n < 0x80, P (Char.ofNat n)) (hc : c.toNat < 0x80) :
    P c := by
  have := h c.toNat hc
  rwa [Char.ofNat_toNat] at this

lemma isBlank_of_decimalDigit? (h : decimalDigit? c = some d) : isBlank c = false := by
  obtain ⟨z, hz, rfl⟩ := Option.map_eq_some_iff.1 h
  have hrange := List.find?_some hz
  simp only [Bool.and_eq_true, decide_eq_true_eq] at hrange
  have hall : ∀ z ∈ decimalZeros, ∀ d < 10, isBlank (Char.ofNat (z + d)) = false := by
    decide +kernel
  have := hall z (List.mem_of_find?_eq_some hz) (c.toNat - z) (by omega)
  rwa [Nat.add_sub_cancel' hrange.1, Char.ofNat_toNat] at this

lemma letter?_of_le (h : 0x80 ≤ c.toNat) : base.letter? c = none := by
  cases base with
  | ten => rfl
  | sixteen =>
    have hall : ("abcdef".toList ++ "ABCDEF".toList).all (·.toNat < 0x80) = true := by decide
    have hmem : c ∉ "abcdef".toList ++ "ABCDEF".toList := fun hc => by
      have := of_decide_eq_true (List.all_eq_true.1 hall c hc)
      omega
    rw [List.mem_append, not_or] at hmem
    rw [Base.letter?, List.idxOf?_eq_none_iff.2 hmem.1, List.idxOf?_eq_none_iff.2 hmem.2]
    rfl

/-- No digit may stand around a numeral. -/
lemma digit?_of_isNumeralBlank (h : isNumeralBlank c = true) : base.digit? c = none := by
  by_cases hc : c.toNat < 0x80
  · have hall : ∀ n < 0x80, isNumeralBlank (Char.ofNat n) = true →
        base.digit? (Char.ofNat n) = none := by
      cases base <;> decide +kernel
    exact forall_ascii (P := fun c => isNumeralBlank c = true → base.digit? c = none) hall hc h
  · have hblank : isBlank c = true := (Bool.and_eq_true_iff.1 h).1
    rw [Base.digit?, letter?_of_le (Nat.le_of_not_lt hc), Option.or_none]
    cases hd : decimalDigit? c with
    | none => rfl
    | some d => simp [isBlank_of_decimalDigit? hd] at hblank

/-- A character of ASCII counts as itself, any other one as a space, a digit or a question mark. -/
lemma plainChar_cases (c : Char) :
    (c.toNat < 0x80 ∧ plainChar c = c) ∨
      0x80 ≤ c.toNat ∧
        ((isBlank c = true ∧ decimalDigit? c = none ∧ plainChar c = ' ') ∨
          isBlank c = false ∧
            ((∃ d < 10, decimalDigit? c = some d ∧ plainChar c = Char.ofNat ('0'.toNat + d)) ∨
              decimalDigit? c = none ∧ plainChar c = '?')) := by
  unfold plainChar
  by_cases hc : c.toNat < 0x80
  · exact .inl ⟨hc, if_pos hc⟩
  · refine .inr ⟨Nat.le_of_not_lt hc, ?_⟩
    rw [if_neg hc]
    cases hd : decimalDigit? c with
    | none =>
      cases hb : isBlank c with
      | true => exact .inl ⟨rfl, rfl, rfl⟩
      | false => exact .inr ⟨rfl, .inr ⟨rfl, rfl⟩⟩
    | some d =>
      have hb := isBlank_of_decimalDigit? hd
      rw [hb]
      exact .inr ⟨rfl, .inl ⟨d, decimalDigit?_lt hd, rfl, rfl⟩⟩

/-- **A character counts as a digit if it is a digit.** -/
lemma digitValue?_plainChar (base : Base) (c : Char) :
    digitValue? base (plainChar c) = base.digit? c := by
  obtain ⟨hc, hplain⟩ | ⟨hc, ⟨-, hd, hplain⟩ | ⟨-, ⟨d, hlt, hd, hplain⟩ | ⟨hd, hplain⟩⟩⟩ :=
    plainChar_cases c
  · rw [hplain]
    have hall : ∀ n < 0x80, digitValue? base (Char.ofNat n) = base.digit? (Char.ofNat n) := by
      cases base <;> decide +kernel
    exact forall_ascii (P := fun c => digitValue? base c = base.digit? c) hall hc
  · rw [hplain, Base.digit?, hd, letter?_of_le hc]
    cases base <;> rfl
  · rw [hplain, Base.digit?, hd]
    have hall : ∀ d < 10, digitValue? base (Char.ofNat ('0'.toNat + d)) = some d := by
      cases base <;> decide
    exact hall d hlt
  · rw [hplain, Base.digit?, hd, letter?_of_le hc]
    cases base <;> rfl

/-- **A character counts as a blank of ASCII if it may stand around a numeral.** -/
lemma isAsciiBlank_plainChar (c : Char) : isAsciiBlank (plainChar c) = isNumeralBlank c := by
  obtain ⟨hc, hplain⟩ | ⟨hc, ⟨hb, -, hplain⟩ | ⟨hb, ⟨d, hlt, -, hplain⟩ | ⟨-, hplain⟩⟩⟩ :=
    plainChar_cases c
  · rw [hplain]
    have hall : ∀ n < 0x80, isAsciiBlank (Char.ofNat n) = isNumeralBlank (Char.ofNat n) := by
      decide +kernel
    exact forall_ascii (P := fun c => isAsciiBlank c = isNumeralBlank c) hall hc
  · have hsep : ¬c.toNat ≤ 0x1F := by omega
    rw [hplain, isNumeralBlank, hb]
    simp [hsep]
    rfl
  · rw [hplain, isNumeralBlank, hb]
    have hall : ∀ d < 10, isAsciiBlank (Char.ofNat ('0'.toNat + d)) = false := by decide
    exact hall d hlt
  · rw [hplain, isNumeralBlank, hb]
    rfl

/-- **Nothing else counts as an underscore, a sign or an x.** -/
lemma plainChar_eq_symbol_iff (ha : a ∈ ['_', '+', '-', 'x', 'X']) : plainChar c = a ↔ c = a := by
  have hall : ['_', '+', '-', 'x', 'X'].all (·.toNat < 0x80) = true := by decide
  have hlt : a.toNat < 0x80 := of_decide_eq_true (List.all_eq_true.1 hall a ha)
  obtain ⟨-, hplain⟩ | ⟨hc, hcases⟩ := plainChar_cases c
  · rw [hplain]
  · have hne : c ≠ a := by
      rintro rfl
      omega
    have hplain : plainChar c ∉ ['_', '+', '-', 'x', 'X'] := by
      obtain ⟨-, -, hplain⟩ | ⟨-, ⟨d, hd, -, hplain⟩ | ⟨-, hplain⟩⟩ := hcases
      · rw [hplain]
        decide
      · have hdigits : ∀ d < 10, Char.ofNat ('0'.toNat + d) ∉ ['_', '+', '-', 'x', 'X'] := by
          decide
        rw [hplain]
        exact hdigits d hd
      · rw [hplain]
        decide
    exact iff_of_false (fun h => hplain (h ▸ ha)) hne

/-- **The zeros of all scripts count as zero.** -/
lemma plainChar_eq_zero_iff : plainChar c = '0' ↔ decimalDigit? c = some 0 := by
  obtain ⟨hc, hplain⟩ | ⟨hc, ⟨-, hd, hplain⟩ | ⟨-, ⟨d, hlt, hd, hplain⟩ | ⟨hd, hplain⟩⟩⟩ :=
    plainChar_cases c
  · rw [hplain]
    have hall : ∀ n < 0x80, Char.ofNat n = '0' ↔ decimalDigit? (Char.ofNat n) = some 0 := by
      decide +kernel
    exact forall_ascii (P := fun c => c = '0' ↔ decimalDigit? c = some 0) hall hc
  · simp [hplain, hd]
  · have hall : ∀ d < 10, Char.ofNat ('0'.toNat + d) = '0' ↔ d = 0 := by decide
    simp only [hplain, hd, hall d hlt, Option.some.injEq]
  · simp [hplain, hd]

/-! ## Texts of digits -/

lemma Digits.exists_cons (h : Digits base cs ds) :
    ∃ c d cs', cs = c :: cs' ∧ base.digit? c = some d := by
  cases h with
  | last hc => exact ⟨_, _, _, rfl, hc⟩
  | next hc => exact ⟨_, _, _, rfl, hc⟩
  | underscore hc => exact ⟨_, _, _, rfl, hc⟩

lemma Digits.exists_concat (h : Digits base cs ds) :
    ∃ cs' c d, cs = cs' ++ [c] ∧ base.digit? c = some d := by
  induction h with
  | last hc => exact ⟨[], _, _, rfl, hc⟩
  | @next c _ _ _ _ _ ih =>
    obtain ⟨cs', last, d, rfl, hlast⟩ := ih
    exact ⟨c :: cs', last, d, rfl, hlast⟩
  | @underscore c _ _ _ _ _ ih =>
    obtain ⟨cs', last, d, rfl, hlast⟩ := ih
    exact ⟨c :: '_' :: cs', last, d, rfl, hlast⟩

lemma ne_underscore_of_digit? (h : base.digit? c = some d) : c ≠ '_' := by
  rintro rfl
  cases base <;> cases h

/-- An underscore is no digit and separates, so it has no value of its own. -/
lemma filterMap_digit?_underscore (cs : List Char) :
    ('_' :: cs).filterMap base.digit? = cs.filterMap base.digit? :=
  List.filterMap_cons_none (by cases base <;> rfl)

lemma Digits.filterMap_eq (h : Digits base cs ds) : cs.filterMap base.digit? = ds := by
  induction h with
  | last hc => simp [hc]
  | next hc _ ih => simp [hc, ih]
  | underscore hc _ ih => rw [List.filterMap_cons_some hc, filterMap_digit?_underscore, ih]

lemma Digits.forall_mem (h : Digits base cs ds) : ∀ c ∈ cs, c = '_' ∨ (base.digit? c).isSome := by
  induction h with
  | last hc => simp [hc]
  | next hc _ ih => simpa [hc] using ih
  | underscore hc _ ih => simpa [hc] using ih

lemma underscoresSeparate_true (h : underscoresSeparate false cs = true) :
    underscoresSeparate true cs = true := by
  cases cs with
  | nil => rfl
  | cons c cs =>
    rw [underscoresSeparate] at h ⊢
    split at h
    · cases h
    · rwa [if_neg ‹_›]

lemma Digits.underscoresSeparate_eq (h : Digits base cs ds) :
    underscoresSeparate false cs = true := by
  induction h with
  | last hc => simp [underscoresSeparate, ne_underscore_of_digit? hc]
  | next hc _ ih =>
    rw [underscoresSeparate, if_neg (ne_underscore_of_digit? hc)]
    exact underscoresSeparate_true ih
  | underscore hc _ ih =>
    rw [underscoresSeparate, if_neg (ne_underscore_of_digit? hc)]
    simpa [underscoresSeparate] using ih

/-- A text in which every underscore separates is a text of digits, by itself or behind a digit. -/
lemma exists_digits (hmem : ∀ c ∈ cs, c = '_' ∨ (base.digit? c).isSome) :
    (underscoresSeparate false cs = true → ∃ ds, Digits base cs ds) ∧
      ∀ {c d}, base.digit? c = some d → underscoresSeparate true cs = true →
        ∃ ds, Digits base (c :: cs) ds := by
  -- behind an underscore the text has to stand by itself, behind a digit it need not
  induction cs with
  | nil => exact ⟨fun h => (by cases h), fun hc _ => ⟨_, .last hc⟩⟩
  | cons c' cs ih =>
    obtain ⟨hc', hcs⟩ := List.forall_mem_cons.1 hmem
    obtain ⟨ihAlone, ihBehind⟩ := ih hcs
    by_cases hu : c' = '_'
    · subst hu
      constructor
      · simp [underscoresSeparate]
      · intro c d hc hsep
        obtain ⟨ds, hds⟩ := ihAlone (by simpa [underscoresSeparate] using hsep)
        exact ⟨_, .underscore hc hds⟩
    · simp only [underscoresSeparate, if_neg hu]
      obtain ⟨d', hd'⟩ := Option.isSome_iff_exists.1 (hc'.resolve_left hu)
      refine ⟨ihBehind hd', fun hc hsep => ?_⟩
      obtain ⟨ds, hds⟩ := ihBehind hd' hsep
      exact ⟨_, .next hc hds⟩

/-- **The texts of digits are those in which every underscore separates.** -/
lemma digits_iff : Digits base cs ds ↔
    (∀ c ∈ cs, c = '_' ∨ (base.digit? c).isSome) ∧ underscoresSeparate false cs = true ∧
      cs.filterMap base.digit? = ds := by
  constructor
  · intro h
    exact ⟨h.forall_mem, h.underscoresSeparate_eq, h.filterMap_eq⟩
  · rintro ⟨hmem, hsep, rfl⟩
    obtain ⟨ds, hds⟩ := (exists_digits hmem).1 hsep
    rwa [hds.filterMap_eq]

/-- **The value of digits is that of their positional system.** -/
lemma digitsValue_eq_ofDigits (base : Base) (ds : List ℕ) :
    digitsValue base ds = Nat.ofDigits base.radix ds.reverse := by
  rw [Nat.ofDigits_eq_foldr, List.foldr_reverse, digitsValue]
  simp only [Nat.cast_id, Nat.mul_comm, Nat.add_comm]

end TapeLang
