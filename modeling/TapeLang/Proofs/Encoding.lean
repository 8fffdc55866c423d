import Mathlib.Algebra.Ring.Nat
import Mathlib.Tactic.Lemma
import TapeLang.Text.Utf8

set_option autoImplicit false

/-!
# Encoding is undone by decoding

The number of a character is cut into sextets, from the low end. Its first byte holds the bits that
are left, marked by how many sextets follow. Decoding collects the sextets again: it accepts the
bytes of a text, gives back that text, and accepts nothing else.

## Main definitions

* `TapeLang.Utf8.tailCount`, `TapeLang.Utf8.leadByte`, `TapeLang.Utf8.tailBytes` — the bytes of a
  character, from its number.

## Main results

* `TapeLang.Utf8.utf8EncodeChar_eq` — the bytes of a character are these.
* `TapeLang.Utf8.readTails_lead_iff` — one character is read exactly if its bytes stand there.
* `TapeLang.Utf8.decode_eq_ok_iff` — bytes are decoded to a text exactly if they encode it.
-/

namespace TapeLang

namespace Utf8

/-- The number of bytes behind the first one in the character of a number. -/
def tailCount (n : ℕ) : ℕ :=
  if n < 0x80 then 0 else if n < 0x800 then 1 else if n < 0x10000 then 2 else 3

/-- What the first byte of a character adds to the high bits, to say how many bytes follow. -/
def mark : ℕ → ℕ
  | 0 => 0
  | 1 => 0xC0
  | 2 => 0xE0
  | _ => 0xF0

/-- The first byte of the character of a number. -/
def leadByte (n : ℕ) : ℕ :=
  mark (tailCount n) + n / 64 ^ tailCount n

/-- The last sextets of a number, as the bytes that continue a character. -/
def tailBytes : ℕ → ℕ → List UInt8
  | 0, _ => []
  | k + 1, n => UInt8.ofNat (0x80 + n / 64 ^ k % 64) :: tailBytes k n

variable {k n m v low high bits position : ℕ} {b : UInt8} {bytes rest : List UInt8} {c : Char}
  {text : List Char} {l : Lead}

/-! ## Sextets -/

/-- A byte is read if it is within its bounds, and it gives six more bits. -/
lemma readTails_cons_iff :
    readTails (k + 1) low high bits (b :: bytes) = .ok (n, rest) ↔
      (low ≤ b.toNat ∧ b.toNat ≤ high) ∧
        readTails k 0x80 0xBF (bits * 64 + (b.toNat - 0x80)) bytes = .ok (n, rest) := by
  rw [readTails]
  split
  · next h =>
    rw [and_iff_right h]
    split <;> simp_all
  · next h => simp [h]

/-- A byte continues a number exactly if it is the next sextet of it. -/
lemma eq_mul_add_iff (hlow : 0x80 ≤ b.toNat) (hhigh : b.toNat ≤ 0xBF) :
    m = bits * 64 + (b.toNat - 0x80) ↔ m / 64 = bits ∧ b = UInt8.ofNat (0x80 + m % 64) := by
  rw [← UInt8.toNat_inj, UInt8.toNat_ofNat']
  omega

/-- **The bytes behind the high bits of a number are read exactly if they are its sextets**, and the
first of them is within its bounds.

**Proof sketch.** Induction on the number of bytes. Behind the first byte the bounds are those of
all sextets, and say nothing. -/
lemma readTails_eq_ok_iff (hlow : 0x80 ≤ low) (hhigh : high ≤ 0xBF) :
    readTails k low high bits bytes = .ok (n, rest) ↔
      (n / 64 ^ k = bits ∧ bytes = tailBytes k n ++ rest) ∧
        ∀ j, k = j + 1 → low ≤ 0x80 + n / 64 ^ j % 64 ∧ 0x80 + n / 64 ^ j % 64 ≤ high := by
  induction k generalizing low high bits bytes with
  | zero => simp [readTails, tailBytes, eq_comm]
  | succ k ih =>
    cases bytes with
    | nil => simp [readTails, tailBytes]
    | cons b bytes =>
      have hbehind : ∀ j, k = j + 1 →
          0x80 ≤ 0x80 + n / 64 ^ j % 64 ∧ 0x80 + n / 64 ^ j % 64 ≤ 0xBF := by omega
      have hsextet : (UInt8.ofNat (0x80 + n / 64 ^ k % 64)).toNat = 0x80 + n / 64 ^ k % 64 := by
        rw [UInt8.toNat_ofNat']
        omega
      rw [readTails_cons_iff, ih (Nat.le_refl _) (Nat.le_refl _), and_iff_left hbehind, tailBytes,
        List.cons_append, List.cons.injEq, Nat.pow_succ, ← Nat.div_div_eq_div_mul]
      constructor
      · rintro ⟨⟨hb, hb'⟩, hn, hbytes⟩
        obtain ⟨hdiv, rfl⟩ := (eq_mul_add_iff (by omega) (by omega)).1 hn
        rw [hsextet] at hb hb'
        refine ⟨⟨hdiv, rfl, hbytes⟩, fun j hj => ?_⟩
        obtain rfl := Nat.succ.inj hj
        exact ⟨hb, hb'⟩
      · rintro ⟨⟨hdiv, rfl, hbytes⟩, hbound⟩
        obtain ⟨hb, hb'⟩ := hbound k rfl
        rw [← hsextet] at hb hb'
        exact ⟨⟨hb, hb'⟩, (eq_mul_add_iff (by omega) (by omega)).2 ⟨hdiv, rfl⟩, hbytes⟩

/-! ## First bytes -/

/-- The four kinds of first bytes. -/
lemma lead?_eq_some_iff :
    lead? v = some l ↔
      (v < 0x80 ∧ l = ⟨v, 0, 0x80, 0xBF⟩) ∨
      (0xC2 ≤ v ∧ v < 0xE0 ∧ l = ⟨v - 0xC0, 1, 0x80, 0xBF⟩) ∨
      (0xE0 ≤ v ∧ v < 0xF0 ∧
        l = ⟨v - 0xE0, 2, if v = 0xE0 then 0xA0 else 0x80, if v = 0xED then 0x9F else 0xBF⟩) ∨
      (0xF0 ≤ v ∧ v < 0xF5 ∧
        l = ⟨v - 0xF0, 3, if v = 0xF0 then 0x90 else 0x80, if v = 0xF4 then 0x8F else 0xBF⟩) := by
  grind [lead?]

/-- A second byte is never out of the bounds of all sextets. -/
lemma bounds_of_lead? (hl : lead? v = some l) : 0x80 ≤ l.low ∧ l.high ≤ 0xBF := by
  grind [lead?]

/-- **A number that goes on from a first byte, within the bounds of the second one, is that of a
character which begins with that byte**, and there are no other such numbers. The bounds keep it off
the numbers with fewer bytes, off surrogates, and within the last character. -/
lemma lead_iff (hl : lead? v = some l) :
    (n / 64 ^ l.tails = l.bits ∧
        ∀ j, l.tails = j + 1 → l.low ≤ 0x80 + n / 64 ^ j % 64 ∧ 0x80 + n / 64 ^ j % 64 ≤ l.high) ↔
      n.isValidChar ∧ l.tails = tailCount n ∧ v = leadByte n := by
  obtain ⟨hv, rfl⟩ | ⟨hv, hv', rfl⟩ | ⟨hv, hv', rfl⟩ | ⟨hv, hv', rfl⟩ := lead?_eq_some_iff.1 hl
  · grind [leadByte, tailCount, mark]
  · grind [leadByte, tailCount, mark]
  · grind [leadByte, tailCount, mark]
  · grind [leadByte, tailCount, mark]

/-- The first byte of a character is a byte, and it says how many bytes follow. -/
lemma exists_lead?_leadByte (hn : n.isValidChar) :
    leadByte n < 256 ∧ ∃ l, lead? (leadByte n) = some l ∧ l.tails = tailCount n := by
  have hcases : n < 0x80 ∧ tailCount n = 0 ∨ 0x80 ≤ n ∧ n < 0x800 ∧ tailCount n = 1 ∨
      0x800 ≤ n ∧ n < 0x10000 ∧ tailCount n = 2 ∨ 0x10000 ≤ n ∧ tailCount n = 3 := by
    grind [tailCount]
  simp only [lead?_eq_some_iff]
  obtain ⟨h, hk⟩ | ⟨h, h', hk⟩ | ⟨h, h', hk⟩ | ⟨h, hk⟩ := hcases <;> simp only [leadByte, hk, mark]
  · exact ⟨by omega, _, .inl ⟨by omega, rfl⟩, rfl⟩
  · exact ⟨by omega, _, .inr (.inl ⟨by omega, by omega, rfl⟩), rfl⟩
  · exact ⟨by omega, _, .inr (.inr (.inl ⟨by omega, by omega, rfl⟩)), rfl⟩
  · exact ⟨by grind, _, .inr (.inr (.inr ⟨by omega, by grind, rfl⟩)), rfl⟩

/-! ## Characters -/

lemma isValidChar_toNat (c : Char) : c.toNat.isValidChar :=
  c.valid

/-- The bytes of a character are its first byte and the sextets that it announces. -/
lemma utf8EncodeChar_eq (c : Char) :
    String.utf8EncodeChar c =
      UInt8.ofNat (leadByte c.toNat) :: tailBytes (tailCount c.toNat) c.toNat := by
  have hn := isValidChar_toNat c
  have hval : c.val.toNat = c.toNat := rfl
  simp only [String.utf8EncodeChar, hval]
  grind [leadByte, tailCount, mark, tailBytes]

@[simp] lemma length_tailBytes (k n : ℕ) : (tailBytes k n).length = k := by
  induction k with
  | zero => rfl
  | succ k ih => rw [tailBytes, List.length_cons, ih]

/-- The number of bytes of a character. -/
lemma length_utf8EncodeChar (c : Char) :
    (String.utf8EncodeChar c).length = 1 + tailCount c.toNat := by
  rw [utf8EncodeChar_eq, List.length_cons, length_tailBytes, Nat.add_comm]

/-- **Behind a first byte the number of a character is read exactly if the bytes are those of that
character.** -/
lemma readTails_lead_iff (hl : lead? b.toNat = some l) :
    readTails l.tails l.low l.high l.bits bytes = .ok (n, rest) ↔
      ∃ c : Char, c.toNat = n ∧ b :: bytes = String.utf8EncodeChar c ++ rest := by
  rw [readTails_eq_ok_iff (bounds_of_lead? hl).1 (bounds_of_lead? hl).2]
  constructor
  · rintro ⟨⟨hdiv, hbytes⟩, hbound⟩
    obtain ⟨hn, hk, hb⟩ := (lead_iff hl).1 ⟨hdiv, hbound⟩
    obtain ⟨c, rfl⟩ : ∃ c : Char, c.toNat = n := ⟨Char.ofNatAux n hn, rfl⟩
    refine ⟨c, rfl, ?_⟩
    rw [utf8EncodeChar_eq, ← hb, UInt8.ofNat_toNat, List.cons_append, hbytes, hk]
  · rintro ⟨c, rfl, hcons⟩
    obtain ⟨hbyte, l', hl', hk⟩ := exists_lead?_leadByte (isValidChar_toNat c)
    rw [utf8EncodeChar_eq, List.cons_append, List.cons.injEq] at hcons
    obtain ⟨rfl, hbytes⟩ := hcons
    rw [UInt8.toNat_ofNat_of_lt' hbyte] at hl
    obtain rfl : l = l' := Option.some.inj (hl.symm.trans hl')
    obtain ⟨hdiv, hbound⟩ := (lead_iff hl).2 ⟨isValidChar_toNat c, hk, rfl⟩
    exact ⟨⟨hdiv, hk ▸ hbytes⟩, hbound⟩

/-- Bytes that begin with those of a character begin with a first byte. -/
lemma exists_lead?_of_eq (h : b :: bytes = String.utf8EncodeChar c ++ rest) :
    ∃ l, lead? b.toNat = some l := by
  obtain ⟨hbyte, l, hl, -⟩ := exists_lead?_leadByte (isValidChar_toNat c)
  rw [utf8EncodeChar_eq, List.cons_append, List.cons.injEq] at h
  refine ⟨l, ?_⟩
  rw [h.1, UInt8.toNat_ofNat_of_lt' hbyte]
  exact hl

/-! ## Texts -/

/-- Bytes that begin with a character are decoded to that character and what follows. -/
lemma decodeFrom_of_eq (h : b :: bytes = String.utf8EncodeChar c ++ rest) (position : ℕ)
    (hrest : ∀ position, decodeFrom position rest = .ok text) :
    decodeFrom position (b :: bytes) = .ok (c :: text) := by
  obtain ⟨l, hl⟩ := exists_lead?_of_eq h
  have hread := (readTails_lead_iff hl).2 ⟨c, rfl, h⟩
  rw [decodeFrom]
  simp only [hl]
  split
  · next herr =>
    rw [hread] at herr
    cases herr
  · next hok =>
    obtain ⟨rfl, rfl⟩ := Prod.mk.inj (Except.ok.inj (hread.symm.trans hok))
    simp only [hrest, Char.ofNat_toNat]

/-- Encoding a text and decoding the bytes gives back the text. -/
lemma decodeFrom_flatMap (position : ℕ) (text : List Char) :
    decodeFrom position (text.flatMap String.utf8EncodeChar) = .ok text := by
  induction text generalizing position with
  | nil => rw [List.flatMap_nil, decodeFrom]
  | cons c text ih =>
    rw [List.flatMap_cons]
    cases h : String.utf8EncodeChar c ++ text.flatMap String.utf8EncodeChar with
    | nil => simp [utf8EncodeChar_eq] at h
    | cons b bytes => exact decodeFrom_of_eq h.symm position ih

/-- Only the bytes of a text are decoded to it. -/
lemma eq_flatMap_of_decodeFrom (h : decodeFrom position bytes = .ok text) :
    bytes = text.flatMap String.utf8EncodeChar := by
  fun_induction decodeFrom position bytes generalizing text with
  | case1 position =>
    cases h
    rfl
  | case2 | case3 | case4 => cases h
  | case5 position b bytes l hl n rest hread text' _ ih =>
    cases h
    obtain ⟨c, rfl, hcons⟩ := (readTails_lead_iff hl).1 hread
    rw [hcons, ih ‹_›, Char.ofNat_toNat, List.flatMap_cons]

/-- **Bytes are decoded to a text exactly if they are the bytes of that text.** -/
lemma decode_eq_ok_iff : decode bytes = .ok text ↔ bytes = encode (String.ofList text) := by
  rw [encode, String.toList_ofList]
  constructor
  · exact eq_flatMap_of_decodeFrom
  · rintro rfl
    exact decodeFrom_flatMap 0 text

end Utf8

end TapeLang
