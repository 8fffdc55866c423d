import TapeLang.Proofs.Encoding

set_option autoImplicit false

/-!
# Well-formed bytes

The scheme of UTF-8 has up to four forms for a number. Bytes are well-formed if they are forms of
characters, one behind the other, of which none could be shorter. This is said here without a word
about how bytes are encoded or decoded, and it comes to the same.

## Main definitions

* `TapeLang.Utf8.IsForm` — bytes are a form of a number.
* `TapeLang.Utf8.IsCharacter` — bytes are the shortest form of the number of a character.
* `TapeLang.Utf8.IsWellFormed` — bytes are characters, one behind the other.

## Main results

* `TapeLang.Utf8.isCharacter_iff` — the shortest forms are what characters are encoded to.
* `TapeLang.Utf8.isWellFormed_iff` — the well-formed bytes are those of texts.
-/

namespace TapeLang

namespace Utf8

/-- How many values the free bits of a first byte have that announces a number of bytes. -/
def room : ℕ → ℕ
  | 0 => 0x80
  | 1 => 0x20
  | 2 => 0x10
  | _ => 0x08

/-- Bytes are a form of a number: the first byte announces up to three bytes and holds the high
bits, and each of the announced bytes holds the next six bits. There may be a shorter form. -/
def IsForm (bytes : List UInt8) (n : ℕ) : Prop :=
  ∃ k ≤ 3, n / 64 ^ k < room k ∧ bytes = UInt8.ofNat (mark k + n / 64 ^ k) :: tailBytes k n

/-- Bytes are a character: a form of a number that is neither that of a surrogate nor beyond the
last character, and of which there is no shorter form. -/
def IsCharacter (bytes : List UInt8) : Prop :=
  ∃ n, IsForm bytes n ∧ (n < 0xD800 ∨ 0xDFFF < n) ∧ n ≤ 0x10FFFF ∧
    ∀ other, IsForm other n → bytes.length ≤ other.length

/-- Bytes are well-formed: they are characters, one behind the other. -/
def IsWellFormed (bytes : List UInt8) : Prop :=
  ∃ characters : List (List UInt8), (∀ c ∈ characters, IsCharacter c) ∧ bytes = characters.flatten

variable {k n : ℕ} {bytes : List UInt8} {c : Char}

/-! ## Forms -/

/-- A number has the forms that announce at least as many bytes as its encoding does. -/
lemma div_lt_room_iff (hk : k ≤ 3) (hn : n ≤ 0x10FFFF) : n / 64 ^ k < room k ↔ tailCount n ≤ k := by
  obtain rfl | rfl | rfl | rfl : k = 0 ∨ k = 1 ∨ k = 2 ∨ k = 3 := by omega
  · grind [room, tailCount]
  · grind [room, tailCount]
  · grind [room, tailCount]
  · grind [room, tailCount]

lemma tailCount_le (n : ℕ) : tailCount n ≤ 3 := by
  grind [tailCount]

lemma isValidChar_iff : n.isValidChar ↔ (n < 0xD800 ∨ 0xDFFF < n) ∧ n ≤ 0x10FFFF := by
  unfold Nat.isValidChar
  omega

lemma toNat_le (c : Char) : c.toNat ≤ 0x10FFFF :=
  (isValidChar_iff.1 (isValidChar_toNat c)).2

/-- A character is encoded to a form of its number. -/
lemma isForm_utf8EncodeChar (c : Char) : IsForm (String.utf8EncodeChar c) c.toNat :=
  ⟨_, tailCount_le _, (div_lt_room_iff (tailCount_le _) (toNat_le c)).2 (Nat.le_refl _),
    utf8EncodeChar_eq c⟩

/-- No form of the number of a character is shorter than its encoding, and none is as long. -/
lemma IsForm.eq_utf8EncodeChar_or_lt (h : IsForm bytes c.toNat) :
    bytes = String.utf8EncodeChar c ∨ (String.utf8EncodeChar c).length < bytes.length := by
  obtain ⟨k, hk, hroom, rfl⟩ := h
  rw [div_lt_room_iff hk (toNat_le c)] at hroom
  obtain hlt | heq := Nat.lt_or_eq_of_le hroom
  · right
    rw [length_utf8EncodeChar, List.length_cons, length_tailBytes]
    omega
  · left
    rw [utf8EncodeChar_eq, heq, leadByte, heq]

/-! ## Characters and texts -/

/-- **The shortest forms are what characters are encoded to.** -/
lemma isCharacter_iff : IsCharacter bytes ↔ ∃ c : Char, bytes = String.utf8EncodeChar c := by
  constructor
  · rintro ⟨n, hform, hsurrogate, hlast, hshortest⟩
    obtain ⟨c, rfl⟩ : ∃ c : Char, c.toNat = n :=
      ⟨Char.ofNatAux n (isValidChar_iff.2 ⟨hsurrogate, hlast⟩), rfl⟩
    obtain h | hlt := hform.eq_utf8EncodeChar_or_lt
    · exact ⟨c, h⟩
    · exact absurd (hshortest _ (isForm_utf8EncodeChar c)) (Nat.not_le.2 hlt)
  · rintro ⟨c, rfl⟩
    obtain ⟨hsurrogate, hlast⟩ := isValidChar_iff.1 (isValidChar_toNat c)
    refine ⟨c.toNat, isForm_utf8EncodeChar c, hsurrogate, hlast, fun other hother => ?_⟩
    obtain rfl | hlt := hother.eq_utf8EncodeChar_or_lt
    · exact Nat.le_refl _
    · exact Nat.le_of_lt hlt

/-- **The well-formed bytes are those of texts.** -/
lemma isWellFormed_iff :
    IsWellFormed bytes ↔ ∃ text : List Char, bytes = text.flatMap String.utf8EncodeChar := by
  constructor
  · rintro ⟨characters, hall, rfl⟩
    induction characters with
    | nil => exact ⟨[], rfl⟩
    | cons bytes characters ih =>
      obtain ⟨hfirst, hrest⟩ := List.forall_mem_cons.1 hall
      obtain ⟨c, rfl⟩ := isCharacter_iff.1 hfirst
      obtain ⟨text, htext⟩ := ih hrest
      exact ⟨c :: text, by rw [List.flatten_cons, List.flatMap_cons, htext]⟩
  · rintro ⟨text, rfl⟩
    refine ⟨text.map String.utf8EncodeChar, fun bytes hbytes => ?_, rfl⟩
    obtain ⟨c, -, rfl⟩ := List.mem_map.1 hbytes
    exact isCharacter_iff.2 ⟨c, rfl⟩

end Utf8

end TapeLang
