import Mathlib.Order.Bounds.Basic
import TapeLang.Proofs.WellFormed

set_option autoImplicit false

/-!
# The first fault of bytes

Bytes that are not well-formed have a first fault. It lies behind as many characters as the bytes
begin with, and its range is as much of the bytes from there as can still become a character, at
least one byte. This is said here without a word about how bytes are decoded. Only one fault is the
first one, and it is the one that decoding gives.

## Main definitions

* `TapeLang.Utf8.Begins` — bytes are the first ones of a character, but not all of them.
* `TapeLang.Utf8.Fault.range` — the bytes that a fault names.
* `TapeLang.Utf8.Fault.IsFirst` — a fault is the first one of bytes.

## Main results

* `TapeLang.Utf8.utf8EncodeChar_append_inj` — the first character of bytes can be cut off.
* `TapeLang.Utf8.length_le_of_isWellFormed` — where no character follows, well-formed bytes
  go no further.
* `TapeLang.Utf8.Fault.IsFirst.unique` — only one fault is the first one of bytes.
* `TapeLang.Utf8.isFirst_of_decode`, `TapeLang.Utf8.decode_eq_error_iff` — decoding gives the first
  fault.
-/

namespace TapeLang

namespace Utf8

/-- Bytes begin a character: they are the first ones of it, but not all of them. -/
def Begins (bytes : List UInt8) : Prop :=
  ∃ character, IsCharacter character ∧ bytes <+: character ∧ bytes ≠ character

/-- The bytes that a fault names. -/
def Fault.range (f : Fault) : List UInt8 :=
  f.lead :: f.tails

/-- A fault is the first one of bytes: its position is the length of the longest well-formed part
that the bytes begin with. Its range stands there, is one byte or begins a character, and with the
next byte it would not begin one. The reason says whether it begins a character, and whether the
bytes end with it. -/
structure Fault.IsFirst (f : Fault) (bytes : List UInt8) : Prop where
  /-- The position is the length of the longest well-formed part in front. -/
  position : IsGreatest {n | ∃ front, front <+: bytes ∧ IsWellFormed front ∧ front.length = n}
    f.position
  /-- The range stands at the position. -/
  range : f.range <+: bytes.drop f.position
  /-- The range is one byte or begins a character. -/
  begins : f.range.length = 1 ∨ Begins f.range
  /-- The range with the next byte begins no character. -/
  maximal : ∀ b, f.range ++ [b] <+: bytes.drop f.position → ¬Begins (f.range ++ [b])
  /-- The reason fits the range. -/
  reason : match f.reason with
    | .invalidStart => ¬Begins f.range
    | .invalidContinuation => Begins f.range ∧ f.range ≠ bytes.drop f.position
    | .unexpectedEnd => Begins f.range ∧ f.range = bytes.drop f.position

variable {k n low high bits position : ℕ} {b : UInt8} {bytes tails rest : List UInt8} {c c' : Char}
  {text : List Char} {l : Lead} {f f' : Fault} {reason : Reason}

/-! ## Unfinished characters -/

/-- Bytes behind a first byte are unfinished: they can be read with some more bytes behind them. -/
def Unfinished (count low high bits : ℕ) (tails : List UInt8) : Prop :=
  ∃ more n, more ≠ [] ∧ readTails count low high bits (tails ++ more) = .ok (n, [])

/-- Some bytes can be read, as many as are due. -/
lemma exists_readTails_eq_ok (hbounds : low ≤ high) (hhigh : high ≤ 0xBF) (k bits : ℕ) :
    ∃ more n, more.length = k ∧ readTails k low high bits more = .ok (n, []) := by
  induction k generalizing low high bits with
  | zero => exact ⟨[], bits, rfl, rfl⟩
  | succ k ih =>
    obtain ⟨more, n, hlength, hread⟩ := ih (by decide : 0x80 ≤ 0xBF) (Nat.le_refl _)
      (bits * 64 + (low - 0x80))
    have hlow : (UInt8.ofNat low).toNat = low := by
      rw [UInt8.toNat_ofNat']
      omega
    refine ⟨UInt8.ofNat low :: more, n, by rw [List.length_cons, hlength], ?_⟩
    rw [readTails_cons_iff, hlow]
    exact ⟨⟨Nat.le_refl _, hbounds⟩, hread⟩

/-- **Where reading fails the bytes before are unfinished**, and either they are all, or with the
next byte they would not be readable.

**Proof sketch.** Induction on the number of bytes that are due. A byte within the bounds is passed,
and what holds behind it holds before it. At a byte out of the bounds, and at the end, nothing was
passed since, and what is due can be filled in. -/
lemma unfinished_of_readTails (hbounds : low ≤ high) (hhigh : high ≤ 0xBF)
    (h : readTails k low high bits bytes = .error (tails, reason)) :
    Unfinished k low high bits tails ∧
      (bytes = tails ∧ reason = .unexpectedEnd ∨
        ∃ b rest, bytes = tails ++ b :: rest ∧ reason = .invalidContinuation ∧
          ∀ more r, readTails k low high bits (tails ++ b :: more) ≠ .ok r) := by
  induction k generalizing low high bits bytes tails with
  | zero => simp [readTails] at h
  | succ k ih =>
    have hnone : Unfinished (k + 1) low high bits [] := by
      obtain ⟨more, n, hlength, hread⟩ := exists_readTails_eq_ok hbounds hhigh (k + 1) bits
      exact ⟨more, n, List.ne_nil_of_length_eq_add_one hlength, hread⟩
    cases bytes with
    | nil =>
      cases h
      exact ⟨hnone, .inl ⟨rfl, rfl⟩⟩
    | cons b bytes =>
      rw [readTails] at h
      split at h
      · next hb =>
        split at h
        · cases h
        · next tails' reason' hread =>
          cases h
          obtain ⟨⟨more, n, hmore, hok⟩, hends⟩ := ih (by omega) (Nat.le_refl _) hread
          refine ⟨⟨more, n, hmore, readTails_cons_iff.2 ⟨hb, hok⟩⟩, ?_⟩
          obtain ⟨rfl, rfl⟩ | ⟨next, rest, rfl, rfl, hnext⟩ := hends
          · exact .inl ⟨rfl, rfl⟩
          · refine .inr ⟨next, rest, rfl, rfl, fun more r hr => ?_⟩
            exact hnext more r (readTails_cons_iff.1 hr).2
      · next hb =>
        cases h
        refine ⟨hnone, .inr ⟨b, bytes, rfl, rfl, fun more r hr => ?_⟩⟩
        exact hb (readTails_cons_iff.1 hr).1

/-- The bounds of a second byte leave room for one. -/
lemma low_le_high_of_lead? {v : ℕ} (hl : lead? v = some l) : l.low ≤ l.high := by
  grind [lead?]

/-! ## First bytes -/

/-- Bytes are a character exactly if the rest can be read behind the first byte. -/
lemma isCharacter_cons_iff (hl : lead? b.toNat = some l) :
    IsCharacter (b :: tails) ↔
      ∃ n, readTails l.tails l.low l.high l.bits tails = .ok (n, []) := by
  simp only [isCharacter_iff, readTails_lead_iff hl, List.append_nil]
  constructor
  · rintro ⟨c, hc⟩
    exact ⟨c.toNat, c, rfl, hc⟩
  · rintro ⟨n, c, -, hc⟩
    exact ⟨c, hc⟩

/-- Bytes that begin a character are those that more bytes make a character. -/
lemma begins_iff : Begins bytes ↔ ∃ more, more ≠ [] ∧ IsCharacter (bytes ++ more) := by
  constructor
  · rintro ⟨_, hchar, ⟨more, rfl⟩, hne⟩
    refine ⟨more, fun hmore => hne ?_, hchar⟩
    rw [hmore, List.append_nil]
  · rintro ⟨more, hmore, hchar⟩
    exact ⟨_, hchar, List.prefix_append _ _, fun h => hmore (List.self_eq_append_right.1 h)⟩

/-- A first byte begins a character with the bytes behind it exactly if these are unfinished. -/
lemma begins_cons_iff (hl : lead? b.toNat = some l) :
    Begins (b :: tails) ↔ Unfinished l.tails l.low l.high l.bits tails := by
  simp only [begins_iff, List.cons_append, isCharacter_cons_iff hl, Unfinished]
  constructor
  · rintro ⟨more, hmore, n, hread⟩
    exact ⟨more, n, hmore, hread⟩
  · rintro ⟨more, n, hmore, hread⟩
    exact ⟨more, hmore, n, hread⟩

/-- What begins a character begins with a first byte. -/
lemma exists_lead?_of_begins (h : Begins (b :: tails)) : ∃ l, lead? b.toNat = some l := by
  obtain ⟨more, -, hchar⟩ := begins_iff.1 h
  obtain ⟨c, hc⟩ := isCharacter_iff.1 hchar
  exact exists_lead?_of_eq (hc.trans (List.append_nil _).symm)

/-- What begins a character begins it as far as one likes. -/
lemma Begins.of_isPrefix (h : Begins bytes) (hbefore : tails <+: bytes) : Begins tails := by
  obtain ⟨character, hchar, hle, hne⟩ := h
  refine ⟨character, hchar, hbefore.trans hle, ?_⟩
  rintro rfl
  exact hne (hle.eq_of_length_le hbefore.length_le)

/-! ## Well-formed parts in front -/

/-- **The first character of bytes can be cut off**, in one way only. -/
lemma utf8EncodeChar_append_inj
    (h : String.utf8EncodeChar c ++ bytes = String.utf8EncodeChar c' ++ rest) :
    c = c' ∧ bytes = rest := by
  have hcons : String.utf8EncodeChar c ++ bytes ≠ [] := by simp [utf8EncodeChar_eq]
  obtain ⟨b, tails, hbytes⟩ := List.exists_cons_of_ne_nil hcons
  obtain ⟨l, hl⟩ := exists_lead?_of_eq hbytes.symm
  have hread := (readTails_lead_iff hl).2 ⟨c, rfl, hbytes.symm⟩
  rw [(readTails_lead_iff hl).2 ⟨c', rfl, hbytes.symm.trans h⟩] at hread
  obtain ⟨hn, hrest⟩ := Prod.mk.inj (Except.ok.inj hread)
  exact ⟨Char.toNat_inj.1 hn.symm, hrest.symm⟩

/-- **Where no character follows, well-formed bytes go no further.**

**Proof sketch.** Induction on the text that stands there. A well-formed part in front begins with
the same character as the text, which is cut off from both. -/
lemma length_le_of_isWellFormed {front : List UInt8}
    (hrest : ∀ c, ¬String.utf8EncodeChar c <+: rest)
    (hfront : front <+: text.flatMap String.utf8EncodeChar ++ rest) (hwell : IsWellFormed front) :
    front.length ≤ (text.flatMap String.utf8EncodeChar).length := by
  obtain ⟨other, rfl⟩ := isWellFormed_iff.1 hwell
  clear hwell
  induction text generalizing other with
  | nil =>
    cases other with
    | nil => exact Nat.le_refl _
    | cons c other =>
      rw [List.flatMap_cons, List.flatMap_nil, List.nil_append] at hfront
      exact absurd ((List.prefix_append _ _).trans hfront) (hrest c)
  | cons c text ih =>
    cases other with
    | nil => exact Nat.zero_le _
    | cons c' other =>
      obtain ⟨behind, hbehind⟩ := hfront
      rw [List.flatMap_cons, List.flatMap_cons, List.append_assoc, List.append_assoc] at hbehind
      obtain ⟨rfl, htail⟩ := utf8EncodeChar_append_inj hbehind
      rw [List.flatMap_cons, List.flatMap_cons, List.length_append, List.length_append]
      exact Nat.add_le_add_left (ih other ⟨behind, htail⟩) _

/-! ## One first fault -/

/-- Of two first faults none names more bytes. -/
lemma Fault.IsFirst.length_range_le (h : f.IsFirst bytes) (h' : f'.IsFirst bytes)
    (hposition : f.position = f'.position) : f'.range.length ≤ f.range.length := by
  by_contra hlt
  obtain ⟨more, hmore⟩ := List.prefix_of_prefix_length_le h.range (hposition ▸ h'.range) (by omega)
  cases more with
  | nil => simp [← hmore] at hlt
  | cons b more =>
    have hbefore : f.range ++ [b] <+: f'.range := ⟨more, by rw [← hmore]; simp⟩
    have hbegins : Begins f'.range := by
      refine h'.begins.resolve_left fun hone => ?_
      rw [hone] at hlt
      simp [Fault.range] at hlt
    exact h.maximal b (hbefore.trans (hposition ▸ h'.range)) (hbegins.of_isPrefix hbefore)

/-- **Only one fault is the first one of bytes.** -/
lemma Fault.IsFirst.unique (h : f.IsFirst bytes) (h' : f'.IsFirst bytes) : f = f' := by
  have hposition : f.position = f'.position := h.position.unique h'.position
  have hlength : f.range.length = f'.range.length :=
    Nat.le_antisymm (h'.length_range_le h hposition.symm) (h.length_range_le h' hposition)
  have hrange : f.range = f'.range := by
    obtain ⟨more, hmore⟩ := h.range
    obtain ⟨more', hmore'⟩ := hposition ▸ h'.range
    exact (List.append_inj (hmore.trans hmore'.symm) hlength).1
  have hreason : f.reason = f'.reason := by
    have hr := h.reason
    have hr' := h'.reason
    rw [← hrange, ← hposition] at hr'
    revert hr hr'
    cases f.reason <;> cases f'.reason <;> simp <;> tauto
  obtain ⟨hlead, htails⟩ := List.cons.inj hrange
  cases f
  cases f'
  exact Fault.mk.injEq .. ▸ ⟨hposition, hlead, htails, hreason⟩

/-! ## Decoding -/

/-- The first byte of a character says how many bytes follow. -/
lemma tails_of_lead? (hl : lead? b.toNat = some l)
    (h : b :: bytes = String.utf8EncodeChar c ++ rest) : l.tails = tailCount c.toNat := by
  obtain ⟨hbyte, l', hl', htails⟩ := exists_lead?_leadByte (isValidChar_toNat c)
  rw [utf8EncodeChar_eq, List.cons_append, List.cons.injEq] at h
  rw [h.1, UInt8.toNat_ofNat_of_lt' hbyte, hl'] at hl
  exact Option.some.inj hl ▸ htails

/-- Bytes that are not decoded begin with those of a text, and behind these stands a byte that is
not the first one of a character, or that is not continued. -/
lemma exists_text_of_decodeFrom (h : decodeFrom position bytes = .error f) :
    ∃ (text : List Char) (rest : List UInt8),
      bytes = text.flatMap String.utf8EncodeChar ++ f.lead :: rest ∧
      f.position = position + (text.flatMap String.utf8EncodeChar).length ∧
      (lead? f.lead.toNat = none ∧ f.tails = [] ∧ f.reason = .invalidStart ∨
        ∃ l, lead? f.lead.toNat = some l ∧
          readTails l.tails l.low l.high l.bits rest = .error (f.tails, f.reason)) := by
  revert h
  fun_induction decodeFrom position bytes with
  | case1 => simp
  | case2 position b bytes hl =>
    rintro ⟨⟩
    exact ⟨[], bytes, rfl, rfl, .inl ⟨hl, rfl, rfl⟩⟩
  | case3 position b bytes l hl tails reason hread =>
    rintro ⟨⟩
    exact ⟨[], bytes, rfl, rfl, .inr ⟨l, hl, hread⟩⟩
  | case4 position b bytes l hl n rest hread f' hdecode ih =>
    rintro ⟨⟩
    obtain ⟨text, rest', hrest, hposition, hfault⟩ := ih hdecode
    obtain ⟨c, rfl, hcons⟩ := (readTails_lead_iff hl).1 hread
    refine ⟨c :: text, rest', ?_, ?_, hfault⟩
    · rw [hcons, hrest, List.flatMap_cons, List.append_assoc]
    · rw [hposition, tails_of_lead? hl hcons, List.flatMap_cons, List.length_append,
        length_utf8EncodeChar]
      omega
  | case5 => simp

/-- Where no character follows a text, its bytes are the longest well-formed part in front. -/
lemma isGreatest_of_no_character (hno : ∀ c, ¬String.utf8EncodeChar c <+: rest) :
    IsGreatest {n | ∃ front, front <+: text.flatMap String.utf8EncodeChar ++ rest ∧
      IsWellFormed front ∧ front.length = n} (text.flatMap String.utf8EncodeChar).length := by
  refine ⟨⟨_, List.prefix_append _ _, isWellFormed_iff.2 ⟨text, rfl⟩, rfl⟩, ?_⟩
  rintro n ⟨front, hfront, hwell, rfl⟩
  exact length_le_of_isWellFormed hno hfront hwell

/-- A byte behind a text that is not the first one of a character is the first fault. -/
lemma Fault.isFirst_of_lead?_eq_none
    (hposition : f.position = (text.flatMap String.utf8EncodeChar).length)
    (hl : lead? f.lead.toNat = none) (htails : f.tails = []) (hreason : f.reason = .invalidStart) :
    f.IsFirst (text.flatMap String.utf8EncodeChar ++ f.lead :: rest) := by
  have hno (tails : List UInt8) : ¬Begins (f.lead :: tails) := by
    intro hbegins
    obtain ⟨l, hl'⟩ := exists_lead?_of_begins hbegins
    rw [hl] at hl'
    cases hl'
  refine ⟨?_, ?_, ?_, fun b _ => hno _, ?_⟩
  · rw [hposition]
    refine isGreatest_of_no_character fun c ⟨after, hafter⟩ => ?_
    obtain ⟨l, hl'⟩ := exists_lead?_of_eq hafter.symm
    rw [hl] at hl'
    cases hl'
  · rw [hposition, List.drop_left, Fault.range, htails]
    exact ⟨rest, rfl⟩
  · left
    rw [Fault.range, htails, List.length_singleton]
  · rw [hreason]
    exact hno _

/-- A first byte behind a text that is not continued is, with what continues it, the first fault.

**Proof sketch.** Reading fails, so no character follows the text. What is passed before reading
fails is unfinished, so the range begins a character. With the next byte it is not unfinished, for
reading stops there. -/
lemma Fault.isFirst_of_readTails
    (hposition : f.position = (text.flatMap String.utf8EncodeChar).length)
    (hl : lead? f.lead.toNat = some l)
    (hread : readTails l.tails l.low l.high l.bits rest = .error (f.tails, f.reason)) :
    f.IsFirst (text.flatMap String.utf8EncodeChar ++ f.lead :: rest) := by
  obtain ⟨hunfinished, hends⟩ :=
    unfinished_of_readTails (low_le_high_of_lead? hl) (bounds_of_lead? hl).2 hread
  have hbegins : Begins f.range := (begins_cons_iff hl).2 hunfinished
  refine ⟨?_, ?_, .inr hbegins, ?_, ?_⟩
  · rw [hposition]
    refine isGreatest_of_no_character fun c ⟨after, hafter⟩ => ?_
    rw [(readTails_lead_iff hl).2 ⟨c, rfl, hafter.symm⟩] at hread
    cases hread
  · rw [hposition, List.drop_left, Fault.range, List.cons_prefix_cons, and_iff_right rfl]
    obtain ⟨rfl, -⟩ | ⟨b, rest', rfl, -, -⟩ := hends
    · exact List.prefix_rfl
    · exact List.prefix_append _ _
  · intro b hbefore hextended
    rw [Fault.range, List.cons_append] at hbefore hextended
    rw [hposition, List.drop_left, List.cons_prefix_cons, and_iff_right rfl] at hbefore
    obtain ⟨hrest, -⟩ | ⟨next, rest', hrest, -, hnext⟩ := hends
    · have hle := hbefore.length_le
      rw [hrest, List.length_append, List.length_singleton] at hle
      omega
    · rw [hrest, List.prefix_append_right_inj, List.cons_prefix_cons] at hbefore
      obtain ⟨rfl, -⟩ := hbefore
      obtain ⟨more, n, -, hok⟩ := (begins_cons_iff hl).1 hextended
      rw [List.append_assoc] at hok
      exact hnext more _ hok
  · rw [hposition, List.drop_left]
    obtain ⟨hrest, hreason⟩ | ⟨next, rest', hrest, hreason, -⟩ := hends
    · rw [hreason]
      exact ⟨hbegins, by rw [Fault.range, hrest]⟩
    · rw [hreason]
      exact ⟨hbegins, by simp [Fault.range, hrest]⟩

/-- **Decoding gives the first fault.** -/
lemma isFirst_of_decode (h : decode bytes = .error f) : f.IsFirst bytes := by
  obtain ⟨text, rest, rfl, hposition, hfault⟩ := exists_text_of_decodeFrom h
  rw [Nat.zero_add] at hposition
  obtain ⟨hl, htails, hreason⟩ | ⟨l, hl, hread⟩ := hfault
  · exact Fault.isFirst_of_lead?_eq_none hposition hl htails hreason
  · exact Fault.isFirst_of_readTails hposition hl hread

/-- Bytes are decoded exactly if they are well-formed. -/
lemma isWellFormed_iff_decode : IsWellFormed bytes ↔ ∃ text, decode bytes = .ok text := by
  simp only [isWellFormed_iff, decode_eq_ok_iff, encode, String.toList_ofList]

/-- **Decoding bytes that are not well-formed gives their first fault**, and no other is. -/
lemma decode_eq_error_iff (h : ¬IsWellFormed bytes) :
    decode bytes = .error f ↔ f.IsFirst bytes := by
  refine ⟨isFirst_of_decode, fun hfirst => ?_⟩
  cases hdecode : decode bytes with
  | ok text => exact absurd (isWellFormed_iff_decode.2 ⟨text, hdecode⟩) h
  | error f' => rw [hfirst.unique (isFirst_of_decode hdecode)]

/-- Bytes that are not well-formed have a first fault. -/
lemma exists_isFirst (h : ¬IsWellFormed bytes) : ∃ f : Fault, f.IsFirst bytes := by
  cases hdecode : decode bytes with
  | ok text => exact absurd (isWellFormed_iff_decode.2 ⟨text, hdecode⟩) h
  | error f => exact ⟨f, isFirst_of_decode hdecode⟩

end Utf8

end TapeLang
