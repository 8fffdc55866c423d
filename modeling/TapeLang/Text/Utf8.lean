import TapeLang.Text.Hex

set_option autoImplicit false

/-!
# Strict UTF-8

Bytes are decoded character by character. The first byte of a character says how many bytes follow
and between which bounds the second one lies, which rules out overlong forms, surrogates and
numbers beyond the last character. The first fault ends the decoding: it names the bytes from the
start of the faulty character up to the last one that could still belong to a character.

## Main definitions

* `TapeLang.Utf8.Fault` — where bytes are not UTF-8, and why.
* `TapeLang.Utf8.decode` — the characters of bytes, or the first fault.
* `TapeLang.Utf8.encode` — the bytes of a text.
-/

namespace TapeLang

namespace Utf8

/-- Why bytes are not UTF-8. -/
inductive Reason where
  /-- No character begins with the byte. -/
  | invalidStart
  /-- The byte behind the range does not continue the character. -/
  | invalidContinuation
  /-- The bytes end within a character. -/
  | unexpectedEnd
  deriving DecidableEq

/-- The words for a reason. -/
def Reason.text : Reason → String
  | invalidStart => "invalid start byte"
  | invalidContinuation => "invalid continuation byte"
  | unexpectedEnd => "unexpected end of data"

/-- Where bytes are not UTF-8, and why: the position of the faulty character, its first byte, and
the bytes behind that one which could still belong to a character. -/
structure Fault where
  /-- How many bytes stand before the faulty character. -/
  position : Nat
  /-- The first byte of the faulty character. -/
  lead : UInt8
  /-- The bytes that continue the character up to the fault. -/
  tails : List UInt8
  /-- Why the character is faulty. -/
  reason : Reason
  deriving DecidableEq

/-- The text of a fault. -/
def Fault.message (f : Fault) : String :=
  let place := match f.tails with
    | [] =>
      "byte 0x" ++ String.ofList (Hex.lower 2 f.lead.toNat) ++ " in position " ++
        toString f.position
    | tails =>
      "bytes in position " ++ toString f.position ++ "-" ++ toString (f.position + tails.length)
  "'utf-8' codec can't decode " ++ place ++ ": " ++ f.reason.text

/-- What the first byte of a character says about the rest of it. -/
structure Lead where
  /-- The high bits of the number of the character. -/
  bits : Nat
  /-- How many bytes follow. -/
  tails : Nat
  /-- The least second byte. -/
  low : Nat
  /-- The greatest second byte. -/
  high : Nat

/-- What a byte says as the first one of a character. -/
def lead? (b : Nat) : Option Lead :=
  if b < 0x80 then some ⟨b, 0, 0x80, 0xBF⟩
  else if b < 0xC2 then none
  else if b < 0xE0 then some ⟨b - 0xC0, 1, 0x80, 0xBF⟩
  else if b < 0xF0 then
    some ⟨b - 0xE0, 2, if b = 0xE0 then 0xA0 else 0x80, if b = 0xED then 0x9F else 0xBF⟩
  else if b < 0xF5 then
    some ⟨b - 0xF0, 3, if b = 0xF0 then 0x90 else 0x80, if b = 0xF4 then 0x8F else 0xBF⟩
  else none

/-- Reads `count` more bytes of a character, the first of them between `low` and `high`, behind the
high bits of its number. Gives the number and the rest, or the bytes up to a fault. -/
def readTails (count low high bits : Nat) (bytes : List UInt8) :
    Except (List UInt8 × Reason) (Nat × List UInt8) :=
  match count, bytes with
  | 0, rest => .ok (bits, rest)
  | _ + 1, [] => .error ([], .unexpectedEnd)
  | count + 1, b :: rest =>
    if low ≤ b.toNat ∧ b.toNat ≤ high then
      match readTails count 0x80 0xBF (bits * 64 + (b.toNat - 0x80)) rest with
      | .ok r => .ok r
      | .error (tails, reason) => .error (b :: tails, reason)
    else .error ([], .invalidContinuation)

/-- What is left behind a character is no longer than what came behind its first byte. -/
theorem length_of_readTails {count low high bits n : Nat} {bytes rest : List UInt8}
    (h : readTails count low high bits bytes = .ok (n, rest)) : rest.length ≤ bytes.length := by
  fun_induction readTails count low high bits bytes with
  | case1 => simp_all
  | case2 => cases h
  | case3 _ _ _ _ _ _ _ _ hr ih =>
    cases h
    have := ih hr
    simp
    omega
  | case4 => cases h
  | case5 => cases h

/-- The characters of the bytes behind `position` other bytes, or the first fault. -/
def decodeFrom (position : Nat) (bytes : List UInt8) : Except Fault (List Char) :=
  match bytes with
  | [] => .ok []
  | b :: bytes =>
    match lead? b.toNat with
    | none => .error ⟨position, b, [], .invalidStart⟩
    | some l =>
      match _h : readTails l.tails l.low l.high l.bits bytes with
      | .error (tails, reason) => .error ⟨position, b, tails, reason⟩
      | .ok (n, rest) =>
        match decodeFrom (position + 1 + l.tails) rest with
        | .error f => .error f
        | .ok text => .ok (Char.ofNat n :: text)
termination_by bytes.length
decreasing_by exact Nat.lt_succ_of_le (length_of_readTails _h)

/-- The characters of bytes, or the first fault. -/
def decode (bytes : List UInt8) : Except Fault (List Char) :=
  decodeFrom 0 bytes

/-- The bytes of a text. -/
def encode (text : String) : List UInt8 :=
  text.toList.flatMap String.utf8EncodeChar

end Utf8

end TapeLang
