import Mathlib.Data.List.Basic

/-!
# Decoding UTF-8 with replacement

A decoder of byte strings that never fails: where the bytes are not the encoding of a character,
the longest prefix that could have begun one, or else a single byte, is replaced by U+FFFD.

* `decodeChar?` — the character whose encoding the bytes begin with, if there is one.
* `subpart` — how many bytes one replacement stands for.
* `decode` — the characters of a byte string; `decode_encode_append` says that characters come back
  from their encoding, whatever follows it.
-/

namespace Utf8

/-- The encoding of characters, one after the other. -/
def encode (cs : List Char) : List UInt8 := cs.flatMap String.utf8EncodeChar

/-- The character whose encoding the bytes begin with, if they begin with one. -/
def decodeChar? (bs : List UInt8) : Option Char := bs.toByteArray.utf8DecodeChar? 0

/-- For the first byte of a sequence of more than one byte: how many follow, and the range of the
second. The ranges exclude overlong encodings, surrogates, and what lies above U+10FFFF. -/
def lead (b : UInt8) : Option (ℕ × UInt8 × UInt8) :=
  if 0xC2 ≤ b ∧ b ≤ 0xDF then some (1, 0x80, 0xBF)
  else if b = 0xE0 then some (2, 0xA0, 0xBF)
  else if b = 0xED then some (2, 0x80, 0x9F)
  else if 0xE1 ≤ b ∧ b ≤ 0xEF then some (2, 0x80, 0xBF)
  else if b = 0xF0 then some (3, 0x90, 0xBF)
  else if b = 0xF4 then some (3, 0x80, 0x8F)
  else if 0xF1 ≤ b ∧ b ≤ 0xF3 then some (3, 0x80, 0xBF)
  else none

/-- A byte after the second one of a sequence, for which there is no narrower range. -/
def isContinuation (b : UInt8) : Bool := 0x80 ≤ b && b ≤ 0xBF

/-- The length of the prefix that one replacement stands for: the longest one that could have begun
a character, or else a single byte. -/
def subpart : List UInt8 → ℕ
  | [] => 0
  | b :: bs =>
    match lead b, bs with
    | some (n, low, high), c :: rest =>
      if low ≤ c ∧ c ≤ high then 2 + ((rest.take (n - 1)).takeWhile isContinuation).length else 1
    | _, _ => 1

/-- The characters of the bytes that follow the next `skip` ones. Skipping is part of the recursion,
so that it is structural over the bytes. -/
def decodeFrom : ℕ → List UInt8 → List Char
  | _, [] => []
  | skip + 1, _ :: bs => decodeFrom skip bs
  | 0, b :: bs =>
    match decodeChar? (b :: bs) with
    | some c => c :: decodeFrom (c.utf8Size - 1) bs
    | none => '\uFFFD' :: decodeFrom (subpart (b :: bs) - 1) bs

/-- The characters of a byte string. -/
def decode (bs : List UInt8) : List Char := decodeFrom 0 bs

/-- Skipping a prefix and then decoding is decoding what comes after the prefix. -/
theorem decodeFrom_append (xs ys : List UInt8) : decodeFrom xs.length (xs ++ ys) = decode ys := by
  induction xs with
  | nil => rfl
  | cons x xs ih => exact ih

/-- The encoding of a character is recognised, whatever follows it. -/
theorem decodeChar?_encodeChar_append (c : Char) (bs : List UInt8) :
    decodeChar? (String.utf8EncodeChar c ++ bs) = some c := by
  unfold decodeChar?
  rw [List.toByteArray_append]
  exact ByteArray.utf8DecodeChar?_utf8EncodeChar_append

/-- A character is decoded from its encoding, and decoding goes on behind it. -/
theorem decode_encodeChar_append (c : Char) (bs : List UInt8) :
    decode (String.utf8EncodeChar c ++ bs) = c :: decode bs := by
  have hchar := decodeChar?_encodeChar_append c bs
  have hlen : (String.utf8EncodeChar c).length = c.utf8Size := String.length_utf8EncodeChar c
  have hpos := c.utf8Size_pos
  -- The encoding is not empty, so that decoding looks at its first byte and skips the others.
  cases hbytes : String.utf8EncodeChar c with
  | nil =>
    rw [hbytes] at hlen
    exact absurd hlen (Nat.ne_of_lt hpos)
  | cons b tail =>
    rw [hbytes] at hchar hlen
    rw [List.cons_append] at hchar ⊢
    have hfirst : decode (b :: (tail ++ bs)) = c :: decodeFrom (c.utf8Size - 1) (tail ++ bs) := by
      unfold decode
      rw [decodeFrom, hchar]
    rw [hfirst, ← hlen, List.length_cons, Nat.add_sub_cancel, decodeFrom_append]

/-- **Characters come back from their encoding**, whatever follows it. -/
theorem decode_encode_append (cs : List Char) (bs : List UInt8) :
    decode (encode cs ++ bs) = cs ++ decode bs := by
  induction cs with
  | nil => rfl
  | cons c cs ih =>
    have hcons : encode (c :: cs) = String.utf8EncodeChar c ++ encode cs := rfl
    rw [hcons, List.append_assoc, decode_encodeChar_append, ih, List.cons_append]

/-- Decoding is a left inverse of encoding. -/
theorem decode_encode (cs : List Char) : decode (encode cs) = cs := by
  have h := decode_encode_append cs []
  rwa [List.append_nil, show decode [] = [] from rfl, List.append_nil] at h

/-- The bytes of a string are the encoding of its characters, which connects `encode` with the
strings of Lean. -/
theorem encode_toList (s : String) : encode s.toList = s.toByteArray.data.toList := by
  rw [← String.utf8Encode_toList]
  unfold encode List.utf8Encode
  exact List.toList_data_toByteArray.symm

end Utf8
