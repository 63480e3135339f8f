/-
# DeltaTape.Text.Utf8 — text as bytes, and bytes as text whatever they are

`Utf8.encode` writes each character in UTF-8.  `Utf8.decode` reads any bytes:
where they are not UTF-8, the longest beginning of a character found there is
replaced by one replacement character, and the byte that broke it off is looked
at afresh.  No byte of ASCII is ever taken for a part of something else.

* `feed_ascii`: an ASCII byte always delivers its own character, last, and
  leaves nothing unfinished;
* `decode_encode_ascii`: ASCII text is read back as written.
-/

namespace DeltaTape.Text.Utf8

set_option autoImplicit false

/-- Text in UTF-8. -/
def encode (text : String) : List UInt8 := text.toList.flatMap String.utf8EncodeChar

/-- The character that stands for bytes that are not UTF-8. -/
def replacement : Char := '\uFFFD'

/-- A character whose first bytes have been read: the bounds of the next byte,
how many more follow that one, and the bits read so far. -/
structure Unfinished where
  low : Nat
  high : Nat
  more : Nat
  bits : Nat
  tail : 0x80 ≤ low

/-- What reading a byte delivers, and what it leaves unfinished. -/
structure Reading where
  delivered : List Char
  unfinished : Option Unfinished

/-- Reads the first byte of a character.  The bounds of the second byte rule out
long spellings of short characters, surrogates, and codes past the last. -/
def lead (byte : UInt8) : Reading :=
  let b := byte.toNat
  if b < 0x80 then ⟨[Char.ofNat b], none⟩
  else if b < 0xC2 then ⟨[replacement], none⟩
  else if b < 0xE0 then ⟨[], some ⟨0x80, 0xBF, 0, b - 0xC0, by decide⟩⟩
  else if b < 0xF0 then
    let low := if b = 0xE0 then 0xA0 else 0x80
    let high := if b = 0xED then 0x9F else 0xBF
    ⟨[], some ⟨low, high, 1, b - 0xE0, by grind⟩⟩
  else if b < 0xF5 then
    let low := if b = 0xF0 then 0x90 else 0x80
    let high := if b = 0xF4 then 0x8F else 0xBF
    ⟨[], some ⟨low, high, 2, b - 0xF0, by grind⟩⟩
  else ⟨[replacement], none⟩

/-- Reads a byte after what is unfinished. -/
def feed (unfinished : Option Unfinished) (byte : UInt8) : Reading :=
  match unfinished with
  | none => lead byte
  | some u =>
    if u.low ≤ byte.toNat ∧ byte.toNat ≤ u.high then
      let bits := u.bits * 64 + (byte.toNat - 0x80)
      match u.more with
      | 0 => ⟨[Char.ofNat bits], none⟩
      | more + 1 => ⟨[], some ⟨0x80, 0xBF, more, bits, by decide⟩⟩
    else
      let again := lead byte
      ⟨replacement :: again.delivered, again.unfinished⟩

/-- Reads bytes after what is unfinished; at the end, that is replaced. -/
def decodeFrom (unfinished : Option Unfinished) : List UInt8 → List Char
  | [] => if unfinished.isSome then [replacement] else []
  | byte :: bytes =>
    let reading := feed unfinished byte
    reading.delivered ++ decodeFrom reading.unfinished bytes

/-- Reads bytes as text. -/
def decode (bytes : List UInt8) : List Char := decodeFrom none bytes

theorem lead_ascii {byte : UInt8} (ascii : byte.toNat < 0x80) :
    lead byte = ⟨[Char.ofNat byte.toNat], none⟩ := if_pos ascii

/-- An ASCII byte always delivers its own character, last, and leaves nothing
unfinished; what it breaks off is replaced. -/
theorem feed_ascii (unfinished : Option Unfinished) {byte : UInt8} (ascii : byte.toNat < 0x80) :
    feed unfinished byte =
      ⟨(if unfinished.isSome then [replacement] else []) ++ [Char.ofNat byte.toNat], none⟩ := by
  cases unfinished with
  | none => exact lead_ascii ascii
  | some u =>
      have outside : ¬ (u.low ≤ byte.toNat ∧ byte.toNat ≤ u.high) := by
        have := u.tail
        omega
      simp [feed, outside, lead_ascii ascii]

theorem encodeChar_ascii {c : Char} (ascii : c.toNat < 0x80) :
    String.utf8EncodeChar c = [UInt8.ofNat c.toNat] := by
  unfold String.utf8EncodeChar
  have small : c.val.toNat ≤ 0x7f := Nat.le_of_lt_succ ascii
  simp only [small, if_true]
  rfl

/-- ASCII text is read back as written. -/
theorem decode_encode_ascii {text : String} (ascii : ∀ c ∈ text.toList, c.toNat < 0x80) :
    decode (encode text) = text.toList := by
  unfold decode encode
  generalize text.toList = cs at ascii
  induction cs with
  | nil => rfl
  | cons c cs ih =>
      have small : c.toNat < 0x80 := ascii c (by simp)
      have same : (UInt8.ofNat c.toNat).toNat = c.toNat := by
        rw [UInt8.toNat_ofNat']
        exact Nat.mod_eq_of_lt (by omega)
      rw [List.flatMap_cons, encodeChar_ascii small, List.singleton_append, decodeFrom,
        feed_ascii none (by rw [same]; exact small), same, ih fun d h => ascii d (List.mem_cons_of_mem c h)]
      simp

end DeltaTape.Text.Utf8
