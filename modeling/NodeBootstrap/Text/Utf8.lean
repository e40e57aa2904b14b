/-!
# Bytes as text

* `Utf8.encode`: the bytes of a text;
* `Utf8.first`: the first character of some bytes, and the bytes after it;
* `Utf8.decode`: the text of some bytes, in which one replacement character stands for the longest
  start of a character that does not go on, or for a byte that starts none.
-/

namespace NodeBootstrap.Utf8

/-- What stands for bytes that are no character. -/
def replacement : Char := '\uFFFD'

/-- A byte that starts a character of several bytes: its share of the character, the number of
bytes that follow, and the bounds of the first of them. -/
def lead? (b : UInt8) : Option (Nat × Nat × UInt8 × UInt8) :=
  if b < 0xC2 then none
  else if b < 0xE0 then some (b.toNat % 32, 1, 0x80, 0xBF)
  else if b < 0xF0 then
    some (b.toNat % 16, 2, if b = 0xE0 then 0xA0 else 0x80, if b = 0xED then 0x9F else 0xBF)
  else if b < 0xF5 then
    some (b.toNat % 8, 3, if b = 0xF0 then 0x90 else 0x80, if b = 0xF4 then 0x8F else 0xBF)
  else none

/-- The character that `count` more bytes complete, and the bytes after it. -/
def complete : (count value : Nat) → (low high : UInt8) → List UInt8 → Char × List UInt8
  | 0, value, _, _, bs => (Char.ofNat value, bs)
  | _ + 1, _, _, _, [] => (replacement, [])
  | count + 1, value, low, high, b :: bs =>
    if low ≤ b ∧ b ≤ high then complete count (value * 64 + b.toNat % 64) 0x80 0xBF bs
    else (replacement, b :: bs)

/-- The first character of some bytes, and the bytes after it. -/
def first (b : UInt8) (bs : List UInt8) : Char × List UInt8 :=
  if b < 0x80 then (Char.ofNat b.toNat, bs)
  else
    match lead? b with
    | some (value, count, low, high) => complete count value low high bs
    | none => (replacement, bs)

theorem length_complete_le (count value : Nat) (low high : UInt8) (bs : List UInt8) :
    (complete count value low high bs).2.length ≤ bs.length := by
  induction count generalizing value low high bs with
  | zero => simp [complete]
  | succ n ih =>
    cases bs with
    | nil => simp [complete]
    | cons b bs =>
      simp only [complete]
      split
      · exact Nat.le_succ_of_le (ih ..)
      · exact Nat.le_refl _

theorem length_first_le (b : UInt8) (bs : List UInt8) : (first b bs).2.length ≤ bs.length := by
  unfold first
  split
  · exact Nat.le_refl _
  · split
    · exact length_complete_le ..
    · exact Nat.le_refl _

/-- The text of some bytes. -/
def decode : List UInt8 → List Char
  | [] => []
  | b :: bs => (first b bs).1 :: decode (first b bs).2
termination_by bs => bs.length
decreasing_by exact Nat.lt_succ_of_le (length_first_le b bs)

/-- The bytes of a text: those of its characters, one after the other. -/
def encode (s : String) : List UInt8 := s.toList.flatMap String.utf8EncodeChar

end NodeBootstrap.Utf8
