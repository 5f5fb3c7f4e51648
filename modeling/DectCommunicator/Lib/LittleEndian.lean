import Mathlib.Data.List.Basic
import Mathlib.Data.Nat.Basic
import Mathlib.Tactic.Ring

/-!
# Little-endian byte fields

The fixed-width unsigned fields of a packed record, over lists of bytes.

* `bytes k n` — the `k` bytes of a field holding `n`, least significant first. A value that does
  not fit loses its high part, as a store to a `k`-byte field does.
* `value bs` — the number a byte string stands for.
* `field bs off k` — the number read from a `k`-byte field at offset `off`.

`value_bytes` and `bytes_value` say that the two directions are inverse up to the width, and
`field_append_bytes` reads a field back out of a record written as a concatenation.
-/

namespace LittleEndian

/-- The number a byte string stands for, least significant byte first. Every byte string stands for
a number, so reading never fails. -/
def value : List UInt8 → ℕ
  | [] => 0
  | b :: bs => b.toNat + 256 * value bs

/-- The `k`-byte field holding `n`. A number that does not fit loses its high bytes, as it does in C
when it is stored in a narrower field. -/
def bytes : ℕ → ℕ → List UInt8
  | 0, _ => []
  | k + 1, n => UInt8.ofNat n :: bytes k (n / 256)

/-- The number in the `k`-byte field at offset `off`. Bytes behind the end of the string count as
absent high bytes, so a reader has to compare the length first, as the source does. -/
def field (bs : List UInt8) (off k : ℕ) : ℕ :=
  value ((bs.drop off).take k)

@[simp] theorem value_nil : value [] = 0 := rfl

theorem value_cons (b : UInt8) (bs : List UInt8) :
    value (b :: bs) = b.toNat + 256 * value bs := rfl

@[simp] theorem length_bytes (k n : ℕ) : (bytes k n).length = k := by
  induction k generalizing n with
  | zero => rfl
  | succ k ih => simp [bytes, ih]

/-- Reading a field back gives what was stored, modulo the width: what does not fit is lost on
storing, and nothing is lost on reading. -/
theorem value_bytes (k n : ℕ) : value (bytes k n) = n % 256 ^ k := by
  induction k generalizing n with
  | zero => simp [bytes, Nat.mod_one]
  | succ k ih =>
    -- The lowest byte and the others, on both sides of the equation.
    have hsplit : n % 256 ^ (k + 1) = n % 256 + 256 * (n / 256 % 256 ^ k) := by
      rw [pow_succ', Nat.mod_mul]
    rw [bytes, value_cons, ih, UInt8.toNat_ofNat', hsplit]

/-- A byte string of a given length stands for a number of that width. -/
theorem value_lt (bs : List UInt8) : value bs < 256 ^ bs.length := by
  induction bs with
  | nil => simp
  | cons b bs ih =>
    have hb : b.toNat < 256 := b.toNat_lt
    rw [value_cons, List.length_cons, pow_succ']
    omega

/-- A field never holds more than its width allows, also where it ends behind the string. -/
theorem field_lt (bs : List UInt8) (off k : ℕ) : field bs off k < 256 ^ k := by
  refine lt_of_lt_of_le (value_lt _) (Nat.pow_le_pow_right (by omega) ?_)
  rw [List.length_take]
  omega

/-- A field of a record is what was stored in it, wherever in the record it stands and whatever
follows. -/
theorem field_append_bytes (xs ys : List UInt8) (k n off : ℕ) (hoff : xs.length = off) :
    field (xs ++ (bytes k n ++ ys)) off k = n % 256 ^ k := by
  subst hoff
  rw [field, List.drop_left, List.take_left' (length_bytes k n), value_bytes]

/-- A field lying inside the first part of a concatenation does not depend on the second part. -/
theorem field_append_of_le (xs ys : List UInt8) {off k : ℕ} (h : off + k ≤ xs.length) :
    field (xs ++ ys) off k = field xs off k := by
  rw [field, field, List.drop_append_of_le_length (by omega),
    List.take_append_of_le_length (by rw [List.length_drop]; omega)]

/-- A field that lies before the end of a cut is still there, as when a header is read of a longer
buffer. -/
theorem field_take (bs : List UInt8) {off k n : ℕ} (h : off + k ≤ n) :
    field (bs.take n) off k = field bs off k := by
  rw [field, field, List.drop_take, List.take_take, Nat.min_eq_left (by omega)]

/-! ### Packed records -/

/-- A packed record: its fields in order, each a width and a value, without padding between them. -/
def record : List (ℕ × ℕ) → List UInt8
  | [] => []
  | (k, n) :: fs => bytes k n ++ record fs

/-- The size of a packed record, which is also the offset of the field that would come next. -/
def width (fs : List (ℕ × ℕ)) : ℕ := (fs.map Prod.fst).sum

@[simp] theorem length_record (fs : List (ℕ × ℕ)) : (record fs).length = width fs := by
  induction fs with
  | nil => rfl
  | cons f fs ih => simp [record, width, ih]

/-- The fields of one record followed by those of another one. -/
theorem record_append (fs gs : List (ℕ × ℕ)) : record (fs ++ gs) = record fs ++ record gs := by
  induction fs with
  | nil => rfl
  | cons f fs ih => rw [List.cons_append, record, record, ih, List.append_assoc]

/-- Every field of a packed record is read back at the sum of the widths before it, whatever
follows the record. -/
theorem field_record (fs : List (ℕ × ℕ)) (k n : ℕ) (gs : List (ℕ × ℕ)) (rest : List UInt8) :
    field (record (fs ++ (k, n) :: gs) ++ rest) (width fs) k = n % 256 ^ k := by
  rw [record_append, record, List.append_assoc, List.append_assoc]
  exact field_append_bytes (record fs) _ k n _ (length_record fs)

end LittleEndian
