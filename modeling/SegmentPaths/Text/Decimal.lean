/-
Signed 64-bit integers as decimal text.  Writing uses the digits and a minus
sign only; reading also takes a plus sign and leading zeros, and refuses
whatever leaves the 64-bit range.
-/
namespace SegmentPaths

namespace Decimal

/-- The digits of a number, behind a minus sign when it is negative. -/
def chars (n : Int) : List Char :=
  if n < 0 then '-' :: Nat.toDigits 10 n.natAbs else Nat.toDigits 10 n.natAbs

/-- The decimal text of a 64-bit integer. -/
def text (n : Int64) : String := String.ofList (chars n.toInt)

/-- The decimal text of a count. -/
def natText (n : Nat) : String := String.ofList (Nat.toDigits 10 n)

/-- The number that one or more ASCII digits spell. -/
def digits? (cs : List Char) : Option Nat :=
  if cs ≠ [] ∧ cs.all Char.isDigit = true then some (Nat.ofDigitChars 10 cs 0) else none

/-- The number that digits with at most one sign in front spell. -/
def int? : List Char → Option Int
  | '+' :: rest => (digits? rest).map Int.ofNat
  | '-' :: rest => (digits? rest).map (fun n => -Int.ofNat n)
  | cs => (digits? cs).map Int.ofNat

/-- A number as a 64-bit integer, if it is one. -/
def int64? (n : Int) : Option Int64 :=
  if -9223372036854775808 ≤ n ∧ n < 9223372036854775808 then some (Int64.ofInt n) else none

/-- Reads a whole text as a 64-bit integer. -/
def read? (source : String) : Option Int64 :=
  (int? source.toList).bind int64?

theorem toInt_of_int64? {n : Int} {m : Int64} (h : int64? n = some m) : m.toInt = n := by
  unfold int64? at h
  split at h
  · rename_i hrange
    cases h
    rw [Int64.toInt_ofInt]
    exact Int.bmod_eq_of_le (by simp [Int64.size]; omega) (by simp [Int64.size]; omega)
  · cases h

theorem int64?_toInt (n : Int64) : int64? n.toInt = some n := by
  have hlow := Int64.le_toInt n
  have hhigh := Int64.toInt_lt n
  simp only [int64?]
  rw [if_pos ⟨by omega, by omega⟩, Int64.ofInt_toInt]

theorem digits?_toDigits (n : Nat) : digits? (Nat.toDigits 10 n) = some n := by
  have hdigits : (Nat.toDigits 10 n).all Char.isDigit = true :=
    List.all_eq_true.mpr fun _ hmem =>
      Nat.isDigit_of_mem_toDigits (by decide) (by decide) hmem
  simp only [digits?]
  rw [if_pos ⟨Nat.toDigits_ne_nil, hdigits⟩,
    Nat.ofDigitChars_toDigits (by decide) (by decide)]

/-- Digits without a sign are read as they stand. -/
theorem int?_toDigits (n : Nat) : int? (Nat.toDigits 10 n) = some (Int.ofNat n) := by
  have hread := digits?_toDigits n
  generalize hcs : Nat.toDigits 10 n = cs at hread
  have hdigit : ∀ c ∈ cs, c.isDigit = true := fun c hmem =>
    Nat.isDigit_of_mem_toDigits (by decide) (by decide) (hcs ▸ hmem)
  unfold int?
  split
  · exact absurd (hdigit '+' List.mem_cons_self) (by decide)
  · exact absurd (hdigit '-' List.mem_cons_self) (by decide)
  · simp [hread]

theorem int?_chars (n : Int) : int? (chars n) = some n := by
  unfold chars
  split
  · rename_i hneg
    simp only [int?, digits?_toDigits, Option.map_some]
    congr 1
    simp only [Int.ofNat_eq_natCast]
    omega
  · rename_i hneg
    rw [int?_toDigits]
    congr 1
    simp only [Int.ofNat_eq_natCast]
    omega

/-- Reading undoes writing for every 64-bit integer. -/
theorem read?_text (n : Int64) : read? (text n) = some n := by
  simp [read?, text, int?_chars, int64?_toInt]

end Decimal

end SegmentPaths
