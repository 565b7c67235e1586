/-
Stored values and three-valued logic.  A comparison with null is unknown, and
unknown is neither true nor false.
-/
import SegmentPaths.Sql.Parameters

namespace SegmentPaths

/-- A value in a table. -/
inductive Datum
  | null
  | int (value : Int64)
  | text (value : String)
deriving DecidableEq, Inhabited

/-- A truth value; none is unknown. -/
abbrev Truth := Option Bool

namespace Truth

/-- Unknown only gives way to false. -/
def and : Truth → Truth → Truth
  | some false, _ | _, some false => some false
  | some true, some true => some true
  | _, _ => none

/-- Unknown only gives way to true. -/
def or : Truth → Truth → Truth
  | some true, _ | _, some true => some true
  | some false, some false => some false
  | _, _ => none

def not (truth : Truth) : Truth := truth.map Bool.not

/-- Whether any of several holds. -/
def any : List Truth → Truth
  | [] => some false
  | truth :: rest => or truth (any rest)

theorem or_eq_true (a b : Truth) : or a b = some true ↔ a = some true ∨ b = some true := by
  rcases a with _ | a | a <;> rcases b with _ | b | b <;> simp [or]

theorem and_eq_true (a b : Truth) : and a b = some true ↔ a = some true ∧ b = some true := by
  rcases a with _ | a | a <;> rcases b with _ | b | b <;> simp [and]

theorem any_eq_true (truths : List Truth) : any truths = some true ↔ some true ∈ truths := by
  induction truths with
  | nil => simp [any]
  | cons truth rest ih =>
      rw [any, or_eq_true, ih, List.mem_cons]
      exact or_congr eq_comm Iff.rfl

end Truth

namespace Datum

def ofParam : ParamValue → Datum
  | .int value => .int value
  | .text value => .text value

/-- A truth value as a value: one for true and zero for false. -/
def ofTruth : Truth → Datum
  | none => .null
  | some true => .int 1
  | some false => .int 0

/-- A value as a truth value: every number but zero is true, and no text is. -/
def truth : Datum → Truth
  | .null => none
  | .int value => some (value != 0)
  | .text _ => some false

/-- Whether a condition with this value is met. -/
def holds (datum : Datum) : Bool := datum.truth == some true

/-- How two values compare.  Numbers come before texts, texts are ordered by
their characters, and null does not compare with anything. -/
def order? : Datum → Datum → Option Ordering
  | .null, _ | _, .null => none
  | .int a, .int b => some (compare a.toInt b.toInt)
  | .int _, .text _ => some .lt
  | .text _, .int _ => some .gt
  | .text a, .text b => some (compare a b)

def equal (a b : Datum) : Truth := (order? a b).map Ordering.isEq

/-- Whether a value is among others: unknown if it is not found but a null
stands in the way. -/
def among (datum : Datum) (others : List Datum) : Truth :=
  Truth.any (others.map (equal datum))

/-- A value as text, unless it is null. -/
def text? : Datum → Option String
  | .null => none
  | .int value => some (Decimal.text value)
  | .text value => some value

/-- A test of two texts, unknown when one of them is null. -/
def textTest (test : String → String → Bool) (a b : Datum) : Truth := do
  let a ← text? a
  let b ← text? b
  pure (test a b)

theorem truth_ofTruth (t : Truth) : (ofTruth t).truth = t := by
  rcases t with _ | t | t <;> rfl

end Datum

end SegmentPaths
