import ClusterHarness.Time.Interval

/-!
Pauses. A clock counts nanoseconds in 64 bits, so that it can wait neither for a negative time nor for much
more than 292 years.
-/

namespace ClusterHarness.Time

/-- Why nobody can wait so long. -/
inductive PauseError where
  | notNumber
  | tooLong
  | negative
  deriving DecidableEq, Repr

def PauseError.message : PauseError → Text
  | .notNumber => "Invalid value NaN (not a number)"
  | .tooLong => "timestamp too large to convert to C _PyTime_t"
  | .negative => "sleep length must be non-negative"

/-- The nanoseconds of a second. -/
def nanos : Nat := 1000000000

/-- A clock counts fewer nanoseconds than these, and as many backwards. -/
def clockRange : Nat := 0x8000000000000000

/-- What is wrong with a pause of so many nanoseconds. The range is looked at first. -/
def clockError? (negative : Bool) (num den : Nat) : Option PauseError :=
  if negative && num ≠ 0 then some (if clockRange * den < num then .tooLong else .negative)
  else if num < clockRange * den then none
  else some .tooLong

namespace Seconds

/-- What is wrong with a pause of so many seconds, if anything. A floating number of seconds is multiplied and
rounded before it is looked at. -/
def pauseError? : Seconds → Option PauseError
  | .whole n => clockError? (n < 0) (n.natAbs * nanos) 1
  | .fraction .nan => some .notNumber
  | .fraction (.infinite _) => some .tooLong
  | .fraction x =>
    let product := x.mul (.ofRatio false nanos 1)
    if product.isFinite then clockError? product.isNegative product.ratio.1 product.ratio.2 else some .tooLong

/-- One can wait so long. -/
def IsPause (s : Seconds) : Prop := s.pauseError? = none

instance (s : Seconds) : Decidable s.IsPause := inferInstanceAs (Decidable (_ = _))

theorem isPause_whole {n : Int} : IsPause (.whole n) ↔ 0 ≤ n ∧ n * nanos < clockRange := by
  unfold IsPause pauseError? clockError? clockRange nanos
  by_cases hn : n < 0
  · have hpos : n.natAbs * 1000000000 ≠ 0 := by omega
    simp only [hn, decide_true, Bool.true_and, hpos, ne_eq, not_false_eq_true, if_true, reduceCtorEq, false_iff]
    omega
  · simp only [hn, decide_false, Bool.false_and, Bool.false_eq_true, if_false, ite_eq_left_iff, reduceCtorEq,
      imp_false, Decidable.not_not]
    omega

end Seconds

end ClusterHarness.Time
