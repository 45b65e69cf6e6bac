import SqlCluster.Calendar.Moment
import SqlCluster.Number.Double
/-!
Moments counted in seconds from the start of 1970 in universal time. A fraction is rounded to
microseconds, a tie to the even one, after it has been scaled in double precision.
-/
namespace SqlCluster.Calendar.Epoch

open SqlCluster.Number

def originOrdinal : Nat := 719163

def ofMicros? (micros : Int) : Option Moment :=
  let total := micros + (originOrdinal * microsPerDay : Nat)
  let day := total / (microsPerDay : Int)
  if 1 ≤ day ∧ day ≤ Date.maxOrdinal then
    some ⟨Date.ofOrdinal day.toNat, Time.ofMicros (total % (microsPerDay : Int)).toNat, some 0⟩
  else none

def ofSeconds? (n : Int) : Option Moment := ofMicros? (n * microsPerSecond)

def microsOfMagnitude (num den : Nat) : Nat :=
  let scaled := Double.ofRatio false (num % den * microsPerSecond) den
  let fraction := match scaled with
    | .finite _ m e =>
        let r := Double.magnitude m e
        Double.divNearest r.1 r.2
    | _ => 0
  num / den * microsPerSecond + fraction

def ofDouble? : Double → Option Moment
  | .finite s m e =>
      let r := Double.magnitude m e
      ofMicros? (Double.withSign s (microsOfMagnitude r.1 r.2))
  | _ => none

end SqlCluster.Calendar.Epoch
