/-!
# Saturating counters

The link keeps time in 32-bit milliseconds and counts retries in one byte. Neither ever wraps: a
counter that would leave its range stays at the end of it.
-/
namespace BrailleDisplay

/-- The sum of two 32-bit durations, held at the largest one when it does not fit. -/
def addCapped (a b : UInt32) : UInt32 :=
  UInt32.ofNat (min (a.toNat + b.toNat) (UInt32.size - 1))

/-- The next count, held at 255. -/
def countUp (n : UInt8) : UInt8 :=
  UInt8.ofNat (min (n.toNat + 1) (UInt8.size - 1))

/-- The count before, held at 0. -/
def countDown (n : UInt8) : UInt8 :=
  UInt8.ofNat (n.toNat - 1)

@[simp] theorem toNat_addCapped (a b : UInt32) :
    (addCapped a b).toNat = min (a.toNat + b.toNat) (UInt32.size - 1) := by
  simp only [addCapped, UInt32.toNat_ofNat', UInt32.size]
  omega

@[simp] theorem toNat_countUp (n : UInt8) :
    (countUp n).toNat = min (n.toNat + 1) (UInt8.size - 1) := by
  simp only [countUp, UInt8.toNat_ofNat', UInt8.size]
  omega

@[simp] theorem toNat_countDown (n : UInt8) : (countDown n).toNat = n.toNat - 1 := by
  have := n.toNat_lt
  simp only [countDown, UInt8.toNat_ofNat']
  omega

end BrailleDisplay
