/-!
# Numbers as bytes
-/

namespace PluginBuild.Digest

/-- The bytes of a number from the lowest up, as many as are asked for. -/
def littleEndian : Nat → Nat → List UInt8
  | 0, _ => []
  | count + 1, n => UInt8.ofNat n :: littleEndian count (n / 256)

/-- As many bytes come as are asked for. -/
@[simp] theorem length_littleEndian (count n : Nat) : (littleEndian count n).length = count := by
  induction count generalizing n with
  | zero => rfl
  | succ count ih => simp [littleEndian, ih]

end PluginBuild.Digest
