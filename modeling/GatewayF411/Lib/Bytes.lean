set_option autoImplicit false

namespace Bytes

theorem toNat_succ {b : UInt8} (h : b.toNat < 255) : (b+1).toNat = b.toNat+1 := by
  rw [UInt8.toNat_add]
  exact Nat.mod_eq_of_lt (Nat.succ_lt_succ h)

theorem toNat_pred {b : UInt8} (h : b ≠ 0) : (b-1).toNat+1 = b.toNat := by
  have hpos : 1 ≤ b.toNat := Nat.one_le_iff_ne_zero.mpr fun hz => h (UInt8.toNat_inj.mp hz)
  rw [UInt8.toNat_sub_of_le b 1 (UInt8.le_iff_toNat_le.mpr hpos)]
  exact Nat.sub_add_cancel hpos

end Bytes
