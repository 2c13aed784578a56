import Mathlib.Tactic.Positivity

/-! Go's fixed-width signed integers. A value of width `w` lies in the
two's-complement range; arithmetic and conversions between widths wrap. -/
namespace KeyTransparency

/-- A Go signed integer of `w` bits (`int64`, `int32`). -/
structure GoInt (w : Nat) where
  val : Int
  range : -2^(w-1) ≤ val ∧ val < 2^(w-1)
  deriving DecidableEq

abbrev Int64 := GoInt 64
abbrev Int32 := GoInt 32

namespace GoInt
variable {w : Nat}

/-- Two's-complement reduction of an integer into `w` bits. -/
def wrap (w : Nat) (x : Int) : Int := (x + 2^(w-1)) % (2 * 2^(w-1)) - 2^(w-1)

theorem wrap_range (w : Nat) (x : Int) : -2^(w-1) ≤ wrap w x ∧ wrap w x < 2^(w-1) := by
  have hm : (0 : Int) < 2^(w-1) := by positivity
  have h0 := Int.emod_nonneg (x + 2^(w-1)) (by omega : (2 * 2^(w-1) : Int) ≠ 0)
  have h1 := Int.emod_lt_of_pos (x + 2^(w-1)) (by omega : (0 : Int) < 2 * 2^(w-1))
  unfold wrap
  omega

theorem wrap_of_range {x : Int} (h : -2^(w-1) ≤ x ∧ x < 2^(w-1)) : wrap w x = x := by
  unfold wrap
  rw [Int.emod_eq_of_lt (by omega) (by omega)]
  omega

theorem wrap_add_wrap (a b : Int) : wrap w (a + wrap w b) = wrap w (a + b) := by
  unfold wrap
  rw [show a + ((b + 2^(w-1)) % (2 * 2^(w-1)) - 2^(w-1)) + 2^(w-1) =
      a + (b + 2^(w-1)) % (2 * 2^(w-1)) by omega, Int.add_emod_emod, Int.add_assoc]

theorem wrap_wrap_add (a b : Int) : wrap w (wrap w a + b) = wrap w (a + b) := by
  rw [Int.add_comm, wrap_add_wrap, Int.add_comm]

/-- Go's conversion of an integer constant or of another width: keep the low `w` bits. -/
def ofInt (x : Int) : GoInt w := ⟨wrap w x, wrap_range w x⟩

instance : OfNat (GoInt w) n := ⟨ofInt n⟩
instance : Inhabited (GoInt w) := ⟨0⟩
instance : Repr (GoInt w) := ⟨fun a p => reprPrec a.val p⟩
instance : Add (GoInt w) := ⟨fun a b => ofInt (a.val + b.val)⟩
instance : Sub (GoInt w) := ⟨fun a b => ofInt (a.val - b.val)⟩
instance : LT (GoInt w) := ⟨fun a b => a.val < b.val⟩
instance : LE (GoInt w) := ⟨fun a b => a.val ≤ b.val⟩
instance (a b : GoInt w) : Decidable (a < b) := inferInstanceAs (Decidable (a.val < b.val))
instance (a b : GoInt w) : Decidable (a ≤ b) := inferInstanceAs (Decidable (a.val ≤ b.val))

/-- `intW(x)`: Go's conversion between signed widths. -/
def cast {v : Nat} (x : GoInt v) : GoInt w := ofInt x.val

@[simp] theorem val_ofInt (x : Int) : (ofInt x : GoInt w).val = wrap w x := rfl
@[simp] theorem val_add (a b : GoInt w) : (a + b).val = wrap w (a.val + b.val) := rfl
@[simp] theorem val_sub (a b : GoInt w) : (a - b).val = wrap w (a.val - b.val) := rfl
@[simp] theorem val_cast {v : Nat} (x : GoInt v) : (cast x : GoInt w).val = wrap w x.val := rfl
@[simp] theorem lt_def (a b : GoInt w) : a < b ↔ a.val < b.val := Iff.rfl
@[simp] theorem le_def (a b : GoInt w) : a ≤ b ↔ a.val ≤ b.val := Iff.rfl

theorem ext_val {a b : GoInt w} (h : a.val = b.val) : a = b := by
  cases a; cases b; cases h; rfl

theorem val_ofNat_of_lt {n : Nat} (h : (n : Int) < 2^(w-1)) : (OfNat.ofNat n : GoInt w).val = n :=
  wrap_of_range ⟨by have : (0 : Int) < 2^(w-1) := by positivity
                    omega, h⟩

@[simp] theorem val_zero : (0 : GoInt w).val = 0 := val_ofNat_of_lt (by positivity)

/-- Each value's range, in the form `omega` uses. -/
theorem val_range64 (a : Int64) : -2^63 ≤ a.val ∧ a.val < 2^63 := a.range
theorem val_range32 (a : Int32) : -2^31 ≤ a.val ∧ a.val < 2^31 := a.range

theorem wrap64_eq (x : Int) : wrap 64 x = (x + 2^63) % 2^64 - 2^63 := rfl
theorem wrap32_eq (x : Int) : wrap 32 x = (x + 2^31) % 2^32 - 2^31 := rfl

theorem wrap64_of_range {x : Int} (h : -2^63 ≤ x ∧ x < 2^63) : wrap 64 x = x := wrap_of_range h
theorem wrap32_of_range {x : Int} (h : -2^31 ≤ x ∧ x < 2^31) : wrap 32 x = x := wrap_of_range h

end GoInt
end KeyTransparency
