import Mathlib.Data.Int.Log
import Mathlib.Data.Rat.Floor
import Mathlib.Tactic.Linarith
import Mathlib.Tactic.Positivity

/-!
# Double-precision floats

The numbers a double holds exactly, as rationals, and rounding to the nearest of
them. An operation on floats is the exact one followed by a rounding.
-/
namespace SocAnalyst.Doubles

/-- The nearest integer, ties to the even one. -/
def roundHalfEven (q : ℚ) : Int :=
  let below := q.floor
  if q - below < 1/2 then below
  else if 1/2 < q - below then below + 1
  else if below % 2 = 0 then below else below + 1

theorem floor_le_roundHalfEven (q : ℚ) : q.floor ≤ roundHalfEven q := by
  simp only [roundHalfEven]
  split_ifs <;> omega

theorem roundHalfEven_le_floor (q : ℚ) : roundHalfEven q ≤ q.floor + 1 := by
  simp only [roundHalfEven]
  split_ifs <;> omega

theorem roundHalfEven_mono {q r : ℚ} (le : q ≤ r) : roundHalfEven q ≤ roundHalfEven r := by
  have floors : q.floor ≤ r.floor := Rat.floor_monotone le
  rcases floors.lt_or_eq with lower | same
  · have upper := roundHalfEven_le_floor q
    have bottom := floor_le_roundHalfEven r
    omega
  · simp only [roundHalfEven,same]
    split_ifs <;> first | omega | (exfalso; linarith)

@[simp] theorem roundHalfEven_intCast (n : ℤ) : roundHalfEven n = n := by
  simp [roundHalfEven,Rat.floor_intCast]

theorem roundHalfEven_le {q : ℚ} {n : ℤ} (le : q ≤ n) : roundHalfEven q ≤ n := by
  simpa using roundHalfEven_mono le

theorem le_roundHalfEven {q : ℚ} {n : ℤ} (le : n ≤ q) : n ≤ roundHalfEven q := by
  simpa using roundHalfEven_mono le

theorem roundHalfEven_neg (q : ℚ) : roundHalfEven (-q) = -roundHalfEven q := by
  have bounds : (q.floor : ℚ) ≤ q ∧ q < q.floor + 1 := ⟨Rat.floor_le q,by exact_mod_cast Rat.lt_floor_add_one q⟩
  by_cases whole : q = q.floor
  · rw [whole,← Int.cast_neg,roundHalfEven_intCast,roundHalfEven_intCast]
  · have strict : (q.floor : ℚ) < q := lt_of_le_of_ne bounds.1 (Ne.symm whole)
    have negated : (-q).floor = -q.floor - 1 := by
      apply le_antisymm
      · rw [← Int.lt_add_one_iff,Rat.floor_lt_iff]
        push_cast
        linarith
      · rw [Rat.le_floor_iff]
        push_cast
        linarith
    simp only [roundHalfEven,negated]
    push_cast
    split_ifs <;> first | omega | (exfalso; linarith)

/-- Rounding moves a number up by one half at most. -/
theorem roundHalfEven_le_add_half (q : ℚ) : (roundHalfEven q : ℚ) ≤ q + 1/2 := by
  have below : (q.floor : ℚ) ≤ q := Rat.floor_le q
  simp only [roundHalfEven]
  split_ifs
  · linarith
  · push_cast; linarith
  · linarith
  · push_cast; linarith

theorem abs_roundHalfEven_sub_le (q : ℚ) : |(roundHalfEven q : ℚ) - q| ≤ 1/2 := by
  have above := roundHalfEven_le_add_half q
  have below := roundHalfEven_le_add_half (-q)
  rw [roundHalfEven_neg,Int.cast_neg] at below
  rw [abs_le]
  constructor <;> linarith

/-! ### The numbers a double holds -/

/-- A number a double holds exactly: at most 53 significant bits, within range. -/
def IsDouble (q : ℚ) : Prop := |q| < 2^1024 ∧ ∃ m e : ℤ, q = m * 2^e ∧ |m| ≤ 2^53 ∧ -1074 ≤ e

theorem IsDouble.neg {q : ℚ} (holds : IsDouble q) : IsDouble (-q) := by
  obtain ⟨bound,m,e,rfl,bits,small⟩ := holds
  exact ⟨by rwa [abs_neg],-m,e,by push_cast; ring,by rwa [abs_neg],small⟩

theorem isDouble_intCast {n : ℤ} (bits : |n| ≤ 2^53) : IsDouble n := by
  refine ⟨?_,n,0,by simp,bits,by norm_num⟩
  have small : |(n : ℚ)| ≤ 2^53 := by exact_mod_cast bits
  exact lt_of_le_of_lt small (pow_lt_pow_right₀ (by norm_num) (by norm_num))

/-- A finite double. -/
structure Double where
  value : ℚ
  exact : IsDouble value
  deriving DecidableEq

instance : Zero Double := ⟨⟨0,by simpa using isDouble_intCast (n := 0) (by norm_num)⟩⟩

@[simp] theorem Double.value_zero : (0 : Double).value = 0 := rfl

/-- The exponent of the last place kept of a number. -/
def lastPlace (q : ℚ) : ℤ := max (Int.log 2 |q| - 52) (-1074)

/-- The nearest number of 53 significant bits, ties to the even one. -/
def nearest (q : ℚ) : ℚ := roundHalfEven (q / 2^lastPlace q) * 2^lastPlace q

@[simp] theorem lastPlace_neg (q : ℚ) : lastPlace (-q) = lastPlace q := by simp [lastPlace]

theorem nearest_neg (q : ℚ) : nearest (-q) = -nearest q := by
  simp [nearest,neg_div,roundHalfEven_neg]

private theorem two_zpow_pos (e : ℤ) : (0 : ℚ) < 2^e := zpow_pos (by norm_num) e

theorem zpow_log_le {q : ℚ} (positive : 0 < q) : (2 : ℚ)^Int.log 2 q ≤ q := by
  exact_mod_cast Int.zpow_log_le_self (b := 2) (by norm_num) positive

theorem lt_zpow_succ_log (q : ℚ) : q < (2 : ℚ)^(Int.log 2 q + 1) := by
  exact_mod_cast Int.lt_zpow_succ_log_self (b := 2) (by norm_num) q

/-- A double is a whole number of any place no coarser than its own last one. -/
theorem IsDouble.on_grid {x : ℚ} (holds : IsDouble x) (positive : 0 < x) {e : ℤ} (fine : e ≤ lastPlace x) :
    ∃ n : ℤ, x = n * 2^e := by
  obtain ⟨_,m,k,equal,bits,small⟩ := holds
  have scale := two_zpow_pos k
  have bounded : (m : ℚ) ≤ 2^(53 : ℤ) := by
    have := (le_abs_self m).trans bits
    exact_mod_cast this
  by_cases full : (m : ℚ) = 2^(53 : ℤ)
  · have power : x = 2^(53 + k) := by rw [equal,full,← zpow_add₀ (by norm_num)]
    have logarithm : Int.log 2 |x| ≤ 53 + k := by
      have upper := zpow_log_le (abs_pos.mpr positive.ne')
      rw [abs_of_pos positive] at upper ⊢
      exact (zpow_le_zpow_iff_right₀ (by norm_num : (1 : ℚ) < 2)).mp (upper.trans power.le)
    have reach : e ≤ 53 + k := by
      simp only [lastPlace] at fine
      omega
    refine ⟨2^(53 + k - e).toNat,?_⟩
    rw [power]
    push_cast
    rw [← zpow_natCast,Int.toNat_of_nonneg (by omega),← zpow_add₀ (by norm_num)]
    congr 1
    omega
  · have below : x < 2^(53 + k) := by
      rw [equal,zpow_add₀ (by norm_num)]
      exact mul_lt_mul_of_pos_right (lt_of_le_of_ne bounded full) scale
    have logarithm : Int.log 2 |x| < 53 + k := by
      have upper := zpow_log_le (abs_pos.mpr positive.ne')
      rw [abs_of_pos positive] at upper ⊢
      exact (zpow_lt_zpow_iff_right₀ (by norm_num : (1 : ℚ) < 2)).mp (upper.trans_lt below)
    have reach : e ≤ k := by
      simp only [lastPlace] at fine
      omega
    refine ⟨m * 2^(k - e).toNat,?_⟩
    rw [equal]
    push_cast
    rw [← zpow_natCast,Int.toNat_of_nonneg (by omega),mul_assoc,← zpow_add₀ (by norm_num)]
    congr 2
    omega

theorem lastPlace_mono {q r : ℚ} (positive : 0 < q) (le : q ≤ r) : lastPlace q ≤ lastPlace r := by
  have logs : Int.log 2 |q| ≤ Int.log 2 |r| := by
    rw [abs_of_pos positive,abs_of_pos (positive.trans_le le)]
    exact Int.log_mono_right positive le
  simp only [lastPlace]
  omega

private theorem nearest_le_of_pos {q x : ℚ} (holds : IsDouble x) (positive : 0 < q) (le : q ≤ x) : nearest q ≤ x := by
  obtain ⟨n,equal⟩ := holds.on_grid (positive.trans_le le) (lastPlace_mono positive le)
  have place := two_zpow_pos (lastPlace q)
  rw [nearest,equal]
  apply mul_le_mul_of_nonneg_right _ place.le
  have scaled : q / 2^lastPlace q ≤ n := by
    rw [div_le_iff₀ place,← equal]
    exact le
  exact_mod_cast roundHalfEven_le scaled

private theorem le_nearest_of_pos {q x : ℚ} (holds : IsDouble x) (positive : 0 < x) (le : x ≤ q) : x ≤ nearest q := by
  have place := two_zpow_pos (lastPlace q)
  have above : 0 < q := positive.trans_le le
  have keeps : ∀ y : ℚ, y ≤ q → (∃ n : ℤ, y = n * 2^lastPlace q) → y ≤ nearest q := by
    rintro y lower ⟨n,equal⟩
    rw [nearest,equal]
    apply mul_le_mul_of_nonneg_right _ place.le
    have scaled : (n : ℚ) ≤ q / 2^lastPlace q := by
      rw [le_div_iff₀ place,← equal]
      exact lower
    exact_mod_cast le_roundHalfEven scaled
  by_cases fine : lastPlace q ≤ lastPlace x
  · exact keeps x le (holds.on_grid positive fine)
  · -- `x` lies below the power of two at which the places of `q` begin
    have logs : Int.log 2 x < Int.log 2 q ∧ lastPlace q = Int.log 2 q - 52 := by
      simp only [lastPlace,abs_of_pos positive,abs_of_pos above] at fine ⊢
      omega
    have power : x ≤ 2^Int.log 2 q :=
      (lt_zpow_succ_log x).le.trans (zpow_le_zpow_right₀ (by norm_num) (by omega))
    apply power.trans (keeps _ (zpow_log_le above) ⟨2^52,_⟩)
    have whole : ((2^52 : ℤ) : ℚ) = 2^(52 : ℤ) := by norm_num
    rw [logs.2,whole,← zpow_add₀ (by norm_num)]
    congr 1
    omega

theorem nearest_nonneg {q : ℚ} (nonneg : 0 ≤ q) : 0 ≤ nearest q := by
  have whole : (0 : ℤ) ≤ roundHalfEven (q / 2^lastPlace q) := by
    apply le_roundHalfEven
    exact_mod_cast div_nonneg nonneg (two_zpow_pos _).le
  exact mul_nonneg (by exact_mod_cast whole) (two_zpow_pos _).le

theorem nearest_nonpos {q : ℚ} (nonpos : q ≤ 0) : nearest q ≤ 0 := by
  have flipped := nearest_nonneg (neg_nonneg.mpr nonpos)
  rw [nearest_neg] at flipped
  linarith

/-- Rounding does not pass a double from below. -/
theorem nearest_le {q x : ℚ} (holds : IsDouble x) (le : q ≤ x) : nearest q ≤ x := by
  by_cases positive : 0 < q
  · exact nearest_le_of_pos holds positive le
  · by_cases above : 0 ≤ x
    · exact (nearest_nonpos (not_lt.mp positive)).trans above
    · have flipped := le_nearest_of_pos holds.neg (by linarith) (neg_le_neg le)
      rw [nearest_neg] at flipped
      linarith

/-- Rounding does not pass a double from above. -/
theorem le_nearest {q x : ℚ} (holds : IsDouble x) (le : x ≤ q) : x ≤ nearest q := by
  have flipped := nearest_le holds.neg (neg_le_neg le)
  rw [nearest_neg] at flipped
  linarith

theorem lt_of_nearest_lt {q x : ℚ} (holds : IsDouble x) (less : nearest q < x) : q < x :=
  lt_of_not_ge fun le => absurd (le_nearest holds le) (not_le.mpr less)

/-- A double is rounded to itself. -/
theorem nearest_of_isDouble {x : ℚ} (holds : IsDouble x) : nearest x = x :=
  le_antisymm (nearest_le holds le_rfl) (le_nearest holds le_rfl)

/-- Rounding keeps the order of two positive numbers: they share their last place, or a
    power of two lies between them. -/
private theorem nearest_mono_of_pos {q r : ℚ} (positive : 0 < q) (le : q ≤ r) : nearest q ≤ nearest r := by
  have places := lastPlace_mono positive le
  have place := two_zpow_pos (lastPlace q)
  have upper := two_zpow_pos (lastPlace r)
  have above : 0 < r := positive.trans_le le
  rcases places.lt_or_eq with lower | same
  · have logs : Int.log 2 q < Int.log 2 r ∧ lastPlace r = Int.log 2 r - 52 := by
      simp only [lastPlace,abs_of_pos positive,abs_of_pos above] at lower ⊢
      omega
    have between : q ≤ 2^Int.log 2 r :=
      (lt_zpow_succ_log q).le.trans (zpow_le_zpow_right₀ (by norm_num) (by omega))
    have onGrid : ∀ e : ℤ, e ≤ Int.log 2 r → (2 : ℚ)^Int.log 2 r = ((2^(Int.log 2 r - e).toNat : ℤ) : ℚ) * 2^e := by
      intro e fine
      push_cast
      rw [← zpow_natCast,Int.toNat_of_nonneg (by omega),← zpow_add₀ (by norm_num)]
      congr 1
      omega
    have left : nearest q ≤ 2^Int.log 2 r := by
      have grid := onGrid (lastPlace q) (by omega)
      rw [grid]
      apply mul_le_mul_of_nonneg_right _ place.le
      have scaled : q / 2^lastPlace q ≤ ((2^(Int.log 2 r - lastPlace q).toNat : ℤ) : ℚ) := by
        rw [div_le_iff₀ place,← grid]
        exact between
      exact_mod_cast roundHalfEven_le scaled
    have right : (2 : ℚ)^Int.log 2 r ≤ nearest r := by
      have grid := onGrid (lastPlace r) (by omega)
      rw [grid]
      apply mul_le_mul_of_nonneg_right _ upper.le
      have scaled : ((2^(Int.log 2 r - lastPlace r).toNat : ℤ) : ℚ) ≤ r / 2^lastPlace r := by
        rw [le_div_iff₀ upper,← grid]
        exact zpow_log_le above
      exact_mod_cast le_roundHalfEven scaled
    exact left.trans right
  · simp only [nearest,same]
    apply mul_le_mul_of_nonneg_right _ upper.le
    exact_mod_cast roundHalfEven_mono (div_le_div_of_nonneg_right le upper.le)

/-- Rounding keeps the order. -/
theorem nearest_mono {q r : ℚ} (le : q ≤ r) : nearest q ≤ nearest r := by
  by_cases positive : 0 < q
  · exact nearest_mono_of_pos positive le
  · by_cases above : 0 ≤ r
    · exact (nearest_nonpos (not_lt.mp positive)).trans (nearest_nonneg above)
    · have flipped := nearest_mono_of_pos (by linarith) (neg_le_neg le)
      rw [nearest_neg,nearest_neg] at flipped
      linarith

/-- Rounding moves a number by half of its last place at most. -/
theorem abs_nearest_sub_le (q : ℚ) : |nearest q - q| ≤ 1/2 * 2^lastPlace q := by
  have place := two_zpow_pos (lastPlace q)
  have scaled : nearest q - q = (roundHalfEven (q / 2^lastPlace q) - q / 2^lastPlace q) * 2^lastPlace q := by
    rw [nearest,sub_mul,div_mul_cancel₀ _ place.ne']
  rw [scaled,abs_mul,abs_of_pos place]
  exact mul_le_mul_of_nonneg_right (abs_roundHalfEven_sub_le _) place.le

/-- Below two a double is that close to what it stands for. -/
theorem abs_nearest_sub_lt {q : ℚ} (small : |q| < 2) : |nearest q - q| ≤ 1/2^53 := by
  have place : lastPlace q ≤ -52 := by
    by_cases zero : q = 0
    · simp [zero,lastPlace]
    · have bound : Int.log 2 |q| < 1 := by
        rw [← Int.lt_zpow_iff_log_lt (by norm_num) (abs_pos.mpr zero)]
        simpa using small
      simp only [lastPlace]
      omega
  have power : (2 : ℚ)^lastPlace q ≤ 2^(-52 : ℤ) := zpow_le_zpow_right₀ (by norm_num) place
  calc |nearest q - q| ≤ 1/2 * 2^lastPlace q := abs_nearest_sub_le q
    _ ≤ 1/2 * 2^(-52 : ℤ) := mul_le_mul_of_nonneg_left power (by norm_num)
    _ = 1/2^53 := by norm_num

theorem nearest_isDouble {q : ℚ} (finite : |nearest q| < 2^1024) : IsDouble (nearest q) := by
  refine ⟨finite,roundHalfEven (q / 2^lastPlace q),lastPlace q,rfl,?_,by simp [lastPlace]⟩
  have place := two_zpow_pos (lastPlace q)
  have bound : |q| ≤ 2^(53 : ℤ) * 2^lastPlace q := by
    rw [← zpow_add₀ (by norm_num)]
    apply (lt_zpow_succ_log |q|).le.trans (zpow_le_zpow_right₀ (by norm_num) _)
    simp only [lastPlace]
    omega
  obtain ⟨lower,upper⟩ := abs_le.mp bound
  apply abs_le.mpr
  constructor
  · apply le_roundHalfEven
    rw [le_div_iff₀ place]
    push_cast
    norm_num at lower ⊢
    linarith
  · apply roundHalfEven_le
    rw [div_le_iff₀ place]
    push_cast
    norm_num at upper ⊢
    linarith

/-! ### Arithmetic within the range of a double -/

def plus (x y : ℚ) : ℚ := nearest (x + y)
def minus (x y : ℚ) : ℚ := nearest (x - y)
def times (x y : ℚ) : ℚ := nearest (x * y)
def dividedBy (x y : ℚ) : ℚ := nearest (x / y)

theorem times_mono {x y z : ℚ} (nonneg : 0 ≤ z) (le : x ≤ y) : times z x ≤ times z y :=
  nearest_mono (mul_le_mul_of_nonneg_left le nonneg)

/-! ### Arithmetic, exact or in floats -/

/-- What becomes of the exact result of an operation. -/
class Rounding where
  fl : ℚ → ℚ
  mono : ∀ {q r : ℚ}, q ≤ r → fl q ≤ fl r

/-- The program's own arithmetic. -/
instance floats : Rounding := ⟨nearest,nearest_mono⟩

/-- Nothing is rounded. -/
@[reducible] def exactly : Rounding := ⟨id,id⟩

@[simp] theorem fl_exactly (q : ℚ) : @Rounding.fl exactly q = q := rfl

/-! ### Floats -/

/-- A Python `float`. Only zero has two signs. -/
inductive PyFloat where
  | finite (value : Double)
  | negativeZero
  | infinite (negative : Bool)
  | nan
  deriving DecidableEq

/-- The float an exact result is rounded to. -/
def rounded (q : ℚ) : PyFloat :=
  if finite : |nearest q| < 2^1024 then
    if nearest q = 0 ∧ q < 0 then .negativeZero else .finite ⟨nearest q,nearest_isDouble finite⟩
  else .infinite (q < 0)

end SocAnalyst.Doubles
