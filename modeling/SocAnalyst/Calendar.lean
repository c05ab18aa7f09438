import Mathlib.Data.List.GetD
import Mathlib.Data.Nat.Digits.Defs
import SocAnalyst.Times

/-!
# The calendar

The proleptic Gregorian calendar of `datetime`: a day counted from the start of year 1
and its year, month and day of the month are two names of one thing, and what is
printed of a reading of the clock names it.
-/
namespace SocAnalyst.Calendar
open SocAnalyst.Builtins SocAnalyst.Times

/-! ### Years -/

/-- The days before a year. -/
def yearStart (year : Nat) : Nat := 365 * (year - 1) + (year - 1) / 4 - (year - 1) / 100 + (year - 1) / 400

def yearLength (year : Nat) : Nat := if isLeap year then 366 else 365

theorem isLeap_iff (year : Nat) : isLeap year = true ↔ year % 4 = 0 ∧ (year % 100 ≠ 0 ∨ year % 400 = 0) := by
  simp [isLeap]

theorem yearStart_succ {year : Nat} (some : 1 ≤ year) : yearStart (year + 1) = yearStart year + yearLength year := by
  obtain ⟨before,rfl⟩ := Nat.exists_eq_add_of_le' some
  have hundredths : before / 100 ≤ before / 4 := Nat.div_le_div_left (by norm_num) (by norm_num)
  have leaps : yearLength (before + 1) + (if 100 ∣ before + 1 then 1 else 0) =
      365 + (if 4 ∣ before + 1 then 1 else 0) + (if 400 ∣ before + 1 then 1 else 0) := by
    unfold yearLength
    by_cases leap : isLeap (before + 1) = true
    · rw [if_pos leap]
      rw [isLeap_iff] at leap
      split_ifs <;> omega
    · rw [if_neg leap]
      rw [isLeap_iff] at leap
      split_ifs <;> omega
  have rare : (if 100 ∣ before + 1 then 1 else 0) ≤ (if 4 ∣ before + 1 then 1 else 0) := by
    split_ifs <;> omega
  simp only [yearStart,Nat.add_sub_cancel,Nat.succ_div]
  generalize (if 100 ∣ before + 1 then 1 else 0) = hundredth at *
  generalize (if 4 ∣ before + 1 then 1 else 0) = fourth at *
  generalize (if 400 ∣ before + 1 then 1 else 0) = last at *
  omega

theorem yearStart_mono {first second : Nat} (some : 1 ≤ first) (before : first ≤ second) : yearStart first ≤ yearStart second := by
  induction second, before using Nat.le_induction with
  | base => rfl
  | succ year le ih =>
    rw [yearStart_succ (some.trans le)]
    exact ih.trans (Nat.le_add_right _ _)

section
variable {cycles centuries leaps years : Nat} (century : centuries ≤ 3) (leap : leaps ≤ 24) (fewYears : years ≤ 3)
include century leap fewYears

/-- The days before a year counted in cycles, centuries, leap periods and years. -/
theorem yearStart_counted : yearStart (400 * cycles + 100 * centuries + 4 * leaps + years + 1) =
    146097 * cycles + 36524 * centuries + 1461 * leaps + 365 * years := by
  have fourths : (400 * cycles + 100 * centuries + 4 * leaps + years) / 4 = 100 * cycles + 25 * centuries + leaps := by omega
  have hundredths : (400 * cycles + 100 * centuries + 4 * leaps + years) / 100 = 4 * cycles + centuries := by omega
  have last : (400 * cycles + 100 * centuries + 4 * leaps + years) / 400 = cycles := by omega
  rw [yearStart,Nat.add_sub_cancel,fourths,hundredths,last]
  omega

theorem isLeap_counted : isLeap (400 * cycles + 100 * centuries + 4 * leaps + years + 1) = true ↔
    years = 3 ∧ (leaps ≠ 24 ∨ centuries = 3) := by
  rw [isLeap_iff]
  omega

end

/-- A day counted in cycles, centuries, leap periods, years and days. -/
theorem yearDay_counted (day : Nat) : ∃ cycles centuries leaps years ofYear,
    yearDay day = (400 * cycles + 100 * centuries + 4 * leaps + years + 1,ofYear) ∧
    day = 146097 * cycles + 36524 * centuries + 1461 * leaps + 365 * years + ofYear ∧
    centuries ≤ 3 ∧ leaps ≤ 24 ∧ years ≤ 3 ∧ (ofYear < 365 ∨ ofYear = 365 ∧ years = 3 ∧ (leaps ≠ 24 ∨ centuries = 3)) := by
  have cycle : day = 146097 * (day / 146097) + day % 146097 := (Nat.div_add_mod day 146097).symm
  have ofCycle : day % 146097 < 146097 := Nat.mod_lt _ (by norm_num)
  refine ⟨day / 146097,_,_,_,_,rfl,?_⟩
  generalize day / 146097 = cycles at cycle ⊢
  generalize day % 146097 = rest at cycle ofCycle ⊢
  have century : 36524 * min 3 (rest / 36524) ≤ rest := by omega
  have ofCentury : rest - 36524 * min 3 (rest / 36524) < 36524 ∨
      rest - 36524 * min 3 (rest / 36524) = 36524 ∧ min 3 (rest / 36524) = 3 := by omega
  have few : min 3 (rest / 36524) ≤ 3 := by omega
  have days : rest = 36524 * min 3 (rest / 36524) + (rest - 36524 * min 3 (rest / 36524)) := by omega
  generalize min 3 (rest / 36524) = centuries at *
  generalize rest - 36524 * centuries = left at *
  have period : left = 1461 * (left / 1461) + left % 1461 := (Nat.div_add_mod left 1461).symm
  have ofLeaps : left % 1461 < 1461 := Nat.mod_lt _ (by norm_num)
  generalize left / 1461 = leaps at *
  generalize left % 1461 = last at *
  omega

/-- A day falls within its year. -/
theorem yearDay_spec (day : Nat) :
    1 ≤ (yearDay day).1 ∧ yearStart (yearDay day).1 + (yearDay day).2 = day ∧ (yearDay day).2 < yearLength (yearDay day).1 := by
  obtain ⟨cycles,centuries,leaps,years,ofYear,named,total,century,leap,fewYears,inside⟩ := yearDay_counted day
  rw [named]
  refine ⟨by dsimp only; omega,?_,?_⟩
  · rw [yearStart_counted century leap fewYears,← total]
  · unfold yearLength
    by_cases long : isLeap (400 * cycles + 100 * centuries + 4 * leaps + years + 1) = true
    · rw [if_pos long]
      dsimp only
      omega
    · rw [if_neg long]
      rw [isLeap_counted century leap fewYears] at long
      dsimp only
      omega

/-- The days of different years are different. -/
theorem year_unique {first second ofFirst ofSecond : Nat} (left : 1 ≤ first) (right : 1 ≤ second)
    (inFirst : ofFirst < yearLength first) (inSecond : ofSecond < yearLength second)
    (same : yearStart first + ofFirst = yearStart second + ofSecond) : first = second := by
  rcases Nat.lt_trichotomy first second with before | equal | after
  · have later := yearStart_mono (by omega) (Nat.succ_le_of_lt before)
    rw [Nat.succ_eq_add_one,yearStart_succ left] at later
    omega
  · exact equal
  · have later := yearStart_mono (by omega) (Nat.succ_le_of_lt after)
    rw [Nat.succ_eq_add_one,yearStart_succ right] at later
    omega

theorem yearDay_start {year ofYear : Nat} (some : 1 ≤ year) (inside : ofYear < yearLength year) :
    yearDay (yearStart year + ofYear) = (year,ofYear) := by
  obtain ⟨positive,total,within⟩ := yearDay_spec (yearStart year + ofYear)
  have same := year_unique positive some within inside total
  rw [same] at total
  exact Prod.ext same (by omega)

/-- The years of `datetime` have four digits. -/
theorem year_lt {day : Nat} (early : day < 3652059) : (yearDay day).1 < 10000 := by
  obtain ⟨_,total,_⟩ := yearDay_spec day
  by_contra late
  have bound := yearStart_mono (by norm_num) (Nat.le_of_not_lt late)
  have last : yearStart 10000 = 3652059 := by decide
  omega

/-! ### Months -/

/-- A day of the year is named by its month and the day in it. -/
theorem monthDay_at (lengths : List Nat) (month index day : Nat) (listed : index < lengths.length) (inside : day < lengths[index]) :
    monthDay lengths month ((lengths.take index).sum + day) = (month + index,day + 1) := by
  induction lengths generalizing month index with
  | nil => exact absurd listed (by simp)
  | cons length rest ih =>
    cases index with
    | zero =>
      have early : day < length := inside
      simp [monthDay,early]
    | succ index =>
      have later : ¬ length + (rest.take index).sum + day < length := by omega
      have left : length + (rest.take index).sum + day - length = (rest.take index).sum + day := by omega
      have total : ((length :: rest).take (index + 1)).sum + day = length + (rest.take index).sum + day := by simp
      rw [total,monthDay,if_neg later,left,ih (month + 1) index (by simpa using listed) (by simpa using inside)]
      exact Prod.ext (by omega) rfl

/-- Every day of the year has a month. -/
theorem monthDay_spec (lengths : List Nat) (month : Nat) {ofYear : Nat} (inside : ofYear < lengths.sum) :
    ∃ index day, ∃ listed : index < lengths.length, day < lengths[index] ∧ ofYear = (lengths.take index).sum + day := by
  induction lengths generalizing month ofYear with
  | nil => exact absurd inside (by simp)
  | cons length rest ih =>
    by_cases early : ofYear < length
    · exact ⟨0,ofYear,by simp,by simpa using early,by simp⟩
    · rw [List.sum_cons] at inside
      have left : ofYear - length < rest.sum := by omega
      obtain ⟨index,day,listed,short,split⟩ := ih (month + 1) left
      refine ⟨index + 1,day,by simpa using listed,by simpa using short,?_⟩
      rw [List.take_succ_cons,List.sum_cons]
      omega

theorem monthLengths_sum (year : Nat) : (monthLengths year).sum = yearLength year := by
  unfold monthLengths yearLength
  split_ifs <;> rfl

/-! ### Dates -/

/-- A date that the calendar has. -/
def ValidDate (year month day : Nat) : Prop :=
  1 ≤ year ∧ 1 ≤ month ∧ month ≤ 12 ∧ 1 ≤ day ∧ day ≤ (monthLengths year).getD (month - 1) 0

instance (year month day : Nat) : Decidable (ValidDate year month day) := inferInstanceAs (Decidable (_ ∧ _))

/-- The day since the start of year 1 that a date names. -/
def dayNumber (year month day : Nat) : Nat := yearStart year + (((monthLengths year).take (month - 1)).sum + (day - 1))

/-- The month of a day, and the day of the month. -/
def monthOf (day : Nat) : Nat × Nat := monthDay (monthLengths (yearDay day).1) 1 (yearDay day).2

theorem take_sum_lt {lengths : List Nat} {index day : Nat} (listed : index < lengths.length) (inside : day < lengths[index]) :
    (lengths.take index).sum + day < lengths.sum := by
  have split : (lengths.take index).sum + (lengths.drop index).sum = lengths.sum := by
    rw [← List.sum_append,List.take_append_drop]
  rw [List.drop_eq_getElem_cons listed,List.sum_cons] at split
  omega

theorem validDate_get {year month day : Nat} (valid : ValidDate year month day) :
    ∃ listed : month - 1 < (monthLengths year).length, day - 1 < (monthLengths year)[month - 1] := by
  obtain ⟨_,_,_,_,short⟩ := valid
  have listed : month - 1 < (monthLengths year).length := by simp only [monthLengths,List.length_cons,List.length_nil]; omega
  rw [List.getD_eq_getElem _ _ listed] at short
  exact ⟨listed,by omega⟩

/-- The day that a date names has that date. -/
theorem date_dayNumber {year month day : Nat} (valid : ValidDate year month day) :
    (yearDay (dayNumber year month day)).1 = year ∧ monthOf (dayNumber year month day) = (month,day) := by
  obtain ⟨listed,short⟩ := validDate_get valid
  have inside := take_sum_lt listed short
  rw [monthLengths_sum] at inside
  have split := yearDay_start valid.1 inside
  obtain ⟨_,_,_,_,_⟩ := valid
  rw [monthOf,dayNumber,split]
  refine ⟨rfl,?_⟩
  rw [monthDay_at _ _ _ _ listed short]
  exact Prod.ext (by dsimp only; omega) (by dsimp only; omega)

/-- Every day has a date. -/
theorem dayNumber_date (day : Nat) :
    ValidDate (yearDay day).1 (monthOf day).1 (monthOf day).2 ∧ dayNumber (yearDay day).1 (monthOf day).1 (monthOf day).2 = day := by
  obtain ⟨positive,total,within⟩ := yearDay_spec day
  rw [← monthLengths_sum] at within
  obtain ⟨index,ofMonth,listed,short,split⟩ := monthDay_spec (monthLengths (yearDay day).1) 1 within
  have named : monthOf day = (1 + index,ofMonth + 1) := by rw [monthOf,split,monthDay_at _ _ _ _ listed short]
  have twelve : (monthLengths (yearDay day).1).length = 12 := rfl
  rw [named]
  refine ⟨⟨positive,by dsimp only; omega,by dsimp only; omega,by dsimp only; omega,?_⟩,?_⟩
  · have start : 1 + index - 1 = index := by omega
    dsimp only
    rw [start,List.getD_eq_getElem _ _ listed]
    omega
  · have start : 1 + index - 1 = index := by omega
    simp only [dayNumber,start,Nat.add_sub_cancel]
    omega

/-- Days of one date are one day. -/
theorem date_injective {first second : Nat} (years : (yearDay first).1 = (yearDay second).1) (months : monthOf first = monthOf second) :
    first = second := by
  rw [← (dayNumber_date first).2,← (dayNumber_date second).2,years,months]

/-! ### Numbers in print -/

/-- The number that digits spell. -/
def spelled (digits : Text) : Nat := digits.foldl (fun n c => 10 * n + (c - 48)) 0

theorem spelled_chars (digits : List Char) : spelled (digits.map Char.toNat) = Nat.ofDigitChars 10 digits 0 := by
  rw [spelled,List.foldl_map,Nat.ofDigitChars_eq_foldl]
  rfl

theorem padded_chars (width n : Nat) :
    padded width n = (List.replicate (width - (Nat.toDigits 10 n).length) '0' ++ Nat.toDigits 10 n).map Char.toNat := by
  have digits : lit (toString n) = (Nat.toDigits 10 n).map Char.toNat := by rw [lit,Nat.toString_eq_repr,Nat.toList_repr]
  rw [padded,digits,List.map_append,List.map_replicate,List.length_map]
  rfl

theorem spelled_padded (width n : Nat) : spelled (padded width n) = n := by
  rw [padded_chars,spelled_chars,Nat.ofDigitChars_append]
  simp

theorem padded_injective {width n m : Nat} (same : padded width n = padded width m) : n = m := by
  rw [← spelled_padded width n,same,spelled_padded]

theorem length_padded {width n : Nat} (some : 0 < width) (small : n < 10 ^ width) : (padded width n).length = width := by
  have short := (Nat.length_toDigits_le_iff (by norm_num) some).mpr small
  rw [padded_chars,List.length_map,List.length_append,List.length_replicate]
  omega

/-- A padded number is written in digits. -/
theorem digits_padded {width n c : Nat} (member : c ∈ padded width n) : 48 ≤ c ∧ c ≤ 57 := by
  rcases List.mem_append.mp member with zero | digit
  · rw [List.eq_of_mem_replicate zero]
    decide
  · exact digits_number digit

/-- What follows a text without a mark up to the mark is determined. -/
theorem split_at {mark : Nat} {first second x y : Text} (left : mark ∉ first) (right : mark ∉ second)
    (same : first ++ mark :: x = second ++ mark :: y) : first = second ∧ x = y := by
  have before := congrArg (List.takeWhile (· ≠ mark)) same
  have clear : ∀ {text : Text}, mark ∉ text → ∀ c ∈ text, decide (c ≠ mark) = true := fun absent c member =>
    decide_eq_true fun equal => absent (equal ▸ member)
  rw [List.takeWhile_append_of_pos (clear left),List.takeWhile_append_of_pos (clear right)] at before
  simp only [ne_eq,not_true_eq_false,decide_false,List.takeWhile_cons_of_neg,Bool.false_eq_true,not_false_eq_true,
    List.append_nil] at before
  subst before
  exact ⟨rfl,(List.cons_inj_right mark).mp (List.append_cancel_left same)⟩

/-- What precedes the last mark of a text is determined. -/
theorem split_last {mark : Nat} {first second x y : Text} (left : mark ∉ x) (right : mark ∉ y)
    (same : first ++ mark :: x = second ++ mark :: y) : first = second ∧ x = y := by
  have reversed : x.reverse ++ mark :: first.reverse = y.reverse ++ mark :: second.reverse := by
    simpa using congrArg List.reverse same
  obtain ⟨after,before⟩ := split_at (by simpa using left) (by simpa using right) reversed
  exact ⟨List.reverse_inj.mp before,List.reverse_inj.mp after⟩

theorem absent_padded {width n mark : Nat} (other : mark < 48 ∨ 57 < mark) : mark ∉ padded width n := by
  intro member
  have digit := digits_padded member
  omega

/-! ### Clocks in print -/

theorem minutes_injective {first second : Nat} {x y : Text} (same : minutesText first ++ x = minutesText second ++ y) :
    first / secondMicros / 60 = second / secondMicros / 60 ∧ x = y := by
  have colon : (58 : Nat) < 48 ∨ 57 < 58 := by decide
  have parts : ∀ (micros : Nat) (rest : Text), minutesText micros ++ rest =
      padded 2 (micros / secondMicros / 3600) ++ 58 :: (padded 2 (micros / secondMicros / 60 % 60) ++ rest) := by
    intro micros rest
    have between : lit ":" = [58] := rfl
    simp only [minutesText,between,List.append_assoc,List.cons_append,List.nil_append]
  rw [parts,parts] at same
  obtain ⟨hours,rest⟩ := split_at (absent_padded colon) (absent_padded colon) same
  have size : ∀ n : Nat, (padded 2 (n / 60 % 60)).length = 2 := fun n => length_padded (by norm_num) (by omega)
  obtain ⟨minutes,left⟩ := List.append_inj rest ((size _).trans (size _).symm)
  have hour := padded_injective hours
  have minute := padded_injective minutes
  exact ⟨by omega,left⟩

/-- A text that no fraction of a second begins with. -/
def Unpointed (text : Text) : Prop := text.head? ≠ some 46

theorem seconds_injective {first second : Nat} {x y : Text} (left : Unpointed x) (right : Unpointed y)
    (same : secondsText first ++ x = secondsText second ++ y) :
    first / secondMicros % 60 = second / secondMicros % 60 ∧ first % secondMicros = second % secondMicros ∧ x = y := by
  have size : ∀ n : Nat, (padded 2 (n % 60)).length = 2 := fun n => length_padded (by norm_num) (by omega)
  have micros : ∀ n : Nat, (padded 6 (n % secondMicros)).length = 6 := fun n =>
    length_padded (by norm_num) (Nat.mod_lt _ (by norm_num [secondMicros]))
  simp only [secondsText,List.append_assoc] at same
  have rest := (List.append_inj same rfl).2
  obtain ⟨seconds,rest⟩ := List.append_inj rest ((size _).trans (size _).symm)
  refine ⟨padded_injective seconds,?_⟩
  by_cases whole : first % secondMicros = 0
  · by_cases other : second % secondMicros = 0
    · rw [if_pos whole,if_pos other] at rest
      exact ⟨whole.trans other.symm,rest⟩
    · rw [if_pos whole,if_neg other] at rest
      exact absurd (congrArg List.head? rest) left
  · by_cases other : second % secondMicros = 0
    · rw [if_neg whole,if_pos other] at rest
      exact absurd (congrArg List.head? rest).symm right
    · rw [if_neg whole,if_neg other] at rest
      simp only [List.append_assoc] at rest
      have fraction := (List.append_inj rest rfl).2
      obtain ⟨digits,tails⟩ := List.append_inj fraction ((micros _).trans (micros _).symm)
      exact ⟨padded_injective digits,tails⟩

theorem micros_unique {first second : Nat} (minutes : first / secondMicros / 60 = second / secondMicros / 60)
    (seconds : first / secondMicros % 60 = second / secondMicros % 60) (micros : first % secondMicros = second % secondMicros) :
    first = second := by
  simp only [secondMicros] at *
  omega

theorem unpointed_offset (offset : Option Int) : Unpointed ((offset.map offsetText).getD []) := by
  cases offset with
  | none => simp [Unpointed]
  | some offset =>
    rw [Option.map_some,Option.getD_some,offsetText,Unpointed]
    split_ifs <;> simp [lit]

theorem tail_injective {first second : Nat}
    (same : (if first / secondMicros % 60 = 0 ∧ first % secondMicros = 0 then [] else secondsText first) =
      (if second / secondMicros % 60 = 0 ∧ second % secondMicros = 0 then [] else secondsText second)) :
    first / secondMicros % 60 = second / secondMicros % 60 ∧ first % secondMicros = second % secondMicros := by
  have printed : ∀ micros : Nat, secondsText micros ≠ [] := fun micros => by simp [secondsText,lit]
  by_cases whole : first / secondMicros % 60 = 0 ∧ first % secondMicros = 0
  · by_cases other : second / secondMicros % 60 = 0 ∧ second % secondMicros = 0
    · exact ⟨whole.1.trans other.1.symm,whole.2.trans other.2.symm⟩
    · rw [if_pos whole,if_neg other] at same
      exact absurd same.symm (printed second)
  · by_cases other : second / secondMicros % 60 = 0 ∧ second % secondMicros = 0
    · rw [if_neg whole,if_pos other] at same
      exact absurd same (printed first)
    · rw [if_neg whole,if_neg other] at same
      have nothing : Unpointed [] := by simp [Unpointed]
      obtain ⟨seconds,micros,_⟩ := seconds_injective nothing nothing (by simpa using same)
      exact ⟨seconds,micros⟩

theorem offset_injective {first second : Int} (same : offsetText first = offsetText second) : first = second := by
  unfold offsetText at same
  simp only [List.append_assoc] at same
  have sign : (first < 0 ↔ second < 0) ∧ first.natAbs = second.natAbs := by
    by_cases behind : first < 0
    · by_cases other : second < 0
      · rw [if_pos behind,if_pos other] at same
        obtain ⟨minutes,tails⟩ := minutes_injective (List.append_cancel_left same)
        obtain ⟨seconds,micros⟩ := tail_injective tails
        exact ⟨iff_of_true behind other,micros_unique minutes seconds micros⟩
      · rw [if_pos behind,if_neg other] at same
        exact absurd (congrArg List.head? same) (by simp [lit])
    · by_cases other : second < 0
      · rw [if_neg behind,if_pos other] at same
        exact absurd (congrArg List.head? same) (by simp [lit])
      · rw [if_neg behind,if_neg other] at same
        obtain ⟨minutes,tails⟩ := minutes_injective (List.append_cancel_left same)
        obtain ⟨seconds,micros⟩ := tail_injective tails
        exact ⟨iff_of_false behind other,micros_unique minutes seconds micros⟩
  omega

/-! ### Readings in print -/

theorem day_early (t : DateTime) : t.clock.toNat / dayMicros.toNat < 3652059 := by
  obtain ⟨low,high⟩ := t.in_range
  have size : dayMicros.toNat = 86400000000 := rfl
  simp only [maxDays,dayMicros] at high
  rw [size]
  omega

/-- The four, two and two digits of a date. -/
theorem dateText_parts (day : Nat) : dateText day =
    padded 4 (yearDay day).1 ++ lit "-" ++ padded 2 (monthOf day).1 ++ lit "-" ++ padded 2 (monthOf day).2 := rfl

theorem monthOf_lt (day : Nat) : (monthOf day).1 < 100 ∧ (monthOf day).2 < 100 := by
  obtain ⟨_,_,months,_,days⟩ := (dayNumber_date day).1
  have short : ∀ index : Nat, (monthLengths (yearDay day).1).getD index 0 < 100 := by
    intro index
    rw [List.getD_eq_getElem?_getD]
    cases listed : (monthLengths (yearDay day).1)[index]? with
    | none => simp
    | some length =>
      have member := List.mem_of_getElem? listed
      simp only [monthLengths,List.mem_cons,List.not_mem_nil,or_false] at member
      split_ifs at member <;> simp <;> omega
  exact ⟨by omega,by have bound := short ((monthOf day).1 - 1); omega⟩

theorem length_dateText {day : Nat} (early : day < 3652059) : (dateText day).length = 10 := by
  have year : (padded 4 (yearDay day).1).length = 4 := length_padded (by norm_num) (year_lt early)
  have month : (padded 2 (monthOf day).1).length = 2 := length_padded (by norm_num) (monthOf_lt day).1
  have ofMonth : (padded 2 (monthOf day).2).length = 2 := length_padded (by norm_num) (monthOf_lt day).2
  simp only [dateText_parts,List.length_append,year,month,ofMonth]
  rfl

theorem dateText_injective {first second : Nat} (left : first < 3652059) (right : second < 3652059)
    (same : dateText first = dateText second) : first = second := by
  have size : ∀ {day : Nat}, day < 3652059 → (padded 4 (yearDay day).1).length = 4 := fun early =>
    length_padded (by norm_num) (year_lt early)
  have months : ∀ day : Nat, (padded 2 (monthOf day).1).length = 2 := fun day =>
    length_padded (by norm_num) (monthOf_lt day).1
  simp only [dateText_parts,List.append_assoc] at same
  obtain ⟨years,rest⟩ := List.append_inj same ((size left).trans (size right).symm)
  obtain ⟨month,rest⟩ := List.append_inj (List.append_inj rest rfl).2 ((months _).trans (months _).symm)
  have day := (List.append_inj rest rfl).2
  exact date_injective (padded_injective years) (Prod.ext (padded_injective month) (padded_injective day))

/-- The time of day and the offset as they are printed. -/
def timeText (t : DateTime) : Text :=
  minutesText (t.clock.toNat % dayMicros.toNat) ++ (secondsText (t.clock.toNat % dayMicros.toNat) ++ (t.offset.map offsetText).getD [])

/-- A reading prints as a date, a `T` and a time. -/
theorem isoformat_parts (t : DateTime) : t.isoformat = dateText (t.clock.toNat / dayMicros.toNat) ++ 84 :: timeText t := by
  have middle : lit "T" = [84] := rfl
  simp only [DateTime.isoformat,timeText,middle,List.append_assoc,List.cons_append,List.nil_append]

/-- Readings that print alike are alike. -/
theorem isoformat_injective {s t : DateTime} (same : s.isoformat = t.isoformat) : s = t := by
  rw [isoformat_parts,isoformat_parts] at same
  have sized := (length_dateText (day_early s)).trans (length_dateText (day_early t)).symm
  obtain ⟨dates,rest⟩ := List.append_inj same sized
  have days := dateText_injective (day_early s) (day_early t) dates
  obtain ⟨minutes,rest⟩ := minutes_injective ((List.cons_inj_right _).mp rest)
  obtain ⟨seconds,micros,offsets⟩ := seconds_injective (unpointed_offset _) (unpointed_offset _) rest
  have clocks : s.clock.toNat = t.clock.toNat := by
    rw [← Nat.div_add_mod s.clock.toNat dayMicros.toNat,days,micros_unique minutes seconds micros,Nat.div_add_mod]
  have clock : s.clock = t.clock := by
    have left := s.in_range.1
    have right := t.in_range.1
    omega
  have offset : s.offset = t.offset := by
    have printed : ∀ offset : Int, offsetText offset ≠ [] := fun offset => by
      unfold offsetText
      split_ifs <;> simp [lit]
    cases first : s.offset with
    | none =>
      cases second : t.offset with
      | none => rfl
      | some offset =>
        rw [first,second] at offsets
        exact absurd offsets.symm (printed offset)
    | some offset =>
      cases second : t.offset with
      | none =>
        rw [first,second] at offsets
        exact absurd offsets (printed offset)
      | some other =>
        rw [first,second] at offsets
        exact congrArg some (offset_injective offsets)
  cases s
  cases t
  simp only [DateTime.mk.injEq]
  exact ⟨clock,offset⟩

/-- The time of day has no `T`. -/
theorem absent_time (t : DateTime) : 84 ∉ timeText t := by
  have minutes : ∀ micros : Nat, 84 ∉ minutesText micros := by
    intro micros
    simp only [minutesText,List.mem_append,not_or]
    exact ⟨⟨absent_padded (by decide),by decide⟩,absent_padded (by decide)⟩
  have seconds : ∀ micros : Nat, 84 ∉ secondsText micros := by
    intro micros
    simp only [secondsText,List.mem_append,not_or]
    refine ⟨⟨by decide,absent_padded (by decide)⟩,?_⟩
    split_ifs
    · simp
    · simp only [List.mem_append,not_or]
      exact ⟨by decide,absent_padded (by decide)⟩
  simp only [timeText,List.mem_append,not_or]
  refine ⟨minutes _,seconds _,?_⟩
  cases t.offset with
  | none => simp
  | some offset =>
    simp only [Option.map_some,Option.getD_some,offsetText,List.mem_append,not_or]
    refine ⟨⟨by split_ifs <;> decide,minutes _⟩,?_⟩
    split_ifs
    · simp
    · exact seconds _

/-- What a printed reading was put behind is determined. -/
theorem before_isoformat {s t : DateTime} {x y : Text} (same : x ++ s.isoformat = y ++ t.isoformat) : x = y ∧ s = t := by
  have dated : ∀ (front : Text) (t : DateTime), front ++ t.isoformat =
      (front ++ dateText (t.clock.toNat / dayMicros.toNat)) ++ 84 :: timeText t := fun front t => by
    rw [isoformat_parts,List.append_assoc]
  have dates := (split_last (absent_time s) (absent_time t) ((dated x s).symm.trans (same.trans (dated y t)))).1
  have sized := (length_dateText (day_early s)).trans (length_dateText (day_early t)).symm
  have front := (List.append_inj' dates sized).1
  subst front
  exact ⟨rfl,isoformat_injective (List.append_cancel_left same)⟩

/-! ### Building a reading -/

theorem dayNumber_lt {year month day : Nat} (valid : ValidDate year month day) (late : year ≤ 9999) : dayNumber year month day < 3652059 := by
  obtain ⟨listed,short⟩ := validDate_get valid
  have inside := take_sum_lt listed short
  rw [monthLengths_sum] at inside
  have next := yearStart_succ valid.1
  have last := yearStart_mono (Nat.le_add_left 1 year) (Nat.succ_le_succ late)
  have span : yearStart (Nat.succ 9999) = 3652059 := rfl
  rw [dayNumber]
  omega

/-- What the `datetime` constructor takes. -/
def ValidTime (year month day hour minute second : Nat) : Prop :=
  (ValidDate year month day ∧ year ≤ 9999) ∧ hour < 24 ∧ minute < 60 ∧ second < 60

instance (year month day hour minute second : Nat) : Decidable (ValidTime year month day hour minute second) :=
  inferInstanceAs (Decidable (_ ∧ _))

/-- The microseconds on the clock at a date and a time. -/
def clockAt (year month day hour minute second : Nat) : Nat :=
  dayNumber year month day * 86400000000 + (3600 * hour + 60 * minute + second) * 1000000

theorem clockAt_in_range {year month day hour minute second : Nat} (valid : ValidTime year month day hour minute second) :
    0 ≤ (clockAt year month day hour minute second : Int) ∧ (clockAt year month day hour minute second : Int) < maxDays * dayMicros := by
  have early := dayNumber_lt valid.1.1 valid.1.2
  obtain ⟨_,_,_,_⟩ := valid
  rw [maxDays,dayMicros,clockAt]
  omega

/-- `datetime(year, month, day, hour, minute, second, tzinfo=UTC)`. -/
def utcTime (year month day hour minute second : Nat) : Except PyError DateTime :=
  if valid : ValidTime year month day hour minute second then
    .ok ⟨clockAt year month day hour minute second,some 0,clockAt_in_range valid⟩
  else .error .ValueError

/-- The day of a reading, by its own clock. -/
def readingDay (t : DateTime) : Nat := t.clock.toNat / dayMicros.toNat

/-- The year of a reading, by its own clock. -/
def readingYear (t : DateTime) : Nat := (yearDay (readingDay t)).1

theorem readingYear_le (t : DateTime) : readingYear t ≤ 9999 := Nat.lt_succ_iff.mp (year_lt (day_early t))

theorem readingYear_pos (t : DateTime) : 1 ≤ readingYear t := (yearDay_spec (readingDay t)).1

/-- A reading that the constructor builds is of the year it was told. -/
theorem utcTime_year {year month day hour minute second : Nat} {t : DateTime} (built : utcTime year month day hour minute second = .ok t) :
    readingYear t = year := by
  rw [utcTime] at built
  split at built
  · rename_i valid
    obtain rfl := Except.ok.inj built
    have sameDay : readingDay ⟨clockAt year month day hour minute second,some 0,clockAt_in_range valid⟩ = dayNumber year month day := by
      obtain ⟨_,_,_,_⟩ := valid
      have length : dayMicros.toNat = 86400000000 := rfl
      rw [readingDay,length,Int.toNat_natCast,clockAt]
      omega
    rw [readingYear,sameDay]
    exact (date_dayNumber valid.1.1).1
  · cases built

/-- The seconds of a reading since its midnight. -/
def daySeconds (t : DateTime) : Nat := t.clock.toNat % dayMicros.toNat / secondMicros

theorem daySeconds_lt (t : DateTime) : daySeconds t < 86400 := by
  have day : dayMicros.toNat = 86400000000 := rfl
  rw [daySeconds,day,secondMicros]
  omega

/-- A reading in UTC on the full second is built from its parts. -/
theorem utcTime_parts {t : DateTime} (utc : t.offset = some 0) (whole : t.clock % 1000000 = 0) :
    utcTime (readingYear t) (monthOf (readingDay t)).1 (monthOf (readingDay t)).2 (daySeconds t / 3600) (daySeconds t / 60 % 60)
      (daySeconds t % 60) = .ok t := by
  obtain ⟨valid,named⟩ := dayNumber_date (readingDay t)
  have short := daySeconds_lt t
  have known : ValidTime (readingYear t) (monthOf (readingDay t)).1 (monthOf (readingDay t)).2 (daySeconds t / 3600)
      (daySeconds t / 60 % 60) (daySeconds t % 60) := ⟨⟨valid,readingYear_le t⟩,by omega,by omega,by omega⟩
  rw [utcTime,dif_pos known]
  have clock : (clockAt (readingYear t) (monthOf (readingDay t)).1 (monthOf (readingDay t)).2 (daySeconds t / 3600)
      (daySeconds t / 60 % 60) (daySeconds t % 60) : Int) = t.clock := by
    have length : dayMicros.toNat = 86400000000 := rfl
    rw [clockAt,readingYear,named,readingDay,daySeconds,length,secondMicros]
    have low := t.in_range.1
    omega
  refine congrArg Except.ok ?_
  rw [DateTime.mk.injEq]
  exact ⟨clock,utc.symm⟩

/-! ### Readings of the first day -/

theorem first_day_in_range (micros : Nat) : 0 ≤ ((micros % 86400000000 : Nat) : Int) ∧
    ((micros % 86400000000 : Nat) : Int) < maxDays * dayMicros := by
  simp only [maxDays,dayMicros]
  omega

/-- A reading on the first day of the calendar. -/
def firstDay (micros : Nat) (offset : Option Int) : DateTime := ⟨(micros % 86400000000 : Nat),offset,first_day_in_range micros⟩

end SocAnalyst.Calendar
