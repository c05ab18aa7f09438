import SocAnalyst.AlertTemplates
import SocAnalyst.Dicts
import SocAnalyst.Values

/-!
# CVSS vectors

`tools/cvss.py`: a v3.x vector read into its metrics, the base score they imply, and the
sentence that explains it. The arithmetic is that of doubles.
-/
namespace SocAnalyst.Cvss
open SocAnalyst.Builtins SocAnalyst.Doubles SocAnalyst.Dicts SocAnalyst.Values SocAnalyst.Risk
open SocAnalyst.AlertTemplates (severityValue)

/-! ### The v3.1 specification -/

inductive Metric where
  | AV
  | AC
  | PR
  | UI
  | S
  | C
  | I
  | A
  deriving DecidableEq, Repr

def Metric.key : Metric → Text
  | .AV => lit "AV"
  | .AC => lit "AC"
  | .PR => lit "PR"
  | .UI => lit "UI"
  | .S => lit "S"
  | .C => lit "C"
  | .I => lit "I"
  | .A => lit "A"

def requiredMetrics : List Metric := [.AV,.AC,.PR,.UI,.S,.C,.I,.A]

/-- The values of a metric with their long names. -/
def names : Metric → List (Text × Text)
  | .AV => [(lit "N",lit "NETWORK"),(lit "A",lit "ADJACENT_NETWORK"),(lit "L",lit "LOCAL"),(lit "P",lit "PHYSICAL")]
  | .AC => [(lit "L",lit "LOW"),(lit "H",lit "HIGH")]
  | .PR => [(lit "N",lit "NONE"),(lit "L",lit "LOW"),(lit "H",lit "HIGH")]
  | .UI => [(lit "N",lit "NONE"),(lit "R",lit "REQUIRED")]
  | .S => [(lit "U",lit "UNCHANGED"),(lit "C",lit "CHANGED")]
  | .C | .I | .A => [(lit "H",lit "HIGH"),(lit "L",lit "LOW"),(lit "N",lit "NONE")]

/-- `_WEIGHTS`, and `_PRIVILEGES_REQUIRED` under a scope. -/
def weights (scope : Text) : Metric → List (Text × ℚ)
  | .AV => [(lit "N",85/100),(lit "A",62/100),(lit "L",55/100),(lit "P",2/10)]
  | .AC => [(lit "L",77/100),(lit "H",44/100)]
  | .PR =>
    if scope = lit "C" then [(lit "N",85/100),(lit "L",68/100),(lit "H",50/100)]
    else [(lit "N",85/100),(lit "L",62/100),(lit "H",27/100)]
  | .UI => [(lit "N",85/100),(lit "R",62/100)]
  | .S => []
  | .C | .I | .A => [(lit "H",56/100),(lit "L",22/100),(lit "N",0)]

/-- The entry of a table under a key. -/
def entryOf {α : Type} (table : List (Text × α)) (key : Text) : Option α := (table.find? fun entry => entry.1 = key).map (·.2)

/-! ### Parsing -/

def isUpper (c : Nat) : Bool := 65 ≤ c && c ≤ 90

/-- `[A-Z]{1,2}:[A-Z]`. -/
def isPair : Text → Bool
  | [a,58,v] => isUpper a && isUpper v
  | [a,b,58,v] => isUpper a && isUpper b && isUpper v
  | _ => false

/-- `_VECTOR` on a trimmed text, on which `$` is the end: the pairs of the body. -/
def vectorPairs (text : Text) : Option (List Text) :=
  if text.take 9 = lit "CVSS:3.0/" ∨ text.take 9 = lit "CVSS:3.1/" then
    let pairs := (text.drop 9).splitOnP (· = 47)
    if pairs.all isPair then some pairs else none
  else none

/-- The values under the keys of the pairs, a later pair replacing an earlier one. -/
def rawMetrics (pairs : List Text) : Dict Text Text :=
  pairs.foldl (fun raw pair => raw.set (pair.takeWhile (· ≠ 58)) ((pair.dropWhile (· ≠ 58)).drop 1)) Dict.empty

/-- The long name of the value of a metric. -/
def metricName (raw : Dict Text Text) (metric : Metric) : Option Text := (raw.get? metric.key).bind (entryOf (names metric))

/-- A vector in long-form metric names; one understood only in part is not understood. -/
def parseVector (vector : Text) : Option (List (Metric × Text)) :=
  (vectorPairs (strip vector)).bind fun pairs =>
    requiredMetrics.mapM fun metric => (metricName (rawMetrics pairs) metric).map fun name => (metric,name)

/-- `metrics[metric]`. -/
def named (metrics : List (Metric × Text)) (metric : Metric) : Text :=
  ((metrics.find? fun entry => entry.1 = metric).map (·.2)).getD []

theorem parseVector_metric {vector : Text} {metrics : List (Metric × Text)} (parsed : parseVector vector = some metrics) :
    ∃ pairs, vectorPairs (strip vector) = some pairs ∧
      ∀ metric, metricName (rawMetrics pairs) metric = some (named metrics metric) := by
  obtain ⟨pairs,matched,all⟩ := Option.bind_eq_some_iff.mp parsed
  refine ⟨pairs,matched,fun metric => ?_⟩
  simp only [requiredMetrics,List.mapM_cons,List.mapM_nil,Option.bind_eq_bind,Option.pure_def,Option.bind_eq_some_iff,
    Option.map_eq_some_iff,Option.some.injEq] at all
  obtain ⟨_,⟨av,av',rfl⟩,_,⟨_,⟨ac,ac',rfl⟩,_,⟨_,⟨pr,pr',rfl⟩,_,⟨_,⟨ui,ui',rfl⟩,_,⟨_,⟨scope,scope',rfl⟩,_,⟨_,⟨c,c',rfl⟩,_,⟨_,⟨i,i',rfl⟩,_,
    ⟨_,⟨a,a',rfl⟩,_,rfl,rfl⟩,rfl⟩,rfl⟩,rfl⟩,rfl⟩,rfl⟩,rfl⟩,rfl⟩ := all
  cases metric <;> assumption

/-! ### Scoring -/

/-- A literal of the source. -/
def double (q : ℚ) : ℚ := nearest q

/-- `x ** n`. -/
def power (x : ℚ) (n : Nat) : ℚ := nearest (x^n)

/-- The weight of the value of a metric under a scope. -/
def weightOf (raw : Dict Text Text) (scope : Text) (metric : Metric) : ℚ :=
  double ((entryOf (weights scope metric) ((raw.get? metric.key).getD [])).getD 0)

/-- The smallest one-decimal number from a value on. -/
def roundup (value : ℚ) : ℚ :=
  let scaled := roundHalfEven (times value 100000)
  if scaled % 10000 = 0 then dividedBy scaled 100000
  else dividedBy ((dividedBy scaled 10000).floor + 1) 10

/-- The score of the metrics under a scope. -/
def scoreOf (raw : Dict Text Text) (scope : Text) : ℚ :=
  let weight metric := weightOf raw scope metric
  let impactSub := minus 1 (times (times (minus 1 (weight .C)) (minus 1 (weight .I))) (minus 1 (weight .A)))
  let impact :=
    if scope = lit "U" then times (double (642/100)) impactSub
    else minus (times (double (752/100)) (minus impactSub (double (29/1000))))
      (times (double (325/100)) (power (minus impactSub (double (2/100))) 15))
  if impact ≤ 0 then 0
  else
    let exploitability :=
      times (times (times (times (double (822/100)) (weight .AV)) (weight .AC)) (weight .PR)) (weight .UI)
    let combined := plus impact exploitability
    roundup (min (if scope = lit "C" then times combined (double (108/100)) else combined) 10)

private theorem isDouble_ten : IsDouble 10 := by simpa using isDouble_intCast (n := 10) (by norm_num)

theorem times_nonneg {x y : ℚ} (first : 0 ≤ x) (second : 0 ≤ y) : 0 ≤ times x y := nearest_nonneg (mul_nonneg first second)

theorem weightOf_nonneg (raw : Dict Text Text) (scope : Text) (metric : Metric) : 0 ≤ weightOf raw scope metric := by
  apply nearest_nonneg
  cases found : entryOf (weights scope metric) ((raw.get? metric.key).getD []) with
  | none => simp
  | some weight =>
    obtain ⟨entry,listed,rfl⟩ := Option.map_eq_some_iff.mp found
    have known := List.mem_of_find?_eq_some listed
    cases metric <;> simp only [weights] at known
    case PR => split_ifs at known <;> (simp at known; rcases known with rfl | rfl | rfl <;> norm_num)
    case S => simp at known
    all_goals
      simp at known
      rcases known with rfl | rfl | rfl | rfl <;> norm_num

private theorem in_range {q : ℚ} (nonneg : 0 ≤ q) (small : q ≤ 100) : |q| < 2^1024 := by
  have power : (2 : ℚ)^7 < 2^1024 := pow_lt_pow_right₀ (by norm_num) (by norm_num)
  rw [abs_of_nonneg nonneg]
  exact (small.trans (by norm_num)).trans_lt power

/-- A double just below one hundred. -/
private theorem isDouble_below_hundred : IsDouble (1638399/16384) :=
  ⟨in_range (by norm_num) (by norm_num),1638399,-14,by norm_num,by norm_num,by norm_num⟩

theorem roundup_bounds {value : ℚ} (nonneg : 0 ≤ value) (most : value ≤ 10) : 0 ≤ roundup value ∧ roundup value ≤ 10 := by
  have million : IsDouble 1000000 := by simpa using isDouble_intCast (n := 1000000) (by norm_num)
  have lower : (0 : ℤ) ≤ roundHalfEven (times value 100000) := le_roundHalfEven (by simpa using times_nonneg nonneg (by norm_num))
  have upper : roundHalfEven (times value 100000) ≤ 1000000 := by
    apply roundHalfEven_le
    push_cast
    exact nearest_le million (by linarith)
  simp only [roundup]
  generalize roundHalfEven (times value 100000) = scaled at lower upper
  have scaledNonneg : (0 : ℚ) ≤ scaled := by exact_mod_cast lower
  have scaledMost : (scaled : ℚ) ≤ 1000000 := by exact_mod_cast upper
  split_ifs with whole
  · exact ⟨nearest_nonneg (by positivity),nearest_le isDouble_ten (by linarith)⟩
  · have strict : scaled ≤ 999999 := by
      have other : scaled ≠ 1000000 := fun equal => whole (by rw [equal]; norm_num)
      omega
    have tenths : dividedBy scaled 10000 ≤ 1638399/16384 := by
      apply nearest_le isDouble_below_hundred
      have below : (scaled : ℚ) ≤ 999999 := by exact_mod_cast strict
      linarith
    have floorNonneg : 0 ≤ (dividedBy scaled 10000).floor := Rat.le_floor_iff.mpr (nearest_nonneg (by positivity))
    have floorMost : (dividedBy scaled 10000).floor ≤ 99 := by
      have below := Rat.floor_lt_iff.mpr (show dividedBy scaled 10000 < ((100 : ℤ) : ℚ) by push_cast; linarith)
      omega
    generalize (dividedBy scaled 10000).floor = floor at floorNonneg floorMost
    have nonneg : (0 : ℚ) ≤ floor := by exact_mod_cast floorNonneg
    have most : (floor : ℚ) ≤ 99 := by exact_mod_cast floorMost
    exact ⟨nearest_nonneg (by positivity),nearest_le isDouble_ten (by linarith)⟩

theorem scoreOf_bounds (raw : Dict Text Text) (scope : Text) : 0 ≤ scoreOf raw scope ∧ scoreOf raw scope ≤ 10 := by
  have literal {q : ℚ} (nonneg : 0 ≤ q) : 0 ≤ double q := nearest_nonneg nonneg
  simp only [scoreOf]
  generalize (if scope = lit "U" then _ else _ : ℚ) = impact
  split_ifs with none changed
  · norm_num
  all_goals
    have impactful : 0 ≤ impact := (not_le.mp none).le
    have exploitability := times_nonneg (times_nonneg (times_nonneg (times_nonneg (literal (by norm_num : (0 : ℚ) ≤ 822/100))
      (weightOf_nonneg raw scope .AV)) (weightOf_nonneg raw scope .AC)) (weightOf_nonneg raw scope .PR)) (weightOf_nonneg raw scope .UI)
    have combined := nearest_nonneg (add_nonneg impactful exploitability)
  · exact roundup_bounds (le_min (times_nonneg combined (literal (by norm_num))) (by norm_num)) (min_le_right _ _)
  · exact roundup_bounds (le_min combined (by norm_num)) (min_le_right _ _)

/-- A score on the scale. -/
structure Score where
  value : ℚ
  bounds : 0 ≤ value ∧ value ≤ 10
  deriving DecidableEq

/-- The base score of a vector, if it can be parsed. -/
def baseScore (vector : Text) : Option Score :=
  (vectorPairs (strip vector)).bind fun pairs =>
    (parseVector vector).bind fun _ =>
      let raw := rawMetrics pairs
      let scope := (raw.get? Metric.S.key).getD []
      if scope = lit "U" ∨ scope = lit "C" then some ⟨scoreOf raw scope,scoreOf_bounds raw scope⟩ else none

/-- A vector that can be parsed has a score. -/
theorem baseScore_parsed {vector : Text} {metrics : List (Metric × Text)} (parsed : parseVector vector = some metrics) :
    ∃ score, baseScore vector = some score := by
  obtain ⟨pairs,matched,read⟩ := parseVector_metric parsed
  have known : (((rawMetrics pairs).get? Metric.S.key).getD []) = lit "U" ∨ ((rawMetrics pairs).get? Metric.S.key).getD [] = lit "C" := by
    obtain ⟨value,given,long⟩ := Option.bind_eq_some_iff.mp (read .S)
    obtain ⟨entry,found,_⟩ := Option.map_eq_some_iff.mp long
    have listed := List.mem_of_find?_eq_some found
    have same : entry.1 = value := by simpa using List.find?_some found
    rw [given,Option.getD_some,← same]
    simp only [names,List.mem_cons,List.not_mem_nil,or_false] at listed
    rcases listed with rfl | rfl
    · exact .inl rfl
    · exact .inr rfl
  refine ⟨⟨_,scoreOf_bounds (rawMetrics pairs) (((rawMetrics pairs).get? Metric.S.key).getD [])⟩,?_⟩
  simp only [baseScore,matched,parsed,Option.bind_some,if_pos known]

/-! ### Interpretation -/

/-- The number a finite float is. -/
def real : PyFloat → Option ℚ
  | .finite value => some value.value
  | .negativeZero => some 0
  | .infinite _ | .nan => none

/-- A float on the scale. -/
def InRange (score : PyFloat) : Prop := ∃ value, real score = some value ∧ 0 ≤ value ∧ value ≤ 10

/-- `abs(reported - computed) < 0.05`. -/
def agrees (reported : PyFloat) (computed : ℚ) : Bool :=
  (real reported).any fun value => |minus value computed| < double (5/100)

/-- `round(value, 1)`. -/
def roundTenth : PyFloat → PyFloat
  | .finite value => if roundTo 1 value.value = 0 ∧ value.value < 0 then .negativeZero else rounded (roundTo 1 value.value)
  | value => value

/-- The reported score where it agrees with the computed one. -/
def preferred (reported : Option PyFloat) (computed : ℚ) : PyFloat :=
  match reported with
  | some value => if agrees value computed then roundTenth value else rounded computed
  | none => rounded computed

theorem rounded_inRange {q : ℚ} (nonneg : 0 ≤ q) (most : q ≤ 10) : InRange (rounded q) := by
  have low := nearest_nonneg nonneg
  have high := nearest_le isDouble_ten most
  have finite := in_range low (by linarith : nearest q ≤ 100)
  have positive : ¬ q < 0 := not_lt.mpr nonneg
  simp only [rounded,finite,dif_pos,positive,and_false,if_false]
  exact ⟨nearest q,rfl,low,high⟩

/-- A number closer than one half of a tenth to the scale is rounded onto it. -/
theorem roundTo_tenth_bounds {q : ℚ} (low : -(1/20) < q) (high : q < 10 + 1/20) : 0 ≤ roundTo 1 q ∧ roundTo 1 q ≤ 10 := by
  have halfUp : roundHalfEven (201/2) = 100 := by decide +kernel
  have halfDown : roundHalfEven (-(1/2)) = 0 := by decide +kernel
  have upper : roundHalfEven (q * 10) ≤ 100 := halfUp ▸ roundHalfEven_mono (by linarith)
  have lower : 0 ≤ roundHalfEven (q * 10) := halfDown ▸ roundHalfEven_mono (by linarith)
  have bottom : (0 : ℚ) ≤ roundHalfEven (q * 10) := by exact_mod_cast lower
  have top : (roundHalfEven (q * 10) : ℚ) ≤ 100 := by exact_mod_cast upper
  rw [roundTo,pow_one]
  exact ⟨by positivity,by linarith⟩

theorem agrees_near {reported : PyFloat} {computed : ℚ} (agree : agrees reported computed = true) :
    ∃ value, real reported = some value ∧ -(1/20) < value - computed ∧ value - computed < 1/20 := by
  unfold agrees at agree
  cases known : real reported with
  | none => simp [known] at agree
  | some value =>
  rw [known] at agree
  obtain ⟨low,high⟩ := abs_lt.mp (of_decide_eq_true agree)
  refine ⟨value,rfl,?_,?_⟩
  · by_contra! far
    have below := nearest_mono far
    rw [nearest_neg] at below
    have same : double (5/100) = nearest (1/20) := by norm_num [double]
    simp only [minus,same] at low
    linarith
  · by_contra! far
    have above := nearest_mono far
    have same : double (5/100) = nearest (1/20) := by norm_num [double]
    simp only [minus,same] at high
    linarith

theorem preferred_inRange (reported : Option PyFloat) (computed : Score) : InRange (preferred reported computed.value) := by
  obtain ⟨low,high⟩ := computed.bounds
  have kept := rounded_inRange low high
  unfold preferred
  cases reported with
  | none => exact kept
  | some value =>
    simp only
    split_ifs with agree
    · obtain ⟨number,known,above,below⟩ := agrees_near agree
      cases value with
      | finite double =>
        have same : double.value = number := by simpa [real] using known
        obtain ⟨nonneg,most⟩ := @roundTo_tenth_bounds double.value (by linarith) (by linarith)
        simp only [roundTenth]
        split_ifs
        · exact ⟨0,rfl,le_rfl,by norm_num⟩
        · exact rounded_inRange nonneg most
      | negativeZero => exact ⟨0,rfl,le_rfl,by norm_num⟩
      | infinite | nan => simp [real] at known
    · exact kept

def reach : List (Text × Text) :=
  [(lit "NETWORK",lit "over the network"),(lit "ADJACENT_NETWORK",lit "from an adjacent network"),
    (lit "LOCAL",lit "with local access to the host"),(lit "PHYSICAL",lit "with physical access to the device")]

def privilegePhrase : List (Text × Text) :=
  [(lit "NONE",lit "without any credentials"),(lit "LOW",lit "with ordinary user credentials"),
    (lit "HIGH",lit "with administrative credentials")]

section
variable [Printer]

/-- Which of confidentiality, integrity and availability suffer. -/
def impactPhrase (metrics : List (Metric × Text)) : Text :=
  let affected := ([(Metric.C,lit "confidentiality"),(.I,lit "integrity"),(.A,lit "availability")].filter fun label =>
    named metrics label.1 ≠ lit "NONE").map fun label => label.2 ++ lit " (" ++ lower (named metrics label.1) ++ lit ")"
  if affected = [] then lit "no direct impact on the affected component" else joined (lit ", ") affected

/-- A parsed vector in language an analyst can hand to a manager. -/
def narrate (metrics : List (Metric × Text)) (score : PyFloat) : Text :=
  let interaction :=
    if named metrics .UI = lit "REQUIRED" then lit " and only if a user is tricked into acting" else lit " and without any user interaction"
  let complexity :=
    if named metrics .AC = lit "HIGH" then lit " Exploitation depends on conditions outside the attacker's control." else []
  let scope :=
    if named metrics .S = lit "CHANGED" then lit " A successful attack reaches beyond the vulnerable component into other systems."
    else []
  strip (lit "Scored " ++ Printer.float score ++ lit "/10 (" ++ severityValue (severityLevel ((real score).getD 0)) ++ lit "). " ++
    lit "Exploitable " ++ (entryOf reach (named metrics .AV)).getD (lit "by an unspecified route") ++ lit " " ++
    (entryOf privilegePhrase (named metrics .PR)).getD (lit "with unspecified privileges") ++ interaction ++ lit ". " ++
    lit "Impact: " ++ impactPhrase metrics ++ lit "." ++ complexity ++ scope)

/-- A parsed CVSS vector with the score it implies. -/
structure CvssMetrics where
  version : Text
  vector : Text
  baseScore : PyFloat
  severity : Severity
  attackVector : Option Text := none
  attackComplexity : Option Text := none
  privilegesRequired : Option Text := none
  userInteraction : Option Text := none
  scope : Option Text := none
  confidentiality : Option Text := none
  integrity : Option Text := none
  availability : Option Text := none
  narrative : Text := []
  inRange : InRange baseScore

/-- The contract of a parsed vector under a score. -/
def described (vector : Text) (metrics : List (Metric × Text)) (score : PyFloat) (inRange : InRange score) : CvssMetrics where
  version := ((strip vector).takeWhile (· ≠ 47)).drop 5
  vector := strip vector
  baseScore := score
  severity := severityLevel ((real score).getD 0)
  attackVector := some (named metrics .AV)
  attackComplexity := some (named metrics .AC)
  privilegesRequired := some (named metrics .PR)
  userInteraction := some (named metrics .UI)
  scope := some (named metrics .S)
  confidentiality := some (named metrics .C)
  integrity := some (named metrics .I)
  availability := some (named metrics .A)
  narrative := narrate metrics score
  inRange := inRange

/-- Parse, score, and narrate a vector. -/
def interpret (vector : Text) (reported : Option PyFloat) : Option CvssMetrics :=
  match parseVector vector, baseScore vector with
  | some metrics,some computed => some (described vector metrics (preferred reported computed.value) (preferred_inRange reported computed))
  | _,_ => none

/-- A vector is interpreted when it can be parsed. -/
theorem interpret_isSome (vector : Text) (reported : Option PyFloat) :
    (interpret vector reported).isSome = (parseVector vector).isSome := by
  unfold interpret
  cases parsed : parseVector vector with
  | none => rfl
  | some metrics =>
    obtain ⟨score,scored⟩ := baseScore_parsed parsed
    rw [scored]
    rfl

end
end SocAnalyst.Cvss
