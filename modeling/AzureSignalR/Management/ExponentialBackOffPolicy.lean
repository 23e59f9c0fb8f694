import Mathlib.Data.List.Basic
import Mathlib.Tactic.Ring

/-!
Contract: the delays between the retries of a REST call, and when they are the exponential ones.

Owns: `ExponentialBackOffPolicy` with its loop over 32-bit factors, and the condition under which
no factor wraps around before the maximum is reached.

Does not own: the conversion of a `double` that no `int` can hold, for which the language leaves
the result open.
-/

set_option autoImplicit false

namespace AzureSignalR.Management

/-- A number of ticks. -/
abbrev TimeSpan := Int

namespace TimeSpan

def ticksPerMillisecond : Int := 10000

def minValue : TimeSpan := -2 ^ 63

def fromMilliseconds (milliseconds : Int) : TimeSpan := milliseconds * ticksPerMillisecond

/-- `(int)value.TotalMilliseconds` is cut off towards zero before it is converted. -/
def totalMilliseconds (value : TimeSpan) : Int := value.tdiv ticksPerMillisecond

theorem totalMilliseconds_fromMilliseconds (milliseconds : Int) :
    totalMilliseconds (fromMilliseconds milliseconds) = milliseconds :=
  Int.mul_tdiv_cancel milliseconds (by decide)

theorem fromMilliseconds_lt {first second : Int} :
    fromMilliseconds first < fromMilliseconds second ↔ first < second :=
  Int.mul_lt_mul_right (by decide)

theorem fromMilliseconds_le {first second : Int} :
    fromMilliseconds first ≤ fromMilliseconds second ↔ first ≤ second :=
  Int.mul_le_mul_right (by decide)

theorem fromMilliseconds_inj {first second : Int} :
    fromMilliseconds first = fromMilliseconds second ↔ first = second :=
  Int.mul_eq_mul_right_iff (by decide)

end TimeSpan

/-- The unchecked conversion of a `double` to `int`. -/
structure IntConversion where
  toInt32 : Int → Int32
  exact : ∀ value, -2 ^ 31 ≤ value → value < 2 ^ 31 → (toInt32 value).toInt = value

/-- The conversion that gives the least `int` for what no `int` can hold. -/
def IntConversion.indefinite : IntConversion where
  toInt32 value := if -2 ^ 31 ≤ value ∧ value < 2 ^ 31 then Int32.ofInt value else Int32.minValue
  exact := by
    intro value low high
    rw [if_pos ⟨low, high⟩]
    exact Int32.toInt_ofInt_of_le low high

inductive ServiceManagerRetryMode where
  | fixed
  | exponential
deriving DecidableEq, Repr

structure ServiceManagerRetryOptions where
  maxRetries : Nat := 3
  delay : TimeSpan := .fromMilliseconds 800
  maxDelay : TimeSpan := .fromMilliseconds 60000
  mode : ServiceManagerRetryMode := .fixed
deriving DecidableEq, Repr

structure ExponentialBackOffPolicy where
  maxRetries : Nat
  minDelay : TimeSpan
  maxDelay : TimeSpan
deriving DecidableEq, Repr

namespace ExponentialBackOffPolicy

/-- The constructor; an error is an `ArgumentException` with this message. -/
def create (retryOptions : Option ServiceManagerRetryOptions) :
    Except String ExponentialBackOffPolicy :=
  match retryOptions with
  | none => .error "Retry options expected"
  | some retryOptions =>
      if retryOptions.mode ≠ .exponential then .error "Only Exponential mode is supported"
      else .ok ⟨retryOptions.maxRetries, retryOptions.delay, retryOptions.maxDelay⟩

variable (conversion : IntConversion) (policy : ExponentialBackOffPolicy)

/-- `(1 << i) * (int)_minDelay.TotalMilliseconds`; a shift counts modulo 32. -/
def factor (i : Nat) : Int32 :=
  (1 <<< Int32.ofNat (i % 32)) * conversion.toInt32 policy.minDelay.totalMilliseconds

/-- The loop of `GetDelays` with the turns that remain. -/
def delaysFrom : (remaining i : Nat) → (lastDelay : TimeSpan) → List TimeSpan
  | 0, _, _ => []
  | remaining + 1, i, lastDelay =>
      if policy.maxDelay ≤ lastDelay then
        policy.maxDelay :: delaysFrom remaining (i + 1) lastDelay
      else
        let delay := TimeSpan.fromMilliseconds (factor conversion policy i).toInt
        let lastDelay := if delay < policy.maxDelay then delay else policy.maxDelay
        lastDelay :: delaysFrom remaining (i + 1) lastDelay

def getDelays : List TimeSpan :=
  delaysFrom conversion policy policy.maxRetries 0 TimeSpan.minValue

/-- The delays for whole milliseconds: the base times the power of two, up to the maximum. -/
structure Exponential (retries base maximum : Nat) (delays : List TimeSpan) : Prop where
  length : delays.length = retries
  delay : ∀ i < retries,
    delays[i]? = some (.fromMilliseconds (min (base * 2 ^ i) maximum : Nat))
  nonnegative : ∀ delay ∈ delays, 0 ≤ delay
  bounded : ∀ delay ∈ delays, delay ≤ .fromMilliseconds maximum
  sorted : delays.Pairwise (· ≤ ·)

def exponentialDelay (base maximum i : Nat) : TimeSpan :=
  .fromMilliseconds (min (base * 2 ^ i) maximum : Nat)

theorem exponentialDelay_mono (base maximum : Nat) {i j : Nat} (ordered : i ≤ j) :
    exponentialDelay base maximum i ≤ exponentialDelay base maximum j := by
  have powers : 2 ^ i ≤ 2 ^ j := Nat.pow_le_pow_right (by decide) ordered
  have products : base * 2 ^ i ≤ base * 2 ^ j := Nat.mul_le_mul_left base powers
  apply TimeSpan.fromMilliseconds_le.2
  omega

theorem exponential_iff {retries base maximum : Nat} {delays : List TimeSpan} :
    Exponential retries base maximum delays ↔
      delays = (List.range' 0 retries).map (exponentialDelay base maximum) := by
  constructor
  · intro exponential
    apply List.ext_getElem?
    intro i
    by_cases inside : i < retries
    · rw [exponential.delay i inside]
      simp [inside, exponentialDelay]
    · rw [List.getElem?_eq_none (by rw [exponential.length]; omega),
        List.getElem?_eq_none (by simp; omega)]
  · intro isMap
    have ofMember : ∀ delay ∈ delays, ∃ i, exponentialDelay base maximum i = delay := by
      intro delay member
      rw [isMap] at member
      obtain ⟨i, -, same⟩ := List.mem_map.mp member
      exact ⟨i, same⟩
    refine ⟨by simp [isMap], ?_, ?_, ?_, ?_⟩
    · intro i inside
      simp [isMap, inside, exponentialDelay]
    · intro delay member
      obtain ⟨i, rfl⟩ := ofMember delay member
      exact Int.mul_nonneg (Int.natCast_nonneg _) (by decide)
    · intro delay member
      obtain ⟨i, rfl⟩ := ofMember delay member
      apply TimeSpan.fromMilliseconds_le.2
      omega
    · rw [isMap, List.pairwise_map]
      apply List.Pairwise.imp _ List.pairwise_lt_range'
      intro i j before
      exact exponentialDelay_mono base maximum (Nat.le_of_lt before)

/-! ## The factors -/

theorem toInt_one_shiftLeft : ∀ i < 32, ((1 : Int32) <<< Int32.ofNat (i % 32)).toInt =
    ((2 ^ i : Nat) : Int).bmod (2 ^ 32) := by
  decide

variable {conversion}

theorem toInt_factor {policy : ExponentialBackOffPolicy} {base i : Nat}
    (isBase : policy.minDelay = .fromMilliseconds base) (short : base < 2 ^ 31) (inside : i < 32) :
    (factor conversion policy i).toInt = ((base * 2 ^ i : Nat) : Int).bmod (2 ^ 32) := by
  have converted : (conversion.toInt32 policy.minDelay.totalMilliseconds).toInt = base := by
    rw [isBase, TimeSpan.totalMilliseconds_fromMilliseconds]
    apply conversion.exact
    · omega
    · omega
  rw [factor, Int32.toInt_mul, converted, toInt_one_shiftLeft i inside, Int.bmod_mul_bmod,
    Nat.mul_comm base]
  rfl

/-- A factor that an `int` can hold does not wrap around. -/
theorem toInt_factor_of_short {policy : ExponentialBackOffPolicy} {base i : Nat}
    (isBase : policy.minDelay = .fromMilliseconds base) (short : base * 2 ^ i < 2 ^ 31) :
    (factor conversion policy i).toInt = (base * 2 ^ i : Nat) := by
  by_cases zero : base = 0
  · have converted : (conversion.toInt32 policy.minDelay.totalMilliseconds).toInt = 0 := by
      rw [isBase, TimeSpan.totalMilliseconds_fromMilliseconds, zero]
      exact conversion.exact 0 (by decide) (by decide)
    rw [factor, Int32.toInt_mul, converted, zero, Int.mul_zero, Nat.zero_mul]
    rfl
  · have power : 2 ^ i < 2 ^ 31 :=
      Nat.lt_of_le_of_lt (Nat.le_mul_of_pos_left _ (Nat.pos_of_ne_zero zero)) short
    have inside : i < 31 := (Nat.pow_lt_pow_iff_right (by decide)).mp power
    have alone : base < 2 ^ 31 :=
      Nat.lt_of_le_of_lt (Nat.le_mul_of_pos_right _ (Nat.two_pow_pos i)) short
    rw [toInt_factor isBase alone (by omega)]
    apply Int.bmod_eq_of_le
    · omega
    · omega

variable (conversion) in
/-- The delay of a turn that multiplies is the exponential one if and only if the factor does not
wrap around. -/
theorem delay_eq_iff {policy : ExponentialBackOffPolicy} {base maximum i : Nat}
    (isBase : policy.minDelay = .fromMilliseconds base)
    (isMaximum : policy.maxDelay = .fromMilliseconds maximum) (ordered : base ≤ maximum)
    (below : i = 0 ∨ base * 2 ^ (i - 1) < maximum) :
    (let delay := TimeSpan.fromMilliseconds (factor conversion policy i).toInt
      if delay < policy.maxDelay then delay else policy.maxDelay) =
        exponentialDelay base maximum i ↔ base * 2 ^ i < 2 ^ 31 := by
  have smaller : (let delay := TimeSpan.fromMilliseconds (factor conversion policy i).toInt
      if delay < policy.maxDelay then delay else policy.maxDelay) =
        .fromMilliseconds (min (factor conversion policy i).toInt maximum) := by
    simp only [isMaximum, TimeSpan.fromMilliseconds_lt]
    split_ifs with less
    · rw [min_eq_left (by omega)]
    · rw [min_eq_right (by omega)]
  rw [smaller, exponentialDelay, TimeSpan.fromMilliseconds_inj]
  constructor
  · intro same
    have short := (factor conversion policy i).toInt_lt
    by_contra long
    -- The product is over the maximum, which an `int` holds: it wraps around into the negative.
    have atMost : maximum < base * 2 ^ i ∧ maximum < 2 ^ 31 := by omega
    have positive : i ≠ 0 := by
      intro first
      rw [first] at atMost
      omega
    obtain ⟨before, rfl⟩ : ∃ before, i = before + 1 := Nat.exists_eq_succ_of_ne_zero positive
    have doubled : base * 2 ^ (before + 1) = 2 * (base * 2 ^ before) := by ring
    have half : base * 2 ^ before < 2 ^ 31 := by
      have halfBelow := below.resolve_left positive
      rw [Nat.add_sub_cancel] at halfBelow
      omega
    have alone : 0 < base := by
      apply Nat.pos_of_ne_zero
      intro zero
      rw [zero, Nat.zero_mul] at long
      omega
    have inside : before < 31 := (Nat.pow_lt_pow_iff_right (by decide)).mp
      (Nat.lt_of_le_of_lt (Nat.le_mul_of_pos_left _ alone) half)
    rw [toInt_factor isBase (by omega) (by omega)] at same
    rw [Int.bmod] at same
    omega
  · intro short
    rw [toInt_factor_of_short isBase short]
    omega

/-! ## The loop -/

/-- Every product the loop comes to fits an `int`: the base itself, and each product of one that is
below the maximum. -/
def Fits (base maximum i : Nat) : Prop :=
  i = 0 ∨ base * 2 ^ (i - 1) < maximum → base * 2 ^ i < 2 ^ 31

/-- What `lastDelay` is in front of a turn. -/
def IsLast (base maximum : Nat) : Nat → TimeSpan → Prop
  | 0, lastDelay => lastDelay = TimeSpan.minValue
  | i + 1, lastDelay => lastDelay = exponentialDelay base maximum i

theorem IsLast.reached_iff {base maximum i : Nat} {lastDelay : TimeSpan}
    (isLast : IsLast base maximum i lastDelay) :
    TimeSpan.fromMilliseconds maximum ≤ lastDelay ↔
      ¬(i = 0 ∨ base * 2 ^ (i - 1) < maximum) := by
  cases i with
  | zero =>
      have negative : lastDelay < 0 := by
        rw [show lastDelay = TimeSpan.minValue from isLast]
        decide
      have positive : 0 ≤ TimeSpan.fromMilliseconds maximum :=
        Int.mul_nonneg (Int.natCast_nonneg _) (by decide)
      exact iff_of_false (not_le_of_gt (Int.lt_of_lt_of_le negative positive))
        (not_not_intro (.inl rfl))
  | succ before =>
      rw [show lastDelay = exponentialDelay base maximum before from isLast, exponentialDelay,
        TimeSpan.fromMilliseconds_le, Nat.add_sub_cancel, Int.ofNat_le]
      omega

/-- A turn behind the maximum gives the maximum again. -/
theorem exponentialDelay_of_reached {base maximum i : Nat}
    (reached : ¬(i = 0 ∨ base * 2 ^ (i - 1) < maximum)) :
    exponentialDelay base maximum i = .fromMilliseconds maximum ∧
      exponentialDelay base maximum (i - 1) = .fromMilliseconds maximum := by
  have powers : 2 ^ (i - 1) ≤ 2 ^ i := Nat.pow_le_pow_right (by decide) (Nat.sub_le i 1)
  have products : base * 2 ^ (i - 1) ≤ base * 2 ^ i := Nat.mul_le_mul_left base powers
  rw [exponentialDelay, exponentialDelay, Nat.min_eq_right (by omega), Nat.min_eq_right (by omega)]
  exact ⟨rfl, rfl⟩

theorem delaysFrom_eq_iff {policy : ExponentialBackOffPolicy} {base maximum : Nat}
    (isBase : policy.minDelay = .fromMilliseconds base)
    (isMaximum : policy.maxDelay = .fromMilliseconds maximum) (ordered : base ≤ maximum)
    (remaining i : Nat) (lastDelay : TimeSpan) (isLast : IsLast base maximum i lastDelay) :
    delaysFrom conversion policy remaining i lastDelay =
        (List.range' i remaining).map (exponentialDelay base maximum) ↔
      ∀ j, i ≤ j → j < i + remaining → Fits base maximum j := by
  induction remaining generalizing i lastDelay with
  | zero =>
      apply iff_of_true rfl
      intro j after before
      omega
  | succ remaining inductionHypothesis =>
      have split : (∀ j, i ≤ j → j < i + (remaining + 1) → Fits base maximum j) ↔
          Fits base maximum i ∧
            ∀ j, i + 1 ≤ j → j < i + 1 + remaining → Fits base maximum j := by
        constructor
        · intro all
          exact ⟨all i (by omega) (by omega), fun j after before => all j (by omega) (by omega)⟩
        · intro both j after before
          by_cases here : j = i
          · exact here ▸ both.1
          · exact both.2 j (by omega) (by omega)
      rw [split, List.range'_succ, List.map_cons, delaysFrom, isMaximum]
      by_cases reached : i = 0 ∨ base * 2 ^ (i - 1) < maximum
      · rw [if_neg fun above => isLast.reached_iff.1 above reached]
        simp only [List.cons.injEq]
        have turn := delay_eq_iff conversion isBase isMaximum ordered reached
        simp only [isMaximum] at turn
        rw [turn]
        have fits : Fits base maximum i ↔ base * 2 ^ i < 2 ^ 31 := imp_iff_right reached
        rw [fits]
        apply and_congr_right
        intro short
        exact inductionHypothesis (i + 1) _ (turn.mpr short)
      · have same := exponentialDelay_of_reached reached
        rw [if_pos (isLast.reached_iff.2 reached), List.cons.injEq, same.1]
        have here : Fits base maximum i := fun below => absurd below reached
        have next : IsLast base maximum (i + 1) lastDelay := by
          cases i with
          | zero => exact absurd (.inl rfl) reached
          | succ before =>
              show lastDelay = _
              rw [same.1, ← same.2]
              exact isLast
        simp only [here, true_and]
        exact inductionHypothesis (i + 1) lastDelay next

/-- The delays are the exponential ones if and only if no factor wraps around before the maximum
is reached. -/
theorem getDelays_exponential_iff (conversion : IntConversion) (retries base maximum : Nat)
    (ordered : base ≤ maximum) :
    Exponential retries base maximum
        (getDelays conversion
          ⟨retries, .fromMilliseconds base, .fromMilliseconds maximum⟩) ↔
      ∀ i < retries, i = 0 ∨ base * 2 ^ (i - 1) < maximum → base * 2 ^ i < 2 ^ 31 := by
  rw [exponential_iff, getDelays, delaysFrom_eq_iff rfl rfl ordered retries 0 _ rfl]
  constructor
  · intro all i inside
    exact all i (Nat.zero_le i) (by omega)
  · intro all i _ inside
    exact all i (by omega)

theorem getDelays_exponential_to_maximum :
    Exponential 5 1000 10000
      (getDelays .indefinite ⟨5, .fromMilliseconds 1000, .fromMilliseconds 10000⟩) :=
  (getDelays_exponential_iff .indefinite 5 1000 10000 (by decide)).mpr (by decide)

/-- From a second to at most thirty days: the last of 23 delays is negative. -/
theorem getDelays_wraps :
    ¬Exponential 23 1000 2592000000
      (getDelays .indefinite ⟨23, .fromMilliseconds 1000, .fromMilliseconds 2592000000⟩) := by
  intro exponential
  have last : (getDelays .indefinite
      ⟨23, .fromMilliseconds 1000, .fromMilliseconds 2592000000⟩)[22]? =
        some (TimeSpan.fromMilliseconds (-100663296)) := by
    decide +kernel
  have negative := exponential.nonnegative _ (List.mem_of_getElem? last)
  exact absurd negative (by decide)

end ExponentialBackOffPolicy

end AzureSignalR.Management
