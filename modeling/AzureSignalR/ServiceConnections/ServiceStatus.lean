import Mathlib.Algebra.Group.Int.Defs
import Mathlib.Algebra.Group.Nat.Defs
import Mathlib.Data.List.DropRight

/-!
Contract: when a container takes its endpoint for inactive.

Owns: `GetServiceStatus` over a sequence of status pings, with its 32-bit count.

Does not own: how a ping gives a status. The pings are processed one after another.
-/

set_option autoImplicit false

namespace AzureSignalR.ServiceConnections.ServiceStatus

/-- `_inactiveInfo`. -/
structure InactiveInfo where
  count : Int := 0
  last : Option Int := none
deriving DecidableEq, Repr

/-- A status, with what `DateTime.UtcNow` gives while the ping is processed: `now` where no time
is remembered, `later` for the comparison. Times and spans are in ticks. -/
structure StatusPing where
  active : Bool
  now : Int
  later : Int
deriving DecidableEq, Repr

/-- A count as 32 bits hold it. -/
def wrap (count : Int) : Int := Int.bmod count (2 ^ 32)

/-- `count++`. -/
def increment (count : Int) : Int := wrap (count + 1)

/-- The status, and `_inactiveInfo` behind the call. -/
def getServiceStatus (info : InactiveInfo) (ping : StatusPing) (checkWindow checkTimeSpan : Int) :
    Bool × InactiveInfo :=
  if ping.active then (true, {})
  else
    let last := info.last.getD ping.now
    let count := increment info.count
    (!(decide (checkWindow ≤ count) && decide (checkTimeSpan ≤ ping.later - last)),
      { count := count, last := some last })

/-- `_inactiveInfo` after some pings; neither the window nor the span matters to it. -/
def inactiveInfo (pings : List StatusPing) : InactiveInfo :=
  pings.foldl (fun info ping => (getServiceStatus info ping 0 0).2) {}

/-! ## The run of inactive pings -/

/-- The pings since the last active one. -/
def sinceActive (pings : List StatusPing) : List StatusPing := pings.rtakeWhile (!·.active)

/-- When the first ping of the run was processed. -/
def since (pings : List StatusPing) : Option Int := (sinceActive pings).head?.map (·.now)

/-- The run that ends with a ping has at least `checkWindow` pings, of which the first was
processed at least `checkTimeSpan` earlier. -/
def Elapsed (pings : List StatusPing) (ping : StatusPing) (checkWindow checkTimeSpan : Int) :
    Prop :=
  ping.active = false ∧ checkWindow ≤ (sinceActive (pings ++ [ping])).length ∧
    ∃ first, since (pings ++ [ping]) = some first ∧ checkTimeSpan ≤ ping.later - first

theorem sinceActive_active (pings : List StatusPing) {ping : StatusPing}
    (active : ping.active = true) : sinceActive (pings ++ [ping]) = [] := by
  apply List.rtakeWhile_concat_neg
  rw [active]
  nofun

theorem sinceActive_inactive (pings : List StatusPing) {ping : StatusPing}
    (inactive : ping.active = false) :
    sinceActive (pings ++ [ping]) = sinceActive pings ++ [ping] := by
  apply List.rtakeWhile_concat_pos
  rw [inactive]
  rfl

theorem since_inactive (pings : List StatusPing) {ping : StatusPing}
    (inactive : ping.active = false) :
    since (pings ++ [ping]) = some ((since pings).getD ping.now) := by
  rw [since, since, sinceActive_inactive pings inactive, List.head?_append]
  cases (sinceActive pings).head? with
  | none => rfl
  | some first => rfl

/-! ## What is remembered -/

theorem increment_wrap (count : Int) : increment (wrap count) = wrap (count + 1) := by
  rw [increment, wrap, wrap, wrap, Int.bmod_add_bmod]

theorem wrap_of_short {length : Nat} (short : length < 2 ^ 31) : wrap length = length := by
  rw [wrap, Int.bmod_eq_of_le]
  · omega
  · omega

theorem wrap_le (length : Nat) : wrap length ≤ length := by
  rw [wrap, Int.bmod_def]
  split_ifs <;> omega

theorem getServiceStatus_active (info : InactiveInfo) {ping : StatusPing}
    (active : ping.active = true) (checkWindow checkTimeSpan : Int) :
    getServiceStatus info ping checkWindow checkTimeSpan = (true, {}) := by
  rw [getServiceStatus, if_pos active]

theorem getServiceStatus_of_inactive (info : InactiveInfo) {ping : StatusPing}
    (inactive : ping.active = false) (checkWindow checkTimeSpan : Int) :
    getServiceStatus info ping checkWindow checkTimeSpan =
      (!(decide (checkWindow ≤ increment info.count) &&
        decide (checkTimeSpan ≤ ping.later - info.last.getD ping.now)),
        { count := increment info.count, last := some (info.last.getD ping.now) }) := by
  rw [getServiceStatus, if_neg (by rw [inactive]; nofun)]

theorem inactiveInfo_concat (pings : List StatusPing) (ping : StatusPing)
    (checkWindow checkTimeSpan : Int) :
    inactiveInfo (pings ++ [ping]) =
      (getServiceStatus (inactiveInfo pings) ping checkWindow checkTimeSpan).2 := by
  show List.foldl _ _ _ = _
  rw [List.foldl_append]
  show (getServiceStatus (inactiveInfo pings) ping 0 0).2 = _
  rw [getServiceStatus, getServiceStatus]
  split
  · rfl
  · rfl

/-- The count is the length of the run, as far as 32 bits hold it, and the time that of its first
ping. -/
theorem inactiveInfo_eq (pings : List StatusPing) :
    inactiveInfo pings =
      { count := wrap (sinceActive pings).length, last := since pings } := by
  induction pings using List.reverseRecOn with
  | nil => rfl
  | append_singleton pings ping inductionHypothesis =>
      rw [inactiveInfo_concat pings ping 0 0]
      cases active : ping.active with
      | true =>
          rw [getServiceStatus_active _ active, since, sinceActive_active pings active]
          rfl
      | false =>
          rw [getServiceStatus_of_inactive _ active, inductionHypothesis,
            since_inactive pings active, sinceActive_inactive pings active, List.length_append,
            List.length_singleton, Int.natCast_add]
          rw [increment_wrap]
          rfl

/-- The status goes by the wrapped length of the run. -/
theorem getServiceStatus_inactive (pings : List StatusPing) {ping : StatusPing}
    (inactive : ping.active = false) (checkWindow checkTimeSpan : Int) {first : Int}
    (isFirst : since (pings ++ [ping]) = some first) :
    (getServiceStatus (inactiveInfo pings) ping checkWindow checkTimeSpan).1 = false ↔
      checkWindow ≤ wrap (sinceActive (pings ++ [ping])).length ∧
        checkTimeSpan ≤ ping.later - first := by
  have remembered := inactiveInfo_concat pings ping checkWindow checkTimeSpan
  rw [inactiveInfo_eq (pings ++ [ping]), isFirst, getServiceStatus_of_inactive _ inactive]
    at remembered
  obtain ⟨isCount, isLast⟩ := InactiveInfo.mk.inj remembered
  rw [isCount, Option.some.inj isLast, getServiceStatus_of_inactive _ inactive]
  show (!_) = false ↔ _
  rw [Bool.not_eq_false', Bool.and_eq_true, decide_eq_true_iff, decide_eq_true_iff]

/-! ## The law -/

/-- 32 bits hold the run that ends with a ping, or the window is reached all the same, or the
first ping of the run is too recent. -/
def Counts (pings : List StatusPing) (ping : StatusPing) (checkWindow checkTimeSpan : Int) : Prop :=
  (sinceActive (pings ++ [ping])).length < 2 ^ 31 ∨
    checkWindow ≤ wrap (sinceActive (pings ++ [ping])).length ∨
    ∀ first, since (pings ++ [ping]) = some first → ping.later - first < checkTimeSpan

/-- An active ping gives `true` and starts afresh; after any pings, `GetServiceStatus` gives
`false` exactly as the law says if and only if the run can be counted. -/
theorem service_status_window {checkWindow : Int} (isInt : checkWindow < 2 ^ 31)
    (checkTimeSpan : Int) (pings : List StatusPing) (ping : StatusPing) :
    (ping.active = true →
      getServiceStatus (inactiveInfo pings) ping checkWindow checkTimeSpan = (true, {})) ∧
    (((getServiceStatus (inactiveInfo pings) ping checkWindow checkTimeSpan).1 = false ↔
        Elapsed pings ping checkWindow checkTimeSpan) ↔
      ping.active = true ∨ Counts pings ping checkWindow checkTimeSpan) := by
  refine ⟨fun active => getServiceStatus_active _ active checkWindow checkTimeSpan, ?_⟩
  cases active : ping.active with
  | true =>
      rw [getServiceStatus_active _ active]
      refine iff_of_true (iff_of_false nofun ?_) (.inl rfl)
      rintro ⟨inactive, -⟩
      rw [active] at inactive
      cases inactive
  | false =>
      have isFirst := since_inactive pings active
      rw [getServiceStatus_inactive pings active checkWindow checkTimeSpan isFirst, Elapsed, Counts,
        isFirst]
      generalize (sinceActive (pings ++ [ping])).length = length
      generalize (since pings).getD ping.now = first
      constructor
      · intro law
        by_contra uncounted
        rw [not_or, not_or, not_or] at uncounted
        obtain ⟨-, long, below, old⟩ := uncounted
        refine below (law.mpr ⟨active, by omega, first, rfl, ?_⟩).1
        by_contra recent
        refine old fun other isOther => ?_
        cases isOther
        omega
      · rintro (isActive | short | reached | recent)
        · cases isActive
        · rw [wrap_of_short short]
          exact ⟨fun status => ⟨active, status.1, first, rfl, status.2⟩,
            fun ⟨_, many, _, isOther, old⟩ => ⟨many, Option.some.inj isOther ▸ old⟩⟩
        · exact ⟨fun status =>
            ⟨active, Int.le_trans status.1 (wrap_le length), first, rfl, status.2⟩,
            fun ⟨_, _, _, isOther, old⟩ => ⟨reached, Option.some.inj isOther ▸ old⟩⟩
        · have young := recent first rfl
          refine iff_of_false (fun status => ?_) ?_
          · omega
          · rintro ⟨-, -, other, isOther, old⟩
            cases isOther
            omega

/-- An inactive ping at some time. -/
def quiet (time : Int) : StatusPing := ⟨false, time, time⟩

/-- An inactive ping, an active one, and the first four inactive ones of a run. -/
def fourInactive : List StatusPing :=
  [quiet 0, ⟨true, 5, 5⟩, quiet 10, quiet 20, quiet 30, quiet 40]

/-- The fifth one makes the endpoint inactive ten minutes behind the first, and not before. -/
theorem service_status_window_five :
    (getServiceStatus (inactiveInfo fourInactive) (quiet 6000000010) 5 6000000000).1 = false ∧
      (getServiceStatus (inactiveInfo fourInactive) (quiet 6000000009) 5 6000000000).1 ≠
        false := by
  have inWindow : (5 : Int) < 2 ^ 31 := by decide
  have late := (service_status_window inWindow 6000000000 fourInactive (quiet 6000000010)).2.mpr
    (.inr (.inl (by decide)))
  have early := (service_status_window inWindow 6000000000 fourInactive (quiet 6000000009)).2.mpr
    (.inr (.inl (by decide)))
  refine ⟨late.mpr ⟨rfl, by decide, 10, rfl, by decide⟩, fun status => ?_⟩
  obtain ⟨-, -, first, isFirst, elapsed⟩ := early.mp status
  cases isFirst
  exact absurd elapsed (by decide)

theorem sinceActive_replicate (length : Nat) (time : Int) (ping : StatusPing)
    (inactive : ping.active = false) :
    sinceActive (List.replicate length (quiet time) ++ [ping]) =
      List.replicate length (quiet time) ++ [ping] := by
  rw [sinceActive_inactive _ inactive, sinceActive, List.rtakeWhile_eq_self_iff.mpr]
  intro other member
  rw [List.eq_of_mem_replicate member]
  rfl

/-- A run of 2³¹ inactive pings, the first long ago: the endpoint is active again. -/
theorem long_run_active :
    Elapsed (List.replicate (2 ^ 31 - 1) (quiet 0)) (quiet 6000000000) 5 6000000000 ∧
      ¬ (getServiceStatus (inactiveInfo (List.replicate (2 ^ 31 - 1) (quiet 0)))
        (quiet 6000000000) 5 6000000000).1 = false := by
  have isRun := sinceActive_replicate (2 ^ 31 - 1) 0 (quiet 6000000000) rfl
  have isLength : (sinceActive (List.replicate (2 ^ 31 - 1) (quiet 0) ++
      [quiet 6000000000])).length = 2 ^ 31 := by
    rw [isRun, List.length_append, List.length_replicate, List.length_singleton,
      Nat.sub_add_cancel Nat.one_le_two_pow]
  have isFirst : since (List.replicate (2 ^ 31 - 1) (quiet 0) ++ [quiet 6000000000]) = some 0 := by
    rw [since, isRun, List.head?_append, List.head?_replicate, if_neg (by omega)]
    rfl
  refine ⟨⟨rfl, by omega, 0, isFirst, by decide⟩, fun status => ?_⟩
  have counted := ((getServiceStatus_inactive _ rfl 5 6000000000 isFirst).mp status).1
  rw [isLength] at counted
  exact absurd counted (by decide)

end AzureSignalR.ServiceConnections.ServiceStatus
