import AzureSignalR.Endpoints.ServiceEndpoint
import AzureSignalR.Library.WeightedChoice

/-!
Contract: the endpoint that a negotiate request is sent to.

Owns: `DefaultEndpointRouter.GetNegotiateEndpoint`, the fallback from primary to secondary
endpoints, the weights with their 32-bit sum, and how often each endpoint is drawn.

Does not own: chance and floating point. `Random.Next` gives any number below its bound, and the
share of the capacity that remains, times 1000 and cut off, is any function of the two counts.
-/

set_option autoImplicit false

namespace AzureSignalR.Endpoints.DefaultEndpointRouter

open Library

structure EndpointMetrics where
  clientConnectionCount : Int32 := 0
  serverConnectionCount : Int32 := 0
  connectionCapacity : Int32 := 0
deriving DecidableEq, Repr

/-- A `ServiceEndpoint` with what the router reads of it. -/
structure RoutedEndpoint (υ : Type) extends ServiceEndpoint υ where
  online : Bool := true
  endpointMetrics : EndpointMetrics := {}
deriving DecidableEq, Repr

inductive RouterError where
  /-- `AzureSignalRNotConnectedException`. -/
  | notConnected
  | indexOutOfRange
deriving DecidableEq, Repr

variable {υ : Type}

def isAvailable (endpointType : EndpointType) (endpoint : RoutedEndpoint υ) : Bool :=
  endpoint.online && endpoint.endpointType = endpointType

def getNegotiateEndpoints (endpoints : List (RoutedEndpoint υ)) :
    Except RouterError (List (RoutedEndpoint υ)) :=
  let primary := endpoints.filter (isAvailable .primary)
  if 0 < primary.length then .ok primary
  else
    let secondary := endpoints.filter (isAvailable .secondary)
    if secondary.length = 0 then .error .notConnected else .ok secondary

section Weights

-- `share` is `(int)((double)remain / ConnectionCapacity * 1000)`.
variable (share : (remain connectionCapacity : Int32) → Int32)

def weight (endpoint : RoutedEndpoint υ) : Int32 :=
  let endpointMetrics := endpoint.endpointMetrics
  let remain := endpointMetrics.connectionCapacity -
    (endpointMetrics.clientConnectionCount + endpointMetrics.serverConnectionCount)
  let weight := share remain endpointMetrics.connectionCapacity
  if 1 ≤ weight then weight else 1

/-- What the loop leaves in `we` and in `totalCapacity`. -/
def weigh : List (RoutedEndpoint υ) → (totalCapacity : Int32) → List Int32 × Int32
  | [], totalCapacity => ([], totalCapacity)
  | endpoint :: endpoints, totalCapacity =>
      let totalCapacity := totalCapacity + weight share endpoint
      let (we, last) := weigh endpoints totalCapacity
      (totalCapacity :: we, last)

/-- The weight is not available or not necessary. -/
def isUniform (availableEndpoints : List (RoutedEndpoint υ)) : Bool :=
  availableEndpoints.any (fun endpoint => endpoint.endpointMetrics.connectionCapacity = 0) ||
    availableEndpoints.length = 1

/-- The index into the array; `next` is `StaticRandom.Next`. -/
def getIndexAccordingToWeight (availableEndpoints : List (RoutedEndpoint υ))
    (next : Int32 → Int32) : Int :=
  if isUniform availableEndpoints then (next (Int32.ofNat availableEndpoints.length)).toInt
  else
    let (we, totalCapacity) := weigh share availableEndpoints 0
    let index := next totalCapacity
    WeightedChoice.findLastIndex (fun total => total ≤ index) we + 1

def getEndpointAccordingToWeight (availableEndpoints : List (RoutedEndpoint υ))
    (next : Int32 → Int32) : Except RouterError (RoutedEndpoint υ) :=
  match getIndexAccordingToWeight share availableEndpoints next with
  | .ofNat index =>
      match availableEndpoints[index]? with
      | some endpoint => .ok endpoint
      | none => .error .indexOutOfRange
  | .negSucc _ => .error .indexOutOfRange

def getNegotiateEndpoint (endpoints : List (RoutedEndpoint υ)) (next : Int32 → Int32) :
    Except RouterError (RoutedEndpoint υ) := do
  let availableEndpoints ← getNegotiateEndpoints endpoints
  getEndpointAccordingToWeight share availableEndpoints next

end Weights

/-! ## The endpoints to choose from -/

theorem getNegotiateEndpoints_eq_error {endpoints : List (RoutedEndpoint υ)} {error : RouterError} :
    getNegotiateEndpoints endpoints = .error error ↔
      error = .notConnected ∧ ∀ endpoint ∈ endpoints, endpoint.online = false := by
  have split : (∀ endpoint ∈ endpoints, endpoint.online = false) ↔
      endpoints.filter (isAvailable .primary) = [] ∧
        endpoints.filter (isAvailable .secondary) = [] := by
    rw [List.filter_eq_nil_iff, List.filter_eq_nil_iff, ← forall₂_and]
    apply forall₂_congr
    intro endpoint _
    rw [isAvailable, isAvailable]
    cases endpoint.online with
    | false => simp
    | true => cases endpoint.endpointType <;> simp
  rw [split, getNegotiateEndpoints]
  by_cases primary : endpoints.filter (isAvailable .primary) = []
  · by_cases secondary : endpoints.filter (isAvailable .secondary) = []
    · simp [primary, secondary, eq_comm]
    · simp [primary, secondary]
  · have positive := List.length_pos_iff.mpr primary
    simp [primary, positive]

/-- Online primary endpoints, or else online secondary ones, and at least one of them. -/
theorem getNegotiateEndpoints_eq_ok {endpoints available : List (RoutedEndpoint υ)}
    (isOk : getNegotiateEndpoints endpoints = .ok available) :
    available ≠ [] ∧ ∃ endpointType, available = endpoints.filter (isAvailable endpointType) ∧
      (endpointType = .primary ↔ ∃ endpoint ∈ endpoints, isAvailable .primary endpoint) := by
  rw [getNegotiateEndpoints] at isOk
  have exists_iff : (∃ endpoint ∈ endpoints, isAvailable .primary endpoint) ↔
      0 < (endpoints.filter (isAvailable .primary)).length := by
    rw [List.length_pos_iff_exists_mem]
    simp only [List.mem_filter]
  simp only at isOk
  split_ifs at isOk with primary secondary
  · obtain rfl := Except.ok.inj isOk
    exact ⟨List.length_pos_iff.mp primary, .primary, rfl, iff_of_true rfl (exists_iff.mpr primary)⟩
  · obtain rfl := Except.ok.inj isOk
    refine ⟨fun none => secondary (List.length_eq_zero_iff.mpr none), .secondary, rfl, ?_⟩
    exact iff_of_false nofun fun also => primary (exists_iff.mp also)

/-! ## The draw -/

section Draw

variable {share : (remain connectionCapacity : Int32) → Int32}

variable (share) in
/-- The weights as numbers. -/
def weights (available : List (RoutedEndpoint υ)) : List Nat :=
  available.map fun endpoint => (weight share endpoint).toInt.toNat

variable (share) in
theorem one_le_weight (endpoint : RoutedEndpoint υ) : 1 ≤ (weight share endpoint).toInt := by
  have atLeast : (1 : Int32) ≤ weight share endpoint := by
    unfold weight
    simp only
    split_ifs with enough
    · exact enough
    · decide
  exact Int32.le_iff_toInt_le.mp atLeast

variable (share) in
/-- While the sum fits an `int`, the totals are those of the numbers. -/
theorem weigh_eq (available : List (RoutedEndpoint υ)) {totalCapacity : Int32} {start : Nat}
    (isStart : totalCapacity.toInt = start)
    (fits : start + (weights share available).sum < 2 ^ 31) (index : Int32) (draw : Nat)
    (isDraw : index.toInt = draw) :
    (weigh share available totalCapacity).2.toInt =
        (start + (weights share available).sum : Nat) ∧
      WeightedChoice.findLastIndex (fun total => total ≤ index)
          (weigh share available totalCapacity).1 =
        WeightedChoice.findLastIndex (fun total => total ≤ draw)
          (WeightedChoice.totals start (weights share available)) := by
  induction available generalizing totalCapacity start with
  | nil => exact ⟨isStart, rfl⟩
  | cons endpoint available inductionHypothesis =>
      have positive := one_le_weight share endpoint
      have sum : (weights share (endpoint :: available)).sum =
          (weight share endpoint).toInt.toNat + (weights share available).sum := List.sum_cons
      rw [sum, ← Nat.add_assoc] at fits ⊢
      have added : (totalCapacity + weight share endpoint).toInt =
          (start + (weight share endpoint).toInt.toNat : Nat) := by
        have same : ((start + (weight share endpoint).toInt.toNat : Nat) : Int) =
            start + (weight share endpoint).toInt := by omega
        rw [Int32.toInt_add, isStart, same]
        apply Int.bmod_eq_of_le
        · omega
        · omega
      obtain ⟨last, found⟩ := inductionHypothesis added fits
      refine ⟨last, ?_⟩
      have first : (totalCapacity + weight share endpoint ≤ index) ↔
          start + (weight share endpoint).toInt.toNat ≤ draw := by
        rw [Int32.le_iff_toInt_le, added, isDraw]
        omega
      show WeightedChoice.findLastIndex _ ((totalCapacity + weight share endpoint) :: _) =
        WeightedChoice.findLastIndex _ ((start + (weight share endpoint).toInt.toNat) ::
          WeightedChoice.totals _ (weights share available))
      unfold WeightedChoice.findLastIndex
      simp only [found, first]

variable (share) in
theorem length_weights (available : List (RoutedEndpoint υ)) :
    (weights share available).length = available.length := List.length_map _

variable (share) in
/-- Each weight is at least one. -/
theorem length_le_sum_weights (available : List (RoutedEndpoint υ)) :
    available.length ≤ (weights share available).sum := by
  induction available with
  | nil => exact Nat.le_refl _
  | cons endpoint available inductionHypothesis =>
      have positive := one_le_weight share endpoint
      have sum : (weights share (endpoint :: available)).sum =
          (weight share endpoint).toInt.toNat + (weights share available).sum := List.sum_cons
      rw [sum, List.length_cons]
      omega

/-- `next` gives a number below its bound. -/
def IsNext (next : Int32 → Int32) : Prop :=
  ∀ maxValue, 0 < maxValue.toInt →
    0 ≤ (next maxValue).toInt ∧ (next maxValue).toInt < maxValue.toInt

theorem getIndex_of_uniform {available : List (RoutedEndpoint υ)} {next : Int32 → Int32}
    (uniform : isUniform available = true) :
    getIndexAccordingToWeight share available next =
      (next (Int32.ofNat available.length)).toInt := by
  rw [getIndexAccordingToWeight, if_pos uniform]

/-- With weights, the draw chooses among their totals. -/
theorem getIndex_of_weights {available : List (RoutedEndpoint υ)} {next : Int32 → Int32}
    (weighted : isUniform available = false) (fits : (weights share available).sum < 2 ^ 31)
    {draw : Nat} (isDraw : (next (weigh share available 0).2).toInt = draw) :
    getIndexAccordingToWeight share available next =
      WeightedChoice.chosen 0 (weights share available) draw := by
  have zero : (0 : Int32).toInt = (0 : Nat) := rfl
  have found := (weigh_eq share available zero (by omega) _ draw isDraw).2
  have atLeast := WeightedChoice.findLastIndex_ge (fun total => decide (total ≤ draw))
    (WeightedChoice.totals 0 (weights share available))
  rw [getIndexAccordingToWeight, if_neg (by simp [weighted]), WeightedChoice.chosen]
  simp only [found]
  omega

theorem totalCapacity_eq {available : List (RoutedEndpoint υ)}
    (fits : (weights share available).sum < 2 ^ 31) :
    (weigh share available 0).2.toInt = (weights share available).sum := by
  have zero : (0 : Int32).toInt = (0 : Nat) := rfl
  have last := (weigh_eq share available zero (by omega) 0 0 zero).1
  rw [last, Nat.zero_add]

/-- The index is inside the array. -/
theorem getIndex_inside {available : List (RoutedEndpoint υ)} {next : Int32 → Int32}
    (isNext : IsNext next) (nonempty : available ≠ [])
    (fits : (weights share available).sum < 2 ^ 31) :
    ∃ index : Nat, index < available.length ∧
      getIndexAccordingToWeight share available next = index := by
  have positive := List.length_pos_iff.mpr nonempty
  have short := length_le_sum_weights share available
  cases uniform : isUniform available with
  | true =>
      have length : (Int32.ofNat available.length).toInt = available.length :=
        Int32.toInt_ofNat_of_lt (by omega)
      obtain ⟨low, high⟩ := isNext (Int32.ofNat available.length) (by omega)
      rw [getIndex_of_uniform uniform]
      exact ⟨(next (Int32.ofNat available.length)).toInt.toNat, by omega, by omega⟩
  | false =>
      have total := totalCapacity_eq fits
      obtain ⟨low, high⟩ := isNext (weigh share available 0).2 (by omega)
      have isDraw : (next (weigh share available 0).2).toInt =
          ((next (weigh share available 0).2).toInt.toNat : Nat) := by omega
      rw [getIndex_of_weights uniform fits isDraw]
      refine ⟨_, ?_, rfl⟩
      rw [← length_weights share]
      exact WeightedChoice.chosen_lt (Nat.zero_le _) (by omega)

theorem getEndpoint_of_index {available : List (RoutedEndpoint υ)} {next : Int32 → Int32}
    {index : Nat} (inside : index < available.length)
    (isIndex : getIndexAccordingToWeight share available next = index) :
    getEndpointAccordingToWeight share available next = .ok available[index] := by
  rw [getEndpointAccordingToWeight, isIndex]
  show (match available[index]? with | some endpoint => _ | none => _) = _
  rw [List.getElem?_eq_getElem inside]

theorem mem_of_getEndpoint {available : List (RoutedEndpoint υ)} {next : Int32 → Int32}
    {endpoint : RoutedEndpoint υ}
    (isOk : getEndpointAccordingToWeight share available next = .ok endpoint) :
    endpoint ∈ available := by
  rw [getEndpointAccordingToWeight] at isOk
  cases isIndex : getIndexAccordingToWeight share available next with
  | ofNat index =>
      rw [isIndex] at isOk
      simp only at isOk
      cases found : available[index]? with
      | none => simp [found] at isOk
      | some other =>
          rw [found] at isOk
          obtain rfl := Except.ok.inj isOk
          exact List.mem_of_getElem? found
  | negSucc index => simp [isIndex] at isOk

theorem getEndpoint_ne_notConnected (available : List (RoutedEndpoint υ)) (next : Int32 → Int32) :
    getEndpointAccordingToWeight share available next ≠ .error .notConnected := by
  rw [getEndpointAccordingToWeight]
  split
  · split
    · nofun
    · nofun
  · nofun

/-- As the draw ranges over the numbers below the total, every index comes up as often as the
weight of its endpoint says. -/
theorem countP_getIndex {available : List (RoutedEndpoint υ)}
    (weighted : isUniform available = false) (fits : (weights share available).sum < 2 ^ 31)
    {index : Nat} (inside : index < available.length) :
    (List.range (weights share available).sum).countP (fun draw =>
        getIndexAccordingToWeight share available (fun _ => Int32.ofNat draw) = index) =
      (weight share available[index]).toInt.toNat := by
  have isWeight : (weight share available[index]).toInt.toNat =
      (weights share available).get ⟨index, by rwa [length_weights]⟩ := by
    simp [weights]
  rw [isWeight, List.get_eq_getElem, ← WeightedChoice.countP_chosen 0, List.range_eq_range']
  apply List.countP_congr
  intro draw member
  have below : draw < 2 ^ 31 := by
    have bounds := List.mem_range'_1.mp member
    omega
  rw [getIndex_of_weights weighted fits (Int32.toInt_ofNat_of_lt below)]
  simp only [decide_eq_true_iff, Int.natCast_inj]

theorem getNegotiateEndpoint_of_ok {endpoints available : List (RoutedEndpoint υ)}
    (isAvailable : getNegotiateEndpoints endpoints = .ok available) (next : Int32 → Int32) :
    getNegotiateEndpoint share endpoints next =
      getEndpointAccordingToWeight share available next := by
  rw [getNegotiateEndpoint, isAvailable]
  rfl

theorem getNegotiateEndpoint_of_error {endpoints : List (RoutedEndpoint υ)} {error : RouterError}
    (fails : getNegotiateEndpoints endpoints = .error error) (next : Int32 → Int32) :
    getNegotiateEndpoint share endpoints next = .error error := by
  rw [getNegotiateEndpoint, fails]
  rfl

theorem getNegotiateEndpoint_eq_notConnected (endpoints : List (RoutedEndpoint υ))
    (next : Int32 → Int32) :
    getNegotiateEndpoint share endpoints next = .error .notConnected ↔
      ∀ endpoint ∈ endpoints, endpoint.online = false := by
  cases isAvailable : getNegotiateEndpoints endpoints with
  | error error =>
      obtain ⟨rfl, offline⟩ := getNegotiateEndpoints_eq_error.1 isAvailable
      exact iff_of_true (getNegotiateEndpoint_of_error isAvailable next) offline
  | ok available =>
      rw [getNegotiateEndpoint_of_ok isAvailable]
      apply iff_of_false (getEndpoint_ne_notConnected available next)
      intro offline
      rw [getNegotiateEndpoints_eq_error.2 ⟨rfl, offline⟩] at isAvailable
      exact nomatch isAvailable

theorem of_getNegotiateEndpoint_ok {endpoints : List (RoutedEndpoint υ)} {next : Int32 → Int32}
    {endpoint : RoutedEndpoint υ}
    (isOk : getNegotiateEndpoint share endpoints next = .ok endpoint) :
    endpoint ∈ endpoints ∧ endpoint.online = true ∧
      (endpoint.endpointType = .primary ↔
        ∃ other ∈ endpoints, other.online = true ∧ other.endpointType = .primary) := by
  cases isAvailable : getNegotiateEndpoints endpoints with
  | error error =>
      rw [getNegotiateEndpoint_of_error isAvailable] at isOk
      exact nomatch isOk
  | ok available =>
      obtain ⟨-, endpointType, rfl, isPrimary⟩ := getNegotiateEndpoints_eq_ok isAvailable
      rw [getNegotiateEndpoint_of_ok isAvailable] at isOk
      obtain ⟨member, both⟩ := List.mem_filter.mp (mem_of_getEndpoint isOk)
      simp only [DefaultEndpointRouter.isAvailable, Bool.and_eq_true, decide_eq_true_iff]
        at both isPrimary
      exact ⟨member, both.1, both.2 ▸ isPrimary⟩

theorem getNegotiateEndpoint_isOk {endpoints : List (RoutedEndpoint υ)} {next : Int32 → Int32}
    (someOnline : ∃ endpoint ∈ endpoints, endpoint.online = true) (isNext : IsNext next)
    (fits : ∀ available, getNegotiateEndpoints endpoints = .ok available →
      (weights share available).sum < 2 ^ 31) :
    ∃ endpoint, getNegotiateEndpoint share endpoints next = .ok endpoint := by
  cases isAvailable : getNegotiateEndpoints endpoints with
  | error error =>
      obtain ⟨-, offline⟩ := getNegotiateEndpoints_eq_error.1 isAvailable
      obtain ⟨endpoint, member, online⟩ := someOnline
      rw [offline endpoint member] at online
      exact nomatch online
  | ok available =>
      obtain ⟨nonempty, -⟩ := getNegotiateEndpoints_eq_ok isAvailable
      obtain ⟨index, inside, isIndex⟩ :=
        getIndex_inside isNext nonempty (fits available isAvailable)
      rw [getNegotiateEndpoint_of_ok isAvailable]
      exact ⟨_, getEndpoint_of_index inside isIndex⟩

/-- The choice by weights is exact and inside the array, and it is one among the online primary
endpoints, or the online secondary ones when no primary one is online. -/
theorem negotiate_endpoint_choice (share : (remain connectionCapacity : Int32) → Int32) :
    (∀ available : List (RoutedEndpoint υ), available ≠ [] →
      (weights share available).sum < 2 ^ 31 →
      (isUniform available = false →
        (weigh share available 0).2.toInt = (weights share available).sum ∧
        ∀ (index : Nat) (inside : index < available.length),
          1 ≤ (weight share available[index]).toInt ∧
          (List.range (weights share available).sum).countP (fun draw =>
              getIndexAccordingToWeight share available (fun _ => Int32.ofNat draw) = index) =
            (weight share available[index]).toInt.toNat) ∧
      ∀ next, IsNext next → ∃ (index : Nat) (inside : index < available.length),
        getIndexAccordingToWeight share available next = index ∧
          getEndpointAccordingToWeight share available next = .ok available[index]) ∧
    ∀ (endpoints : List (RoutedEndpoint υ)) (next : Int32 → Int32),
      (getNegotiateEndpoint share endpoints next = .error .notConnected ↔
        ∀ endpoint ∈ endpoints, endpoint.online = false) ∧
      (∀ endpoint, getNegotiateEndpoint share endpoints next = .ok endpoint →
        endpoint ∈ endpoints ∧ endpoint.online = true ∧
          (endpoint.endpointType = .primary ↔
            ∃ other ∈ endpoints, other.online = true ∧ other.endpointType = .primary)) ∧
      ((∃ endpoint ∈ endpoints, endpoint.online = true) → IsNext next →
        (∀ available, getNegotiateEndpoints endpoints = .ok available →
          (weights share available).sum < 2 ^ 31) →
          ∃ endpoint, getNegotiateEndpoint share endpoints next = .ok endpoint) := by
  constructor
  · intro available nonempty fits
    constructor
    · intro weighted
      refine ⟨totalCapacity_eq fits, fun index inside => ⟨one_le_weight share _, ?_⟩⟩
      exact countP_getIndex weighted fits inside
    · intro next isNext
      obtain ⟨index, inside, isIndex⟩ := getIndex_inside isNext nonempty fits
      exact ⟨index, inside, isIndex, getEndpoint_of_index inside isIndex⟩
  · intro endpoints next
    refine ⟨getNegotiateEndpoint_eq_notConnected endpoints next, ?_, ?_⟩
    · intro endpoint isOk
      exact of_getNegotiateEndpoint_ok isOk
    · intro someOnline isNext fits
      exact getNegotiateEndpoint_isOk someOnline isNext fits

theorem negotiate_endpoint_choice_two :
    let share : Int32 → Int32 → Int32 := fun remain _ => remain
    let first : RoutedEndpoint Nat := ⟨⟨⟨"", "a", .primary, 0, 0⟩, 0⟩, true, ⟨3, 1, 5⟩⟩
    let second : RoutedEndpoint Nat := ⟨⟨⟨"", "b", .primary, 1, 1⟩, 1⟩, true, ⟨1, 1, 5⟩⟩
    (List.range 4).countP (fun draw => getIndexAccordingToWeight share [first, second]
        (fun _ => Int32.ofNat draw) = (1 : Nat)) = 3 ∧
      ∃ endpoint, getNegotiateEndpoint share [first, second] (fun _ => 0) = .ok endpoint := by
  intro share first second
  have exact := negotiate_endpoint_choice (υ := Nat) share
  constructor
  · have total : (weights share [first, second]).sum = 4 := by decide
    have three : (weight share second).toInt.toNat = 3 := by decide
    have counted := (((exact.1 [first, second] nofun (by decide)).1 rfl).2 1 (by decide)).2
    rw [total] at counted
    exact counted.trans three
  · apply (exact.2 [first, second] fun _ => 0).2.2 ⟨first, List.mem_cons_self, rfl⟩
    · intro maxValue positive
      exact ⟨Int.le_refl _, positive⟩
    · intro available isAvailable
      obtain rfl : available = [first, second] := (Except.ok.inj isAvailable).symm
      decide

end Draw

end AzureSignalR.Endpoints.DefaultEndpointRouter
