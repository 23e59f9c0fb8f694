import AzureSignalR.ServiceConnections.ConnectionSelection

/-!
Contract: how `SelectConnection` of a container fails.

Owns: `SelectConnection` and `GetRandomActiveConnection` with their 32-bit indices, as one call
goes through them, and for which containers the call fails in one way only.

Does not own: statuses that change during a call.
-/

set_option autoImplicit false

namespace AzureSignalR.ServiceConnections.SelectConnection

open ContainerStatus (ServiceConnectionStatus)
open ConnectionSelection (startIndex startDirection)

inductive Failure where
  | serviceConnectionNotActive
  | divideByZero
  | argumentOutOfRange
deriving DecidableEq, Repr

structure Container (κ : Type) where
  serviceConnections : List κ
  statuses : κ → ServiceConnectionStatus
  /-- The targets of `_partitionedCache`, which has every key. -/
  partitionedCache : UInt8 → Option κ := fun _ => none
  /-- Inside a scope, what `OutboundServiceConnections` has for the endpoint. -/
  scope : Option (Option κ) := none

variable {κ : Type}

namespace Container

variable (container : Container κ)

def isActiveConnection (connection : κ) : Bool :=
  container.statuses connection = .connected

/-- What the call looks up before it goes through the list; `partitionKey` is there for a
partitionable message. -/
def cached (partitionKey : Option UInt8) : Option κ :=
  match container.scope with
  | some outbound => outbound
  | none => partitionKey.bind container.partitionedCache

/-- The cache behind the call. -/
def store (partitionKey : Option UInt8) (connection : Option κ) : Container κ :=
  match container.scope, partitionKey with
  | some _, _ => { container with scope := some connection }
  | none, some key =>
      { container with
        partitionedCache := Function.update container.partitionedCache key connection }
  | none, none => container

end Container

/-- `(index + direction) % count`, on 32-bit integers. -/
def nextIndex (index : Int) (direction count : Nat) : Int :=
  (Int.bmod (index + direction) (2 ^ 32)).tmod count

/-- `currentConnections[index]`. -/
def elementAt (currentConnections : List κ) (index : Int) : Option κ :=
  if index < 0 then none else currentConnections[index.toNat]?

/-- The loop of `GetRandomActiveConnection`, with the retries that are left. -/
def scan (container : Container κ) (direction : Nat) :
    (left : Nat) → (index : Int) → Except Failure (Option κ)
  | 0, _ => .ok none
  | left + 1, index =>
      match elementAt container.serviceConnections index with
      | none => .error .argumentOutOfRange
      | some connection =>
          if container.isActiveConnection connection then .ok (some connection)
          else
            scan container direction left
              (nextIndex index direction container.serviceConnections.length)

/-- `initial` is what `StaticRandom.Next` gives. -/
def getRandomActiveConnection (container : Container κ) (initial : Int) :
    Except Failure (Option κ) :=
  let count := container.serviceConnections.length
  -- `% count` throws.
  if count = 0 then .error .divideByZero
  else scan container (startDirection initial count) count (startIndex initial count)

/-- The result, and the container with its cache behind the call. -/
def selectConnection (container : Container κ) (partitionKey : Option UInt8) (initial : Int) :
    Except Failure κ × Container κ :=
  match (container.cached partitionKey).filter container.isActiveConnection with
  | some connection => (.ok connection, container)
  | none =>
      match getRandomActiveConnection container initial with
      | .error failure => (.error failure, container)
      | .ok connection =>
          (match connection with
            | some connection => .ok connection
            | none => .error .serviceConnectionNotActive,
            container.store partitionKey connection)

/-- What `StaticRandom.Next(-count, count)` can give. -/
def Drawn (initial : Int) (count : Nat) : Prop :=
  -(count : Int) ≤ initial ∧ initial < count ∨ count = 0 ∧ initial = 0

/-! ## Failing in one way only -/

def Usable (container : Container κ) (partitionKey : Option UInt8) : Prop :=
  ∃ connection, container.cached partitionKey = some connection ∧
    container.statuses connection = .connected

structure Selects (container : Container κ) (partitionKey : Option UInt8) (initial : Int) :
    Prop where
  returns : ∀ connection, (selectConnection container partitionKey initial).1 = .ok connection →
    container.statuses connection = .connected ∧
      (connection ∈ container.serviceConnections ∨
        container.cached partitionKey = some connection)
  throws : ∀ failure, (selectConnection container partitionKey initial).1 = .error failure →
    failure = .serviceConnectionNotActive
  exactly : (selectConnection container partitionKey initial).1 =
      .error .serviceConnectionNotActive ↔
    (∀ connection ∈ container.serviceConnections, container.statuses connection ≠ .connected) ∧
      ¬ Usable container partitionKey

/-! ## The loop -/

section Scan

variable {container : Container κ} {direction : Nat}

theorem elementAt_natCast (currentConnections : List κ) (index : Nat) :
    elementAt currentConnections index = currentConnections[index]? := by
  rw [elementAt, if_neg (by omega), Int.toNat_natCast]

theorem scan_active {left : Nat} {index : Int} {connection : κ}
    (isElement : elementAt container.serviceConnections index = some connection)
    (active : container.isActiveConnection connection = true) :
    scan container direction (left + 1) index = .ok (some connection) := by
  rw [scan, isElement]
  exact if_pos active

theorem scan_inactive {left : Nat} {index : Int} {connection : κ}
    (isElement : elementAt container.serviceConnections index = some connection)
    (inactive : ¬ container.isActiveConnection connection = true) :
    scan container direction (left + 1) index =
      scan container direction left
        (nextIndex index direction container.serviceConnections.length) := by
  rw [scan, isElement]
  exact if_neg inactive

/-- What it returns is an active connection of the list. -/
theorem scan_some {left : Nat} {index : Int} {connection : κ}
    (found : scan container direction left index = .ok (some connection)) :
    connection ∈ container.serviceConnections ∧ container.statuses connection = .connected := by
  induction left generalizing index with
  | zero => cases found
  | succ left inductionHypothesis =>
      rw [scan] at found
      split at found
      next => cases found
      next other isElement =>
        split_ifs at found with active
        · cases found
          rw [elementAt] at isElement
          split_ifs at isElement
          exact ⟨List.mem_of_getElem? isElement, of_decide_eq_true active⟩
        · exact inductionHypothesis found

/-- A step forward or backward, while the sum stays below the sign bit. -/
theorem nextIndex_eq {index count : Nat} (below : index + direction < 2 ^ 31) :
    nextIndex index direction count = ((index + direction) % count : Nat) := by
  have same : Int.bmod ((index : Int) + direction) (2 ^ 32) =
      ((index + direction : Nat) : Int) := by
    rw [Int.bmod_eq_of_le]
    · omega
    · omega
    · omega
  rw [nextIndex, same, Int.tmod_eq_emod_of_nonneg (by omega)]
  omega

/-- How many steps the loop is away from a position. -/
def distance (direction count index target : Nat) : Nat :=
  if direction = 1 then
    if index ≤ target then target - index else target + count - index
  else if target ≤ index then index - target
  else index + count - target

theorem distance_lt {count index target : Nat} (atIndex : index < count)
    (atTarget : target < count) : distance direction count index target < count := by
  rw [distance]
  split_ifs <;> omega

/-- A step that does not start at the position comes nearer to it. -/
theorem distance_next {count index target : Nat} (step : direction = 1 ∨ direction = count - 1)
    (atIndex : index < count) (atTarget : target < count) (different : index ≠ target) :
    distance direction count ((index + direction) % count) target + 1 =
      distance direction count index target := by
  have next : (index + direction) % count =
      if index + direction < count then index + direction else index + direction - count := by
    split_ifs with below
    · exact Nat.mod_eq_of_lt below
    · rw [Nat.mod_eq_sub_mod (by omega), Nat.mod_eq_of_lt (by omega)]
  rw [next, distance, distance]
  split_ifs <;> omega

/-- The loop comes to every position in time. -/
theorem scan_finds {left index target : Nat}
    (small : container.serviceConnections.length ≤ 2 ^ 30)
    (step : direction = 1 ∨ direction = container.serviceConnections.length - 1)
    (atIndex : index < container.serviceConnections.length)
    (atTarget : target < container.serviceConnections.length)
    (active : container.isActiveConnection container.serviceConnections[target] = true)
    (enough : distance direction container.serviceConnections.length index target < left) :
    ∃ connection, scan container direction left index = .ok (some connection) := by
  induction left generalizing index with
  | zero => omega
  | succ left inductionHypothesis =>
      have isElement := (elementAt_natCast container.serviceConnections index).trans
        (List.getElem?_eq_getElem atIndex)
      by_cases here : container.isActiveConnection container.serviceConnections[index] = true
      · exact ⟨_, scan_active isElement here⟩
      · have different : index ≠ target := by
          rintro rfl
          exact here active
        have nearer := distance_next step atIndex atTarget different
        rw [scan_inactive isElement here, nextIndex_eq (by omega)]
        exact inductionHypothesis (Nat.mod_lt _ (by omega)) (by omega)

/-- It never leaves the list. -/
theorem scan_ok {index : Nat} (left : Nat)
    (small : container.serviceConnections.length ≤ 2 ^ 30)
    (step : direction = 1 ∨ direction = container.serviceConnections.length - 1)
    (atIndex : index < container.serviceConnections.length) :
    ∃ found, scan container direction left index = .ok found := by
  induction left generalizing index with
  | zero => exact ⟨none, rfl⟩
  | succ left inductionHypothesis =>
      have isElement := (elementAt_natCast container.serviceConnections index).trans
        (List.getElem?_eq_getElem atIndex)
      by_cases here : container.isActiveConnection container.serviceConnections[index] = true
      · exact ⟨_, scan_active isElement here⟩
      · rw [scan_inactive isElement here, nextIndex_eq (by omega)]
        exact inductionHypothesis (Nat.mod_lt _ (by omega))

end Scan

/-! ## The call -/

section Call

variable {container : Container κ} {partitionKey : Option UInt8} {initial : Int}

theorem selectConnection_usable (initial : Int) (usable : Usable container partitionKey) :
    ∃ connection, (selectConnection container partitionKey initial).1 = .ok connection ∧
      container.cached partitionKey = some connection ∧
        container.statuses connection = .connected := by
  obtain ⟨connection, isCached, connected⟩ := usable
  refine ⟨connection, ?_, isCached, connected⟩
  have active : container.isActiveConnection connection = true := decide_eq_true connected
  rw [selectConnection, isCached, Option.filter_some, if_pos active]

theorem selects_of_usable (usable : Usable container partitionKey) :
    Selects container partitionKey initial := by
  obtain ⟨cached, selected, isCached, connected⟩ :=
    selectConnection_usable initial usable
  constructor
  · intro connection returned
    rw [selected] at returned
    cases returned
    exact ⟨connected, .inr isCached⟩
  · intro failure failed
    rw [selected] at failed
    cases failed
  · rw [selected]
    exact ⟨nofun, fun none => absurd usable none.2⟩

/-- Without a usable connection in its cache, the call goes through the list. -/
theorem selectConnection_unusable (initial : Int) (unusable : ¬ Usable container partitionKey) :
    (selectConnection container partitionKey initial).1 =
      match getRandomActiveConnection container initial with
      | .error failure => .error failure
      | .ok (some connection) => .ok connection
      | .ok none => .error .serviceConnectionNotActive := by
  have none : (container.cached partitionKey).filter container.isActiveConnection = none := by
    rw [Option.filter_eq_none_iff]
    intro connection isCached active
    exact unusable ⟨connection, isCached, of_decide_eq_true active⟩
  rw [selectConnection, none]
  cases getRandomActiveConnection container initial with
  | error failure => rfl
  | ok found =>
      cases found with
      | none => rfl
      | some connection => rfl

/-- A list of connections whose indices do not overflow. -/
theorem selects_of_length (nonempty : 0 < container.serviceConnections.length)
    (small : container.serviceConnections.length ≤ 2 ^ 30) :
    Selects container partitionKey initial := by
  by_cases usable : Usable container partitionKey
  · exact selects_of_usable usable
  have step : startDirection initial container.serviceConnections.length = 1 ∨
      startDirection initial container.serviceConnections.length =
        container.serviceConnections.length - 1 := by
    rw [startDirection]
    split_ifs
    · exact .inl rfl
    · exact .inr rfl
  have atIndex : startIndex initial container.serviceConnections.length <
      container.serviceConnections.length := Nat.mod_lt _ nonempty
  have selected := selectConnection_unusable initial usable
  rw [getRandomActiveConnection, if_neg (by omega)] at selected
  obtain ⟨found, scanned⟩ := scan_ok container.serviceConnections.length small step atIndex
  rw [scanned] at selected
  cases found with
  | some connection =>
      obtain ⟨member, connected⟩ := scan_some scanned
      constructor
      · intro other returned
        rw [selected] at returned
        cases returned
        exact ⟨connected, .inl member⟩
      · intro failure failed
        rw [selected] at failed
        cases failed
      · rw [selected]
        exact ⟨nofun, fun none => absurd connected (none.1 connection member)⟩
  | none =>
      constructor
      · intro other returned
        rw [selected] at returned
        cases returned
      · intro failure failed
        rw [selected] at failed
        cases failed
        rfl
      · rw [selected]
        refine ⟨fun _ => ⟨fun connection member connected => ?_, usable⟩, fun _ => rfl⟩
        obtain ⟨target, atTarget, isTarget⟩ := List.getElem_of_mem member
        obtain ⟨other, reached⟩ := scan_finds small step atIndex atTarget
          (by rw [isTarget]; exact decide_eq_true connected) (distance_lt atIndex atTarget)
        rw [scanned] at reached
        cases reached

/-- Without connections the modulus throws. -/
theorem selects_empty_iff (empty : container.serviceConnections = []) :
    Selects container partitionKey initial ↔ Usable container partitionKey := by
  constructor
  · intro selects
    by_contra unusable
    have failed := selectConnection_unusable initial unusable
    rw [getRandomActiveConnection, empty] at failed
    have notActive := selects.throws .divideByZero failed
    cases notActive
  · exact selects_of_usable

end Call

/-! ## Large lists -/

section Large

variable {container : Container κ}

/-- The sum overflows at the last position: the index is negative or the first again. -/
theorem nextIndex_last {count : Nat} (large : 2 ^ 30 < count) (bounded : count < 2 ^ 31) :
    nextIndex ((count - 1 : Nat) : Int) (count - 1) count ≤ 0 := by
  have wraps : Int.bmod (((count - 1 : Nat) : Int) + ((count - 1 : Nat) : Int)) (2 ^ 32) ≤ 0 := by
    rw [Int.bmod_def]
    split_ifs <;> omega
  rw [nextIndex, ← Int.neg_neg (Int.bmod _ _), Int.neg_tmod]
  have nonneg := Int.tmod_nonneg (count : Int) (Int.neg_nonneg_of_nonpos wraps)
  omega

/-- From the first position backwards the loop leaves a list of more than 2³⁰ connections, or
sees nothing of it but the two ends. -/
theorem scan_large {index : Int} {one other : κ}
    (large : 2 ^ 30 < container.serviceConnections.length)
    (bounded : container.serviceConnections.length < 2 ^ 31)
    (first : elementAt container.serviceConnections 0 = some one)
    (last : elementAt container.serviceConnections
      ((container.serviceConnections.length - 1 : Nat) : Int) = some other)
    (firstInactive : ¬ container.isActiveConnection one = true)
    (lastInactive : ¬ container.isActiveConnection other = true)
    (ends : index ≤ 0 ∨ index = ((container.serviceConnections.length - 1 : Nat) : Int))
    (left : Nat) :
    scan container (container.serviceConnections.length - 1) left index = .ok none ∨
      scan container (container.serviceConnections.length - 1) left index =
        .error .argumentOutOfRange := by
  induction left generalizing index with
  | zero => exact .inl rfl
  | succ left inductionHypothesis =>
      rcases ends with low | atLast
      · by_cases atFirst : index = 0
        · rw [atFirst, scan_inactive first firstInactive]
          refine inductionHypothesis (.inr ?_)
          show nextIndex ((0 : Nat) : Int) _ _ = _
          rw [nextIndex_eq (by omega), Nat.zero_add, Nat.mod_eq_of_lt (by omega)]
        · right
          rw [scan, elementAt, if_pos (by omega)]
      · rw [atLast, scan_inactive last lastInactive]
        exact inductionHypothesis (.inl (nextIndex_last large bounded))

end Large

/-- A list of `count` connections of which only the second is active. -/
def secondOf (one other : κ) (count : Nat) : List κ :=
  one :: other :: List.replicate (count - 2) one

theorem selects_large [DecidableEq κ] {one other : κ} (distinct : one ≠ other) {count : Nat}
    (large : 2 ^ 30 < count) (bounded : count < 2 ^ 31) :
    let container : Container κ := {
      serviceConnections := secondOf one other count
      statuses := fun connection => if connection = other then .connected else .inited }
    container.serviceConnections.length = count ∧ ¬ Usable container none ∧
      ¬ Selects container none 0 := by
  intro container
  have isLength : container.serviceConnections.length = count := by
    show (secondOf one other count).length = count
    rw [secondOf, List.length_cons, List.length_cons, List.length_replicate]
    omega
  have inactive : ¬ container.isActiveConnection one = true := by
    show ¬ decide ((if one = other then ServiceConnectionStatus.connected else .inited) = _) = true
    rw [if_neg distinct]
    nofun
  have unusable : ¬ Usable container none := by
    rintro ⟨connection, isCached, -⟩
    cases isCached
  refine ⟨isLength, unusable, fun selects => ?_⟩
  have first : elementAt container.serviceConnections 0 = some one := rfl
  have last : elementAt container.serviceConnections
      ((container.serviceConnections.length - 1 : Nat) : Int) = some one := by
    rw [elementAt_natCast, isLength]
    show (secondOf one other count)[count - 1]? = _
    obtain ⟨more, isCount⟩ : ∃ more, count = more + 3 := ⟨count - 3, by omega⟩
    rw [isCount]
    show (List.replicate (more + 1) one)[more]? = _
    rw [List.getElem?_replicate, if_pos (Nat.lt_succ_self more)]
  have ends := scan_large (by omega) (by omega) first last inactive inactive (.inl (le_refl 0))
    container.serviceConnections.length
  have selected := selectConnection_unusable 0 unusable
  rw [getRandomActiveConnection, if_neg (by omega)] at selected
  have direction : startDirection 0 container.serviceConnections.length =
    container.serviceConnections.length - 1 := rfl
  have index : startIndex 0 container.serviceConnections.length = 0 := Nat.zero_mod _
  rw [direction, index] at selected
  rcases ends with none | outside
  · rw [show ((0 : Nat) : Int) = 0 from rfl, none] at selected
    have allInactive := (selects.exactly.mp selected).1 other (List.mem_cons_of_mem _
      List.mem_cons_self)
    refine allInactive ?_
    show (if other = other then ServiceConnectionStatus.connected else .inited) = _
    exact if_pos rfl
  · rw [show ((0 : Nat) : Int) = 0 from rfl, outside] at selected
    have notActive := selects.throws _ selected
    cases notActive

/-- `SelectConnection` fails in only one way where it has a usable cached connection, or a list
of between one and 2³⁰ connections; an empty list takes the modulus of zero. -/
theorem selection_fails_one_way [Nontrivial κ] :
    (∀ (container : Container κ) (partitionKey : Option UInt8) (initial : Int),
      Usable container partitionKey → Selects container partitionKey initial) ∧
    (∀ (container : Container κ) (partitionKey : Option UInt8) (initial : Int),
      container.serviceConnections = [] →
        (Selects container partitionKey initial ↔ Usable container partitionKey)) ∧
    ∀ count < 2 ^ 31,
      ((∀ (container : Container κ) (partitionKey : Option UInt8) (initial : Int),
        container.serviceConnections.length = count → Drawn initial count →
          ¬ Usable container partitionKey → Selects container partitionKey initial) ↔
      0 < count ∧ count ≤ 2 ^ 30) := by
  classical
  refine ⟨fun _ _ _ => selects_of_usable, fun _ _ _ => selects_empty_iff, fun count bounded => ?_⟩
  constructor
  · intro always
    constructor
    · by_contra empty
      have isZero : count = 0 := by omega
      have connection : κ := Classical.arbitrary κ
      have selects := always { serviceConnections := [], statuses := fun _ => .inited } none 0
        isZero.symm (.inr ⟨isZero, rfl⟩) nofun
      obtain ⟨connection, isCached, -⟩ := (selects_empty_iff rfl).mp selects
      cases isCached
    · by_contra large
      obtain ⟨one, other, distinct⟩ := exists_pair_ne κ
      obtain ⟨isLength, unusable, fails⟩ := selects_large distinct (by omega) bounded
      exact fails (always _ none 0 isLength (.inl (by omega)) unusable)
  · rintro ⟨nonempty, small⟩ container partitionKey initial rfl - -
    exact selects_of_length nonempty small

/-- Five connections of which only the last is connected; another one is cached for key 7. -/
def lastConnected : Container (Fin 5) where
  serviceConnections := [0, 1, 2, 3, 4]
  statuses connection := if connection = 4 then .connected else .disconnected
  partitionedCache key := if key = 7 then some 1 else none

theorem selection_fails_one_way_last : Selects lastConnected (some 7) (-3) := by
  have several : Nontrivial (Fin 5) := ⟨0, 1, by decide⟩
  refine ((selection_fails_one_way (κ := Fin 5)).2.2 5 (by decide)).mpr (by decide) _ _ _ rfl
    (.inl (by decide)) ?_
  rintro ⟨connection, isCached, connected⟩
  cases isCached
  cases connected

/-- A container without server connections throws a `DivideByZeroException`. -/
theorem no_connections_divide_by_zero :
    (selectConnection (κ := Bool) { serviceConnections := [], statuses := fun _ => .inited }
        none 0).1 = .error .divideByZero ∧
      ¬ Selects (κ := Bool) { serviceConnections := [], statuses := fun _ => .inited } none 0 := by
  refine ⟨rfl, fun selects => ?_⟩
  have notActive := selects.throws .divideByZero rfl
  cases notActive

end AzureSignalR.ServiceConnections.SelectConnection
