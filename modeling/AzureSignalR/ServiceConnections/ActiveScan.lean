import AzureSignalR.Library.CyclicWalk
import AzureSignalR.ServiceConnections.SelectConnection

/-!
Contract: the connections that `GetRandomActiveConnection` inspects.

Owns: the passes of its loop, that they go around the list in both directions, and that the loop
covers the list without an overflow.

Does not own: statuses that change during the loop, and lists whose indices overflow. A connection
that is null has any status but `Connected`.
-/

set_option autoImplicit false

namespace AzureSignalR.ServiceConnections.ActiveScan

open ConnectionSelection (startIndex startDirection)
open ContainerStatus (ServiceConnectionStatus)
open Library
open SelectConnection

variable {κ : Type}

/-- A pass of the loop, which reads `currentConnections[index]`. -/
structure Pass where
  retry : Nat
  index : Int
deriving DecidableEq, Repr

/-- The loop with its passes. -/
def scanPasses (container : Container κ) (direction : Nat) :
    (left retry : Nat) → (index : Int) → List Pass × Except Failure (Option κ)
  | 0, _, _ => ([], .ok none)
  | left + 1, retry, index =>
      match elementAt container.serviceConnections index with
      | none => ([⟨retry, index⟩], .error .argumentOutOfRange)
      | some connection =>
          if container.isActiveConnection connection then
            ([⟨retry, index⟩], .ok (some connection))
          else
            let (passes, result) := scanPasses container direction left (retry + 1)
              (nextIndex index direction container.serviceConnections.length)
            (⟨retry, index⟩ :: passes, result)

/-- It is the loop. -/
theorem scanPasses_result (container : Container κ) (direction left retry : Nat) (index : Int) :
    (scanPasses container direction left retry index).2 = scan container direction left index := by
  induction left generalizing retry index with
  | zero => rfl
  | succ left inductionHypothesis =>
      rw [scanPasses, scan]
      cases elementAt container.serviceConnections index with
      | none => rfl
      | some connection =>
          show Prod.snd (if _ then _ else _) = if _ then _ else _
          split_ifs
          · rfl
          · exact inductionHypothesis _ _

/-- The passes of `GetRandomActiveConnection`. -/
def inspected (container : Container κ) (initial : Int) : List Pass :=
  let count := container.serviceConnections.length
  (scanPasses container (startDirection initial count) count 0 (startIndex initial count)).1

/-- `initial & int.MaxValue`. -/
def masked (initial : Int) : Int := if initial < 0 then initial + 2 ^ 31 else initial

/-- What it computes before the loop, and the sums behind a pass. -/
def computed (count : Nat) (initial : Int) (passes : List Pass) : List Int :=
  [-(count : Int), masked initial, (count : Int) - 1] ++
    passes.flatMap fun pass =>
      [(pass.retry : Int) + 1, pass.index + startDirection initial count]

def FitsInt32 (value : Int) : Prop := -2 ^ 31 ≤ value ∧ value < 2 ^ 31

/-- The connection that a pass reads is not active. -/
def Inactive (container : Container κ) (pass : Pass) : Prop :=
  ∃ connection, elementAt container.serviceConnections pass.index = some connection ∧
    container.statuses connection ≠ .connected

/-- What `GetRandomActiveConnection` is to do with a list whose statuses do not change. -/
structure Covers (container : Container κ) (initial : Int) : Prop where
  returns : ∃ found, getRandomActiveConnection container initial = .ok found
  inRange : ∀ pass ∈ inspected container initial,
    0 ≤ pass.index ∧ pass.index < container.serviceConnections.length
  distinct : ((inspected container initial).map Pass.index).Nodup
  /-- Before its last pass it has seen inactive connections only. -/
  goesOn : ∀ pass ∈ (inspected container initial).dropLast, Inactive container pass
  found : ∀ connection, getRandomActiveConnection container initial = .ok (some connection) →
    container.statuses connection = .connected ∧
      ∃ pass, (inspected container initial).getLast? = some pass ∧
        elementAt container.serviceConnections pass.index = some connection
  finds : (∃ connection ∈ container.serviceConnections,
      container.statuses connection = .connected) →
    ∃ connection, getRandomActiveConnection container initial = .ok (some connection)
  /-- It gives up behind the whole list. -/
  none : getRandomActiveConnection container initial = .ok none →
    ∀ index < container.serviceConnections.length,
      ∃ pass ∈ inspected container initial, pass.index = (index : Int)
  fits : ∀ value ∈ computed container.serviceConnections.length initial
    (inspected container initial), FitsInt32 value

/-! ## The loop around the list -/

section Loop

variable {container : Container κ} {direction start : Nat}

/-- The passes from one of them on, where the walk has come to it. -/
structure Scanned (container : Container κ) (direction start : Nat) (left retry first : Nat)
    (scanned : List Pass × Except Failure (Option κ)) : Prop where
  returns : ∃ found, scanned.2 = .ok found
  indices : scanned.1.map Pass.index <+:
    (CyclicWalk.places container.serviceConnections.length direction start first left).map (↑)
  retries : ∀ pass ∈ scanned.1, pass.retry < retry + left
  goesOn : ∀ pass ∈ scanned.1.dropLast, Inactive container pass
  found : ∀ connection, scanned.2 = .ok (some connection) →
    container.statuses connection = .connected ∧
      ∃ pass, scanned.1.getLast? = some pass ∧
        elementAt container.serviceConnections pass.index = some connection
  all : scanned.2 = .ok none → scanned.1.length = left ∧ ∀ pass ∈ scanned.1, Inactive container pass

theorem Scanned.zero (retry first : Nat) :
    Scanned container direction start 0 retry first ([], .ok none) where
  returns := ⟨none, rfl⟩
  indices := List.nil_prefix
  retries := nofun
  goesOn := nofun
  found := nofun
  all _ := ⟨rfl, nofun⟩

/-- The loop ends at an active connection. -/
theorem Scanned.active {left retry first : Nat} {pass : Pass} {connection : κ}
    (isRetry : pass.retry = retry)
    (isIndex : pass.index =
      CyclicWalk.place container.serviceConnections.length direction start first)
    (isElement : elementAt container.serviceConnections pass.index = some connection)
    (connected : container.statuses connection = .connected) :
    Scanned container direction start (left + 1) retry first ([pass], .ok (some connection)) where
  returns := ⟨some connection, rfl⟩
  indices := by
    rw [CyclicWalk.places_succ, List.map_cons, List.map_cons, isIndex, List.map_nil]
    exact List.prefix_append [_] _
  retries other member := by
    rw [List.mem_singleton.1 member]
    omega
  goesOn := nofun
  found other same := by
    cases same
    exact ⟨connected, pass, rfl, isElement⟩
  all := nofun

/-- It goes on behind an inactive one. -/
theorem Scanned.inactive {left retry first : Nat} {pass : Pass} {connection : κ}
    {behind : List Pass × Except Failure (Option κ)}
    (scanned : Scanned container direction start left (retry + 1) (first + 1) behind)
    (isRetry : pass.retry = retry)
    (isIndex : pass.index =
      CyclicWalk.place container.serviceConnections.length direction start first)
    (isElement : elementAt container.serviceConnections pass.index = some connection)
    (inactive : container.statuses connection ≠ .connected) :
    Scanned container direction start (left + 1) retry first (pass :: behind.1, behind.2) where
  returns := scanned.returns
  indices := by
    rw [CyclicWalk.places_succ, List.map_cons, List.map_cons, isIndex]
    exact List.prefix_cons_inj _ |>.2 scanned.indices
  retries other member := by
    rcases List.mem_cons.1 member with rfl | later
    · omega
    · have below := scanned.retries other later
      omega
  goesOn other member := by
    by_cases last : behind.1 = []
    · rw [last] at member
      cases member
    · rw [List.dropLast_cons_of_ne_nil last] at member
      rcases List.mem_cons.1 member with rfl | later
      · exact ⟨connection, isElement, inactive⟩
      · exact scanned.goesOn other later
  found other same := by
    obtain ⟨connected, last, isLast, isOther⟩ := scanned.found other same
    refine ⟨connected, last, ?_, isOther⟩
    rw [List.getLast?_cons, isLast]
    rfl
  all same := by
    obtain ⟨isLength, allInactive⟩ := scanned.all same
    refine ⟨congrArg (· + 1) isLength, fun other member => ?_⟩
    rcases List.mem_cons.1 member with rfl | later
    · exact ⟨connection, isElement, inactive⟩
    · exact allInactive other later

/-- The index behind a pass is the next place of the walk. -/
theorem nextIndex_place (small : container.serviceConnections.length < 2 ^ 30)
    (nonempty : 0 < container.serviceConnections.length)
    (stride : direction ≤ container.serviceConnections.length) (first : Nat) :
    nextIndex (CyclicWalk.place container.serviceConnections.length direction start first)
        direction container.serviceConnections.length =
      CyclicWalk.place container.serviceConnections.length direction start (first + 1) := by
  have inside := CyclicWalk.place_lt nonempty direction start first
  rw [nextIndex_eq (by omega), CyclicWalk.place_succ]

theorem scanned_passes (small : container.serviceConnections.length < 2 ^ 30)
    (nonempty : 0 < container.serviceConnections.length)
    (stride : direction ≤ container.serviceConnections.length) (start left retry first : Nat) :
    Scanned container direction start left retry first
      (scanPasses container direction left retry
        (CyclicWalk.place container.serviceConnections.length direction start first)) := by
  induction left generalizing retry first with
  | zero => exact .zero retry first
  | succ left inductionHypothesis =>
      have inside := CyclicWalk.place_lt nonempty direction start first
      have isElement := (elementAt_natCast container.serviceConnections _).trans
        (List.getElem?_eq_getElem inside)
      rw [scanPasses, isElement]
      show Scanned _ _ _ _ _ _ (if _ then _ else _)
      split_ifs with active
      · exact .active rfl rfl isElement (of_decide_eq_true active)
      · rw [nextIndex_place small nonempty stride]
        exact (inductionHypothesis (retry + 1) (first + 1)).inactive rfl rfl isElement
          (fun connected => active (decide_eq_true connected))

end Loop

/-! ## One round -/

section Round

variable {container : Container κ} {direction start : Nat}
  {scanned : List Pass × Except Failure (Option κ)}

theorem Scanned.mem_places {left retry first : Nat}
    (sound : Scanned container direction start left retry first scanned) {pass : Pass}
    (member : pass ∈ scanned.1) :
    ∃ position ∈ CyclicWalk.places container.serviceConnections.length direction start first left,
      (position : Int) = pass.index :=
  List.mem_map.1 (sound.indices.subset (List.mem_map_of_mem member))

theorem Scanned.inRange {left retry first : Nat}
    (sound : Scanned container direction start left retry first scanned)
    (nonempty : 0 < container.serviceConnections.length) {pass : Pass} (member : pass ∈ scanned.1) :
    0 ≤ pass.index ∧ pass.index < container.serviceConnections.length := by
  have ⟨position, isPlace, isIndex⟩ := sound.mem_places member
  have inside := CyclicWalk.lt_of_mem_places nonempty isPlace
  omega

theorem Scanned.distinct
    (sound : Scanned container direction start container.serviceConnections.length 0 0 scanned)
    (coprime : container.serviceConnections.length.Coprime direction) :
    (scanned.1.map Pass.index).Nodup := by
  apply sound.indices.sublist.nodup
  exact (CyclicWalk.places_nodup coprime).map fun one other same => Int.ofNat.inj same

/-- A loop that gives up has come to every index. -/
theorem Scanned.reaches
    (sound : Scanned container direction start container.serviceConnections.length 0 0 scanned)
    (coprime : container.serviceConnections.length.Coprime direction)
    (gaveUp : scanned.2 = .ok none) {index : Nat}
    (inside : index < container.serviceConnections.length) :
    ∃ pass ∈ scanned.1, pass.index = (index : Int) := by
  have whole : (scanned.1.map Pass.index) =
      (CyclicWalk.places container.serviceConnections.length direction start 0
        container.serviceConnections.length).map (↑) := by
    apply sound.indices.eq_of_length
    rw [List.length_map, List.length_map, CyclicWalk.places, List.length_map, List.length_range',
      (sound.all gaveUp).1]
  apply List.mem_map.1
  rw [whole]
  exact List.mem_map_of_mem (CyclicWalk.mem_places coprime inside)

theorem Scanned.finds
    (sound : Scanned container direction start container.serviceConnections.length 0 0 scanned)
    (coprime : container.serviceConnections.length.Coprime direction) {connection : κ}
    (member : connection ∈ container.serviceConnections)
    (connected : container.statuses connection = .connected) :
    ∃ found, scanned.2 = .ok (some found) := by
  obtain ⟨result, isResult⟩ := sound.returns
  cases result with
  | some found => exact ⟨found, isResult⟩
  | none =>
      obtain ⟨index, inside, isConnection⟩ := List.getElem_of_mem member
      obtain ⟨pass, inspected, isIndex⟩ := sound.reaches coprime isResult inside
      obtain ⟨other, isOther, inactive⟩ := (sound.all isResult).2 pass inspected
      rw [isIndex, elementAt_natCast, List.getElem?_eq_getElem inside, isConnection] at isOther
      cases isOther
      exact absurd connected inactive

end Round

/-! ## The call -/

theorem startDirection_coprime {count : Nat} (positive : 0 < count) (initial : Int) :
    count.Coprime (startDirection initial count) ∧ startDirection initial count ≤ count := by
  rw [startDirection]
  split_ifs
  · exact ⟨Nat.coprime_one_right count, positive⟩
  · exact ⟨CyclicWalk.coprime_back positive, Nat.sub_le count 1⟩

/-- No value that the call computes overflows. -/
theorem fitsInt32_computed {container : Container κ} {initial : Int}
    {scanned : List Pass × Except Failure (Option κ)}
    (sound : Scanned container (startDirection initial container.serviceConnections.length)
      (startIndex initial container.serviceConnections.length)
      container.serviceConnections.length 0 0 scanned)
    (nonempty : 0 < container.serviceConnections.length)
    (small : container.serviceConnections.length < 2 ^ 30)
    (low : -(container.serviceConnections.length : Int) ≤ initial)
    (high : initial < container.serviceConnections.length) {value : Int}
    (member : value ∈ computed container.serviceConnections.length initial scanned.1) :
    FitsInt32 value := by
  have stride := (startDirection_coprime nonempty initial).2
  rcases List.mem_append.1 member with before | behind
  · have mask : -2 ^ 31 ≤ masked initial ∧ masked initial < 2 ^ 31 := by
      rw [masked]
      split_ifs
      · omega
      · omega
    simp only [List.mem_cons, List.not_mem_nil, or_false] at before
    rw [FitsInt32]
    rcases before with rfl | rfl | rfl
    · omega
    · exact mask
    · omega
  · obtain ⟨pass, inspected, isSum⟩ := List.mem_flatMap.1 behind
    have retries := sound.retries pass inspected
    have inRange := sound.inRange nonempty inspected
    simp only [List.mem_cons, List.not_mem_nil, or_false] at isSum
    rw [FitsInt32]
    rcases isSum with rfl | rfl
    · omega
    · omega

theorem scanned_inspected {container : Container κ} (initial : Int)
    (nonempty : 0 < container.serviceConnections.length)
    (small : container.serviceConnections.length < 2 ^ 30) :
    Scanned container (startDirection initial container.serviceConnections.length)
      (startIndex initial container.serviceConnections.length)
      container.serviceConnections.length 0 0
      (inspected container initial, getRandomActiveConnection container initial) := by
  have inside : startIndex initial container.serviceConnections.length <
      container.serviceConnections.length := Nat.mod_lt _ nonempty
  have scanned := scanned_passes small nonempty (startDirection_coprime nonempty initial).2
    (startIndex initial container.serviceConnections.length) container.serviceConnections.length 0 0
  rw [CyclicWalk.place_zero inside] at scanned
  rw [getRandomActiveConnection, if_neg (by omega), ← scanPasses_result _ _ _ 0]
  exact scanned

/-- For every list of less than 2³⁰ connections, the scan covers the list from every start. -/
theorem active_scan_covers_list (container : Container κ) (initial : Int)
    (nonempty : 1 ≤ container.serviceConnections.length)
    (small : container.serviceConnections.length < 2 ^ 30)
    (low : -(container.serviceConnections.length : Int) ≤ initial)
    (high : initial < container.serviceConnections.length) : Covers container initial := by
  have sound := scanned_inspected initial nonempty small
  have coprime := (startDirection_coprime nonempty initial).1
  exact {
    returns := sound.returns
    inRange := fun pass member => sound.inRange nonempty member
    distinct := sound.distinct coprime
    goesOn := sound.goesOn
    found := sound.found
    finds := fun ⟨connection, member, connected⟩ => sound.finds coprime member connected
    none := fun gaveUp index inside => sound.reaches coprime gaveUp inside
    fits := fun value member => fitsInt32_computed sound nonempty small low high member }

/-- Three connections of which the first is active. -/
def firstOfThree : Container (Fin 3) where
  serviceConnections := [0, 1, 2]
  statuses connection := if connection = 0 then .connected else .disconnected

/-- Forward from the last of them, and backward from the second. -/
theorem active_scan_covers_list_three :
    Covers firstOfThree 2 ∧ (inspected firstOfThree 2).map Pass.index = [2, 0] ∧
      Covers firstOfThree (-1) ∧ (inspected firstOfThree (-1)).map Pass.index = [1, 0] := by
  refine ⟨active_scan_covers_list _ _ ?_ ?_ ?_ ?_, ?_,
    active_scan_covers_list _ _ ?_ ?_ ?_ ?_, ?_⟩
  all_goals decide +kernel

end AzureSignalR.ServiceConnections.ActiveScan
