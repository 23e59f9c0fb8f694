import AzureSignalR.Library.Machine

/-!
Contract: the fan-out of a message to several groups or users over the REST API.

Owns: `SendGroupsAsync` and `SendUsersAsync` as a machine whose sends end in any order, what
`Task.WhenAll` makes of their results, and what is rethrown.

Does not own: a single request. Behind the checks of its arguments a send may succeed, fail or be
canceled, at once or later.
-/

set_option autoImplicit false

namespace AzureSignalR.Management.RestHubLifetimeManager

open Library

/-- How the task of a send ends; `ε` is what a request may throw. -/
inductive SendError (ε : Type) where
  | argument (message parameterName : String)
  | request (error : ε)
deriving DecidableEq, Repr

inductive Outcome (ε : Type) where
  | success
  | failure (error : SendError ε)
  | canceled
deriving DecidableEq, Repr

variable {ε : Type}

def nullOrEmptyStringErrorMessage : String := "Argument cannot be null or empty."

def isNullOrEmpty (value : Option String) : Bool := value.getD "" = ""

/-- The checks in front of a request. -/
def checkArguments (methodName : Option String) (parameterName : String) (name : Option String) :
    Option (SendError ε) :=
  if isNullOrEmpty methodName then some (.argument nullOrEmptyStringErrorMessage "methodName")
  else if isNullOrEmpty name then some (.argument nullOrEmptyStringErrorMessage parameterName)
  else none

def sendGroupAsync (methodName groupName : Option String) : Option (SendError ε) :=
  checkArguments methodName "groupName" groupName

def sendUserAsync (methodName userId : Option String) : Option (SendError ε) :=
  checkArguments methodName "userId" userId

/-! ## The tasks together -/

/-- How the task of `Task.WhenAll` ends. -/
inductive AllResult (ε : Type) where
  | ranToCompletion
  | faulted (errors : List (SendError ε))
  | canceled
deriving DecidableEq, Repr

def Outcome.error : Outcome ε → Option (SendError ε)
  | .failure error => some error
  | .success | .canceled => none

def Outcome.isCanceled : Outcome ε → Bool
  | .canceled => true
  | .success | .failure _ => false

/-- A failure goes before a cancellation. -/
def whenAll (outcomes : List (Outcome ε)) : AllResult ε :=
  match outcomes.filterMap Outcome.error with
  | [] => if outcomes.any Outcome.isCanceled then .canceled else .ranToCompletion
  | errors => .faulted errors

/-- `all.Exception`. -/
def AllResult.exception : AllResult ε → Option (List (SendError ε))
  | .faulted errors => some errors
  | .ranToCompletion | .canceled => none

inductive Thrown (ε : Type) where
  /-- `AggregateException`. -/
  | aggregate (errors : List (SendError ε))
  | operationCanceled
  /-- From `throw null`. -/
  | nullReference
deriving DecidableEq, Repr

/-- The `try` and its `catch`. -/
def rethrow (all : AllResult ε) : Except (Thrown ε) Unit :=
  match all with
  | .ranToCompletion => .ok ()
  | .faulted _ | .canceled =>
      match all.exception with
      | some errors => .error (.aggregate errors)
      | none => .error .nullReference

/-! ## The machine -/

structure FanOut (ε : Type) where
  /-- The names that the query has not come to. -/
  remaining : List (Option String)
  /-- The sends that are started, with how they have ended. -/
  sends : List (Option String × Option (Outcome ε)) := []
  result : Option (Except (Thrown ε) Unit) := none
deriving DecidableEq

inductive Action (ε : Type) where
  /-- The query comes to the next name, whose send may end at once. -/
  | start (atOnce : Option (Outcome ε))
  | complete (index : Nat) (outcome : Outcome ε)
  /-- All tasks have ended. -/
  | finish
deriving Repr

namespace FanOut

def outcomes (state : FanOut ε) : List (Outcome ε) := state.sends.filterMap Prod.snd

def allEnded (state : FanOut ε) : Bool := state.sends.all fun send => send.2.isSome

end FanOut

section Machine

variable (send : Option String → Option (SendError ε))

def step (state : FanOut ε) : Action ε → Option (FanOut ε)
  | .start atOnce =>
      match state.remaining with
      | [] => none
      | name :: remaining =>
          let outcome :=
            match send name with
            | some error => some (.failure error)
            | none => atOnce
          some { state with remaining, sends := state.sends ++ [(name, outcome)] }
  | .complete index outcome =>
      match state.sends[index]? with
      | some (name, none) => some { state with sends := state.sends.set index (name, some outcome) }
      | some (_, some _) | none => none
  | .finish =>
      if state.remaining = [] ∧ state.allEnded ∧ state.result.isNone then
        some { state with result := some (rethrow (whenAll state.outcomes)) }
      else none

end Machine

def sendGroupsAsync (methodName : Option String) : FanOut ε → Action ε → Option (FanOut ε) :=
  step (sendGroupAsync methodName)

def sendUsersAsync (methodName : Option String) : FanOut ε → Action ε → Option (FanOut ε) :=
  step (sendUserAsync methodName)

/-! ## What is thrown -/

theorem whenAll_eq (outcomes : List (Outcome ε)) :
    whenAll outcomes =
      if outcomes.filterMap Outcome.error = [] then
        if outcomes.any Outcome.isCanceled then .canceled else .ranToCompletion
      else .faulted (outcomes.filterMap Outcome.error) := by
  rw [whenAll]
  cases outcomes.filterMap Outcome.error with
  | nil => rfl
  | cons error errors => rfl

/-- Success is what is neither a failure nor a cancellation. -/
theorem all_success_iff {outcomes : List (Outcome ε)} :
    (∀ outcome ∈ outcomes, outcome = .success) ↔
      outcomes.filterMap Outcome.error = [] ∧ outcomes.any Outcome.isCanceled = false := by
  induction outcomes with
  | nil => simp
  | cons outcome outcomes inductionHypothesis =>
      rw [List.forall_mem_cons, inductionHypothesis]
      cases outcome with
      | success => simp [Outcome.error, Outcome.isCanceled]
      | failure error => simp [Outcome.error]
      | canceled => simp [Outcome.isCanceled]

/-- What a fan-out over the names has to report. -/
structure Reported (names : List (Option String)) (final : FanOut ε)
    (result : Except (Thrown ε) Unit) : Prop where
  once : final.sends.map Prod.fst = names
  ended : final.outcomes.length = names.length
  completes : result = .ok () ↔ ∀ outcome ∈ final.outcomes, outcome = .success
  failures : final.outcomes.filterMap Outcome.error ≠ [] →
    result = .error (.aggregate (final.outcomes.filterMap Outcome.error))
  cancellation : final.outcomes.filterMap Outcome.error = [] →
    final.outcomes.any Outcome.isCanceled = true → result = .error .operationCanceled

/-- What is rethrown is right if there is a failure or no cancellation. -/
theorem reported_iff {names : List (Option String)} {final : FanOut ε}
    (once : final.sends.map Prod.fst = names) (ended : final.outcomes.length = names.length) :
    Reported names final (rethrow (whenAll final.outcomes)) ↔
      final.outcomes.filterMap Outcome.error ≠ [] ∨
        final.outcomes.any Outcome.isCanceled = false := by
  rw [whenAll_eq]
  by_cases none : final.outcomes.filterMap Outcome.error = []
  · rw [if_pos none]
    cases canceled : final.outcomes.any Outcome.isCanceled with
    | true =>
        apply iff_of_false
        · intro reported
          exact nomatch reported.cancellation none canceled
        · rintro (failed | uncanceled)
          · exact failed none
          · exact nomatch uncanceled
    | false =>
        apply iff_of_true _ (.inr rfl)
        refine ⟨once, ended, ?_, fun failed => absurd none failed, fun _ also => ?_⟩
        · exact iff_of_true rfl (all_success_iff.2 ⟨none, canceled⟩)
        · rw [canceled] at also
          exact nomatch also
  · rw [if_neg none]
    apply iff_of_true _ (.inl none)
    refine ⟨once, ended, ?_, fun _ => rfl, fun also => absurd also none⟩
    exact iff_of_false nofun fun all => none (all_success_iff.1 all).1

/-! ## Runs -/

/-- In front of the first name. -/
def initial (names : List (Option String)) : FanOut ε := { remaining := names }

structure Sound (names : List (Option String)) (state : FanOut ε) : Prop where
  names : state.sends.map Prod.fst ++ state.remaining = names
  result : ∀ result, state.result = some result →
    state.remaining = [] ∧ state.allEnded = true ∧ result = rethrow (whenAll state.outcomes)

theorem length_outcomes {state : FanOut ε} (ended : state.allEnded = true) :
    state.outcomes.length = state.sends.length := by
  rw [FanOut.outcomes, List.filterMap_length_eq_length]
  exact List.all_eq_true.mp ended

variable {send : Option String → Option (SendError ε)}

theorem Sound.step {names : List (Option String)} {state next : FanOut ε} {action : Action ε}
    (sound : Sound names state) (stepped : step send state action = some next) :
    Sound names next := by
  cases action with
  | start atOnce =>
      rw [RestHubLifetimeManager.step] at stepped
      cases ahead : state.remaining with
      | nil => simp [ahead] at stepped
      | cons name remaining =>
          rw [ahead] at stepped
          obtain rfl := Option.some.inj stepped
          constructor
          · show (state.sends ++ [_]).map Prod.fst ++ remaining = names
            rw [← sound.names, ahead, List.map_append, List.append_assoc]
            rfl
          · intro result isResult
            have behind := (sound.result result isResult).1
            rw [ahead] at behind
            exact nomatch behind
  | complete index outcome =>
      rw [RestHubLifetimeManager.step] at stepped
      cases found : state.sends[index]? with
      | none => simp [found] at stepped
      | some pending =>
          obtain ⟨name, before⟩ := pending
          cases before with
          | some before => simp [found] at stepped
          | none =>
              rw [found] at stepped
              obtain rfl := Option.some.inj stepped
              constructor
              · show (state.sends.set index (name, some outcome)).map Prod.fst ++ _ = names
                have same : (state.sends.map Prod.fst)[index]? = some name := by
                  rw [List.getElem?_map, found]
                  rfl
                obtain ⟨inside, isName⟩ := List.getElem?_eq_some_iff.mp same
                have kept : (state.sends.map Prod.fst).set index name =
                    state.sends.map Prod.fst := by
                  rw [← isName]
                  exact List.set_getElem_self inside
                rw [List.map_set, kept]
                exact sound.names
              · intro result isResult
                -- The send is pending, so not all have ended.
                have allEnded := (sound.result result isResult).2.1
                have ended := List.all_eq_true.mp allEnded _ (List.mem_of_getElem? found)
                exact nomatch ended
  | finish =>
      rw [RestHubLifetimeManager.step] at stepped
      split_ifs at stepped with ready
      obtain rfl := Option.some.inj stepped
      refine ⟨sound.names, ?_⟩
      intro result isResult
      exact ⟨ready.1, ready.2.1, (Option.some.inj isResult).symm⟩

theorem sound_of_run {names : List (Option String)} {actions : List (Action ε)}
    {final : FanOut ε} (ran : Machine.run (step send) (initial names) actions = some final) :
    Sound names final := by
  have start : Sound names (initial (ε := ε) names) := ⟨rfl, nofun⟩
  exact Machine.run_invariant (fun sound stepped => sound.step stepped) start ran

theorem reported_of_run {names : List (Option String)} {actions : List (Action ε)}
    {final : FanOut ε} (ran : Machine.run (step send) (initial names) actions = some final)
    {result : Except (Thrown ε) Unit} (isResult : final.result = some result) :
    Reported names final result ↔
      final.outcomes.filterMap Outcome.error ≠ [] ∨
        final.outcomes.any Outcome.isCanceled = false := by
  have sound := sound_of_run ran
  obtain ⟨none, ended, rfl⟩ := sound.result result isResult
  have once : final.sends.map Prod.fst = names := by
    rw [← sound.names, none, List.append_nil]
  apply reported_iff once
  rw [length_outcomes ended, ← once, List.length_map]

/-- When every send has ended, so does the fan-out. -/
theorem finishes {state : FanOut ε} (none : state.remaining = []) (ended : state.allEnded = true)
    (running : state.result = .none) :
    step send state .finish =
      some { state with result := some (rethrow (whenAll state.outcomes)) } := by
  rw [step, if_pos ⟨none, ended, by rw [running]; rfl⟩]

/-- Every run of the machine reports what it has to if and only if a send has failed or none was
canceled, and it ends when its sends have ended. -/
def ReportedWhen (step : FanOut ε → Action ε → Option (FanOut ε)) : Prop :=
  ∀ names actions final, Machine.run step (initial names) actions = some final →
    (∀ result, final.result = some result →
      (Reported names final result ↔
        final.outcomes.filterMap Outcome.error ≠ [] ∨
          final.outcomes.any Outcome.isCanceled = false)) ∧
    (final.result = none → final.remaining = [] → final.allEnded = true →
      ∃ next, step final .finish = some next ∧ next.result.isSome = true)

theorem reportedWhen (send : Option String → Option (SendError ε)) : ReportedWhen (step send) := by
  intro names actions final ran
  constructor
  · intro result isResult
    exact reported_of_run ran isResult
  · intro running none ended
    exact ⟨_, finishes none ended running, rfl⟩

/-- Sends to groups and sends to users report their errors unless some are canceled and none
fails. -/
theorem fan_out_reports (methodName : Option String) :
    ReportedWhen (ε := ε) (sendGroupsAsync methodName) ∧
      ReportedWhen (ε := ε) (sendUsersAsync methodName) :=
  ⟨reportedWhen (sendGroupAsync methodName), reportedWhen (sendUserAsync methodName)⟩

/-- A send fails, one is canceled, and one has no name. -/
theorem fan_out_reports_failure :
    let failure : SendError Nat := .argument "Argument cannot be null or empty." "groupName"
    Reported [some "a", some "b", none]
      ⟨[], [(some "a", some (.failure (.request 7))), (some "b", some .canceled),
        (none, some (.failure failure))], some (.error (.aggregate [.request 7, failure]))⟩
      (.error (.aggregate [.request 7, failure])) := by
  intro failure
  have ran : Machine.run (sendGroupsAsync (some "m")) (initial [some "a", some "b", none])
      [.start none, .start none, .complete 1 .canceled, .start none,
        .complete 0 (.failure (.request 7)), .finish] =
      some ⟨[], [(some "a", some (.failure (.request 7))), (some "b", some .canceled),
        (none, some (.failure failure))], some (.error (.aggregate [.request 7, failure]))⟩ := by
    decide
  exact (((fan_out_reports (some "m")).1 _ _ _ ran).1 _ rfl).mpr (.inl nofun)

/-- A single send that is canceled. -/
theorem canceled_throws_nullReference :
    ∃ final : FanOut Nat,
      Machine.run (sendUsersAsync (some "m")) (initial [some "a"])
        [.start none, .complete 0 .canceled, .finish] = some final ∧
      final.result = some (.error .nullReference) ∧
      ¬Reported [some "a"] final (.error .nullReference) := by
  refine ⟨⟨[], [(some "a", some .canceled)], some (.error .nullReference)⟩, by decide, rfl, ?_⟩
  intro reported
  exact nomatch reported.cancellation rfl rfl

end AzureSignalR.Management.RestHubLifetimeManager
