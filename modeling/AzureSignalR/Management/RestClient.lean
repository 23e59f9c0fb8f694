import AzureSignalR.Management.ExponentialBackOffPolicy

/-!
Contract: a call of the REST API, from `RestClient` through the message handlers of its
`HttpClient` and back.

Owns: the three back-off policies, `TimeoutHttpMessageHandler`, `RetryHttpMessageHandler`, the
handlers that each named client is configured with, and what `SendAsyncCore` makes of the answer.

Does not own: the network. How each request ends, whether the token is cancelled by then and
whether a wait throws are parameters; so is what `HttpClient` rethrows. `HttpClientTimeout` is one
that `HttpClient` and `CancelAfter` accept, and `Mode` one of the values that are defined.
-/

set_option autoImplicit false

namespace AzureSignalR.Management.RestClient

/-! ## Answers and exceptions -/

inductive Exn where
  /-- `HttpRequestException`. -/
  | httpRequest (message : String) (statusCode : Option Nat)
  | operationCanceled (message : String)
  /-- With the message of the inner exception, if that is a `TimeoutException`. -/
  | taskCanceled (message : String) (timeout : Option String)
  /-- `AzureSignalRRuntimeException`. -/
  | runtime (requestUri : Option String) (inner : Exn) (statusCode : Nat) (content : String)
  /-- `AggregateException`. -/
  | aggregate (exceptions : List Exn)
  | invalidArgument (requestUri : Option String) (inner : Exn) (detail : String)
  | unauthorized (requestUri : Option String) (inner : Exn) (jwtToken : Option String)
  | inaccessibleEndpoint (requestUri : Option String) (inner : Exn)
  /-- `AzureSignalRException`. -/
  | signalR (message : String) (inner : Exn)
  | other (message : String)

namespace Exn

/-- The exception is an `OperationCanceledException`, with its message. -/
def canceled : Exn → Option String
  | .operationCanceled message | .taskCanceled message _ => some message
  | _ => none

/-- The exception is a `TaskCanceledException` around a `TimeoutException`. -/
def isTimeout : Exn → Bool
  | .taskCanceled _ (some _) => true
  | _ => false

end Exn

structure Response where
  statusCode : Nat
  reasonPhrase : Option String := none
  /-- What `ReadAsStringAsync` gives. -/
  content : Except Exn String := .ok ""
  /-- `RequestMessage.RequestUri`. -/
  requestUri : Option String := none

def Response.isSuccessStatusCode (response : Response) : Bool :=
  200 ≤ response.statusCode ∧ response.statusCode ≤ 299

def statusLine (response : Response) : String :=
  let reason := response.reasonPhrase.getD ""
  s!"Response status code does not indicate success: {response.statusCode} ({reason})"

/-! ## The back-off policies -/

structure ServiceManagerOptions where
  retryOptions : Option ServiceManagerRetryOptions := none
  httpClientTimeout : TimeSpan := .fromMilliseconds 100000
deriving DecidableEq, Repr

structure FixedBackOffPolicy where
  maxRetries : Nat
  delay : TimeSpan
deriving DecidableEq, Repr

namespace FixedBackOffPolicy

/-- The constructor; an error is an `ArgumentException` with this message. -/
def create (retryOptions : Option ServiceManagerRetryOptions) : Except String FixedBackOffPolicy :=
  match retryOptions with
  | none => .error "Retry options expected"
  | some retryOptions =>
      if retryOptions.mode ≠ .fixed then .error "Only Fixed mode is supported"
      else .ok ⟨retryOptions.maxRetries, retryOptions.delay⟩

def getDelays (policy : FixedBackOffPolicy) : List TimeSpan :=
  List.replicate policy.maxRetries policy.delay

end FixedBackOffPolicy

def DummyBackOffPolicy.getDelays : List TimeSpan := []

/-- The delays of the `IBackOffPolicy` that the options are resolved to. -/
def getDelays (conversion : IntConversion) (options : ServiceManagerOptions) :
    Except String (List TimeSpan) :=
  match options.retryOptions with
  | none => .ok DummyBackOffPolicy.getDelays
  | some retryOptions =>
      match retryOptions.mode with
      | .fixed => return (← FixedBackOffPolicy.create (some retryOptions)).getDelays
      | .exponential =>
          return (← ExponentialBackOffPolicy.create (some retryOptions)).getDelays conversion

/-! ## The message handlers -/

/-- How one request ends below the handlers. -/
structure Attempt where
  outcome : Except Exn Response
  /-- The token is cancelled when `TimeoutHttpMessageHandler` looks at it. -/
  cancelled : Bool := false
  /-- The token is cancelled when `RetryHttpMessageHandler` looks at it. -/
  cancelledLater : Bool := false

structure Environment where
  attempt : (number : Nat) → Attempt
  /-- `Task.Delay` behind this request throws. -/
  delayThrows : (number : Nat) → TimeSpan → Option Exn := fun _ _ => none
  /-- What `HttpClient` makes of an exception of its handlers. -/
  rethrow : Exn → Exn := id
  /-- `_timeout.TotalSeconds` as text. -/
  totalSeconds : TimeSpan → String := fun _ => ""

/-- `TimeoutHttpMessageHandler.SendAsync` around one request. -/
def timeoutSend (environment : Environment) (options : ServiceManagerOptions) (attempt : Attempt) :
    Except Exn Response :=
  match options.retryOptions with
  | none => attempt.outcome
  | some _ =>
      match attempt.outcome with
      | .ok response => .ok response
      | .error exception =>
          match exception.canceled with
          | none => .error exception
          | some message =>
              if attempt.cancelled then .error exception
              else
                let seconds := environment.totalSeconds options.httpClientTimeout
                .error (.taskCanceled
                  ("The request was canceled due to the configured HttpClient.Timeout of " ++
                    seconds ++ " seconds elapsing.") (some message))

/-- What a call does, in order. -/
inductive Event where
  | send (number : Nat)
  /-- The answer to the last request is disposed of. -/
  | dispose
  | wait (delay : TimeSpan)
deriving DecidableEq, Repr

section Retry

variable (requestUri : Option String) (canRetry : Nat → Bool)
  (send : Nat → Except Exn Response) (cancelled : Nat → Bool)
  (delayThrows : Nat → TimeSpan → Option Exn)

/-- The exception with which the `try` of `RetryHttpMessageHandler.SendAsync` goes on, if it does;
otherwise the outcome of the request is the outcome of the call. -/
def failure (number : Nat) : Option Exn :=
  match send number with
  | .ok response =>
      if canRetry response.statusCode then
        some (.runtime requestUri (.httpRequest (statusLine response) none) 500 "")
      else none
  | .error exception =>
      if exception.isTimeout ∧ ¬ cancelled number then some exception else none

/-- `response.Dispose` in the `try`. -/
def disposal (number : Nat) : List Event :=
  match send number with
  | .ok response => if canRetry response.statusCode then [.dispose] else []
  | .error _ => []

/-- What is thrown when there is no further delay. -/
def giveUp (exceptions : Option (List Exn)) (exception : Exn) : Exn :=
  match exceptions with
  | none => exception
  | some exceptions => .runtime requestUri (.aggregate (exceptions ++ [exception])) 500 ""

/-- The loop of `RetryHttpMessageHandler.SendAsync`, with the delays that `delays` has still to
yield. -/
def retrySend : (delays : List TimeSpan) → (number : Nat) → (exceptions : Option (List Exn)) →
    List Event × Except Exn Response
  | delays, number, exceptions =>
      match failure requestUri canRetry send cancelled number with
      | none => ([.send number], send number)
      | some exception =>
          let begun := .send number :: disposal canRetry send number
          match delays with
          | [] => (begun, .error (giveUp requestUri exceptions exception))
          | delay :: delays =>
              match delayThrows number delay with
              | some thrown => (begun ++ [.wait delay], .error thrown)
              | none =>
                  let (events, outcome) := retrySend delays (number + 1)
                    (some (exceptions.getD [] ++ [exception]))
                  (begun ++ .wait delay :: events, outcome)

end Retry

/-! ## The clients -/

/-- `Constants.HttpClientNames`, without the client of the health check. -/
inductive HttpClientName where
  | userDefault
  | resilient
  | messageResilient
deriving DecidableEq, Repr

def isTransientErrorAndIdempotentForMessageApi (code : Nat) : Bool := 500 < code

def isTransientErrorForNonMessageApi (code : Nat) : Bool := 500 ≤ code ∨ code = 408

/-- `SendAsync` of the handlers that a client is configured with. -/
def handlersSend (conversion : IntConversion) (options : ServiceManagerOptions)
    (environment : Environment) (requestUri : Option String) :
    HttpClientName → Except String (List Event × Except Exn Response)
  | .userDefault => .ok ([.send 0], (environment.attempt 0).outcome)
  | .resilient => do
      let delays ← getDelays conversion options
      return retrySend requestUri isTransientErrorForNonMessageApi
        (fun number => timeoutSend environment options (environment.attempt number))
        (fun number => (environment.attempt number).cancelledLater) environment.delayThrows
        delays 0 none
  | .messageResilient => do
      let delays ← getDelays conversion options
      return retrySend requestUri isTransientErrorAndIdempotentForMessageApi
        (fun number => (environment.attempt number).outcome)
        (fun number => (environment.attempt number).cancelledLater) environment.delayThrows
        delays 0 none

/-! ## The call -/

/-- `ThrowExceptionOnResponseFailureAsync`. -/
def throwExceptionOnResponseFailure (requestUri : Option String) (jwtToken : String)
    (response : Response) : Except Exn Unit :=
  if response.isSuccessStatusCode then .ok ()
  else
    match response.content with
    | .error exception => .error exception
    | .ok detail =>
        let innerException := .httpRequest (statusLine response) (some response.statusCode)
        match response.statusCode with
        | 400 => .error (.invalidArgument requestUri innerException detail)
        | 401 => .error (.unauthorized requestUri innerException (some jwtToken))
        | 404 => .error (.inaccessibleEndpoint requestUri innerException)
        | status => .error (.runtime response.requestUri innerException status detail)

structure Api where
  requestUri : Option String
  token : String
deriving DecidableEq, Repr

/-- The `catch` of `SendAsyncCore`. -/
def wrap (requestUri : Option String) : Exn → Exn
  | .httpRequest message status =>
      let uri := requestUri.getD ""
      .signalR s!"An error happened when making request to {uri}" (.httpRequest message status)
  | exception => exception

/-- The `try` of `SendAsyncCore` behind the answer. -/
def handleResponse (api : Api) (handleExpectedResponse : Option (Response → Except Exn Bool))
    (response : Response) : Except Exn Unit :=
  match handleExpectedResponse with
  | none => throwExceptionOnResponseFailure api.requestUri api.token response
  | some handle =>
      match handle response with
      | .error exception => .error exception
      | .ok true => .ok ()
      | .ok false => throwExceptionOnResponseFailure api.requestUri api.token response

/-- `SendAsyncCore`; the answer it gets is disposed of at the end. -/
def sendAsyncCore (conversion : IntConversion) (options : ServiceManagerOptions)
    (environment : Environment) (httpClientName : HttpClientName) (api : Api)
    (handleExpectedResponse : Option (Response → Except Exn Bool)) :
    Except String (List Event × Except Exn Unit) := do
  let (events, outcome) ←
    handlersSend conversion options environment api.requestUri httpClientName
  match outcome with
  | .error exception =>
      return (events, .error (wrap api.requestUri (environment.rethrow exception)))
  | .ok response =>
      return (events ++ [.dispose],
        (handleResponse api handleExpectedResponse response).mapError (wrap api.requestUri))

/-! ## The course of the retries -/

section Course

variable (requestUri : Option String) (canRetry : Nat → Bool)
  (send : Nat → Except Exn Response) (cancelled : Nat → Bool)
  (delayThrows : Nat → TimeSpan → Option Exn)

/-- The requests that are followed by a wait, from the given number on. -/
def turns (delays : List TimeSpan) (number : Nat) : List Event :=
  (delays.zipIdx number).flatMap fun turn =>
    .send turn.2 :: disposal canRetry send turn.2 ++ [.wait turn.1]

/-- The exceptions of so many requests. -/
def failures (number count : Nat) : List Exn :=
  (List.range' number count).filterMap (failure requestUri canRetry send cancelled)

/-- How the loop ends, `count` turns behind the given request. -/
inductive Ends (delays : List TimeSpan) (number : Nat) (exceptions : Option (List Exn))
    (count : Nat) : List Event × Except Exn Response → Prop where
  | answered (last : failure requestUri canRetry send cancelled (number + count) = none) :
      Ends delays number exceptions count
        (turns canRetry send (delays.take count) number ++ [.send (number + count)],
          send (number + count))
  | interrupted (exception thrown : Exn) (delay : TimeSpan)
      (last : failure requestUri canRetry send cancelled (number + count) = some exception)
      (next : delays[count]? = some delay)
      (throws : delayThrows (number + count) delay = some thrown) :
      Ends delays number exceptions count
        (turns canRetry send (delays.take count) number ++
          (.send (number + count) :: disposal canRetry send (number + count)) ++ [.wait delay],
          .error thrown)
  | exhausted (exception : Exn) (all : count = delays.length)
      (last : failure requestUri canRetry send cancelled (number + count) = some exception) :
      Ends delays number exceptions count
        (turns canRetry send delays number ++
          (.send (number + count) :: disposal canRetry send (number + count)),
          .error (giveUp requestUri
            (if count = 0 then exceptions
            else some (exceptions.getD [] ++
              failures requestUri canRetry send cancelled number count)) exception))

section Turns

variable {requestUri canRetry send cancelled delayThrows} {delay : TimeSpan}
  {delays : List TimeSpan} {number count : Nat} {exceptions : Option (List Exn)}
  {exception : Exn}

theorem retrySend_answered (last : failure requestUri canRetry send cancelled number = none) :
    retrySend requestUri canRetry send cancelled delayThrows delays number exceptions =
      ([.send number], send number) := by
  unfold retrySend
  rw [last]

theorem retrySend_exhausted
    (failed : failure requestUri canRetry send cancelled number = some exception) :
    retrySend requestUri canRetry send cancelled delayThrows [] number exceptions =
      (.send number :: disposal canRetry send number,
        .error (giveUp requestUri exceptions exception)) := by
  unfold retrySend
  rw [failed]

theorem retrySend_interrupted {thrown : Exn}
    (failed : failure requestUri canRetry send cancelled number = some exception)
    (throws : delayThrows number delay = some thrown) :
    retrySend requestUri canRetry send cancelled delayThrows (delay :: delays) number exceptions =
      (.send number :: disposal canRetry send number ++ [.wait delay], .error thrown) := by
  unfold retrySend
  simp only [failed, throws]

theorem retrySend_again
    (failed : failure requestUri canRetry send cancelled number = some exception)
    (waits : delayThrows number delay = none) :
    retrySend requestUri canRetry send cancelled delayThrows (delay :: delays) number exceptions =
      (.send number :: disposal canRetry send number ++ .wait delay ::
          (retrySend requestUri canRetry send cancelled delayThrows delays (number + 1)
            (some (exceptions.getD [] ++ [exception]))).1,
        (retrySend requestUri canRetry send cancelled delayThrows delays (number + 1)
          (some (exceptions.getD [] ++ [exception]))).2) := by
  conv => lhs; unfold retrySend
  simp only [failed, waits]

theorem turns_succ (delays : List TimeSpan) (number : Nat) :
    turns canRetry send (delay :: delays) number =
      .send number :: disposal canRetry send number ++
        .wait delay :: turns canRetry send delays (number + 1) := by
  simp [turns]

theorem turns_cons (tail : List Event) :
    .send number :: disposal canRetry send number ++
        .wait delay :: (turns canRetry send delays (number + 1) ++ tail) =
      turns canRetry send (delay :: delays) number ++ tail := by
  rw [turns_succ, List.append_assoc]
  rfl

theorem failures_succ
    (failed : failure requestUri canRetry send cancelled number = some exception) :
    failures requestUri canRetry send cancelled number (count + 1) =
      exception :: failures requestUri canRetry send cancelled (number + 1) count := by
  rw [failures, List.range'_succ, List.filterMap_cons_some failed]
  rfl

/-- One more turn in front. -/
theorem Ends.turn {course : List Event × Except Exn Response}
    (failed : failure requestUri canRetry send cancelled number = some exception)
    (ends : Ends requestUri canRetry send cancelled delayThrows delays (number + 1)
      (some (exceptions.getD [] ++ [exception])) count course) :
    Ends requestUri canRetry send cancelled delayThrows (delay :: delays) number exceptions
      (count + 1)
      (.send number :: disposal canRetry send number ++ .wait delay :: course.1, course.2) := by
  have shift : number + 1 + count = number + (count + 1) := by omega
  cases ends with
  | answered last =>
      rw [shift] at last ⊢
      rw [turns_cons, ← List.take_succ_cons]
      exact .answered last
  | interrupted other thrown next last isNext throws =>
      rw [shift] at last throws ⊢
      rw [List.append_assoc, turns_cons, ← List.take_succ_cons, ← List.append_assoc]
      exact .interrupted other thrown next last isNext throws
  | exhausted other all last =>
      rw [shift] at last ⊢
      have gathered : (if count = 0 then some (exceptions.getD [] ++ [exception])
          else some ((some (exceptions.getD [] ++ [exception])).getD [] ++
            failures requestUri canRetry send cancelled (number + 1) count)) =
          some (exceptions.getD [] ++
            failures requestUri canRetry send cancelled number (count + 1)) := by
        rw [failures_succ failed]
        split_ifs with first
        · rw [first]
          rfl
        · simp
      rw [gathered, turns_cons]
      exact .exhausted other (congrArg Nat.succ all) last

end Turns

theorem retrySend_course (delays : List TimeSpan) (number : Nat)
    (exceptions : Option (List Exn)) :
    ∃ count, count ≤ delays.length ∧
      (∀ turn < count, ∃ exception delay,
        failure requestUri canRetry send cancelled (number + turn) = some exception ∧
          delays[turn]? = some delay ∧ delayThrows (number + turn) delay = none) ∧
      Ends requestUri canRetry send cancelled delayThrows delays number exceptions count
        (retrySend requestUri canRetry send cancelled delayThrows delays number exceptions) := by
  induction delays generalizing number exceptions with
  | nil =>
      refine ⟨0, Nat.le_refl _, by simp, ?_⟩
      cases failed : failure requestUri canRetry send cancelled number with
      | none =>
          rw [retrySend_answered failed]
          exact .answered failed
      | some exception =>
          rw [retrySend_exhausted failed]
          exact .exhausted exception rfl failed
  | cons delay delays inductionHypothesis =>
      cases failed : failure requestUri canRetry send cancelled number with
      | none =>
          rw [retrySend_answered failed]
          exact ⟨0, Nat.zero_le _, by simp, .answered failed⟩
      | some exception =>
          cases throws : delayThrows number delay with
          | some thrown =>
              rw [retrySend_interrupted failed throws]
              exact ⟨0, Nat.zero_le _, by simp,
                .interrupted exception thrown delay failed rfl throws⟩
          | none =>
              obtain ⟨count, bounded, before, ends⟩ :=
                inductionHypothesis (number + 1) (some (exceptions.getD [] ++ [exception]))
              rw [retrySend_again failed throws]
              refine ⟨count + 1, Nat.succ_le_succ bounded, ?_, ends.turn failed⟩
              intro turn early
              cases turn with
              | zero => exact ⟨exception, delay, failed, rfl, throws⟩
              | succ turn =>
                  obtain ⟨other, next, isFailure, isNext, passes⟩ := before turn (by omega)
                  rw [Nat.add_right_comm] at isFailure passes
                  exact ⟨other, next, isFailure, isNext, passes⟩

end Course

/-! ## What is sent, waited for and disposed of -/

def Event.request : Event → Option Nat
  | .send number => some number
  | _ => none

def Event.delay : Event → Option TimeSpan
  | .wait delay => some delay
  | _ => none

def requests (events : List Event) : List Nat := events.filterMap Event.request

def waits (events : List Event) : List TimeSpan := events.filterMap Event.delay

section Report

variable {requestUri : Option String} {canRetry : Nat → Bool} {send : Nat → Except Exn Response}
  {cancelled : Nat → Bool} {delayThrows : Nat → TimeSpan → Option Exn} {delays : List TimeSpan}
  {number : Nat}

theorem requests_disposal (canRetry : Nat → Bool) (send : Nat → Except Exn Response)
    (number : Nat) : requests (disposal canRetry send number) = [] := by
  unfold disposal
  split
  · split_ifs <;> rfl
  · rfl

theorem waits_disposal (canRetry : Nat → Bool) (send : Nat → Except Exn Response) (number : Nat) :
    waits (disposal canRetry send number) = [] := by
  unfold disposal
  split
  · split_ifs <;> rfl
  · rfl

theorem requests_append (first second : List Event) :
    requests (first ++ second) = requests first ++ requests second :=
  List.filterMap_append

theorem waits_append (first second : List Event) :
    waits (first ++ second) = waits first ++ waits second :=
  List.filterMap_append

theorem requests_begun (number : Nat) :
    requests (.send number :: disposal canRetry send number) = [number] := by
  change number :: requests (disposal canRetry send number) = [number]
  rw [requests_disposal]

theorem waits_begun (number : Nat) :
    waits (.send number :: disposal canRetry send number) = [] :=
  waits_disposal canRetry send number

theorem requests_turns (delays : List TimeSpan) (number : Nat) :
    requests (turns canRetry send delays number) = List.range' number delays.length := by
  induction delays generalizing number with
  | nil => rfl
  | cons delay delays inductionHypothesis =>
      rw [turns_succ, requests_append, requests_begun, List.length_cons, List.range'_succ,
        ← inductionHypothesis]
      rfl

theorem waits_turns (delays : List TimeSpan) (number : Nat) :
    waits (turns canRetry send delays number) = delays := by
  induction delays generalizing number with
  | nil => rfl
  | cons delay delays inductionHypothesis =>
      rw [turns_succ, waits_append, waits_begun]
      exact congrArg (List.cons delay) (inductionHypothesis (number + 1))

theorem failure_cases (failed : failure requestUri canRetry send cancelled number ≠ none) :
    (∃ response, send number = .ok response ∧ canRetry response.statusCode = true) ∨
      ∃ exception, send number = .error exception ∧ exception.isTimeout = true ∧
        cancelled number = false := by
  unfold failure at failed
  cases outcome : send number with
  | ok response =>
      simp only [outcome] at failed
      split_ifs at failed with retried
      · exact .inl ⟨response, rfl, retried⟩
      · exact absurd rfl failed
  | error exception =>
      simp only [outcome] at failed
      split_ifs at failed with timeout
      · exact .inr ⟨exception, rfl, timeout.1, Bool.eq_false_of_not_eq_true timeout.2⟩
      · exact absurd rfl failed

theorem failure_ok {response : Response} (answered : send number = .ok response) :
    failure requestUri canRetry send cancelled number = none ↔
      canRetry response.statusCode = false := by
  unfold failure
  simp only [answered]
  split_ifs with retried
  · simp [retried]
  · simp [retried]

/-- The answer to a request that fails is disposed of. -/
theorem count_dispose_disposal
    (failed : failure requestUri canRetry send cancelled number ≠ none) :
    (disposal canRetry send number).count .dispose =
      [number].countP fun number => (send number).isOk := by
  unfold failure at failed
  unfold disposal
  cases outcome : send number with
  | error exception => simp [outcome, Except.isOk, Except.toBool]
  | ok response =>
      simp only [outcome] at failed ⊢
      split_ifs at failed ⊢ with retried
      · simp [outcome, Except.isOk, Except.toBool]
      · exact absurd rfl failed

theorem count_dispose_turns (delays : List TimeSpan) (number : Nat)
    (failed : ∀ turn < delays.length,
      failure requestUri canRetry send cancelled (number + turn) ≠ none) :
    (turns canRetry send delays number).count .dispose =
      (List.range' number delays.length).countP fun number => (send number).isOk := by
  induction delays generalizing number with
  | nil => rfl
  | cons delay delays inductionHypothesis =>
      have others := inductionHypothesis (number + 1) fun turn early => by
        rw [Nat.add_right_comm]
        exact failed (turn + 1) (Nat.succ_lt_succ early)
      have first : failure requestUri canRetry send cancelled number ≠ none :=
        failed 0 (Nat.succ_pos _)
      rw [turns_succ, List.cons_append, List.count_cons_of_ne (by simp), List.count_append,
        List.count_cons_of_ne (by simp), count_dispose_disposal first, others,
        ← List.countP_append, List.length_cons, List.range'_succ]
      rfl

/-- The course of a call of `RetryHttpMessageHandler.SendAsync` that repeats its request so many
times. -/
structure Report (requestUri : Option String) (canRetry : Nat → Bool)
    (send : Nat → Except Exn Response) (cancelled : Nat → Bool)
    (delayThrows : Nat → TimeSpan → Option Exn) (delays : List TimeSpan) (count : Nat)
    (course : List Event × Except Exn Response) : Prop where
  bounded : count ≤ delays.length
  numbered : requests course.1 = List.range (count + 1)
  failed : ∀ number < count, failure requestUri canRetry send cancelled number ≠ none
  waited : waits course.1 = delays.take count ∨
    waits course.1 = delays.take (count + 1) ∧ ∃ thrown, course.2 = .error thrown
  disposed : course.1.count .dispose +
      (if failure requestUri canRetry send cancelled count = none then
        [count].countP fun number => (send number).isOk else 0) =
    (List.range (count + 1)).countP fun number => (send number).isOk
  answered : failure requestUri canRetry send cancelled count = none → course.2 = send count
  thrown : failure requestUri canRetry send cancelled count ≠ none →
    ∃ thrown, course.2 = .error thrown
  /-- With a delay left, the request is repeated unless the wait throws. -/
  interrupted : count < delays.length →
    failure requestUri canRetry send cancelled count ≠ none →
      ∃ delay thrown, delays[count]? = some delay ∧ delayThrows count delay = some thrown ∧
        course.2 = .error thrown
  exhausted : count = delays.length →
    ∀ exception, failure requestUri canRetry send cancelled count = some exception →
      course.2 = .error (giveUp requestUri
        (if count = 0 then none
        else some (failures requestUri canRetry send cancelled 0 count)) exception)

theorem retrySend_report (requestUri : Option String) (canRetry : Nat → Bool)
    (send : Nat → Except Exn Response) (cancelled : Nat → Bool)
    (delayThrows : Nat → TimeSpan → Option Exn) (delays : List TimeSpan) :
    ∃ count, Report requestUri canRetry send cancelled delayThrows delays count
      (retrySend requestUri canRetry send cancelled delayThrows delays 0 none) := by
  obtain ⟨count, bounded, before, ends⟩ :=
    retrySend_course requestUri canRetry send cancelled delayThrows delays 0 none
  have failed : ∀ number < count, failure requestUri canRetry send cancelled number ≠ none := by
    intro number early
    obtain ⟨exception, -, isFailure, -⟩ := before number early
    rw [Nat.zero_add] at isFailure
    rw [isFailure]
    exact Option.some_ne_none exception
  have length : (delays.take count).length = count := List.length_take_of_le bounded
  have sent : requests (turns canRetry send (delays.take count) 0) = List.range count := by
    rw [requests_turns, length, List.range_eq_range']
  have waited : waits (turns canRetry send (delays.take count) 0) = delays.take count :=
    waits_turns (delays.take count) 0
  have disposed : (turns canRetry send (delays.take count) 0).count .dispose =
      (List.range count).countP fun number => (send number).isOk := by
    have failedTurns : ∀ turn < (delays.take count).length,
        failure requestUri canRetry send cancelled (0 + turn) ≠ none := by
      intro turn early
      rw [Nat.zero_add]
      exact failed turn (by omega)
    rw [count_dispose_turns _ _ failedTurns, length, List.range_eq_range']
  refine ⟨count, ?_⟩
  generalize retrySend requestUri canRetry send cancelled delayThrows delays 0 none = course
    at ends
  cases ends with
  | answered last =>
      rw [Nat.zero_add] at last ⊢
      refine ⟨bounded, ?_, failed, .inl ?_, ?_, fun _ => rfl, absurd last,
        fun _ fails => absurd last fails, fun _ exception fails => ?_⟩
      · rw [requests_append, sent, List.range_succ]
        rfl
      · rw [waits_append, waited]
        exact List.append_nil _
      · rw [List.count_append, disposed, if_pos last, List.range_succ, List.countP_append]
        rfl
      · rw [last] at fails
        cases fails
  | interrupted exception thrown delay last next throws =>
      rw [Nat.zero_add] at last throws ⊢
      have fails : failure requestUri canRetry send cancelled count ≠ none := by
        rw [last]
        exact Option.some_ne_none exception
      refine ⟨bounded, ?_, failed, .inr ⟨?_, thrown, rfl⟩, ?_, fun none => absurd none fails,
        fun _ => ⟨thrown, rfl⟩, fun _ _ => ⟨delay, thrown, next, throws, rfl⟩, fun all => ?_⟩
      · rw [requests_append, requests_append, sent, requests_begun, List.range_succ]
        exact List.append_nil _
      · rw [waits_append, waits_append, waited, waits_begun, List.append_nil,
          List.take_add_one, next]
        rfl
      · rw [List.count_append, List.count_append, disposed, if_neg fails,
          List.count_cons_of_ne (by simp), count_dispose_disposal fails, List.range_succ,
          List.countP_append]
        rfl
      · rw [all, List.getElem?_eq_none (Nat.le_refl _)] at next
        cases next
  | exhausted exception all last =>
      rw [Nat.zero_add] at last ⊢
      have fails : failure requestUri canRetry send cancelled count ≠ none := by
        rw [last]
        exact Option.some_ne_none exception
      have whole : delays.take count = delays := by rw [all, List.take_length]
      rw [whole] at sent waited disposed
      refine ⟨bounded, ?_, failed, .inl ?_, ?_, fun none => absurd none fails,
        fun _ => ⟨_, rfl⟩, fun left => absurd all (Nat.ne_of_lt left), fun _ other same => ?_⟩
      · rw [requests_append, sent, requests_begun, List.range_succ]
      · rw [waits_append, waited, waits_begun, List.append_nil, whole]
      · rw [List.count_append, disposed, if_neg fails, List.count_cons_of_ne (by simp),
          count_dispose_disposal fails, List.range_succ, List.countP_append]
        rfl
      · rw [last] at same
        cases same
        rfl

end Report

/-! ## A call -/

section Call

/-- How often a request may be repeated. -/
def retries (options : ServiceManagerOptions) : HttpClientName → Nat
  | .userDefault => 0
  | .resilient | .messageResilient =>
      (options.retryOptions.map fun retry => retry.maxRetries).getD 0

/-- The answers that a client does not give to its caller. -/
def canRetry : HttpClientName → Nat → Bool
  | .userDefault => fun _ => false
  | .resilient => isTransientErrorForNonMessageApi
  | .messageResilient => isTransientErrorAndIdempotentForMessageApi

/-- How a request ends above `TimeoutHttpMessageHandler`, where there is one. -/
def clientSend (options : ServiceManagerOptions) (environment : Environment)
    (httpClientName : HttpClientName) (number : Nat) : Except Exn Response :=
  match httpClientName with
  | .resilient => timeoutSend environment options (environment.attempt number)
  | .userDefault | .messageResilient => (environment.attempt number).outcome

variable {conversion : IntConversion} {options : ServiceManagerOptions}
  {environment : Environment}

theorem length_delaysFrom (policy : ExponentialBackOffPolicy) (remaining i : Nat)
    (lastDelay : TimeSpan) :
    (policy.delaysFrom conversion remaining i lastDelay).length = remaining := by
  induction remaining generalizing i lastDelay with
  | zero => rfl
  | succ remaining inductionHypothesis =>
      unfold ExponentialBackOffPolicy.delaysFrom
      split_ifs
      · rw [List.length_cons, inductionHypothesis]
      · simp only [List.length_cons, inductionHypothesis]

/-- Every policy has as many delays as there may be retries. -/
theorem getDelays_length (conversion : IntConversion) (options : ServiceManagerOptions) :
    ∃ delays, getDelays conversion options = .ok delays ∧
      delays.length = (options.retryOptions.map fun retry => retry.maxRetries).getD 0 := by
  unfold getDelays
  cases options.retryOptions with
  | none => exact ⟨[], rfl, rfl⟩
  | some retry =>
      cases mode : retry.mode with
      | fixed =>
          refine ⟨List.replicate retry.maxRetries retry.delay, ?_, List.length_replicate⟩
          simp only [mode, FixedBackOffPolicy.create]
          rfl
      | exponential =>
          refine ⟨(⟨retry.maxRetries, retry.delay, retry.maxDelay⟩ :
            ExponentialBackOffPolicy).getDelays conversion, ?_, length_delaysFrom ..⟩
          simp only [mode, ExponentialBackOffPolicy.create]
          rfl

/-- Without a delay and with no answer to retry, the loop sends its request once. -/
theorem retrySend_once (requestUri : Option String) (send : Nat → Except Exn Response)
    (cancelled : Nat → Bool) (delayThrows : Nat → TimeSpan → Option Exn) :
    retrySend requestUri (fun _ => false) send cancelled delayThrows [] 0 none =
      ([.send 0], send 0) := by
  cases failed : failure requestUri (fun _ => false) send cancelled 0 with
  | none => exact retrySend_answered failed
  | some exception =>
      rw [retrySend_exhausted failed]
      unfold failure at failed
      unfold disposal
      cases outcome : send 0 with
      | ok response => simp [outcome] at failed
      | error other =>
          simp only [outcome] at failed
          split_ifs at failed
          cases failed
          rfl

theorem handlersSend_eq (requestUri : Option String) (httpClientName : HttpClientName) :
    ∃ delays, delays.length = retries options httpClientName ∧
      (httpClientName ≠ .userDefault → getDelays conversion options = .ok delays) ∧
      handlersSend conversion options environment requestUri httpClientName =
        .ok (retrySend requestUri (canRetry httpClientName)
          (clientSend options environment httpClientName)
          (fun number => (environment.attempt number).cancelledLater) environment.delayThrows
          delays 0 none) := by
  obtain ⟨delays, resolved, length⟩ := getDelays_length conversion options
  cases httpClientName with
  | userDefault =>
      refine ⟨[], rfl, fun other => absurd rfl other, ?_⟩
      rw [canRetry, retrySend_once]
      rfl
  | resilient =>
      refine ⟨delays, length, fun _ => resolved, ?_⟩
      rw [handlersSend, resolved]
      rfl
  | messageResilient =>
      refine ⟨delays, length, fun _ => resolved, ?_⟩
      rw [handlersSend, resolved]
      rfl

/-- The exception of a request that is not the last one to be sent, if delays are left. -/
def clientFailure (options : ServiceManagerOptions) (environment : Environment)
    (httpClientName : HttpClientName) (requestUri : Option String) : Nat → Option Exn :=
  failure requestUri (canRetry httpClientName) (clientSend options environment httpClientName)
    fun number => (environment.attempt number).cancelledLater

/-- A request has ended in a way after which the client may send it again. -/
def Repeatable (options : ServiceManagerOptions) : HttpClientName → Attempt → Prop
  | .userDefault, _ => False
  | .resilient, attempt =>
      match attempt.outcome with
      | .ok response => 500 ≤ response.statusCode ∨ response.statusCode = 408
      | .error exception => attempt.cancelledLater = false ∧ (exception.isTimeout = true ∨
          options.retryOptions.isSome ∧ exception.canceled.isSome ∧ attempt.cancelled = false)
  | .messageResilient, attempt =>
      match attempt.outcome with
      | .ok response => 500 < response.statusCode
      | .error exception => attempt.cancelledLater = false ∧ exception.isTimeout = true

/-- The handler changes the outcome only where it turns a cancellation into a timeout. -/
theorem timeoutSend_cases (attempt : Attempt) :
    timeoutSend environment options attempt = attempt.outcome ∨
      ∃ exception thrown, attempt.outcome = .error exception ∧ options.retryOptions.isSome ∧
        exception.canceled.isSome ∧ attempt.cancelled = false ∧
        timeoutSend environment options attempt = .error thrown := by
  unfold timeoutSend
  cases options.retryOptions with
  | none => exact .inl rfl
  | some retry =>
      cases attempt.outcome with
      | ok response => exact .inl rfl
      | error exception =>
          cases canceled : exception.canceled with
          | none =>
              simp only [canceled]
              exact .inl trivial
          | some message =>
              simp only [canceled]
              split_ifs with cancelled
              · exact .inl rfl
              · exact .inr ⟨exception, _, rfl, rfl, by rw [canceled]; rfl,
                  Bool.eq_false_of_not_eq_true cancelled, rfl⟩

theorem clientSend_cases (httpClientName : HttpClientName) (number : Nat) :
    clientSend options environment httpClientName number = (environment.attempt number).outcome ∨
      ∃ exception thrown, (environment.attempt number).outcome = .error exception ∧
        clientSend options environment httpClientName number = .error thrown := by
  cases httpClientName with
  | userDefault => exact .inl rfl
  | messageResilient => exact .inl rfl
  | resilient =>
      rcases timeoutSend_cases (environment.attempt number) with same | changed
      · exact .inl same
      · obtain ⟨exception, thrown, failed, -, -, -, isThrown⟩ := changed
        exact .inr ⟨exception, thrown, failed, isThrown⟩

theorem clientSend_isOk (httpClientName : HttpClientName) (number : Nat) :
    (clientSend options environment httpClientName number).isOk =
      (environment.attempt number).outcome.isOk := by
  rcases clientSend_cases httpClientName number with same | ⟨exception, thrown, failed, isThrown⟩
  · rw [same]
  · rw [failed, isThrown]
    rfl

theorem clientSend_ok (httpClientName : HttpClientName) (number : Nat) (response : Response) :
    clientSend options environment httpClientName number = .ok response ↔
      (environment.attempt number).outcome = .ok response := by
  rcases clientSend_cases httpClientName number with same | ⟨exception, thrown, failed, isThrown⟩
  · rw [same]
  · rw [failed, isThrown]
    simp

theorem repeatable_of_failure {httpClientName : HttpClientName} {requestUri : Option String}
    {number : Nat} (user : httpClientName ≠ .userDefault)
    (failed : clientFailure options environment httpClientName requestUri number ≠ none) :
    Repeatable options httpClientName (environment.attempt number) := by
  rcases failure_cases failed with
    ⟨response, answered, retried⟩ | ⟨exception, thrown, timeout, late⟩
  · rw [clientSend_ok] at answered
    cases httpClientName with
    | userDefault => exact absurd rfl user
    | messageResilient =>
        simp only [Repeatable, answered]
        exact of_decide_eq_true retried
    | resilient =>
        simp only [Repeatable, answered]
        exact of_decide_eq_true retried
  · cases httpClientName with
    | userDefault => exact absurd rfl user
    | messageResilient =>
        have outcome : (environment.attempt number).outcome = .error exception := thrown
        simp only [Repeatable, outcome]
        exact ⟨late, timeout⟩
    | resilient =>
        rcases timeoutSend_cases (environment.attempt number) with same | changed
        · have outcome : (environment.attempt number).outcome = .error exception :=
            same.symm.trans thrown
          simp only [Repeatable, outcome]
          exact ⟨late, .inl timeout⟩
        · obtain ⟨below, -, outcome, hasRetry, canceled, early, -⟩ := changed
          simp only [Repeatable, outcome]
          exact ⟨late, .inr ⟨hasRetry, canceled, early⟩⟩

/-- A cancellation is a timeout where the handlers look at it. -/
theorem isTimeout_of_canceled {exception : Exn} {attempt : Attempt}
    (hasRetry : options.retryOptions.isSome) (canceled : exception.canceled.isSome)
    (early : attempt.cancelled = false) (outcome : attempt.outcome = .error exception) :
    ∃ thrown, timeoutSend environment options attempt = .error thrown ∧
      thrown.isTimeout = true := by
  obtain ⟨retry, isRetry⟩ := Option.isSome_iff_exists.mp hasRetry
  obtain ⟨message, isMessage⟩ := Option.isSome_iff_exists.mp canceled
  unfold timeoutSend
  rw [isRetry, outcome]
  simp only [isMessage, early]
  exact ⟨_, rfl, rfl⟩

theorem timeoutSend_isTimeout {exception : Exn} {attempt : Attempt}
    (timeout : exception.isTimeout = true) (outcome : attempt.outcome = .error exception) :
    ∃ thrown, timeoutSend environment options attempt = .error thrown ∧
      thrown.isTimeout = true := by
  rcases timeoutSend_cases attempt with same | ⟨other, -, failed, hasRetry, canceled, early, -⟩
  · exact ⟨exception, same.trans outcome, timeout⟩
  · exact isTimeout_of_canceled hasRetry canceled early failed

theorem failure_of_timeout {canRetry : Nat → Bool} {send : Nat → Except Exn Response}
    {cancelled : Nat → Bool} {requestUri : Option String} {number : Nat} {exception : Exn}
    (thrown : send number = .error exception) (timeout : exception.isTimeout = true)
    (late : cancelled number = false) :
    failure requestUri canRetry send cancelled number ≠ none := by
  unfold failure
  simp only [thrown, timeout, late]
  exact Option.some_ne_none exception

theorem failure_of_repeatable {httpClientName : HttpClientName} {requestUri : Option String}
    {number : Nat} (repeatable : Repeatable options httpClientName (environment.attempt number)) :
    clientFailure options environment httpClientName requestUri number ≠ none := by
  cases outcome : (environment.attempt number).outcome with
  | ok response =>
      have retried : canRetry httpClientName response.statusCode = true := by
        cases httpClientName with
        | userDefault => exact repeatable.elim
        | resilient =>
            simp only [Repeatable, outcome] at repeatable
            exact decide_eq_true repeatable
        | messageResilient =>
            simp only [Repeatable, outcome] at repeatable
            exact decide_eq_true repeatable
      intro unfailed
      have kept := (failure_ok ((clientSend_ok _ _ _).mpr outcome)).mp unfailed
      rw [retried] at kept
      cases kept
  | error exception =>
      cases httpClientName with
      | userDefault => exact repeatable.elim
      | messageResilient =>
          simp only [Repeatable, outcome] at repeatable
          exact failure_of_timeout outcome repeatable.2 repeatable.1
      | resilient =>
          simp only [Repeatable, outcome] at repeatable
          obtain ⟨late, timeout | ⟨hasRetry, canceled, early⟩⟩ := repeatable
          · obtain ⟨thrown, isThrown, isTimeout⟩ := timeoutSend_isTimeout timeout outcome
            exact failure_of_timeout isThrown isTimeout late
          · obtain ⟨thrown, isThrown, isTimeout⟩ :=
              isTimeout_of_canceled hasRetry canceled early outcome
            exact failure_of_timeout isThrown isTimeout late

/-- What a call of the REST API has done and how it has ended, when its request has been repeated
so many times. -/
structure Contract (options : ServiceManagerOptions) (environment : Environment)
    (httpClientName : HttpClientName) (api : Api)
    (handleExpectedResponse : Option (Response → Except Exn Bool)) (delays : List TimeSpan)
    (count : Nat) (events : List Event) (result : Except Exn Unit) : Prop where
  bounded : count ≤ retries options httpClientName
  numbered : requests events = List.range (count + 1)
  repeated : ∀ number < count, Repeatable options httpClientName (environment.attempt number)
  /-- A request that may be repeated is, while a delay is left and the wait does not throw. -/
  repeats : count < retries options httpClientName →
    Repeatable options httpClientName (environment.attempt count) →
      ∃ delay thrown, delays[count]? = some delay ∧
        environment.delayThrows count delay = some thrown ∧
        result = .error (wrap api.requestUri (environment.rethrow thrown))
  /-- A message is not sent twice behind an answer that the service may give to one that it has
  taken, if only its token cancels a request. -/
  notDoubled : httpClientName = .messageResilient →
    (∀ number exception, (environment.attempt number).outcome = .error exception →
      exception.isTimeout = true → (environment.attempt number).cancelledLater = true) →
    ∀ number < count, ∃ response, (environment.attempt number).outcome = .ok response ∧
      500 < response.statusCode
  waited : waits events = delays.take count ∨
    waits events = delays.take (count + 1) ∧ result ≠ .ok ()
  disposed : events.count .dispose =
    (List.range (count + 1)).countP fun number => (environment.attempt number).outcome.isOk
  succeeds : result = .ok () ↔ ∃ response, (environment.attempt count).outcome = .ok response ∧
    canRetry httpClientName response.statusCode = false ∧
    handleResponse api handleExpectedResponse response = .ok ()
  /-- The exceptions of all requests, in order, when no delay is left. -/
  gaveUp : count = retries options httpClientName → ∀ exception,
    clientFailure options environment httpClientName api.requestUri count = some exception →
    result = .error (wrap api.requestUri (environment.rethrow (if count = 0 then exception
      else .runtime api.requestUri (.aggregate ((List.range (count + 1)).filterMap
        (clientFailure options environment httpClientName api.requestUri))) 500 "")))

section Assembly

variable {httpClientName : HttpClientName} {api : Api}
  {handleExpectedResponse : Option (Response → Except Exn Bool)} {delays : List TimeSpan}
  {count : Nat} {events : List Event} {outcome : Except Exn Response}

/-- The answer above the retries, or the exception of one of them. -/
abbrev ClientReport (options : ServiceManagerOptions) (environment : Environment)
    (httpClientName : HttpClientName) (requestUri : Option String) (delays : List TimeSpan)
    (count : Nat) (events : List Event) (outcome : Except Exn Response) : Prop :=
  Report requestUri (canRetry httpClientName) (clientSend options environment httpClientName)
    (fun number => (environment.attempt number).cancelledLater) environment.delayThrows delays
    count (events, outcome)

theorem repeated_of_report
    (report : ClientReport options environment httpClientName api.requestUri delays count events
      outcome)
    (length : delays.length = retries options httpClientName) :
    ∀ number < count, Repeatable options httpClientName (environment.attempt number) := by
  intro number early
  have failed : clientFailure options environment httpClientName api.requestUri number ≠ none :=
    report.failed number early
  refine repeatable_of_failure ?_ failed
  intro user
  have bounded := report.bounded
  rw [length, user] at bounded
  exact absurd (Nat.lt_of_lt_of_le early bounded) (Nat.not_lt_zero number)

theorem notDoubled_of_repeated
    (repeated : ∀ number < count,
      Repeatable options httpClientName (environment.attempt number))
    (message : httpClientName = .messageResilient)
    (byToken : ∀ number exception, (environment.attempt number).outcome = .error exception →
      exception.isTimeout = true → (environment.attempt number).cancelledLater = true)
    (number : Nat) (early : number < count) :
    ∃ response, (environment.attempt number).outcome = .ok response ∧
      500 < response.statusCode := by
  have repeatable := repeated number early
  rw [message] at repeatable
  cases outcome : (environment.attempt number).outcome with
  | ok response =>
      simp only [Repeatable, outcome] at repeatable
      exact ⟨response, rfl, repeatable⟩
  | error exception =>
      simp only [Repeatable, outcome] at repeatable
      have late := byToken number exception outcome repeatable.2
      rw [late] at repeatable
      exact absurd repeatable.1 Bool.noConfusion

theorem countP_attempts (httpClientName : HttpClientName) (numbers : List Nat) :
    (numbers.countP fun number => (clientSend options environment httpClientName number).isOk) =
      numbers.countP fun number => (environment.attempt number).outcome.isOk := by
  simp only [clientSend_isOk]

theorem contract_of_error {exception : Exn}
    (report : ClientReport options environment httpClientName api.requestUri delays count events
      (.error exception))
    (length : delays.length = retries options httpClientName) :
    Contract options environment httpClientName api handleExpectedResponse delays count events
      (.error (wrap api.requestUri (environment.rethrow exception))) := by
  have repeated := repeated_of_report report length
  refine ⟨length ▸ report.bounded, report.numbered, repeated, fun left repeatable => ?_,
    notDoubled_of_repeated repeated, ?_, ?_, ?_, ?_⟩
  · obtain ⟨delay, thrown, isDelay, throws, isThrown⟩ :=
      report.interrupted (length ▸ left) (failure_of_repeatable repeatable)
    cases isThrown
    exact ⟨delay, _, isDelay, throws, rfl⟩
  · exact report.waited.imp id fun waited => ⟨waited.1, by simp⟩
  · rw [← countP_attempts, ← report.disposed]
    split_ifs with last
    · have thrown := report.answered last
      simp [← thrown, Except.isOk, Except.toBool]
    · rfl
  · refine ⟨fun accepted => (by cases accepted), fun answered => ?_⟩
    obtain ⟨response, answered, taken, -⟩ := answered
    rw [← clientSend_ok] at answered
    have thrown := report.answered ((failure_ok answered).mpr taken)
    rw [answered] at thrown
    cases thrown
  · intro all last failed
    have thrown := report.exhausted (all.trans length.symm) last failed
    simp only [Except.error.injEq] at thrown
    rw [thrown]
    split_ifs with first
    · rfl
    · have gathered : (List.range (count + 1)).filterMap
          (clientFailure options environment httpClientName api.requestUri) =
          failures api.requestUri (canRetry httpClientName)
            (clientSend options environment httpClientName)
            (fun number => (environment.attempt number).cancelledLater) 0 count ++ [last] := by
        rw [List.range_succ, List.filterMap_append, failures, ← List.range_eq_range',
          List.filterMap_cons_some failed]
        rfl
      rw [gathered]
      rfl

theorem contract_of_ok {response : Response}
    (report : ClientReport options environment httpClientName api.requestUri delays count events
      (.ok response))
    (length : delays.length = retries options httpClientName) :
    Contract options environment httpClientName api handleExpectedResponse delays count
      (events ++ [.dispose])
      ((handleResponse api handleExpectedResponse response).mapError (wrap api.requestUri)) := by
  have repeated := repeated_of_report report length
  have last : clientFailure options environment httpClientName api.requestUri count = none := by
    by_contra failed
    obtain ⟨thrown, isThrown⟩ := report.thrown failed
    cases isThrown
  have answered : clientSend options environment httpClientName count = .ok response :=
    (report.answered last).symm
  refine ⟨length ▸ report.bounded, ?_, repeated,
    fun _ repeatable => absurd last (failure_of_repeatable repeatable),
    notDoubled_of_repeated repeated, ?_, ?_, ?_, ?_⟩
  · rw [requests_append, report.numbered]
    exact List.append_nil _
  · rw [waits_append]
    refine .inl ((List.append_nil _).trans ?_)
    rcases report.waited with waited | ⟨-, thrown, isThrown⟩
    · exact waited
    · cases isThrown
  · have disposed := report.disposed
    unfold clientFailure at last
    rw [if_pos last] at disposed
    rw [List.count_append, ← countP_attempts, ← disposed]
    simp [answered, Except.isOk, Except.toBool]
  · rw [clientSend_ok] at answered
    constructor
    · intro accepted
      refine ⟨response, answered, ?_, ?_⟩
      · exact (failure_ok ((clientSend_ok _ _ _).mpr answered)).mp last
      · cases handled : handleResponse api handleExpectedResponse response with
        | ok _ => rfl
        | error exception =>
            rw [handled] at accepted
            cases accepted
    · rintro ⟨other, same, -, accepted⟩
      rw [answered] at same
      cases same
      rw [accepted]
      rfl
  · intro _ exception failed
    rw [last] at failed
    cases failed

end Assembly

/-- What any call does and how it ends, by the answers that its requests get. -/
theorem rest_call_contract (conversion : IntConversion) (options : ServiceManagerOptions)
    (environment : Environment) (httpClientName : HttpClientName) (api : Api)
    (handleExpectedResponse : Option (Response → Except Exn Bool)) :
    ∃ delays count events result,
      sendAsyncCore conversion options environment httpClientName api handleExpectedResponse =
        .ok (events, result) ∧
      delays.length = retries options httpClientName ∧
      (httpClientName ≠ .userDefault → getDelays conversion options = .ok delays) ∧
      Contract options environment httpClientName api handleExpectedResponse delays count events
        result := by
  obtain ⟨delays, length, resolved, handled⟩ := handlersSend_eq api.requestUri httpClientName
  obtain ⟨count, report⟩ := retrySend_report api.requestUri (canRetry httpClientName)
    (clientSend options environment httpClientName)
    (fun number => (environment.attempt number).cancelledLater) environment.delayThrows delays
  refine ⟨delays, count, ?_⟩
  unfold sendAsyncCore
  rw [handled]
  generalize retrySend api.requestUri (canRetry httpClientName)
    (clientSend options environment httpClientName)
    (fun number => (environment.attempt number).cancelledLater) environment.delayThrows delays 0
    none = course at report
  obtain ⟨events, outcome⟩ := course
  cases outcome with
  | error exception => exact ⟨_, _, rfl, length, resolved, contract_of_error report length⟩
  | ok response => exact ⟨_, _, rfl, length, resolved, contract_of_ok report length⟩

/-- A message is sent once more behind an answer of 503, with the configured delay between. -/
example : (sendAsyncCore .indefinite { retryOptions := some { maxRetries := 2 } }
    { attempt := fun number =>
        { outcome := .ok { statusCode := if number = 0 then 503 else 202 } } }
    .messageResilient { requestUri := none, token := "" } none).toOption.map (fun call => call.1) =
    some [.send 0, .dispose, .wait 8000000, .send 1, .dispose] := by
  decide

end Call

end AzureSignalR.Management.RestClient
