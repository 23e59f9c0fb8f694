import AzureSignalR.Library.AsyncIterator
import AzureSignalR.Library.WhiteSpace
import AzureSignalR.Protocol.ServiceMessage
import AzureSignalR.ServiceConnections.MessageWrite

/-!
Contract: listing the connections of a group over several endpoints.

Owns: `ListConnectionsInGroupAsync` of the container and of `MultiEndpointMessageWriter`,
as iterators that cause the queries; what they yield, which queries they cause, and when
an endpoint without an active connection ends the listing.

Does not own: what the service answers. The pages of an endpoint, and whether and when it
has no active connection any more, are inputs. `AckId` of a query, which `InvokeAsync` sets,
is left out.
-/

set_option autoImplicit false

namespace AzureSignalR.ServiceConnections.GroupListing

open Library Library.AsyncIterator Protocol
open Library.WhiteSpace (isNullOrWhiteSpace)
open MessageWrite (Failure Round)

/-! ## The container -/

/-- What the queries to an endpoint come to: pages with a continuation token, and behind them
the page without one, or what `InvokeAsync` throws. -/
structure Endpoint (μ : Type) where
  pages : List (List μ × String) := []
  last : Except Failure (List μ)

/-- `InvokeAsync` of a query: what the write finds in each round, and the answer of the ack. -/
def invokeAsync {κ α : Type} (message : GroupMemberQueryMessage) (rounds : Nat → Round κ)
    (answer : α) : Except Failure α :=
  match (MessageWrite.writeMessageAsync messagePackFormat (.groupMemberQuery message) rounds).result
    with
  | .error failure => .error failure
  | .ok () => .ok answer

/-- Without an active connection it throws before there is an answer. -/
theorem invokeAsync_of_inactive {κ α : Type} {message : GroupMemberQueryMessage}
    {rounds : Nat → Round κ} {answer : α} (unknown : (rounds 0).lookup.connection = none)
    (inactive : ∀ connection ∈ (rounds 0).serviceConnections, connection.2 = false) :
    ∃ failure, invokeAsync message rounds answer = .error failure := by
  obtain ⟨failure, none⟩ := MessageWrite.selectConnection_of_inactive unknown inactive
  refine ⟨failure, ?_⟩
  rw [invokeAsync, MessageWrite.writeMessageAsync, MessageWrite.tryWrite, none]

inductive ListError where
  | argumentOutOfRange (paramName message : String)
  | argument (message paramName : String)
  | invocation (failure : Failure)
deriving DecidableEq, Repr

variable {μ : Type}

/-- An iterator over members that causes queries, each to the endpoint at a position. -/
abbrev Listing (μ : Type) : Type := AsyncIterator (Nat × GroupMemberQueryMessage) μ ListError

/-- The loop of `ListConnectionsInGroupAsync` of a container. -/
def queryPages (position : Nat) (last : Except Failure (List μ)) :
    GroupMemberQueryMessage → List (List μ × String) → Listing μ
  | message, [] =>
      .cause (position, message)
        (match last with
        | .error failure => .throws (.invocation failure)
        | .ok members => yieldAll .done members)
  | message, (members, continuationToken) :: pages =>
      let next :=
        { message with
          top := message.top.map fun top => top - Int32.ofNat members.length
          continuationToken := some continuationToken }
      .cause (position, message) (yieldAll (queryPages position last next pages) members)

/-- The query for the first page. -/
def firstQuery (groupName : Option String) (top : Option Int32) (tracingId : Option UInt64) :
    GroupMemberQueryMessage where
  ackId := 0
  groupName := groupName.getD ""
  top := top
  continuationToken := none
  tracingId := tracingId

def Endpoint.queries (endpoint : Endpoint μ) (position : Nat) (message : GroupMemberQueryMessage) :
    Listing μ :=
  queryPages position endpoint.last message endpoint.pages

/-- The body of `ListConnectionsInGroupAsync` of a container, which the first `MoveNextAsync`
enters. -/
def Endpoint.members (endpoint : Endpoint μ) (position : Nat) (groupName : Option String)
    (top : Option Int32) (tracingId : Option UInt64) : Listing μ :=
  if isNullOrWhiteSpace groupName then
    .throws (.argument "'groupName' cannot be null or whitespace." "groupName")
  else if top.any fun count => count ≤ 0 then
    .throws (.argument "'top' must be greater than 0." "top")
  else
    endpoint.queries position (firstQuery groupName top tracingId)

/-- The call of `ListConnectionsInGroupAsync` of a container. It gives the iterator before anything
of its body is run. -/
def Endpoint.listConnectionsInGroupAsync (endpoint : Endpoint μ) (position : Nat)
    (groupName : Option String) (top : Option Int32) (tracingId : Option UInt64) :
    Except ListError (Listing μ) :=
  .ok (endpoint.members position groupName top tracingId)

/-! ## The writer -/

/-- `await foreach` over the members of one endpoint, and what comes behind it. -/
def forEachMember (next : Option Int32 → Listing μ) : Listing μ → Option Int32 → Listing μ
  | .done, top => next top
  | .throws error, _ => .throws error
  | .cause query rest, top => .cause query (forEachMember next rest top)
  | .yield member rest, none => .yield member (forEachMember next rest none)
  | .yield member rest, some top =>
      .yield member (if top - 1 = 0 then .done else forEachMember next rest (some (top - 1)))

/-- The loop over the endpoints. -/
def listEndpoints (groupName : Option String) (tracingId : Option UInt64) :
    (position : Nat) → List (Endpoint μ) → (top : Option Int32) → Listing μ
  | _, [], _ => .done
  | position, endpoint :: endpoints, top =>
      match endpoint.listConnectionsInGroupAsync position groupName top tracingId with
      | .error (.invocation .serviceConnectionNotActive) =>
          listEndpoints groupName tracingId (position + 1) endpoints top
      | .error error => .throws error
      | .ok enumerable =>
          forEachMember (listEndpoints groupName tracingId (position + 1) endpoints) enumerable top

/-- `ListConnectionsInGroupAsync` of `MultiEndpointMessageWriter`. -/
def listConnectionsInGroupAsync (targetEndpoints : List (Endpoint μ)) (groupName : Option String)
    (top : Option Int32) (tracingId : Option UInt64) : Listing μ :=
  if targetEndpoints.length = 0 then .done
  else if top.any fun count => count ≤ 0 then
    .throws (.argumentOutOfRange "top" "Top must be greater than 0.")
  else listEndpoints groupName tracingId 0 targetEndpoints top

/-! ## Limits -/

/-- No top, or at least one. -/
def Permitted (top : Option Int32) : Prop := ∀ count ∈ top, 0 < count

instance (top : Option Int32) : Decidable (Permitted top) :=
  Option.decidableForallMem top

theorem Permitted.any_eq_false {top : Option Int32} (permitted : Permitted top) :
    (top.any fun count => count ≤ 0) = false := by
  cases top with
  | none => rfl
  | some count => exact decide_eq_false (Int32.not_le.mpr (permitted count rfl))

/-- How many members a top permits. -/
def limit (top : Option Int32) : Option Nat := top.map Int32.toNatClampNeg

section Limits

variable {count : Int32} {size : Nat} {top : Option Int32}

theorem sub_ofNat (positive : 0 ≤ count) (fits : size ≤ count.toNatClampNeg) :
    count - Int32.ofNat size = Int32.ofNat (count.toNatClampNeg - size) := by
  have whole : count = Int32.ofNat (count.toNatClampNeg - size) + Int32.ofNat size := by
    rw [← Int32.ofNat_add, Nat.sub_add_cancel fits, Int32.ofNat_toNatClampNeg count positive]
  calc count - Int32.ofNat size
      = Int32.ofNat (count.toNatClampNeg - size) + Int32.ofNat size - Int32.ofNat size := by
        rw [← whole]
    _ = Int32.ofNat (count.toNatClampNeg - size) := Int32.add_sub_cancel _ _

theorem toNatClampNeg_sub (positive : 0 ≤ count) (fits : size ≤ count.toNatClampNeg) :
    (count - Int32.ofNat size).toNatClampNeg = count.toNatClampNeg - size := by
  have bound := count.toNatClampNeg_lt
  rw [sub_ofNat positive fits, Int32.toNatClampNeg_ofNat_of_lt (by omega)]

/-- The top behind some members. -/
def topBehind (top : Option Int32) (size : Nat) : Option Int32 :=
  top.map fun count => count - Int32.ofNat size

theorem topBehind_topBehind (first second : Nat) :
    topBehind (topBehind top first) second = topBehind top (first + second) := by
  cases top with
  | none => rfl
  | some count =>
      show some (count - Int32.ofNat first - Int32.ofNat second) =
        some (count - Int32.ofNat (first + second))
      rw [Int32.ofNat_add, Int32.sub_sub]

theorem topBehind_zero : topBehind top 0 = top := by
  cases top with
  | none => rfl
  | some count => exact congrArg some (Int32.sub_zero count)

theorem below_zero_limit (permitted : Permitted top) : Below 0 (limit top) := by
  cases top with
  | none => trivial
  | some count => exact (Int32.toNatClampNeg_pos_iff count).mpr (permitted count rfl)

theorem limit_topBehind (permitted : Permitted top) (below : Below size (limit top)) :
    limit (topBehind top size) = remaining (limit top) size := by
  cases top with
  | none => rfl
  | some count =>
      exact congrArg some
        (toNatClampNeg_sub (Int32.le_of_lt (permitted count rfl)) (Nat.le_of_lt below))

theorem map_ofNat_remaining (permitted : Permitted top) (below : Below size (limit top)) :
    (remaining (limit top) size).map Int32.ofNat = topBehind top size := by
  cases top with
  | none => rfl
  | some count =>
      show some (Int32.ofNat (count.toNatClampNeg - size)) = some (count - Int32.ofNat size)
      rw [sub_ofNat (Int32.le_of_lt (permitted count rfl)) (Nat.le_of_lt below)]

/-- Before the limit there is more to ask for. -/
theorem permitted_topBehind (permitted : Permitted top) (below : Below size (limit top)) :
    Permitted (topBehind top size) := by
  cases top with
  | none => nofun
  | some count =>
      intro less isLess
      cases isLess
      rw [← Int32.toNatClampNeg_pos_iff,
        toNatClampNeg_sub (Int32.le_of_lt (permitted count rfl)) (Nat.le_of_lt below)]
      exact Nat.sub_pos_of_lt below

theorem map_ofNat_limit (permitted : Permitted top) : (limit top).map Int32.ofNat = top := by
  have behind := map_ofNat_remaining permitted (below_zero_limit permitted)
  rwa [remaining_zero, topBehind_zero] at behind

end Limits

theorem limit_eq_one_iff {count : Int32} (positive : 0 < count) :
    limit (some count) = some 1 ↔ count - 1 = 0 := by
  constructor
  · intro isOne
    have clamped : count.toNatClampNeg = 1 := Option.some.inj isOne
    rw [← Int32.ofNat_toNatClampNeg count (Int32.le_of_lt positive), clamped]
    decide
  · intro isZero
    have isOne : count = 1 := by rw [← Int32.sub_add_cancel count 1, isZero, Int32.zero_add]
    rw [isOne]
    decide

/-- The loop passes the members on up to the top. -/
theorem forEachMember_eq {next : Option Int32 → Listing μ} (listing : Listing μ)
    {top : Option Int32} (permitted : Permitted top) :
    forEachMember next listing top =
      passOn (fun limit => next (limit.map Int32.ofNat)) listing (limit top) := by
  induction listing generalizing top with
  | done => rw [forEachMember, passOn, map_ofNat_limit permitted]
  | throws error => rfl
  | cause query rest inductionHypothesis =>
      rw [forEachMember, passOn, inductionHypothesis permitted]
  | yield member rest inductionHypothesis =>
      cases top with
      | none =>
          rw [forEachMember, passOn, inductionHypothesis permitted]
          rfl
      | some count =>
          have last := limit_eq_one_iff (permitted count rfl)
          rw [forEachMember, passOn]
          by_cases isLast : limit (some count) = some 1
          · rw [if_pos isLast, if_pos (last.mp isLast)]
          · have more : Below 1 (limit (some count)) :=
              (below_succ 0).mpr (below_zero_remaining (below_zero_limit permitted) isLast)
            rw [if_neg isLast, if_neg fun isZero => isLast (last.mpr isZero),
              ← limit_topBehind permitted more]
            exact congrArg (AsyncIterator.yield member)
              (inductionHypothesis (permitted_topBehind permitted more))

/-! ## One endpoint -/

namespace Endpoint

/-- The members an endpoint reports, up to the page at which it has no active connection any
more. -/
def reported (endpoint : Endpoint μ) : List μ :=
  endpoint.pages.flatMap Prod.fst ++ endpoint.last.toOption.getD []

def IsActive (endpoint : Endpoint μ) : Prop := ∃ members, endpoint.last = .ok members

end Endpoint

section Pages

variable {position : Nat} {last : Except Failure (List μ)} {message : GroupMemberQueryMessage}
  {pages : List (List μ × String)}

theorem yields_queryPages : (queryPages position last message pages).yields =
    pages.flatMap Prod.fst ++ last.toOption.getD [] := by
  induction pages generalizing message with
  | nil =>
      cases last with
      | error failure => rfl
      | ok members =>
          show (yieldAll _ members).yields = members
          rw [yields_yieldAll]
          exact List.append_nil members
  | cons page pages inductionHypothesis =>
      show (yieldAll _ page.1).yields = _
      rw [yields_yieldAll, inductionHypothesis, List.flatMap_cons, List.append_assoc]

theorem error?_queryPages : (queryPages position last message pages).error? =
    match last with
    | .error failure => some (.invocation failure)
    | .ok _ => none := by
  induction pages generalizing message with
  | nil =>
      cases last with
      | error failure => rfl
      | ok members => exact error?_yieldAll _ members
  | cons page pages inductionHypothesis =>
      show (yieldAll _ page.1).error? = _
      rw [error?_yieldAll, inductionHypothesis]

/-- Behind the last page there is no query. -/
theorem effectsFrom_lastPage (behind : Nat) :
    (match last with
      | .error failure => (.throws (.invocation failure) : Listing μ)
      | .ok members => yieldAll .done members).effectsFrom behind = [] := by
  cases last with
  | error failure => rfl
  | ok members => exact effectsFrom_yieldAll _ members behind

/-- Every query asks for the members that are left, and carries the token of the page before. -/
theorem query_top (behind : Nat) : ∀ entry ∈ (queryPages position last message pages).effectsFrom
    behind, entry.2.1 = position ∧ behind ≤ entry.1 ∧
      entry.2.2.top = topBehind message.top (entry.1 - behind) := by
  induction pages generalizing message behind with
  | nil =>
      intro entry member
      replace member : entry ∈ (behind, position, message) :: effectsFrom behind _ := member
      rw [effectsFrom_lastPage, List.mem_singleton] at member
      subst member
      refine ⟨rfl, Nat.le_refl _, ?_⟩
      rw [Nat.sub_self, topBehind_zero]
  | cons page pages inductionHypothesis =>
      intro entry member
      replace member : entry ∈ (behind, position, message) ::
        (yieldAll (queryPages position last _ pages) page.1).effectsFrom behind := member
      rw [effectsFrom_yieldAll] at member
      rcases List.mem_cons.mp member with rfl | later
      · refine ⟨rfl, Nat.le_refl _, ?_⟩
        rw [Nat.sub_self, topBehind_zero]
      · obtain ⟨isPosition, old, isTop⟩ := inductionHypothesis _ entry later
        refine ⟨isPosition, by omega, ?_⟩
        rw [isTop]
        show topBehind (topBehind message.top page.1.length) _ = _
        rw [topBehind_topBehind]
        congr 1
        omega

theorem map_token_queryPages (behind : Nat) :
    ((queryPages position last message pages).effectsFrom behind).map
        (fun entry => entry.2.2.continuationToken) =
      message.continuationToken :: pages.map fun page => some page.2 := by
  induction pages generalizing message behind with
  | nil =>
      show ((behind, position, message) :: effectsFrom behind _).map _ = _
      rw [effectsFrom_lastPage]
      rfl
  | cons page pages inductionHypothesis =>
      show ((behind, position, message) ::
        (yieldAll (queryPages position last _ pages) page.1).effectsFrom behind).map _ = _
      rw [effectsFrom_yieldAll, List.map_cons, inductionHypothesis, List.map_cons]

variable (position message) (endpoint : Endpoint μ)

theorem Endpoint.yields_queries : (endpoint.queries position message).yields = endpoint.reported :=
  yields_queryPages

variable {endpoint}

theorem Endpoint.IsActive.ends (active : endpoint.IsActive) :
    (endpoint.queries position message).error? = none := by
  obtain ⟨members, isLast⟩ := active
  rw [Endpoint.queries, error?_queryPages, isLast]

theorem Endpoint.throws_of_offline (offline : ¬ endpoint.IsActive) :
    ∃ error, (endpoint.queries position message).error? = some error := by
  rw [Endpoint.queries, error?_queryPages]
  cases isLast : endpoint.last with
  | ok members => exact absurd ⟨members, isLast⟩ offline
  | error failure => exact ⟨_, rfl⟩

end Pages

/-! ## All endpoints -/

section Endpoints

variable {groupName : Option String} (tracingId : Option UInt64) (position : Nat)
  {endpoint : Endpoint μ} {endpoints : List (Endpoint μ)} {top : Option Int32}

/-- The pages of the first endpoint are passed on up to the top. -/
theorem listEndpoints_cons (named : isNullOrWhiteSpace groupName = false)
    (permitted : Permitted top) :
    listEndpoints groupName tracingId position (endpoint :: endpoints) top =
      passOn
        (fun limit =>
          listEndpoints groupName tracingId (position + 1) endpoints (limit.map Int32.ofNat))
        (endpoint.queries position (firstQuery groupName top tracingId)) (limit top) := by
  have positive : ¬ (top.any fun count => count ≤ 0) = true :=
    Bool.eq_false_iff.mp permitted.any_eq_false
  have body : endpoint.members position groupName top tracingId =
      endpoint.queries position (firstQuery groupName top tracingId) := by
    rw [Endpoint.members, if_neg (by rw [named]; decide), if_neg positive]
  rw [← forEachMember_eq _ permitted, ← body]
  rfl

theorem upTo_append_of_not_below {first second : List μ} {limit : Option Nat}
    (reached : ¬ Below first.length limit) : upTo limit (first ++ second) = upTo limit first := by
  cases limit with
  | none => exact absurd trivial reached
  | some count => exact List.take_append_of_le_length (Nat.le_of_not_lt reached)

theorem yields_listEndpoints (named : isNullOrWhiteSpace groupName = false)
    (permitted : Permitted top) (active : ∀ endpoint ∈ endpoints, endpoint.IsActive) :
    (listEndpoints groupName tracingId position endpoints top).yields =
        upTo (limit top) (endpoints.flatMap Endpoint.reported) ∧
      (listEndpoints groupName tracingId position endpoints top).error? = none := by
  induction endpoints generalizing position top with
  | nil =>
      refine ⟨?_, rfl⟩
      cases top with
      | none => rfl
      | some count => exact List.take_nil.symm
  | cons endpoint endpoints inductionHypothesis =>
      have ends := (active endpoint List.mem_cons_self).ends position
        (firstQuery groupName top tracingId)
      have others : ∀ endpoint ∈ endpoints, endpoint.IsActive :=
        fun other member => active other (List.mem_cons_of_mem _ member)
      have positive := below_zero_limit permitted
      rw [listEndpoints_cons tracingId position named permitted, yields_passOn ends positive,
        error?_passOn ends positive, Endpoint.yields_queries, List.flatMap_cons]
      split
      next below =>
        have rest := inductionHypothesis (position + 1) (permitted_topBehind permitted below)
          others
        rw [map_ofNat_remaining permitted below, rest.1, rest.2, upTo_append, upTo_of_below below,
          limit_topBehind permitted below]
        exact ⟨rfl, rfl⟩
      next reached =>
        rw [upTo_append_of_not_below reached]
        exact ⟨rfl, rfl⟩

/-- Queries are caused only before the top is reached, and ask for the members that are left. -/
theorem queries_listEndpoints (named : isNullOrWhiteSpace groupName = false)
    (permitted : Permitted top) (active : ∀ endpoint ∈ endpoints, endpoint.IsActive)
    (behind : Nat) :
    ∀ entry ∈ (listEndpoints groupName tracingId position endpoints top).effectsFrom behind,
      position ≤ entry.2.1 ∧ behind ≤ entry.1 ∧ Below (entry.1 - behind) (limit top) ∧
        entry.2.2.top = topBehind top (entry.1 - behind) := by
  induction endpoints generalizing position top behind with
  | nil => nofun
  | cons endpoint endpoints inductionHypothesis =>
      have ends := (active endpoint List.mem_cons_self).ends position
        (firstQuery groupName top tracingId)
      have others : ∀ endpoint ∈ endpoints, endpoint.IsActive :=
        fun other member => active other (List.mem_cons_of_mem _ member)
      rw [listEndpoints_cons tracingId position named permitted]
      obtain ⟨caused, isPrefix, below, isCaused⟩ := exists_effects_passOn ends
        (below_zero_limit permitted) behind
      rw [isCaused, Endpoint.yields_queries]
      intro entry member
      rcases List.mem_append.mp member with here | later
      · obtain ⟨isPosition, old, isTop⟩ := query_top behind entry (isPrefix.subset here)
        exact ⟨Nat.le_of_eq isPosition.symm, old, (below entry here).2, isTop⟩
      · split at later
        next more =>
          rw [map_ofNat_remaining permitted more] at later
          obtain ⟨isLater, old, isBelow, isTop⟩ :=
            inductionHypothesis (position + 1) (permitted_topBehind permitted more) others _ entry
              later
          rw [limit_topBehind permitted more, below_remaining] at isBelow
          rw [topBehind_topBehind] at isTop
          have sum : endpoint.reported.length +
              (entry.1 - (behind + endpoint.reported.length)) = entry.1 - behind := by omega
          rw [sum] at isBelow isTop
          exact ⟨by omega, by omega, isBelow, isTop⟩
        next => cases later

/-- The continuation tokens of the queries to the endpoint at a position. -/
def tokens (listing : Listing μ) (position : Nat) (behind : Nat) : List (Option String) :=
  ((listing.effectsFrom behind).filter fun entry => entry.2.1 = position).map
    fun entry => entry.2.2.continuationToken

/-- Each query carries the token of the page before it. -/
theorem tokens_listEndpoints (named : isNullOrWhiteSpace groupName = false)
    (permitted : Permitted top) (active : ∀ endpoint ∈ endpoints, endpoint.IsActive)
    (behind number : Nat) (isEndpoint : endpoints[number]? = some endpoint) :
    tokens (listEndpoints groupName tracingId position endpoints top) (position + number) behind
      <+: none :: endpoint.pages.map fun page => some page.2 := by
  induction endpoints generalizing position top behind number with
  | nil => cases isEndpoint
  | cons first endpoints inductionHypothesis =>
      have ends := (active first List.mem_cons_self).ends position
        (firstQuery groupName top tracingId)
      have others : ∀ endpoint ∈ endpoints, endpoint.IsActive :=
        fun other member => active other (List.mem_cons_of_mem _ member)
      rw [tokens, listEndpoints_cons tracingId position named permitted]
      obtain ⟨caused, isPrefix, -, isCaused⟩ := exists_effects_passOn ends
        (below_zero_limit permitted) behind
      rw [isCaused, Endpoint.yields_queries, List.filter_append, List.map_append]
      have here : ∀ entry ∈ caused, entry.2.1 = position := fun entry member =>
        (query_top behind entry (isPrefix.subset member)).1
      cases number with
      | zero =>
          cases isEndpoint
          have all : caused.filter (fun entry => entry.2.1 = position + 0) = caused :=
            List.filter_eq_self.mpr fun entry member => decide_eq_true (here entry member)
          rw [all, List.filter_eq_nil_iff.mpr ?later, List.map_nil, List.append_nil]
          case later =>
            intro entry member isPosition
            split at member
            next more =>
              rw [map_ofNat_remaining permitted more] at member
              have isLater := (queries_listEndpoints tracingId (position + 1) named
                (permitted_topBehind permitted more) others _ entry member).1
              exact absurd (of_decide_eq_true isPosition) (by omega)
            next => cases member
          have tokens := isPrefix.map fun entry => entry.2.2.continuationToken
          rwa [Endpoint.queries, map_token_queryPages] at tokens
      | succ number =>
          have none : caused.filter (fun entry => entry.2.1 = position + (number + 1)) = [] := by
            refine List.filter_eq_nil_iff.mpr fun entry member isPosition => ?_
            rw [here entry member] at isPosition
            exact absurd (of_decide_eq_true isPosition) (by omega)
          rw [none, List.map_nil, List.nil_append]
          split
          next more =>
            rw [map_ofNat_remaining permitted more]
            have rest := inductionHypothesis (position + 1)
              (permitted_topBehind permitted more) others
              (behind + first.reported.length) number isEndpoint
            rwa [tokens, Nat.add_assoc position 1, Nat.add_comm 1] at rest
          next => exact List.nil_prefix

/-- With a top that is permitted only the endpoints are left to go over. -/
theorem listConnectionsInGroupAsync_eq {tracingId : Option UInt64} (permitted : Permitted top) :
    listConnectionsInGroupAsync endpoints groupName top tracingId =
      listEndpoints groupName tracingId 0 endpoints top := by
  rw [listConnectionsInGroupAsync]
  split_ifs with empty outOfRange
  · rw [List.length_eq_zero_iff.mp empty]
    rfl
  · rw [permitted.any_eq_false] at outOfRange
    cases outOfRange
  · rfl

end Endpoints

/-! ## Pages -/

/-- A listing of endpoints that all answer. -/
structure ListsPages (endpoints : List (Endpoint μ)) (top : Option Int32) (listing : Listing μ) :
    Prop where
  /-- The first members, in the order of the endpoints. -/
  yields : listing.yields = upTo (limit top) (endpoints.flatMap Endpoint.reported)
  ends : listing.error? = none
  /-- There is no query behind the last of them. -/
  stops : ∀ entry ∈ listing.effectsFrom 0, Below entry.1 (limit top)
  positive : ∀ entry ∈ listing.effectsFrom 0, Permitted entry.2.2.top
  /-- The queries to an endpoint carry no token, and then those of its pages. -/
  continues : ∀ position endpoint, endpoints[position]? = some endpoint →
    tokens listing position 0 <+: none :: endpoint.pages.map fun page => some page.2

theorem group_listing_pages (endpoints : List (Endpoint μ)) (groupName : Option String)
    (top : Option Int32) (tracingId : Option UInt64)
    (named : isNullOrWhiteSpace groupName = false) (permitted : Permitted top)
    (active : ∀ endpoint ∈ endpoints, endpoint.IsActive) :
    ListsPages endpoints top (listConnectionsInGroupAsync endpoints groupName top tracingId) := by
  rw [listConnectionsInGroupAsync_eq permitted]
  have items := yields_listEndpoints tracingId 0 named permitted active
  have queries := queries_listEndpoints tracingId 0 named permitted active 0
  refine ⟨items.1, items.2, ?_, ?_, ?_⟩
  · intro entry member
    exact (queries entry member).2.2.1
  · intro entry member
    obtain ⟨-, -, below, isTop⟩ := queries entry member
    rw [isTop]
    exact permitted_topBehind permitted below
  · intro position endpoint isEndpoint
    have continued := tokens_listEndpoints tracingId 0 named permitted active 0 position isEndpoint
    rwa [Nat.zero_add] at continued

/-- Two endpoints with three pages, the first of them empty; the second page ends the listing. -/
def twoEndpoints : List (Endpoint Nat) :=
  [{ pages := [([], "x"), ([1, 2], "y")], last := .ok [3] }, { last := .ok [4] }]

theorem group_listing_pages_two :
    ListsPages twoEndpoints (some 2) (listConnectionsInGroupAsync twoEndpoints (some "g") (some 2)
      none) ∧
      tokens (listConnectionsInGroupAsync twoEndpoints (some "g") (some 2) none) 0 0 =
        [none, some "x"] :=
  ⟨group_listing_pages twoEndpoints (some "g") (some 2) none rfl
    (by decide +kernel) (by simp [twoEndpoints, Endpoint.IsActive]), by decide +kernel⟩

/-! ## Offline endpoints -/

/-- The listing has what the endpoints report, and does not throw. -/
def Tolerates (endpoints : List (Endpoint μ)) (top : Option Int32) (listing : Listing μ) : Prop :=
  listing.yields = upTo (limit top) (endpoints.flatMap Endpoint.reported) ∧
    listing.error? = none

/-- The listing has its top before it comes to an endpoint without an active connection. -/
def OfflineBehindTop (endpoints : List (Endpoint μ)) (top : Option Int32) : Prop :=
  ∀ before endpoint after, endpoints = before ++ endpoint :: after → ¬ endpoint.IsActive →
    ¬ Below ((before ++ [endpoint]).flatMap Endpoint.reported).length (limit top)

section Offline

variable {groupName : Option String} {endpoint : Endpoint μ} {endpoints : List (Endpoint μ)}
  {top : Option Int32}

theorem not_below_of_le {limit : Option Nat} {size more : Nat} (reached : ¬ Below size limit)
    (smaller : size ≤ more) : ¬ Below more limit := by
  cases limit with
  | none => exact absurd trivial reached
  | some count => exact fun below => reached (Nat.lt_of_le_of_lt smaller below)

/-- With the top in the first endpoint, the others do not matter. -/
theorem offlineBehindTop_of_reached (reached : ¬ Below endpoint.reported.length (limit top)) :
    OfflineBehindTop (endpoint :: endpoints) top := by
  intro before other after isSplit _
  refine not_below_of_le reached ?_
  cases before with
  | nil =>
      cases isSplit
      rw [List.nil_append, List.flatMap_singleton]
  | cons first before =>
      cases isSplit
      rw [List.cons_append, List.flatMap_cons, List.length_append]
      exact Nat.le_add_right _ _

theorem offlineBehindTop_cons (permitted : Permitted top) (active : endpoint.IsActive)
    (below : Below endpoint.reported.length (limit top)) :
    OfflineBehindTop (endpoint :: endpoints) top ↔
      OfflineBehindTop endpoints (topBehind top endpoint.reported.length) := by
  have sum : ∀ (before : List (Endpoint μ)) (other : Endpoint μ),
      Below ((before ++ [other]).flatMap Endpoint.reported).length
          (limit (topBehind top endpoint.reported.length)) ↔
        Below ((endpoint :: before ++ [other]).flatMap Endpoint.reported).length (limit top) := by
    intro before other
    rw [limit_topBehind permitted below, below_remaining, List.cons_append, List.flatMap_cons,
      List.length_append]
  constructor
  · intro behind before other after isSplit offline
    rw [sum]
    exact behind (endpoint :: before) other after (by rw [isSplit]; rfl) offline
  · intro behind before other after isSplit offline
    cases before with
    | nil =>
        cases isSplit
        exact absurd active offline
    | cons first before =>
        cases isSplit
        rw [← sum]
        exact behind before other after rfl offline

theorem tolerates_listEndpoints_iff (tracingId : Option UInt64) (position : Nat)
    (named : isNullOrWhiteSpace groupName = false) (permitted : Permitted top) :
    Tolerates endpoints top (listEndpoints groupName tracingId position endpoints top) ↔
      OfflineBehindTop endpoints top := by
  induction endpoints generalizing position top with
  | nil =>
      have nothing : OfflineBehindTop ([] : List (Endpoint μ)) top := by
        intro before endpoint after isSplit
        cases before <;> cases isSplit
      refine iff_of_true ⟨?_, rfl⟩ nothing
      cases top with
      | none => rfl
      | some count => exact List.take_nil.symm
  | cons endpoint endpoints inductionHypothesis =>
      have positive := below_zero_limit permitted
      rw [Tolerates, listEndpoints_cons tracingId position named permitted]
      by_cases active : endpoint.IsActive
      · have ends := active.ends position (firstQuery groupName top tracingId)
        rw [yields_passOn ends positive, error?_passOn ends positive, Endpoint.yields_queries,
          List.flatMap_cons]
        by_cases below : Below endpoint.reported.length (limit top)
        · rw [if_pos below, if_pos below, offlineBehindTop_cons permitted active below,
            ← inductionHypothesis (position + 1) (permitted_topBehind permitted below), Tolerates,
            map_ofNat_remaining permitted below, upTo_append, upTo_of_below below,
            limit_topBehind permitted below, List.append_right_inj]
        · rw [if_neg below, if_neg below, upTo_append_of_not_below below]
          exact iff_of_true ⟨rfl, rfl⟩ (offlineBehindTop_of_reached below)
      · obtain ⟨error, throws⟩ :=
          endpoint.throws_of_offline position (firstQuery groupName top tracingId) active
        obtain ⟨yielded, ended⟩ := passOn_throws throws positive
        rw [yielded, ended, Endpoint.yields_queries, List.flatMap_cons]
        by_cases below : Below endpoint.reported.length (limit top)
        · rw [if_pos below]
          refine iff_of_false (fun both => nomatch both.2) fun behind => ?_
          refine behind [] endpoint endpoints rfl active ?_
          rw [List.nil_append, List.flatMap_singleton]
          exact below
        · rw [if_neg below, upTo_append_of_not_below below]
          exact iff_of_true ⟨rfl, rfl⟩ (offlineBehindTop_of_reached below)

end Offline

theorem offline_endpoints_tolerated_iff (endpoints : List (Endpoint μ)) (groupName : Option String)
    (top : Option Int32) (tracingId : Option UInt64)
    (named : isNullOrWhiteSpace groupName = false) (permitted : Permitted top) :
    Tolerates endpoints top (listConnectionsInGroupAsync endpoints groupName top tracingId) ↔
      OfflineBehindTop endpoints top := by
  rw [listConnectionsInGroupAsync_eq permitted]
  exact tolerates_listEndpoints_iff tracingId 0 named permitted

/-- The one connection of an endpoint is not connected. -/
def disconnected (_ : Nat) : Round Nat := ⟨.random, [(0, false)], 0, {}⟩

/-- Its query finds no active connection. -/
def offline : Endpoint Nat where
  last := invokeAsync (firstQuery (some "g") none none) disconnected []

def secondOffline : List (Endpoint Nat) := [{ last := .ok [1, 2] }, offline, { last := .ok [3] }]

theorem offline_endpoints_tolerated_two :
    ¬ offline.IsActive ∧ OfflineBehindTop secondOffline (some 2) ∧
      Tolerates secondOffline (some 2)
        (listConnectionsInGroupAsync secondOffline (some "g") (some 2) none) := by
  have tolerated := offline_endpoints_tolerated_iff secondOffline (some "g") (some 2) none rfl
    (by decide +kernel)
  have tolerates : Tolerates secondOffline (some 2)
      (listConnectionsInGroupAsync secondOffline (some "g") (some 2) none) := ⟨rfl, rfl⟩
  refine ⟨?_, tolerated.mp tolerates, tolerates⟩
  rintro ⟨members, active⟩
  obtain ⟨failure, throws⟩ : ∃ failure,
      invokeAsync (firstQuery (some "g") none none) disconnected ([] : List Nat) = .error failure :=
    invokeAsync_of_inactive rfl (by decide)
  exact nomatch throws.symm.trans active

theorem offline_endpoint_throws :
    (listConnectionsInGroupAsync secondOffline (some "g") none none).yields = [1, 2] ∧
      (listConnectionsInGroupAsync secondOffline (some "g") none none).error? =
        some (.invocation .serviceConnectionNotActive) ∧
      ¬ Tolerates secondOffline none
        (listConnectionsInGroupAsync secondOffline (some "g") none none) := by
  refine ⟨rfl, rfl, ?_⟩
  rintro ⟨-, ends⟩
  cases ends

end AzureSignalR.ServiceConnections.GroupListing
