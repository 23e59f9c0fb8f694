import Mathlib.Data.List.Basic

/-!
Contract: the claims of a client connection on their way through its access token.

Owns: `BuildJwtClaims` with all its options and `GetUserPrincipal`, and what the reader makes of
a list of claims.

Does not own: the token itself; the service passes its claims through unchanged and in order.
Prefix tests are ordinal.
-/

set_option autoImplicit false

namespace AzureSignalR.Utilities.ClaimsUtility

structure Claim where
  type : String
  value : String
deriving DecidableEq, Repr

inductive ServerStickyMode where
  | disabled
  | preferred
  | required
deriving DecidableEq, Repr

def ServerStickyMode.toText : ServerStickyMode → String
  | .disabled => "Disabled"
  | .preferred => "Preferred"
  | .required => "Required"

/-- The identity of a user; `claimTypes` are `NameClaimType` and `RoleClaimType` of a
`ClaimsIdentity`. -/
structure Identity where
  authenticationType : Option String
  claimTypes : Option (Option String × Option String)
deriving DecidableEq, Repr

structure User where
  identity : Option Identity
  claims : List Claim
deriving DecidableEq, Repr

/-- What `ClaimsIdentity` takes when it is given no name or role claim type. -/
structure DefaultClaimTypes where
  nameClaimType : String
  roleClaimType : String
deriving DecidableEq, Repr

structure ClaimsPrincipal where
  claims : List Claim
  authenticationType : Option String
  nameClaimType : String
  roleClaimType : String
deriving DecidableEq, Repr

def defaultAuthenticationType : String := "Bearer"

def systemClaims : List String :=
  ["aud", "exp", "iat", "nbf", "iss", "actort", "acr", "azp", "c_hash", "jti", "nonce"]

def defaultHandshakeTimeout : Int := 15

namespace ClaimType

def azureSignalRSysPrefix : String := "asrs.s."

def azureSignalRUserPrefix : String := "asrs.u."

def authenticationType : String := azureSignalRSysPrefix ++ "aut"

def nameType : String := azureSignalRSysPrefix ++ "nt"

def roleType : String := azureSignalRSysPrefix ++ "rt"

def userId : String := azureSignalRSysPrefix ++ "uid"

def serverName : String := azureSignalRSysPrefix ++ "sn"

def serverStickyMode : String := azureSignalRSysPrefix ++ "ssticky"

def enableDetailedErrors : String := azureSignalRSysPrefix ++ "derror"

def serviceEndpointsCount : String := azureSignalRSysPrefix ++ "secn"

def maxPollInterval : String := azureSignalRSysPrefix ++ "ttl"

def diagnosticClient : String := azureSignalRSysPrefix ++ "dc"

def customHandshakeTimeout : String := azureSignalRSysPrefix ++ "cht"

def httpTransportType : String := azureSignalRSysPrefix ++ "htt"

def closeOnAuthExpiration : String := azureSignalRSysPrefix ++ "coae"

def authExpiresOn : String := azureSignalRSysPrefix ++ "aeo"

end ClaimType

/-- The optional arguments of `BuildJwtClaims`. -/
structure Options where
  serverName : Option String := none
  mode : ServerStickyMode := .disabled
  enableDetailedErrors : Bool := false
  endpointsCount : Int := 1
  maxPollInterval : Option Int := none
  isDiagnosticClient : Bool := false
  handshakeTimeout : Int := defaultHandshakeTimeout
  httpTransportType : Option Int := none
  closeOnAuthenticationExpiration : Bool := false
  /-- In seconds since 1970. -/
  authenticationExpiresOn : Option Int := none
deriving DecidableEq, Repr

/-! ## Building -/

/-- `user?.Identity?.AuthenticationType`. -/
def authenticationTypeOf (user : Option User) : Option String :=
  (user.bind (·.identity)).bind (·.authenticationType)

/-- `NameClaimType` of the identity, if it is a `ClaimsIdentity`. -/
def nameTypeOf (user : Option User) : Option String :=
  ((user.bind (·.identity)).bind (·.claimTypes)).bind (·.1)

def roleTypeOf (user : Option User) : Option String :=
  ((user.bind (·.identity)).bind (·.claimTypes)).bind (·.2)

/-- A claim for a setting that is there and not the default. -/
def settingClaim (type : String) (setting : Option String) (default : String) : List Claim :=
  ((setting.filter (· ≠ default)).map (Claim.mk type)).toList

variable (defaults : DefaultClaimTypes)

/-- The options in front of the authentication type. -/
def connectionClaims (userId : Option String) (options : Options) : List Claim :=
  (userId.map (Claim.mk ClaimType.userId)).toList ++
  (match options.serverName with
    | some serverName =>
        if options.mode ≠ .disabled then
          [⟨ClaimType.serverName, serverName⟩,
            ⟨ClaimType.serverStickyMode, options.mode.toText⟩]
        else []
    | none => []) ++
  (if options.isDiagnosticClient then [⟨ClaimType.diagnosticClient, "true"⟩] else []) ++
  (if options.handshakeTimeout ≠ defaultHandshakeTimeout then
    [⟨ClaimType.customHandshakeTimeout, toString options.handshakeTimeout⟩] else [])

/-- The options between it and the claim types of the identity. -/
def serviceClaims (options : Options) : List Claim :=
  (if 1 < options.endpointsCount then
    [⟨ClaimType.serviceEndpointsCount, toString options.endpointsCount⟩] else []) ++
  (if options.enableDetailedErrors then [⟨ClaimType.enableDetailedErrors, "True"⟩] else [])

/-- The options behind these. -/
def transportClaims (options : Options) : List Claim :=
  (options.maxPollInterval.map
    (fun interval => ⟨ClaimType.maxPollInterval, toString interval⟩)).toList ++
  (options.httpTransportType.map
    (fun transport => ⟨ClaimType.httpTransportType, toString transport⟩)).toList ++
  (match options.authenticationExpiresOn with
    | some expiresOn =>
        if options.closeOnAuthenticationExpiration then
          [⟨ClaimType.closeOnAuthExpiration, "true"⟩,
            ⟨ClaimType.authExpiresOn, toString expiresOn⟩]
        else []
    | none => [])

def optionClaims (user : Option User) (userId : Option String) (options : Options) : List Claim :=
  connectionClaims userId options ++
  settingClaim ClaimType.authenticationType (authenticationTypeOf user)
    defaultAuthenticationType ++
  serviceClaims options ++
  settingClaim ClaimType.nameType (nameTypeOf user) defaults.nameClaimType ++
  settingClaim ClaimType.roleType (roleTypeOf user) defaults.roleClaimType ++
  transportClaims options

/-- The claims of the user, or what the provider gives, which can be null. -/
def customerClaims (user : Option User) (claimsProvider : Option (Option (List Claim))) :
    List Claim :=
  match claimsProvider with
  | none => (user.map (·.claims)).getD []
  | some claims => claims.getD []

/-- Renamed with the prefix of user claims. -/
def Claim.rename (claim : Claim) : Claim :=
  { claim with type := ClaimType.azureSignalRUserPrefix ++ claim.type }

/-- The loop over the customer's claims. -/
def renameClaims : (hasSubClaim : Bool) → List Claim → List Claim
  | _, [] => []
  | hasSubClaim, claim :: rest =>
      if claim.type = "sub" then
        (if hasSubClaim then claim.rename else claim) :: renameClaims true rest
      else if claim.type ∈ systemClaims then claim.rename :: renameClaims hasSubClaim rest
      else claim :: renameClaims hasSubClaim rest

def buildJwtClaims (user : Option User) (userId : Option String)
    (claimsProvider : Option (Option (List Claim))) (options : Options) : List Claim :=
  optionClaims defaults user userId options ++
    renameClaims false (customerClaims user claimsProvider)

/-! ## Reading -/

def emptyPrincipal : ClaimsPrincipal where
  claims := []
  authenticationType := none
  nameClaimType := defaults.nameClaimType
  roleClaimType := defaults.roleClaimType

/-- What the constructor of `ClaimsIdentity` makes of a claim type. -/
def claimTypeOrDefault (claimType : Option String) (default : String) : String :=
  (claimType.filter (· ≠ "")).getD default

/-- The variables of the loop. -/
structure Reading where
  claims : List Claim := []
  authenticationType : String := defaultAuthenticationType
  nameType : Option String := none
  roleType : Option String := none
deriving DecidableEq, Repr

def StartsWith (text start : String) : Prop := start.toList <+: text.toList

instance (text start : String) : Decidable (StartsWith text start) :=
  inferInstanceAs (Decidable (start.toList <+: text.toList))

def Claim.strip (claim : Claim) : Claim :=
  { claim with type := String.ofList (claim.type.toList.drop
      ClaimType.azureSignalRUserPrefix.length) }

def Reading.read (reading : Reading) (claim : Claim) : Reading :=
  if claim.type = ClaimType.authenticationType then
    { reading with authenticationType := claim.value }
  else if claim.type = ClaimType.nameType then { reading with nameType := some claim.value }
  else if claim.type = ClaimType.roleType then { reading with roleType := some claim.value }
  else if StartsWith claim.type ClaimType.azureSignalRUserPrefix then
    { reading with claims := reading.claims ++ [claim.strip] }
  else if claim.type ∉ systemClaims ∧ ¬ StartsWith claim.type ClaimType.azureSignalRSysPrefix then
    { reading with claims := reading.claims ++ [claim] }
  else reading

def getUserPrincipal (messageClaims : List Claim) : ClaimsPrincipal :=
  let reading := messageClaims.foldl Reading.read {}
  if reading.claims = [] then emptyPrincipal defaults
  else
    { claims := reading.claims
      authenticationType := some reading.authenticationType
      nameClaimType := claimTypeOrDefault reading.nameType defaults.nameClaimType
      roleClaimType := claimTypeOrDefault reading.roleType defaults.roleClaimType }

/-! ## Prefixes -/

theorem startsWith_append (start text : String) : StartsWith (start ++ text) start := by
  rw [StartsWith, String.toList_append]
  exact List.prefix_append _ _

theorem not_startsWith_both {text : String}
    (user : StartsWith text ClaimType.azureSignalRUserPrefix) :
    ¬ StartsWith text ClaimType.azureSignalRSysPrefix := by
  intro system
  have both := List.prefix_of_prefix_length_le user system (by decide)
  exact absurd both (by decide)

@[simp] theorem Claim.strip_rename (claim : Claim) : claim.rename.strip = claim := by
  rw [rename, strip]
  show { claim with
    type := String.ofList ((ClaimType.azureSignalRUserPrefix ++ claim.type).toList.drop
      ClaimType.azureSignalRUserPrefix.length) } = claim
  rw [String.toList_append, ← String.length_toList, List.drop_left, String.ofList_toList]

/-! ## What the reader makes of a list -/

/-- The claim that the reader gives the user for a claim. -/
def Claim.restored (claim : Claim) : Option Claim :=
  if StartsWith claim.type ClaimType.azureSignalRUserPrefix then some claim.strip
  else if claim.type ∉ systemClaims ∧ ¬ StartsWith claim.type ClaimType.azureSignalRSysPrefix then
    some claim
  else none

/-- The value of the last claim of a type. -/
def lastValue (type : String) (claims : List Claim) : Option String :=
  (claims.filter (·.type = type)).getLast?.map (·.value)

theorem lastValue_append (type : String) (first second : List Claim) :
    lastValue type (first ++ second) = (lastValue type second).or (lastValue type first) := by
  rw [lastValue, List.filter_append, List.getLast?_append]
  show Option.map _ _ = Option.or (Option.map _ _) (Option.map _ _)
  cases (second.filter (·.type = type)).getLast? with
  | none => rfl
  | some claim => rfl

theorem lastValue_cons (type : String) (claim : Claim) (rest : List Claim) :
    lastValue type (claim :: rest) = (lastValue type rest).or (lastValue type [claim]) :=
  lastValue_append type [claim] rest

theorem lastValue_singleton (type : String) (claim : Claim) :
    lastValue type [claim] = if claim.type = type then some claim.value else none := by
  rw [lastValue, List.filter_singleton]
  by_cases same : claim.type = type
  · rw [if_pos same, decide_eq_true same]
    rfl
  · rw [if_neg same, decide_eq_false same]
    rfl

theorem restored_of_system {claim : Claim}
    (system : StartsWith claim.type ClaimType.azureSignalRSysPrefix) : claim.restored = none := by
  rw [Claim.restored, if_neg fun user => not_startsWith_both user system,
    if_neg fun neither => neither.2 system]

theorem system_authenticationType :
    StartsWith ClaimType.authenticationType ClaimType.azureSignalRSysPrefix :=
  startsWith_append _ _

theorem system_nameType : StartsWith ClaimType.nameType ClaimType.azureSignalRSysPrefix :=
  startsWith_append _ _

theorem system_roleType : StartsWith ClaimType.roleType ClaimType.azureSignalRSysPrefix :=
  startsWith_append _ _

/-- One claim gives the user a claim, or one of the three settings, or nothing. -/
theorem Reading.read_eq (reading : Reading) (claim : Claim) :
    reading.read claim =
      { claims := reading.claims ++ claim.restored.toList
        authenticationType :=
          (lastValue ClaimType.authenticationType [claim]).getD reading.authenticationType
        nameType := (lastValue ClaimType.nameType [claim]).or reading.nameType
        roleType := (lastValue ClaimType.roleType [claim]).or reading.roleType } := by
  rw [read, lastValue_singleton, lastValue_singleton, lastValue_singleton]
  by_cases isAuthentication : claim.type = ClaimType.authenticationType
  · have nothing := restored_of_system (isAuthentication ▸ system_authenticationType)
    rw [if_pos isAuthentication, if_pos isAuthentication, nothing, isAuthentication,
      if_neg (by decide), if_neg (by decide)]
    show _ = Reading.mk (reading.claims ++ []) _ _ _
    rw [List.append_nil]
    rfl
  rw [if_neg isAuthentication, if_neg isAuthentication]
  by_cases isName : claim.type = ClaimType.nameType
  · have nothing := restored_of_system (isName ▸ system_nameType)
    rw [if_pos isName, if_pos isName, nothing, isName, if_neg (by decide)]
    show _ = Reading.mk (reading.claims ++ []) _ _ _
    rw [List.append_nil]
    rfl
  rw [if_neg isName, if_neg isName]
  by_cases isRole : claim.type = ClaimType.roleType
  · have nothing := restored_of_system (isRole ▸ system_roleType)
    rw [if_pos isRole, if_pos isRole, nothing]
    show _ = Reading.mk (reading.claims ++ []) _ _ _
    rw [List.append_nil]
    rfl
  rw [if_neg isRole, if_neg isRole, Claim.restored]
  split_ifs
  · rfl
  · rfl
  · show reading = Reading.mk (reading.claims ++ []) _ _ _
    rw [List.append_nil]
    rfl

/-- A list gives the user the claims restored from it, in their order, and for each setting its
last value. -/
theorem foldl_read (messageClaims : List Claim) (reading : Reading) :
    messageClaims.foldl Reading.read reading =
      { claims := reading.claims ++ messageClaims.filterMap Claim.restored
        authenticationType :=
          (lastValue ClaimType.authenticationType messageClaims).getD reading.authenticationType
        nameType := (lastValue ClaimType.nameType messageClaims).or reading.nameType
        roleType := (lastValue ClaimType.roleType messageClaims).or reading.roleType } := by
  induction messageClaims generalizing reading with
  | nil =>
      show reading = Reading.mk (reading.claims ++ []) _ _ _
      rw [List.append_nil]
      rfl
  | cons claim rest inductionHypothesis =>
      rw [List.foldl_cons, inductionHypothesis, Reading.read_eq, List.append_assoc,
        lastValue_cons _ claim rest, lastValue_cons _ claim rest, lastValue_cons _ claim rest,
        Option.or_assoc, Option.or_assoc, Option.getD_or]
      cases found : claim.restored with
      | none =>
          rw [List.filterMap_cons_none found]
          rfl
      | some other =>
          rw [List.filterMap_cons_some found]
          rfl

/-! ## What the reader makes of the claims that are built -/

/-- A customer's claim as the user gets it. -/
def Claim.received (claim : Claim) : Option Claim :=
  if StartsWith claim.type ClaimType.azureSignalRUserPrefix then some claim.strip
  else if StartsWith claim.type ClaimType.azureSignalRSysPrefix then none
  else some claim

theorem restored_rename (claim : Claim) : claim.rename.restored = some claim := by
  have user : StartsWith claim.rename.type ClaimType.azureSignalRUserPrefix :=
    startsWith_append _ _
  rw [Claim.restored, if_pos user, Claim.strip_rename]

/-- The system names, and `sub`, have no reserved prefix. -/
theorem not_startsWith_of_mem : ∀ type ∈ "sub" :: systemClaims,
    ¬ StartsWith type ClaimType.azureSignalRUserPrefix ∧
      ¬ StartsWith type ClaimType.azureSignalRSysPrefix := by
  decide

theorem received_of_mem {claim : Claim} (member : claim.type ∈ "sub" :: systemClaims) :
    claim.received = some claim := by
  obtain ⟨user, system⟩ := not_startsWith_of_mem claim.type member
  rw [Claim.received, if_neg user, if_neg system]

theorem restored_of_not_mem {claim : Claim} (custom : claim.type ∉ systemClaims) :
    claim.restored = claim.received := by
  rw [Claim.restored, Claim.received]
  split_ifs with user neither system system
  · rfl
  · exact absurd system neither.2
  · rfl
  · rfl
  · exact absurd ⟨custom, system⟩ neither

/-- Renaming is undone. -/
theorem filterMap_renameClaims (hasSubClaim : Bool) (claims : List Claim) :
    (renameClaims hasSubClaim claims).filterMap Claim.restored =
      claims.filterMap Claim.received := by
  induction claims generalizing hasSubClaim with
  | nil => rfl
  | cons claim rest inductionHypothesis =>
      rw [renameClaims]
      split_ifs with isSub hasSub isSystem
      · have received := received_of_mem (isSub ▸ List.mem_cons_self : claim.type ∈ _)
        rw [List.filterMap_cons_some (restored_rename claim), List.filterMap_cons_some received,
          inductionHypothesis]
      · have custom : claim.type ∉ systemClaims := by
          rw [isSub]
          decide
        rw [List.filterMap_cons, List.filterMap_cons, restored_of_not_mem custom,
          inductionHypothesis]
      · have received := received_of_mem (List.mem_cons_of_mem "sub" isSystem)
        rw [List.filterMap_cons_some (restored_rename claim), List.filterMap_cons_some received,
          inductionHypothesis]
      · rw [List.filterMap_cons, List.filterMap_cons, restored_of_not_mem isSystem,
          inductionHypothesis]

/-- Renaming leaves the claims with a system prefix alone. -/
theorem lastValue_renameClaims {type : String}
    (system : StartsWith type ClaimType.azureSignalRSysPrefix) (hasSubClaim : Bool)
    (claims : List Claim) : lastValue type (renameClaims hasSubClaim claims) =
      lastValue type claims := by
  have renamed : ∀ claim : Claim, lastValue type [claim.rename] = none := by
    intro claim
    rw [lastValue_singleton, if_neg]
    rintro rfl
    exact not_startsWith_both (startsWith_append _ _) system
  induction claims generalizing hasSubClaim with
  | nil => rfl
  | cons claim rest inductionHypothesis =>
      have unrenamed : claim.type ∈ "sub" :: systemClaims → lastValue type [claim] = none := by
        intro member
        rw [lastValue_singleton, if_neg]
        rintro rfl
        exact (not_startsWith_of_mem _ member).2 system
      rw [renameClaims, lastValue_cons _ claim]
      split_ifs with isSub hasSub isSystem
      · rw [lastValue_cons, inductionHypothesis, renamed, unrenamed (isSub ▸ List.mem_cons_self)]
      · rw [lastValue_cons, inductionHypothesis]
      · rw [lastValue_cons, inductionHypothesis, renamed,
          unrenamed (List.mem_cons_of_mem _ isSystem)]
      · rw [lastValue_cons, inductionHypothesis]

/-- Claims with a system prefix that are none of the settings. -/
def Unset (claims : List Claim) : Prop :=
  ∀ claim ∈ claims, StartsWith claim.type ClaimType.azureSignalRSysPrefix ∧
    claim.type ∉ [ClaimType.authenticationType, ClaimType.nameType, ClaimType.roleType]

namespace Unset

theorem nil : Unset [] := nofun

theorem cons {type value : String} {rest : List Claim}
    (other : type ∉ [ClaimType.authenticationType, ClaimType.nameType, ClaimType.roleType])
    (system : StartsWith type ClaimType.azureSignalRSysPrefix) (unset : Unset rest) :
    Unset (⟨type, value⟩ :: rest) :=
  List.forall_mem_cons.mpr ⟨⟨system, other⟩, unset⟩

theorem append {first second : List Claim} (unset : Unset first) (also : Unset second) :
    Unset (first ++ second) :=
  List.forall_mem_append.mpr ⟨unset, also⟩

theorem ite {condition : Prop} [Decidable condition] {claims : List Claim} (unset : Unset claims) :
    Unset (if condition then claims else []) := by
  split
  · exact unset
  · exact nil

theorem toList_map {α : Type} {claimOf : α → Claim} (unset : ∀ value, Unset [claimOf value])
    (value : Option α) : Unset (value.map claimOf).toList := by
  cases value with
  | none => exact nil
  | some value => exact unset value

theorem lastValue_append {type : String} {claims : List Claim} (unset : Unset claims)
    (isSetting : type ∈ [ClaimType.authenticationType, ClaimType.nameType, ClaimType.roleType])
    (before : List Claim) : lastValue type (before ++ claims) = lastValue type before := by
  have nothing : claims.filter (·.type = type) = [] := by
    rw [List.filter_eq_nil_iff]
    intro claim member same
    exact (unset claim member).2 (of_decide_eq_true same ▸ isSetting)
  rw [lastValue, List.filter_append, nothing, List.append_nil]
  rfl

end Unset

/-! ## The options -/

theorem unset_connectionClaims (userId : Option String) (options : Options) :
    Unset (connectionClaims userId options) := by
  refine .append (.append (.append ?_ ?_) ?_) ?_
  · exact .toList_map (fun _ => .cons (by decide) (startsWith_append _ _) .nil) userId
  · cases options.serverName with
    | none => exact .nil
    | some serverName =>
        exact .ite (.cons (by decide) (startsWith_append _ _)
          (.cons (by decide) (startsWith_append _ _) .nil))
  · exact .ite (.cons (by decide) (startsWith_append _ _) .nil)
  · exact .ite (.cons (by decide) (startsWith_append _ _) .nil)

theorem unset_serviceClaims (options : Options) : Unset (serviceClaims options) :=
  .append (.ite (.cons (by decide) (startsWith_append _ _) .nil))
    (.ite (.cons (by decide) (startsWith_append _ _) .nil))

theorem unset_transportClaims (options : Options) : Unset (transportClaims options) := by
  refine .append (.append ?_ ?_) ?_
  · exact .toList_map (fun _ => .cons (by decide) (startsWith_append _ _) .nil) _
  · exact .toList_map (fun _ => .cons (by decide) (startsWith_append _ _) .nil) _
  · cases options.authenticationExpiresOn with
    | none => exact .nil
    | some expiresOn =>
        exact .ite (.cons (by decide) (startsWith_append _ _)
          (.cons (by decide) (startsWith_append _ _) .nil))

theorem lastValue_settingClaim (type : String) (setting : Option String) (default : String)
    (before : List Claim) :
    lastValue type (before ++ settingClaim type setting default) =
      (setting.filter (· ≠ default)).or (lastValue type before) := by
  rw [lastValue_append, settingClaim]
  cases setting.filter (· ≠ default) with
  | none => rfl
  | some value =>
      show Option.or (lastValue type [⟨type, value⟩]) _ = _
      rw [lastValue_singleton, if_pos rfl]

theorem lastValue_settingClaim_of_ne {type other : String} (different : other ≠ type)
    (setting : Option String) (default : String) (before : List Claim) :
    lastValue type (before ++ settingClaim other setting default) = lastValue type before := by
  rw [lastValue_append, settingClaim]
  cases setting.filter (· ≠ default) with
  | none => rfl
  | some value =>
      show Option.or (lastValue type [⟨other, value⟩]) _ = _
      rw [lastValue_singleton, if_neg different]
      rfl

section Options

variable (defaults : DefaultClaimTypes) (user : Option User) (userId : Option String)
  (options : Options)

theorem lastValue_authenticationType :
    lastValue ClaimType.authenticationType (optionClaims defaults user userId options) =
      (authenticationTypeOf user).filter (· ≠ defaultAuthenticationType) := by
  rw [optionClaims, (unset_transportClaims options).lastValue_append (by decide),
    lastValue_settingClaim_of_ne (by decide), lastValue_settingClaim_of_ne (by decide),
    (unset_serviceClaims options).lastValue_append (by decide), lastValue_settingClaim,
    ← List.nil_append (connectionClaims userId options),
    (unset_connectionClaims userId options).lastValue_append (by decide)]
  exact Option.or_none

theorem lastValue_nameType :
    lastValue ClaimType.nameType (optionClaims defaults user userId options) =
      (nameTypeOf user).filter (· ≠ defaults.nameClaimType) := by
  rw [optionClaims, (unset_transportClaims options).lastValue_append (by decide),
    lastValue_settingClaim_of_ne (by decide), lastValue_settingClaim,
    (unset_serviceClaims options).lastValue_append (by decide),
    lastValue_settingClaim_of_ne (by decide),
    ← List.nil_append (connectionClaims userId options),
    (unset_connectionClaims userId options).lastValue_append (by decide)]
  exact Option.or_none

theorem lastValue_roleType :
    lastValue ClaimType.roleType (optionClaims defaults user userId options) =
      (roleTypeOf user).filter (· ≠ defaults.roleClaimType) := by
  rw [optionClaims, (unset_transportClaims options).lastValue_append (by decide),
    lastValue_settingClaim, lastValue_settingClaim_of_ne (by decide),
    (unset_serviceClaims options).lastValue_append (by decide),
    lastValue_settingClaim_of_ne (by decide),
    ← List.nil_append (connectionClaims userId options),
    (unset_connectionClaims userId options).lastValue_append (by decide)]
  exact Option.or_none

theorem type_of_mem_settingClaim {type : String} {setting : Option String} {default : String}
    {claim : Claim} (member : claim ∈ settingClaim type setting default) : claim.type = type := by
  rw [settingClaim, Option.mem_toList, Option.map_eq_some_iff] at member
  obtain ⟨value, -, rfl⟩ := member
  rfl

theorem startsWith_of_mem_optionClaims {claim : Claim}
    (member : claim ∈ optionClaims defaults user userId options) :
    StartsWith claim.type ClaimType.azureSignalRSysPrefix := by
  rw [optionClaims, List.mem_append, List.mem_append, List.mem_append, List.mem_append,
    List.mem_append] at member
  rcases member with ((((connection | authentication) | service) | name) | role) | transport
  · exact (unset_connectionClaims userId options claim connection).1
  · exact type_of_mem_settingClaim authentication ▸ system_authenticationType
  · exact (unset_serviceClaims options claim service).1
  · exact type_of_mem_settingClaim name ▸ system_nameType
  · exact type_of_mem_settingClaim role ▸ system_roleType
  · exact (unset_transportClaims options claim transport).1

/-- The options give the user no claim. -/
theorem filterMap_optionClaims :
    (optionClaims defaults user userId options).filterMap Claim.restored = [] := by
  rw [List.filterMap_eq_nil_iff]
  intro claim member
  exact restored_of_system (startsWith_of_mem_optionClaims defaults user userId options member)

/-! ## The round trip -/

variable (claimsProvider : Option (Option (List Claim)))

/-- What the loop has behind the claims that are built. -/
theorem foldl_read_buildJwtClaims :
    (buildJwtClaims defaults user userId claimsProvider options).foldl Reading.read {} =
      let customers := customerClaims user claimsProvider
      { claims := customers.filterMap Claim.received
        authenticationType := ((lastValue ClaimType.authenticationType customers).or
          ((authenticationTypeOf user).filter (· ≠ defaultAuthenticationType))).getD
            defaultAuthenticationType
        nameType := (lastValue ClaimType.nameType customers).or
          ((nameTypeOf user).filter (· ≠ defaults.nameClaimType))
        roleType := (lastValue ClaimType.roleType customers).or
          ((roleTypeOf user).filter (· ≠ defaults.roleClaimType)) } := by
  rw [foldl_read, buildJwtClaims, List.filterMap_append, filterMap_optionClaims,
    filterMap_renameClaims, lastValue_append, lastValue_append, lastValue_append,
    lastValue_renameClaims system_authenticationType, lastValue_renameClaims system_nameType,
    lastValue_renameClaims system_roleType, lastValue_authenticationType, lastValue_nameType,
    lastValue_roleType]
  show Reading.mk _ _ (Option.or _ none) (Option.or _ none) = _
  rw [Option.or_none, Option.or_none]
  rfl

/-- The user gets the customer's claims, but for those with a reserved prefix. -/
theorem claims_getUserPrincipal :
    (getUserPrincipal defaults
      (buildJwtClaims defaults user userId claimsProvider options)).claims =
        (customerClaims user claimsProvider).filterMap Claim.received := by
  rw [getUserPrincipal, foldl_read_buildJwtClaims]
  show ClaimsPrincipal.claims (if (customerClaims user claimsProvider).filterMap Claim.received = []
    then _ else _) = _
  split_ifs with empty
  · exact empty.symm
  · rfl

theorem filterMap_received {claims : List Claim}
    (unreserved : ∀ claim ∈ claims, ¬ StartsWith claim.type ClaimType.azureSignalRSysPrefix ∧
      ¬ StartsWith claim.type ClaimType.azureSignalRUserPrefix) :
    claims.filterMap Claim.received = claims := by
  induction claims with
  | nil => rfl
  | cons claim rest inductionHypothesis =>
      obtain ⟨system, user⟩ := unreserved claim List.mem_cons_self
      have kept : claim.received = some claim := by
        rw [Claim.received, if_neg user, if_neg system]
      rw [List.filterMap_cons_some kept, inductionHypothesis fun other member =>
        unreserved other (List.mem_cons_of_mem _ member)]

/-- Customer claims without a reserved prefix survive the round trip. -/
theorem customer_claims_survive
    (unreserved : ∀ claim ∈ customerClaims user claimsProvider,
      ¬ StartsWith claim.type ClaimType.azureSignalRSysPrefix ∧
        ¬ StartsWith claim.type ClaimType.azureSignalRUserPrefix) :
    (getUserPrincipal defaults
      (buildJwtClaims defaults user userId claimsProvider options)).claims =
        customerClaims user claimsProvider := by
  rw [claims_getUserPrincipal]
  exact filterMap_received unreserved

end Options

theorem customer_claims_survive_sub :
    (getUserPrincipal ⟨"name", "role"⟩ (buildJwtClaims ⟨"name", "role"⟩ none (some "user")
      (some (some [⟨"sub", "a"⟩, ⟨"aud", "b"⟩, ⟨"sub", "c"⟩])) {})).claims =
        [⟨"sub", "a"⟩, ⟨"aud", "b"⟩, ⟨"sub", "c"⟩] :=
  customer_claims_survive ⟨"name", "role"⟩ none (some "user") {}
    (some (some [⟨"sub", "a"⟩, ⟨"aud", "b"⟩, ⟨"sub", "c"⟩])) (by decide)

end AzureSignalR.Utilities.ClaimsUtility
