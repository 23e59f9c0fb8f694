import AzureSignalR.Utilities.ClaimsUtility

/-!
Contract: the identity settings of a user behind the access token.

Owns: which customer claims leave the authentication type and the claim types of the identity as
the server has them.

Does not own: the claims of the user.
-/

set_option autoImplicit false

namespace AzureSignalR.Utilities.ClaimsUtility

structure Settings where
  authenticationType : Option String
  nameClaimType : String
  roleClaimType : String
deriving DecidableEq, Repr

def ClaimsPrincipal.settings (principal : ClaimsPrincipal) : Settings where
  authenticationType := principal.authenticationType
  nameClaimType := principal.nameClaimType
  roleClaimType := principal.roleClaimType

section Identity

variable (defaults : DefaultClaimTypes) (user : Option User)

/-- The settings of the server-side identity. -/
def serverSettings : Settings where
  authenticationType := some ((authenticationTypeOf user).getD defaultAuthenticationType)
  nameClaimType := claimTypeOrDefault (nameTypeOf user) defaults.nameClaimType
  roleClaimType := claimTypeOrDefault (roleTypeOf user) defaults.roleClaimType

/-- Some claim comes back to the user. -/
def LeavesClaim (customers : List Claim) : Prop :=
  ∃ claim ∈ customers, ¬ StartsWith claim.type ClaimType.azureSignalRSysPrefix

/-- For each setting, the last customer claim of its type, if there is one, has the value of the
server. -/
structure Harmless (customers : List Claim) : Prop where
  authenticationType : ∀ value, lastValue ClaimType.authenticationType customers = some value →
    some value = (serverSettings defaults user).authenticationType
  nameType : ∀ value, lastValue ClaimType.nameType customers = some value →
    claimTypeOrDefault (some value) defaults.nameClaimType =
      (serverSettings defaults user).nameClaimType
  roleType : ∀ value, lastValue ClaimType.roleType customers = some value →
    claimTypeOrDefault (some value) defaults.roleClaimType =
      (serverSettings defaults user).roleClaimType

variable {defaults user}

theorem filterMap_received_ne_nil {customers : List Claim} (leaves : LeavesClaim customers) :
    customers.filterMap Claim.received ≠ [] := by
  obtain ⟨claim, member, unreserved⟩ := leaves
  intro empty
  have nothing := List.filterMap_eq_nil_iff.mp empty claim member
  rw [Claim.received] at nothing
  split_ifs at nothing

/-- The default authentication type need not be sent. -/
theorem getD_or_filter (last setting : Option String) (default : String) :
    some ((last.or (setting.filter (· ≠ default))).getD default) =
      last.or (some (setting.getD default)) := by
  cases last with
  | some value => rfl
  | none =>
      cases setting with
      | none => rfl
      | some value =>
          show some ((if decide (value ≠ default) then some value else none).getD default) = _
          by_cases same : value = default
          · rw [same, if_neg (by rw [decide_eq_true_iff]; exact not_not_intro rfl)]
            rfl
          · rw [if_pos (decide_eq_true same)]
            rfl

/-- A claim type that is sent, or else that of the server. -/
def claimTypeOr (last : Option String) (server default : String) : String :=
  match last with
  | some value => claimTypeOrDefault (some value) default
  | none => server

/-- The default claim type need not be sent. -/
theorem claimTypeOrDefault_or_filter (last claimType : Option String) (default : String) :
    claimTypeOrDefault (last.or (claimType.filter (· ≠ default))) default =
      claimTypeOr last (claimTypeOrDefault claimType default) default := by
  cases last with
  | some value => rfl
  | none =>
      cases claimType with
      | none => rfl
      | some value =>
          show claimTypeOrDefault (if decide (value ≠ default) then some value else none) default =
            (if decide (value ≠ "") then some value else none).getD default
          by_cases same : value = default
          · rw [same, if_neg (by rw [decide_eq_true_iff]; exact not_not_intro rfl)]
            split_ifs
            · rfl
            · rfl
          · rw [if_pos (decide_eq_true same)]
            rfl

/-- The settings of the user, one by one. -/
theorem settings_getUserPrincipal (userId : Option String) (options : Options)
    (claimsProvider : Option (Option (List Claim)))
    (leaves : LeavesClaim (customerClaims user claimsProvider)) :
    (getUserPrincipal defaults
      (buildJwtClaims defaults user userId claimsProvider options)).settings =
      { authenticationType :=
          (lastValue ClaimType.authenticationType (customerClaims user claimsProvider)).or
            (serverSettings defaults user).authenticationType
        nameClaimType :=
          claimTypeOr (lastValue ClaimType.nameType (customerClaims user claimsProvider))
            (serverSettings defaults user).nameClaimType defaults.nameClaimType
        roleClaimType :=
          claimTypeOr (lastValue ClaimType.roleType (customerClaims user claimsProvider))
            (serverSettings defaults user).roleClaimType defaults.roleClaimType } := by
  rw [getUserPrincipal, foldl_read_buildJwtClaims]
  show ClaimsPrincipal.settings (if (customerClaims user claimsProvider).filterMap
    Claim.received = [] then _ else _) = _
  rw [if_neg (filterMap_received_ne_nil leaves)]
  exact congr (congr (congrArg Settings.mk (getD_or_filter _ _ _))
    (claimTypeOrDefault_or_filter _ _ _)) (claimTypeOrDefault_or_filter _ _ _)

theorem or_eq_iff (last server : Option String) :
    last.or server = server ↔ ∀ value, last = some value → some value = server := by
  cases last with
  | none => exact iff_of_true rfl nofun
  | some last => exact ⟨fun same value isLast => isLast ▸ same, fun every => every last rfl⟩

theorem claimTypeOr_eq_iff (last : Option String) (server default : String) :
    claimTypeOr last server default = server ↔
      ∀ value, last = some value → claimTypeOrDefault (some value) default = server := by
  cases last with
  | none => exact iff_of_true rfl nofun
  | some last =>
      refine ⟨fun same value isLast => ?_, fun every => every last rfl⟩
      cases isLast
      exact same

variable (defaults user)

/-- The settings are those of the server exactly if the customer claims are harmless. -/
theorem settings_eq_iff (userId : Option String) (options : Options)
    (claimsProvider : Option (Option (List Claim)))
    (leaves : LeavesClaim (customerClaims user claimsProvider)) :
    (getUserPrincipal defaults
      (buildJwtClaims defaults user userId claimsProvider options)).settings =
        serverSettings defaults user ↔
      Harmless defaults user (customerClaims user claimsProvider) := by
  rw [settings_getUserPrincipal userId options claimsProvider leaves]
  constructor
  · intro same
    obtain ⟨authentication, name, role⟩ := Settings.mk.inj same
    exact ⟨(or_eq_iff _ _).mp authentication, (claimTypeOr_eq_iff _ _ _).mp name,
      (claimTypeOr_eq_iff _ _ _).mp role⟩
  · intro harmless
    exact congr (congr (congrArg Settings.mk ((or_eq_iff _ _).mpr harmless.authenticationType))
      ((claimTypeOr_eq_iff _ _ _).mpr harmless.nameType))
      ((claimTypeOr_eq_iff _ _ _).mpr harmless.roleType)

/-- A claim that says nothing about the identity. -/
def plainClaim : Claim := ⟨"name", "value"⟩

theorem harmless_plainClaim : Harmless defaults user [plainClaim] := by
  have nothing : ∀ type ∈ [ClaimType.authenticationType, ClaimType.nameType, ClaimType.roleType],
      lastValue type [plainClaim] = none := by
    decide
  constructor
  · intro value isLast
    rw [nothing _ (by decide)] at isLast
    cases isLast
  · intro value isLast
    rw [nothing _ (by decide)] at isLast
    cases isLast
  · intro value isLast
    rw [nothing _ (by decide)] at isLast
    cases isLast

/-- A list gives the settings of every harmless list if and only if it is harmless itself. -/
theorem settings_eq_of_harmless_iff (userId : Option String) (options : Options)
    (claimsProvider : Option (Option (List Claim)))
    (leaves : LeavesClaim (customerClaims user claimsProvider)) :
    (∀ otherProvider, LeavesClaim (customerClaims user otherProvider) →
      Harmless defaults user (customerClaims user otherProvider) →
        (getUserPrincipal defaults
          (buildJwtClaims defaults user userId claimsProvider options)).settings =
        (getUserPrincipal defaults
          (buildJwtClaims defaults user userId otherProvider options)).settings) ↔
      Harmless defaults user (customerClaims user claimsProvider) := by
  constructor
  · intro same
    have plainLeaves : LeavesClaim (customerClaims user (some (some [plainClaim]))) :=
      ⟨plainClaim, List.mem_cons_self, by decide⟩
    have harmless : Harmless defaults user (customerClaims user (some (some [plainClaim]))) :=
      harmless_plainClaim defaults user
    have settings := same (some (some [plainClaim])) plainLeaves harmless
    rw [(settings_eq_iff defaults user userId options _ plainLeaves).mpr harmless] at settings
    exact (settings_eq_iff defaults user userId options claimsProvider leaves).mp settings
  · intro harmless otherProvider otherLeaves otherHarmless
    rw [(settings_eq_iff defaults user userId options claimsProvider leaves).mpr harmless,
      (settings_eq_iff defaults user userId options otherProvider otherLeaves).mpr otherHarmless]

/-- The settings depend on the server-side identity alone, and are the same for two lists of
customer claims, if and only if the claims are harmless. -/
theorem settings_depend_on_server (userId : Option String) (options : Options)
    (claimsProvider : Option (Option (List Claim)))
    (leaves : LeavesClaim (customerClaims user claimsProvider)) :
    ((getUserPrincipal defaults
      (buildJwtClaims defaults user userId claimsProvider options)).settings =
        serverSettings defaults user ↔
      Harmless defaults user (customerClaims user claimsProvider)) ∧
    ((∀ otherProvider, LeavesClaim (customerClaims user otherProvider) →
      Harmless defaults user (customerClaims user otherProvider) →
        (getUserPrincipal defaults
          (buildJwtClaims defaults user userId claimsProvider options)).settings =
        (getUserPrincipal defaults
          (buildJwtClaims defaults user userId otherProvider options)).settings) ↔
      Harmless defaults user (customerClaims user claimsProvider)) :=
  ⟨settings_eq_iff defaults user userId options claimsProvider leaves,
    settings_eq_of_harmless_iff defaults user userId options claimsProvider leaves⟩

end Identity

/-- A user with an authentication type and claim types of its own. -/
def cookieUser : User where
  identity := some { authenticationType := some "Cookies", claimTypes := some ("sub", "groups") }
  claims := [⟨"sub", "user"⟩]

/-- Its claim, and two for the authentication type, of which the last has the value of the
server. -/
def reservedClaims : List Claim :=
  [⟨"sub", "user"⟩, ⟨ClaimType.authenticationType, "Forged"⟩,
    ⟨ClaimType.authenticationType, "Cookies"⟩]

theorem harmless_reservedClaims :
    Harmless ⟨"name", "role"⟩ (some cookieUser) reservedClaims where
  authenticationType value isLast := by
    cases isLast
    rfl
  nameType value isLast := by cases isLast
  roleType value isLast := by cases isLast

theorem settings_depend_on_server_cookieUser :
    (getUserPrincipal ⟨"name", "role"⟩
      (buildJwtClaims ⟨"name", "role"⟩ (some cookieUser) (some "user") (some (some reservedClaims))
        { serverName := some "server" })).settings =
      { authenticationType := some "Cookies", nameClaimType := "sub", roleClaimType := "groups" } :=
  (settings_depend_on_server ⟨"name", "role"⟩ (some cookieUser) (some "user")
    { serverName := some "server" } (some (some reservedClaims))
    ⟨⟨"sub", "user"⟩, List.mem_cons_self, by decide⟩).1.mpr harmless_reservedClaims

/-- A customer claim that sets the authentication type. -/
def forgedClaim : Claim := ⟨ClaimType.authenticationType, "Forged"⟩

theorem forged_authentication_type :
    LeavesClaim [plainClaim] ∧ LeavesClaim [plainClaim, forgedClaim] ∧
    (getUserPrincipal ⟨"name", "role"⟩ (buildJwtClaims ⟨"name", "role"⟩ none none
      (some (some [plainClaim])) {})).authenticationType = some "Bearer" ∧
    (getUserPrincipal ⟨"name", "role"⟩ (buildJwtClaims ⟨"name", "role"⟩ none none
      (some (some [plainClaim, forgedClaim])) {})).authenticationType = some "Forged" :=
  ⟨⟨plainClaim, List.mem_cons_self, by decide⟩, ⟨plainClaim, List.mem_cons_self, by decide⟩,
    by decide, by decide⟩

end AzureSignalR.Utilities.ClaimsUtility
